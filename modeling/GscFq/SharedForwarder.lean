import GscFq.AdaptiveForwarding
import GscFq.Lists

/-!
One `AdaptiveForwarder` and all the calls of `forward_adaptive` on it, whose tasks take their turns in any order. The
quality and the buffer size belong to the forwarder; a task reads and writes them in turns of their own.
-/

namespace GscFq.AdaptiveForwarder

open ByteStream StreamIo

/-- `given` are the streams as the call got them. -/
structure Call where
  given : Peer → Io IoError
  streams : Peer → Io IoError
  tasks : Direction → Task

def Call.view (x : Call) (f : AdaptiveForwarder) : State := ⟨f, x.streams, x.tasks⟩

structure Shared where
  forwarder : AdaptiveForwarder
  calls : List Call

inductive SharedEvent where
  | call (setNodelay : Peer → Except IoError Unit) (streams : Peer → Io IoError)
  | turn (i : ℕ) (d : Direction) (elapsed : ℕ)

namespace Shared

def init : Shared := ⟨.new, []⟩

def step (s : Shared) : SharedEvent → Option Shared
  | .call setNodelay streams =>
    match forwardAdaptive s.forwarder setNodelay streams with
    | .ok t => some { s with calls := s.calls ++ [⟨streams, t.streams, t.tasks⟩] }
    | .error _ => some s
  | .turn i d elapsed =>
    (s.calls[i]?).bind (fun x => (AdaptiveForwarder.turn (x.view s.forwarder) d elapsed).map (fun t =>
      ⟨t.forwarder, s.calls.set i ⟨x.given, t.streams, t.tasks⟩⟩))

abbrev run (es : List SharedEvent) : Option Shared := Transitions.run step init es

end Shared

def isError {ε : Type} : ReadResult ε → Bool
  | .error _ => true
  | _ => false

/-- The turn of the task is a read that fails. -/
def State.readFails (s : State) (d : Direction) : Bool :=
  match (s.tasks d).stage with
  | .reading buffer => isError ((s.streams d.source).read buffer.size).1
  | _ => false

/-- What a turn does to the forwarder and to the stage of its task. -/
inductive Goes (f : AdaptiveForwarder) (elapsed : ℕ) : Stage → Bool → AdaptiveForwarder → Stage → Prop
  | started : Goes f elapsed .starting false f (.reading f.bufferSize)
  | ended (b : BufferSize) : Goes f elapsed (.reading b) false f .finished
  | got (b : BufferSize) (d : Bytes) : Goes f elapsed (.reading b) false f (.writing b d)
  | blocked (b : BufferSize) : Goes f elapsed (.reading b) false f (.reading b)
  | failed (b : BufferSize) :
      Goes f elapsed (.reading b) true { f with quality := f.quality.recordError } .finished
  | unwritten (b : BufferSize) (d : Bytes) : Goes f elapsed (.writing b d) false f .finished
  | wrote (b : BufferSize) (d : Bytes) : Goes f elapsed (.writing b d) false f (.recording b d.length)
  | recorded (b : BufferSize) (n : ℕ) :
      Goes f elapsed (.recording b n) false { f with quality := f.quality.recordRtt elapsed } (.averaging b)
  | unmeasured (b : BufferSize) : Goes f elapsed (.averaging b) false f (.reading b)
  | measured (b : BufferSize) (rtt : ℕ) : Goes f elapsed (.averaging b) false f (.resizing b rtt)
  | same (b : BufferSize) (rtt : ℕ) : Goes f elapsed (.resizing b rtt) false f (.reading b)
  | resized (b : BufferSize) (rtt : ℕ) :
      Goes f elapsed (.resizing b rtt) false f (.storing b (f.bufferSize.adjusted rtt))
  | stored (b newSize : BufferSize) :
      Goes f elapsed (.storing b newSize) false { f with bufferSize := newSize } (.reading b)

theorem turn_goes {s t : State} {d : Direction} {elapsed : ℕ} (h : turn s d elapsed = some t) :
    Goes s.forwarder elapsed (s.tasks d).stage (s.readFails d) t.forwarder (t.tasks d).stage := by
  unfold turn at h
  unfold State.readFails
  split at h
  · rename_i hs
    cases h
    simp only [hs, State.goes, Function.update_self]
    exact .started
  · rename_i buffer hs
    simp only [hs]
    split at h <;> rename_i hr <;> cases h <;>
      simp only [hr, isError, State.goes, State.setStream, Function.update_self, hs]
    · exact .ended buffer
    · exact .got buffer _
    · exact .blocked buffer
    · exact .failed buffer
  · rename_i buffer bs hs
    simp only [hs]
    split at h <;> cases h <;> simp only [State.goes, State.setStream, Function.update_self]
    · exact .unwritten buffer bs
    · exact .wrote buffer bs
  · rename_i buffer n hs
    cases h
    simp only [hs, State.goes, State.counts, Function.update_self]
    exact .recorded buffer n
  · rename_i buffer hs
    simp only [hs]
    split at h <;> cases h <;> simp only [State.goes, Function.update_self]
    · exact .unmeasured buffer
    · exact .measured buffer _
  · rename_i buffer rtt hs
    simp only [hs]
    dsimp only at h
    split at h <;> cases h <;> simp only [State.goes, Function.update_self]
    · exact .same buffer rtt
    · exact .resized buffer rtt
  · rename_i buffer newSize hs
    cases h
    simp only [hs, State.goes, Function.update_self]
    exact .stored buffer newSize
  · cases h

/-- The buffer that a task reads with. -/
def Stage.buffer : Stage → Option BufferSize
  | .reading b => some b
  | .writing b _ => some b
  | .recording b _ => some b
  | .averaging b => some b
  | .resizing b _ => some b
  | .storing b _ => some b
  | .starting => none
  | .finished => none

def Stage.isRecording : Stage → Bool
  | .recording _ _ => true
  | _ => false

/-- The seven sizes from 8 KiB to 512 KiB. -/
def BufferSize.Stepped (b : BufferSize) : Prop := ∃ k ≤ 6, b.size = minBufferSize * 2 ^ k

structure Stage.Stepped (stage : Stage) : Prop where
  buffer : ∀ b, stage.buffer = some b → b.Stepped
  storing : ∀ b newSize, stage = .storing b newSize → newSize.Stepped

theorem BufferSize.Stepped.adjusted {b : BufferSize} (h : b.Stepped) (rtt : ℕ) : (b.adjusted rtt).Stepped := by
  obtain ⟨k, hk, hsize⟩ := h
  have hadjusted : (b.adjusted rtt).size = newSize rtt b.size minBufferSize maxBufferSize := rfl
  simp only [BufferSize.Stepped, hadjusted, newSize, hsize, minBufferSize, maxBufferSize]
  split
  · by_cases hmost : k = 6
    · exact ⟨6, le_rfl, by subst hmost; decide⟩
    · refine ⟨k + 1, by omega, ?_⟩
      interval_cases k <;> simp_all
  · split
    · by_cases hleast : k = 0
      · exact ⟨0, by omega, by subst hleast; decide⟩
      · refine ⟨k - 1, by omega, ?_⟩
        interval_cases k <;> simp_all
    · exact ⟨k, hk, rfl⟩

variable {f f' : AdaptiveForwarder} {elapsed : ℕ} {stage stage' : Stage} {fails : Bool}

theorem Goes.rttHistory (h : Goes f elapsed stage fails f' stage') : f'.quality.rttHistory =
    if stage.isRecording then (f.quality.recordRtt elapsed).rttHistory else f.quality.rttHistory := by
  cases h <;> rfl

theorem Goes.errorCount (h : Goes f elapsed stage fails f' stage') :
    f'.quality.errorCount = f.quality.errorCount + if fails then 1 else 0 := by
  cases h <;> rfl

theorem Goes.stepped (h : Goes f elapsed stage fails f' stage') (hf : f.bufferSize.Stepped) (hs : stage.Stepped) :
    f'.bufferSize.Stepped ∧ stage'.Stepped := by
  obtain ⟨hbuffer, hstoring⟩ := hs
  cases h with
  | started =>
    refine ⟨hf, ?_, nofun⟩
    rintro b ⟨⟩
    exact hf
  | ended | failed | unwritten => exact ⟨hf, nofun, nofun⟩
  | got | blocked | wrote | recorded | unmeasured | measured | same => exact ⟨hf, hbuffer, nofun⟩
  | resized b rtt =>
    refine ⟨hf, hbuffer, ?_⟩
    rintro b newSize ⟨⟩
    exact hf.adjusted rtt
  | stored b newSize => exact ⟨hstoring b newSize rfl, hbuffer, nofun⟩

/-- As long as the task reads it reads with this buffer. -/
def Stage.Keeps (stage : Stage) (b : BufferSize) : Prop := stage.buffer = some b ∨ stage = .finished

def Call.Keeps (x : Call) (d : Direction) (b : BufferSize) : Prop := (x.tasks d).stage.Keeps b

theorem Goes.keeps (h : Goes f elapsed stage fails f' stage') {b : BufferSize} (hb : stage.Keeps b) : stage'.Keeps b := by
  rcases hb with hb | rfl
  · cases h with
    | started => cases hb
    | ended | failed | unwritten => exact Or.inr rfl
    | _ => exact Or.inl hb
  · cases h

namespace Shared

/-- The round trip that the event puts into the history. -/
def measures (s : Shared) : SharedEvent → Option ℕ
  | .turn i d elapsed => (s.calls[i]?).bind (fun x => if (x.tasks d).stage.isRecording then some elapsed else none)
  | .call _ _ => none

def readFails (s : Shared) : SharedEvent → Bool
  | .turn i d _ => (s.calls[i]?).any (fun x => (x.view s.forwarder).readFails d)
  | .call _ _ => false

def roundTrips (es : List SharedEvent) : List ℕ :=
  (Transitions.steps step init es).filterMap (fun p => p.1.measures p.2)

def failedReads (es : List SharedEvent) : ℕ := (Transitions.steps step init es).countP (fun p => p.1.readFails p.2)

/-- What the forwarder holds after a run, and what each call has gone through as if it were alone. -/
structure Tells (es : List SharedEvent) (s : Shared) : Prop where
  history : s.forwarder.quality.rttHistory = (roundTrips es).rtake 20
  errors : s.forwarder.quality.errorCount = failedReads es
  size : s.forwarder.bufferSize.Stepped
  stages : ∀ x ∈ s.calls, ∀ d, (x.tasks d).stage.Stepped
  single : ∀ x ∈ s.calls, ∃ f fs, AdaptiveForwarder.run ⟨f, x.given, fun _ => ⟨.starting, 0⟩⟩ fs = some (x.view s.forwarder)

theorem forwardAdaptive_ok {f : AdaptiveForwarder} {setNodelay : Peer → Except IoError Unit} {streams : Peer → Io IoError}
    {t : AdaptiveForwarder.State} (h : forwardAdaptive f setNodelay streams = .ok t) :
    t = ⟨f, streams, fun _ => ⟨.starting, 0⟩⟩ := by
  unfold forwardAdaptive at h
  cases hc : optimizeTcpSocket (setNodelay .client) with
  | error e => simp [hc, bind, Except.bind] at h
  | ok u =>
    cases hr : optimizeTcpSocket (setNodelay .remote) with
    | error e => simp [hc, hr, bind, Except.bind] at h
    | ok u' =>
      simp only [hc, hr, bind, Except.bind, pure, Except.pure, Except.ok.injEq] at h
      exact h.symm

theorem roundTrips_snoc {es : List SharedEvent} {s : Shared} (hs : run es = some s) (e : SharedEvent) :
    roundTrips (es ++ [e]) = roundTrips es ++ (s.measures e).toList := by
  rw [roundTrips, Transitions.steps_snoc e hs, List.filterMap_append]
  cases h : s.measures e <;> simp [roundTrips, h]

theorem failedReads_snoc {es : List SharedEvent} {s : Shared} (hs : run es = some s) (e : SharedEvent) :
    failedReads (es ++ [e]) = failedReads es + if s.readFails e then 1 else 0 := by
  rw [failedReads, Transitions.steps_snoc e hs, List.countP_append, List.countP_singleton]
  rfl

theorem Tells.call {es : List SharedEvent} {s t : Shared} {setNodelay : Peer → Except IoError Unit}
    {streams : Peer → Io IoError} (hrun : run es = some s) (hs : Tells es s)
    (h : step s (.call setNodelay streams) = some t) : Tells (es ++ [.call setNodelay streams]) t := by
  have hhistory := roundTrips_snoc hrun (.call setNodelay streams)
  have herrors := failedReads_snoc hrun (.call setNodelay streams)
  simp only [measures, Option.toList_none, List.append_nil] at hhistory
  simp only [readFails, Bool.false_eq_true, if_false, Nat.add_zero] at herrors
  simp only [step] at h
  split at h
  · rename_i t' ht'
    cases h
    rw [forwardAdaptive_ok ht']
    refine ⟨hhistory ▸ hs.history, herrors ▸ hs.errors, hs.size, ?_, ?_⟩
    · intro x hx
      rcases List.mem_append.mp hx with hx | hx
      · exact hs.stages x hx
      · rw [List.mem_singleton.mp hx]
        exact fun _ => ⟨nofun, nofun⟩
    · intro x hx
      rcases List.mem_append.mp hx with hx | hx
      · exact hs.single x hx
      · rw [List.mem_singleton.mp hx]
        exact ⟨s.forwarder, [], rfl⟩
  · cases h
    exact ⟨hhistory ▸ hs.history, herrors ▸ hs.errors, hs.size, hs.stages, hs.single⟩

theorem Tells.turn {es : List SharedEvent} {s t : Shared} {i : ℕ} {d : Direction} {elapsed : ℕ} (hrun : run es = some s)
    (hs : Tells es s) (h : step s (.turn i d elapsed) = some t) : Tells (es ++ [.turn i d elapsed]) t := by
  have hhistory := roundTrips_snoc hrun (.turn i d elapsed)
  have herrors := failedReads_snoc hrun (.turn i d elapsed)
  obtain ⟨x, hx, h⟩ := Option.bind_eq_some_iff.mp h
  obtain ⟨u, hu, rfl⟩ := Option.map_eq_some_iff.mp h
  have hmem := List.mem_of_getElem? hx
  have hgoes := turn_goes hu
  obtain ⟨hsize, hstage⟩ := hgoes.stepped hs.size (hs.stages x hmem d)
  simp only [measures, hx, Option.bind_some] at hhistory
  simp only [readFails, hx, Option.any_some] at herrors
  refine ⟨?_, ?_, hsize, ?_, ?_⟩
  · rw [hgoes.rttHistory, hhistory]
    by_cases hrec : (x.tasks d).stage.isRecording = true
    · simp only [Call.view, hrec, if_true, ConnectionQuality.recordRtt, hs.history]
      exact Lists.rtake_push _ _ _
    · simp only [Call.view, hrec, Bool.false_eq_true, if_false, hs.history, Option.toList_none, List.append_nil]
  · rw [hgoes.errorCount, herrors]
    dsimp only [Call.view]
    rw [hs.errors]
  · intro y hy
    rcases List.mem_or_eq_of_mem_set hy with hy | rfl
    · exact hs.stages y hy
    · intro d'
      by_cases hd : d' = d
      · exact hd ▸ hstage
      · have hother : u.tasks d' = x.tasks d' := (turn_turns hu).task d' hd
        simp only [hother]
        exact hs.stages x hmem d'
  · intro y hy
    rcases List.mem_or_eq_of_mem_set hy with hy | rfl
    · obtain ⟨f, fs, hfs⟩ := hs.single y hy
      exact ⟨f, fs ++ [.others u.forwarder], Transitions.run_snoc.mpr ⟨_, hfs, rfl⟩⟩
    · obtain ⟨f, fs, hfs⟩ := hs.single x hmem
      have hsingle : AdaptiveForwarder.run ⟨f, x.given, fun _ => ⟨.starting, 0⟩⟩ (fs ++ [.turn d elapsed]) = some u :=
        Transitions.run_snoc.mpr ⟨_, hfs, hu⟩
      exact ⟨f, _, hsingle⟩

end Shared

end GscFq.AdaptiveForwarder
