import GscFq.AdaptiveForwarder

namespace GscFq.AdaptiveForwarder

open ByteStream StreamIo

/-- Both halves a task has are of one stream. -/
theorem sink_eq_source (d : Direction) : d.sink = d.source := by cases d <;> rfl

theorem source_injective {d d' : Direction} (h : d.source = d'.source) : d = d' := by
  cases d <;> cases d' <;> first | rfl | cases h

def Stage.inHand : Stage → Bytes
  | .writing _ d => d
  | _ => []

def Stage.uncounted : Stage → ℕ
  | .writing _ d => d.length
  | .recording _ n => n
  | _ => 0

def Stage.rank : Stage → ℕ
  | .writing .. => 6
  | .recording .. => 5
  | .averaging .. => 4
  | .resizing .. => 3
  | .storing .. => 2
  | .starting => 2
  | .reading .. => 1
  | .finished => 0

/-- The turns that only concern the buffer size. -/
inductive Stage.Passes : Stage → Stage → Prop
  | started (buffer : BufferSize) : Passes .starting (.reading buffer)
  | unmeasured (buffer : BufferSize) : Passes (.averaging buffer) (.reading buffer)
  | measured (buffer : BufferSize) (rtt : ℕ) : Passes (.averaging buffer) (.resizing buffer rtt)
  | kept (buffer : BufferSize) (rtt : ℕ) : Passes (.resizing buffer rtt) (.reading buffer)
  | resized (buffer : BufferSize) (rtt : ℕ) (newSize : BufferSize) :
      Passes (.resizing buffer rtt) (.storing buffer newSize)
  | stored (buffer newSize : BufferSize) : Passes (.storing buffer newSize) (.reading buffer)

/-- What a turn does to the stream of its task and to the task. -/
inductive Turned (io : Io IoError) (t : Task) : Io IoError × Task → Prop
  | passed {stage : Stage} (hp : t.stage.Passes stage) : Turned io t (io, { t with stage := stage })
  | ended {buffer : BufferSize} {io' : Io IoError} (hs : t.stage = .reading buffer)
      (hr : Reads buffer.size io (.data [], io')) : Turned io t (io', { t with stage := .finished })
  | got {buffer : BufferSize} {io' : Io IoError} {d : Bytes} (hs : t.stage = .reading buffer) (hd : d ≠ [])
      (hr : Reads buffer.size io (.data d, io')) : Turned io t (io', { t with stage := .writing buffer d })
  | blocked {buffer : BufferSize} {io' : Io IoError} (hs : t.stage = .reading buffer)
      (hr : Reads buffer.size io (.wouldBlock, io')) : Turned io t (io', t)
  | failed {buffer : BufferSize} {io' : Io IoError} {e : IoError} (hs : t.stage = .reading buffer)
      (hr : Reads buffer.size io (.error e, io')) : Turned io t (io', { t with stage := .finished })
  | wrote {buffer : BufferSize} {io' : Io IoError} {d : Bytes} (hs : t.stage = .writing buffer d)
      (hw : Writes d io (.ok (), io')) : Turned io t (io', { t with stage := .recording buffer d.length })
  | unwritten {buffer : BufferSize} {io' : Io IoError} {d : Bytes} {e : IoError} (hs : t.stage = .writing buffer d)
      (hw : Writes d io (.error e, io')) : Turned io t (io', { t with stage := .finished })
  | counted {buffer : BufferSize} {n : ℕ} (hs : t.stage = .recording buffer n) :
      Turned io t (io, ⟨.averaging buffer, t.totalBytes + n⟩)

structure Turns (s : State) (d : Direction) (t : State) : Prop where
  own : Turned (s.streams d.source) (s.tasks d) (t.streams d.source, t.tasks d)
  task : ∀ d', d' ≠ d → t.tasks d' = s.tasks d'
  stream : ∀ p, p ≠ d.source → t.streams p = s.streams p

theorem Turns.moved {s : State} {d : Direction} {io : Io IoError} {t : Task} (f : AdaptiveForwarder)
    (h : Turned (s.streams d.source) (s.tasks d) (io, t)) :
    Turns s d ⟨f, Function.update s.streams d.source io, Function.update s.tasks d t⟩ := by
  refine ⟨?_, fun d' hd' => Function.update_of_ne hd' _ _, fun p hp => Function.update_of_ne hp _ _⟩
  simp only [Function.update_self]
  exact h

theorem Turns.stayed {s : State} {d : Direction} {t : Task} (f : AdaptiveForwarder)
    (h : Turned (s.streams d.source) (s.tasks d) (s.streams d.source, t)) :
    Turns s d ⟨f, s.streams, Function.update s.tasks d t⟩ := by
  have hmoved := Turns.moved f h
  rw [Function.update_eq_self] at hmoved
  exact hmoved

theorem turn_turns {s t : State} {d : Direction} {elapsed : ℕ} (ht : turn s d elapsed = some t) : Turns s d t := by
  have hread (buffer : BufferSize) := (s.streams d.source).read_reads buffer.size
  have hwrite (bs : Bytes) := (s.streams d.source).writeAll_writes bs
  unfold turn at ht
  rw [sink_eq_source] at ht
  split at ht
  · rename_i hs
    cases ht
    exact .stayed _ (.passed (hs ▸ .started _))
  · rename_i buffer hs
    specialize hread buffer
    split at ht
    · rename_i io hr
      rw [hr] at hread
      cases ht
      exact .moved _ (.ended hs hread)
    · rename_i b bs io hr
      rw [hr] at hread
      cases ht
      exact .moved _ (.got hs (List.cons_ne_nil b bs) hread)
    · rename_i io hr
      rw [hr] at hread
      cases ht
      have hmoved := Turns.moved s.forwarder (.blocked hs hread)
      rw [Function.update_eq_self] at hmoved
      exact hmoved
    · rename_i e io hr
      rw [hr] at hread
      cases ht
      exact .moved _ (.failed hs hread)
  · rename_i buffer bs hs
    specialize hwrite bs
    split at ht
    · rename_i e io hw
      rw [hw] at hwrite
      cases ht
      exact .moved _ (.unwritten hs hwrite)
    · rename_i u io hw
      rw [hw] at hwrite
      cases ht
      exact .moved _ (.wrote hs hwrite)
  · rename_i buffer n hs
    cases ht
    simp only [State.counts, State.goes, Function.update_self, Function.update_idem]
    exact .stayed _ (.counted hs)
  · rename_i buffer hs
    split at ht
    · cases ht
      exact .stayed _ (.passed (hs ▸ .unmeasured _))
    · cases ht
      exact .stayed _ (.passed (hs ▸ .measured _ _))
  · rename_i buffer rtt hs
    dsimp only at ht
    split at ht
    · cases ht
      exact .stayed _ (.passed (hs ▸ .kept _ _))
    · cases ht
      exact .stayed _ (.passed (hs ▸ .resized _ _ _))
  · rename_i buffer newSize hs
    cases ht
    exact .stayed _ (.passed (hs ▸ .stored _ _))
  · cases ht

theorem turn_enabled (s : State) {d : Direction} (elapsed : ℕ) (h : (s.tasks d).stage ≠ .finished) :
    ∃ t, turn s d elapsed = some t := by
  unfold turn
  cases hs : (s.tasks d).stage with
  | starting | recording | storing => exact ⟨_, rfl⟩
  | reading | writing | averaging | resizing =>
    dsimp only
    split <;> exact ⟨_, rfl⟩
  | finished => exact absurd hs h

theorem Stage.Passes.rank_lt {a b : Stage} (h : a.Passes b) : b.rank < a.rank := by cases h <;> simp [Stage.rank]

theorem Stage.Passes.unfinished {a b : Stage} (h : a.Passes b) : a ≠ .finished ∧ b ≠ .finished := by cases h <;> simp

theorem Stage.Passes.emptyHanded {a b : Stage} (h : a.Passes b) :
    b.inHand = a.inHand ∧ b.uncounted = a.uncounted := by
  cases h <;> exact ⟨rfl, rfl⟩

def Task.weight (t : Task) (io : Io IoError) : ℕ :=
  if t.stage = .finished then 0 else 6 * io.reader.size + t.stage.rank

theorem weight_finished {t : Task} (io : Io IoError) (h : t.stage = .finished) : t.weight io = 0 := if_pos h

theorem weight_unfinished {t : Task} (io : Io IoError) (h : t.stage ≠ .finished) :
    t.weight io = 6 * io.reader.size + t.stage.rank := if_neg h

theorem weight_pos {t : Task} (io : Io IoError) (h : t.stage ≠ .finished) : 0 < t.weight io := by
  rw [weight_unfinished io h]
  have hrank : 0 < t.stage.rank := by
    cases hs : t.stage with
    | finished => exact absurd hs h
    | _ => simp [Stage.rank]
  omega

theorem Turned.weight_lt {io io' : Io IoError} {t t' : Task} (h : Turned io t (io', t')) :
    t'.weight io' < t.weight io := by
  cases h with
  | passed hp =>
    obtain ⟨hstage, hstage'⟩ := hp.unfinished
    have hrank := hp.rank_lt
    rw [weight_unfinished io hstage, weight_unfinished io hstage']
    exact Nat.add_lt_add_left hrank _
  | ended hs | failed hs | unwritten hs =>
    rw [weight_finished _ rfl]
    exact weight_pos io (by simp [hs])
  | got hs hd hr =>
    have hsize := hr.size_lt (.inr ⟨_, rfl, hd⟩)
    rw [weight_unfinished io (by simp [hs]), weight_unfinished _ (by simp), hs]
    simp only [Stage.rank] at hsize ⊢
    omega
  | blocked hs hr =>
    have hsize := hr.size_lt (.inl rfl)
    rw [weight_unfinished io (by simp [hs]), weight_unfinished _ (by simp [hs])]
    simp only at hsize
    omega
  | wrote hs hw =>
    have hreader : io'.reader = io.reader := by cases hw <;> rfl
    rw [weight_unfinished io (by simp [hs]), weight_unfinished _ (by simp), hs, hreader]
    simp [Stage.rank]
  | counted hs =>
    rw [weight_unfinished (t := t) io (by simp [hs]), weight_unfinished _ (by simp), hs]
    simp [Stage.rank]

def State.weight (s : State) : ℕ :=
  (s.tasks .clientToRemote).weight (s.streams .client) + (s.tasks .remoteToClient).weight (s.streams .remote)

theorem Turns.weight_lt {s t : State} {d : Direction} (h : Turns s d t) : t.weight < s.weight := by
  have hown := h.own.weight_lt
  unfold State.weight
  cases d with
  | clientToRemote =>
    rw [h.task .remoteToClient (by simp), h.stream .remote (by simp [Direction.source])]
    exact Nat.add_lt_add_right hown _
  | remoteToClient =>
    rw [h.task .clientToRemote (by simp), h.stream .client (by simp [Direction.source])]
    exact Nat.add_lt_add_left hown _

/-- What the task has read it has written back or holds, and it has counted what it has written. -/
structure Level (stream : Bytes) (io : Io IoError) (t : Task) : Prop where
  reliable : io.Reliable
  behind : Behind stream io
  written : bytesWritten io.trace ++ t.stage.inHand = bytesRead io.trace
  counted : t.totalBytes + t.stage.uncounted = (bytesRead io.trace).length
  finished : t.stage = .finished → io.reader.bytes = []

theorem Level.turned {stream : Bytes} {io io' : Io IoError} {t t' : Task} (h : Level stream io t)
    (ht : Turned io t (io', t')) : Level stream io' t' := by
  have hwritten := h.written
  have hcounted := h.counted
  cases ht with
  | passed hp =>
    obtain ⟨hhand, hcount⟩ := hp.emptyHanded
    refine ⟨h.reliable, h.behind, ?_, ?_, fun hf => absurd hf hp.unfinished.2⟩
    · rw [hhand]
      exact hwritten
    · rw [hcount]
      exact hcounted
  | @ended buffer _ hs hr =>
    obtain ⟨hread, hsame⟩ := hr.bytesRead
    rw [hs] at hwritten hcounted
    refine ⟨(h.reliable.reads hr).1, h.behind.reads hr, ?_, ?_, fun _ => (hr.ended_bytes buffer.pos).2⟩
    · rw [hsame, hread, List.append_nil]
      exact hwritten
    · rw [hread, List.append_nil]
      exact hcounted
  | @got _ _ d hs hd hr =>
    obtain ⟨hread, hsame⟩ := hr.bytesRead
    rw [hs] at hwritten hcounted
    simp only [Stage.inHand, Stage.uncounted, List.append_nil, Nat.add_zero] at hwritten hcounted
    refine ⟨(h.reliable.reads hr).1, h.behind.reads hr, ?_, ?_, fun hf => nomatch hf⟩
    · rw [hsame, hread, hwritten]
      rfl
    · rw [hread, List.length_append, ← hcounted]
      rfl
  | blocked hs hr =>
    have hbehind := h.behind.reads hr
    have hreliable := (h.reliable.reads hr).1
    cases hr with
    | blocked => exact ⟨hreliable, hbehind, hwritten, hcounted, fun hf => nomatch hs.symm.trans hf⟩
  | failed hs hr => exact absurd rfl ((h.reliable.reads hr).2 _)
  | @wrote _ _ d hs hw =>
    rw [hs] at hwritten hcounted
    obtain ⟨hbehind, hread, -, hall⟩ := h.behind.writes (by rw [← hwritten]; rfl) hw
    refine ⟨(h.reliable.writes hw).2, hbehind, ?_, ?_, fun hf => nomatch hf⟩
    · rw [hread, hall rfl, ← hwritten]
      exact List.append_nil _
    · rw [hread]
      exact hcounted
  | unwritten hs hw => cases (h.reliable.writes hw).1
  | counted hs =>
    rw [hs] at hwritten hcounted
    exact ⟨h.reliable, h.behind, hwritten, hcounted, fun hf => nomatch hf⟩

def AllLevel (readers : Peer → Reader IoError) (s : State) : Prop :=
  ∀ d : Direction, Level (readers d.source).bytes (s.streams d.source) (s.tasks d)

theorem AllLevel.turns {readers : Peer → Reader IoError} {s t : State} {d : Direction} (h : AllLevel readers s)
    (ht : Turns s d t) : AllLevel readers t := by
  intro d'
  by_cases hd : d' = d
  · subst hd
    exact (h d').turned ht.own
  · rw [ht.task d' hd, ht.stream d'.source (fun he => hd (source_injective he))]
    exact h d'

theorem AllLevel.step {readers : Peer → Reader IoError} {s t : State} {e : Event} (h : AllLevel readers s)
    (ht : step s e = some t) : AllLevel readers t := by
  cases e with
  | turn d elapsed => exact h.turns (turn_turns ht)
  | others f =>
    cases ht
    exact h

def turnsOf (es : List Event) : ℕ := es.countP (fun | .turn .. => true | .others _ => false)

theorem run_turns {s₀ s : State} {es : List Event} (h : run s₀ es = some s) : turnsOf es + s.weight ≤ s₀.weight := by
  apply Transitions.run_history (I := fun es s => turnsOf es + s.weight ≤ s₀.weight) h (Nat.zero_add _).le
  intro es u e t _ hle he
  cases e with
  | turn d elapsed =>
    have hlt := (turn_turns he).weight_lt
    have hcount : turnsOf (es ++ [.turn d elapsed]) = turnsOf es + 1 := by simp [turnsOf]
    omega
  | others f =>
    cases he
    have hcount : turnsOf (es ++ [.others f]) = turnsOf es := by simp [turnsOf]
    rw [hcount]
    exact hle

theorem returned_eq {s : State} {r : ℕ × ℕ} (h : s.returned = some r) :
    (∀ d, (s.tasks d).stage = .finished) ∧
      r = ((s.tasks .clientToRemote).totalBytes, (s.tasks .remoteToClient).totalBytes) := by
  unfold State.returned at h
  split at h
  · rename_i hfinished
    refine ⟨?_, (Option.some.inj h).symm⟩
    intro d
    cases d with
    | clientToRemote => exact hfinished.1
    | remoteToClient => exact hfinished.2
  · cases h

theorem turn_of_weight {s : State} (h : s.weight ≠ 0) : ∃ e t, step s e = some t ∧ t.weight < s.weight := by
  have hopen : ∃ d, (s.tasks d).stage ≠ .finished := by
    by_contra hno
    simp only [not_exists, not_not] at hno
    exact h (by simp [State.weight, weight_finished _ (hno _)])
  obtain ⟨d, hd⟩ := hopen
  obtain ⟨t, ht⟩ := turn_enabled s 0 hd
  exact ⟨.turn d 0, t, ht, (turn_turns ht).weight_lt⟩

theorem returned_of_weight {s : State} (h : s.weight = 0) : ∃ r, s.returned = some r := by
  have hstage (d : Direction) : (s.tasks d).stage = .finished := by
    by_contra hne
    have hpos := weight_pos (s.streams d.source) hne
    unfold State.weight at h
    cases d <;> simp only [Direction.source] at hpos <;> omega
  exact ⟨_, if_pos ⟨hstage _, hstage _⟩⟩

theorem exists_returned (s : State) : ∃ es t r, run s es = some t ∧ t.returned = some r := by
  have hsteps (u : State) (_ : True) (hne : u.weight ≠ 0) :
      ∃ e t, step u e = some t ∧ True ∧ t.weight < u.weight := by
    obtain ⟨e, t, ht, hlt⟩ := turn_of_weight hne
    exact ⟨e, t, ht, trivial, hlt⟩
  obtain ⟨es, t, hrun, -, hzero⟩ := Transitions.exists_run_of_measure State.weight trivial hsteps
  obtain ⟨r, hr⟩ := returned_of_weight hzero
  exact ⟨es, t, r, hrun, hr⟩

theorem Level.echoed {stream : Bytes} {io : Io IoError} {t : Task} (h : Level stream io t) (hf : t.stage = .finished) :
    bytesWritten io.trace = stream ∧ t.totalBytes = stream.length := by
  have hwritten := h.written
  have hcounted := h.counted
  have hstream : stream = bytesRead io.trace := by
    rw [h.behind.stream, h.finished hf, List.append_nil]
  rw [hf] at hwritten hcounted
  rw [hstream]
  exact ⟨(List.append_nil _).symm.trans hwritten, hcounted⟩

def streamsOf (readers : Peer → Reader IoError) : Peer → Io IoError := fun p => .start (readers p) []

def started (f : AdaptiveForwarder) (readers : Peer → Reader IoError) : State :=
  ⟨f, streamsOf readers, fun _ => ⟨.starting, 0⟩⟩

theorem forwardAdaptive_ok_iff {f : AdaptiveForwarder} {setNodelay : Peer → Except IoError Unit}
    {readers : Peer → Reader IoError} {s : State} :
    forwardAdaptive f setNodelay (streamsOf readers) = .ok s ↔ (∀ p, setNodelay p = .ok ()) ∧ s = started f readers := by
  have hpeers : (∀ p, setNodelay p = .ok ()) ↔ setNodelay .client = .ok () ∧ setNodelay .remote = .ok () := by
    constructor
    · exact fun h => ⟨h _, h _⟩
    · rintro ⟨hclient, hremote⟩ p
      cases p with
      | client => exact hclient
      | remote => exact hremote
  unfold forwardAdaptive
  rw [hpeers]
  cases hclient : setNodelay .client with
  | error e => exact ⟨(fun h => nomatch h), (fun h => nomatch h.1.1)⟩
  | ok =>
    cases hremote : setNodelay .remote with
    | error e => exact ⟨(fun h => nomatch h), (fun h => nomatch h.1.2)⟩
    | ok => exact ⟨fun h => ⟨⟨rfl, rfl⟩, (Except.ok.inj h).symm⟩, fun h => congrArg Except.ok h.2.symm⟩

theorem started_allLevel {f : AdaptiveForwarder} {readers : Peer → Reader IoError} (h : ∀ p, (readers p).ending = none) :
    AllLevel readers (started f readers) := by
  intro d
  exact ⟨⟨rfl, h d.source⟩, .start (readers d.source) [], rfl, rfl, fun hf => nomatch hf⟩

theorem run_echoes {f : AdaptiveForwarder} {readers : Peer → Reader IoError} (h : ∀ p, (readers p).ending = none)
    {es : List Event} {s : State} (hrun : run (started f readers) es = some s) {r : ℕ × ℕ} (hr : s.returned = some r) :
    (∀ p, bytesWritten (s.streams p).trace = (readers p).bytes) ∧
      r = ((readers .client).bytes.length, (readers .remote).bytes.length) := by
  have hlevel : AllLevel readers s :=
    Transitions.run_invariant hrun (started_allLevel h) (fun u e t hu he => hu.step he)
  obtain ⟨hfinished, rfl⟩ := returned_eq hr
  have hclient := (hlevel .clientToRemote).echoed (hfinished _)
  have hremote := (hlevel .remoteToClient).echoed (hfinished _)
  refine ⟨?_, Prod.ext hclient.2 hremote.2⟩
  intro p
  cases p with
  | client => exact hclient.1
  | remote => exact hremote.1

/-- The call starts, makes no more than so many turns, can always go on to its end, and when it has returned, each peer
got all that the other sent and the result is the two lengths. -/
def ConnectsPeers (f : AdaptiveForwarder) (setNodelay : Peer → Except IoError Unit) (readers : Peer → Reader IoError) :
    Prop :=
  ∃ s₀, forwardAdaptive f setNodelay (streamsOf readers) = .ok s₀ ∧
    (∃ n, ∀ es s, run s₀ es = some s → turnsOf es ≤ n) ∧
    (∀ es s, run s₀ es = some s → ∃ fs t r, run s fs = some t ∧ t.returned = some r) ∧
    ∀ es s r, run s₀ es = some s → s.returned = some r →
      bytesWritten (s.streams .remote).trace = (readers .client).bytes ∧
        bytesWritten (s.streams .client).trace = (readers .remote).bytes ∧
          r = ((readers .client).bytes.length, (readers .remote).bytes.length)

theorem forward_adaptive_connects_iff (f : AdaptiveForwarder) (setNodelay : Peer → Except IoError Unit)
    {readers : Peer → Reader IoError} (h : ∀ p, (readers p).ending = none) :
    ConnectsPeers f setNodelay readers ↔
      (∀ p, setNodelay p = .ok ()) ∧ (readers .client).bytes = (readers .remote).bytes := by
  constructor
  · rintro ⟨s₀, hs₀, -, hreturns, hconnects⟩
    obtain ⟨hnodelay, rfl⟩ := forwardAdaptive_ok_iff.mp hs₀
    refine ⟨hnodelay, ?_⟩
    obtain ⟨es, s, r, hrun, hr⟩ := exists_returned (started f readers)
    obtain ⟨hremote, -, -⟩ := hconnects es s r hrun hr
    exact hremote.symm.trans ((run_echoes h hrun hr).1 .remote)
  · rintro ⟨hnodelay, hsame⟩
    refine ⟨started f readers, forwardAdaptive_ok_iff.mpr ⟨hnodelay, rfl⟩, ⟨(started f readers).weight, ?_⟩, ?_, ?_⟩
    · intro es s hrun
      exact (Nat.le_add_right _ _).trans (run_turns hrun)
    · intro es s _
      exact exists_returned s
    · intro es s r hrun hr
      obtain ⟨hechoes, hlengths⟩ := run_echoes h hrun hr
      exact ⟨(hechoes .remote).trans hsame.symm, (hechoes .client).trans hsame, hlengths⟩

def pingReaders : Peer → Reader IoError
  | .client => ⟨[.chunk 1 [2], .chunk 3 []], none⟩
  | .remote => ⟨[.chunk 1 [], .wouldBlock, .chunk 2 [3]], none⟩

theorem same_streams_connected : ConnectsPeers .new (fun _ => .ok ()) pingReaders :=
  (forward_adaptive_connects_iff .new (fun _ => .ok ()) (by intro p; cases p <;> rfl)).mpr ⟨fun _ => rfl, rfl⟩

def oneSidedReaders : Peer → Reader IoError
  | .client => ⟨[.chunk 1 [2]], none⟩
  | .remote => ⟨[], none⟩

theorem client_bytes_echoed : ¬ ConnectsPeers .new (fun _ => .ok ()) oneSidedReaders := by
  rintro ⟨s₀, hs₀, -, -, hconnects⟩
  obtain ⟨-, rfl⟩ := forwardAdaptive_ok_iff.mp hs₀
  have hturns : (run (started .new oneSidedReaders) ([.clientToRemote, .clientToRemote, .clientToRemote, .clientToRemote,
      .clientToRemote, .clientToRemote, .clientToRemote, .clientToRemote, .remoteToClient, .remoteToClient].map
        (Event.turn · 1))).map (fun s => (s.returned, bytesWritten (s.streams .remote).trace)) =
      some (some (2, 0), []) := by decide +kernel
  obtain ⟨s, hrun, he⟩ := Option.map_eq_some_iff.mp hturns
  simp only [Prod.mk.injEq] at he
  have hremote := (hconnects _ s _ hrun he.1).1
  rw [he.2] at hremote
  cases hremote

end GscFq.AdaptiveForwarder
