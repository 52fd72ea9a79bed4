import GscFq.ByteStream

/-!
A byte source that hands out its chunks piece by piece and a sink that may fail at any call, with the
trace of what was read, written and flushed.
-/

namespace GscFq.StreamIo

open ByteStream

variable {ε : Type}

inductive Item where
  | chunk (b : UInt8) (bs : Bytes)
  | wouldBlock
  deriving DecidableEq, Repr

def Item.bytes : Item → Bytes
  | .chunk b bs => b :: bs
  | .wouldBlock => []

def Item.size : Item → ℕ
  | .chunk _ bs => bs.length + 1
  | .wouldBlock => 1

/-- What is still to come: non-empty chunks and `WouldBlock` errors, then the end of file or an error. -/
structure Reader (ε : Type) where
  items : List Item
  ending : Option ε
  deriving DecidableEq, Repr

def Reader.bytes (r : Reader ε) : Bytes := r.items.flatMap Item.bytes

def Reader.size (r : Reader ε) : ℕ := (r.items.map Item.size).sum

inductive ReadResult (ε : Type) where
  | data (d : Bytes)
  | wouldBlock
  | error (e : ε)
  deriving DecidableEq, Repr

def leftover : Bytes → List Item
  | [] => []
  | b :: bs => [.chunk b bs]

def Reader.read (cap : ℕ) (r : Reader ε) : ReadResult ε × Reader ε :=
  match r.items with
  | [] =>
    match r.ending with
    | none => (.data [], r)
    | some e => (.error e, r)
  | .wouldBlock :: items => (.wouldBlock, { r with items := items })
  | .chunk b bs :: items => (.data ((b :: bs).take cap), { r with items := leftover ((b :: bs).drop cap) ++ items })

inductive Act where
  | read (d : Bytes)
  | wrote (d : Bytes)
  | flushed
  deriving DecidableEq, Repr

def bytesRead (acts : List Act) : Bytes :=
  acts.flatMap (fun | .read d => d | _ => [])

def bytesWritten (acts : List Act) : Bytes :=
  acts.flatMap (fun | .wrote d => d | _ => [])

/-- Both ends of a copy. `failures` says of each coming call of the sink whether it succeeds, or how many
bytes still go out before which error; past its end every call succeeds. -/
structure Io (ε : Type) where
  reader : Reader ε
  failures : List (Option (ℕ × ε))
  trace : List Act
  deriving DecidableEq, Repr

namespace Io

def start (reader : Reader ε) (failures : List (Option (ℕ × ε))) : Io ε := ⟨reader, failures, []⟩

def read (cap : ℕ) (io : Io ε) : ReadResult ε × Io ε :=
  match io.reader.read cap with
  | (.data d, reader) => (.data d, { io with reader := reader, trace := io.trace ++ [.read d] })
  | (r, reader) => (r, { io with reader := reader })

/-- No call is made for an empty buffer. -/
def writeAll (d : Bytes) (io : Io ε) : Except ε Unit × Io ε :=
  if d = [] then (.ok (), io)
  else
    match io.failures with
    | some (k, e) :: failures =>
      (.error e, { io with failures := failures, trace := io.trace ++ [.wrote (d.take k)] })
    | _ => (.ok (), { io with failures := io.failures.tail, trace := io.trace ++ [.wrote d] })

def flush (io : Io ε) : Except ε Unit × Io ε :=
  match io.failures with
  | some (_, e) :: failures => (.error e, { io with failures := failures })
  | _ => (.ok (), { io with failures := io.failures.tail, trace := io.trace ++ [.flushed] })

end Io

theorem bytesRead_snoc (acts : List Act) (d : Bytes) : bytesRead (acts ++ [.read d]) = bytesRead acts ++ d := by
  simp [bytesRead]

theorem bytesWritten_snoc (acts : List Act) (d : Bytes) :
    bytesWritten (acts ++ [.wrote d]) = bytesWritten acts ++ d := by
  simp [bytesWritten]

theorem bytesRead_wrote (acts : List Act) (d : Bytes) : bytesRead (acts ++ [.wrote d]) = bytesRead acts := by
  simp [bytesRead]

theorem bytesWritten_read (acts : List Act) (d : Bytes) : bytesWritten (acts ++ [.read d]) = bytesWritten acts := by
  simp [bytesWritten]

theorem bytesRead_flushed (acts : List Act) : bytesRead (acts ++ [.flushed]) = bytesRead acts := by
  simp [bytesRead]

theorem bytesWritten_flushed (acts : List Act) : bytesWritten (acts ++ [.flushed]) = bytesWritten acts := by
  simp [bytesWritten]

inductive Reads (cap : ℕ) (io : Io ε) : ReadResult ε × Io ε → Prop
  | ended (hi : io.reader.items = []) (he : io.reader.ending = none) :
      Reads cap io (.data [], { io with trace := io.trace ++ [.read []] })
  | failed (hi : io.reader.items = []) {e : ε} (he : io.reader.ending = some e) : Reads cap io (.error e, io)
  | blocked {reader : Reader ε} (hb : reader.bytes = io.reader.bytes) (he : reader.ending = io.reader.ending)
      (hsize : reader.size < io.reader.size) : Reads cap io (.wouldBlock, { io with reader := reader })
  | got {reader : Reader ε} {d : Bytes} (hb : io.reader.bytes = d ++ reader.bytes)
      (he : reader.ending = io.reader.ending) (hlen : d.length ≤ cap) (hpos : 0 < cap → d ≠ [])
      (hsize : 0 < cap → reader.size < io.reader.size) :
      Reads cap io (.data d, { io with reader := reader, trace := io.trace ++ [.read d] })

inductive Writes (d : Bytes) (io : Io ε) : Except ε Unit × Io ε → Prop
  | nothing (hd : d = []) : Writes d io (.ok (), io)
  | done : Writes d io (.ok (), { io with failures := io.failures.tail, trace := io.trace ++ [.wrote d] })
  | failed (hf : io.failures ≠ []) {failures : List (Option (ℕ × ε))} {k : ℕ} {e : ε} :
      Writes d io (.error e, { io with failures := failures, trace := io.trace ++ [.wrote (d.take k)] })

inductive Flushes (io : Io ε) : Except ε Unit × Io ε → Prop
  | done : Flushes io (.ok (), { io with failures := io.failures.tail, trace := io.trace ++ [.flushed] })
  | failed (hf : io.failures ≠ []) {failures : List (Option (ℕ × ε))} {e : ε} :
      Flushes io (.error e, { io with failures := failures })

theorem Io.writeAll_writes (d : Bytes) (io : Io ε) : Writes d io (io.writeAll d) := by
  unfold Io.writeAll
  split
  · rename_i hd
    exact .nothing hd
  · split
    · rename_i hf
      exact .failed (by simp [hf])
    · exact .done

theorem Io.flush_flushes (io : Io ε) : Flushes io io.flush := by
  unfold Io.flush
  split
  · rename_i hf
    exact .failed (by simp [hf])
  · exact .done

theorem leftover_bytes (d : Bytes) : (leftover d).flatMap Item.bytes = d := by
  cases d <;> simp [leftover, Item.bytes]

theorem leftover_size (d : Bytes) : ((leftover d).map Item.size).sum = d.length := by
  cases d <;> simp [leftover, Item.size]

theorem Io.read_reads (cap : ℕ) (io : Io ε) : Reads cap io (io.read cap) := by
  unfold Io.read Reader.read
  cases hi : io.reader.items with
  | nil =>
    cases he : io.reader.ending with
    | none => exact .ended hi he
    | some e => exact .failed hi he
  | cons item items =>
    cases item with
    | wouldBlock =>
      refine .blocked ?_ rfl ?_
      · simp [Reader.bytes, hi, Item.bytes]
      · simp [Reader.size, hi, Item.size]
    | chunk b bs =>
      refine .got ?_ rfl ?_ ?_ ?_
      · rw [Reader.bytes, Reader.bytes, hi, List.flatMap_append, leftover_bytes, List.flatMap_cons, Item.bytes,
          ← List.append_assoc, List.take_append_drop]
      · exact List.length_take_le _ _
      · intro hcap hnil
        simp [List.take_eq_nil_iff, Nat.pos_iff_ne_zero.mp hcap] at hnil
      · intro hcap
        simp only [Reader.size, hi, List.map_append, List.sum_append, leftover_size, List.map_cons, List.sum_cons,
          Item.size, List.length_drop, List.length_cons]
        omega

theorem Reads.size_lt {cap : ℕ} {io : Io ε} {r : ReadResult ε × Io ε} (h : Reads cap io r)
    (hgoes : r.1 = .wouldBlock ∨ ∃ d, r.1 = .data d ∧ d ≠ []) : r.2.reader.size < io.reader.size := by
  cases h with
  | ended => simp at hgoes
  | failed => simp at hgoes
  | blocked _ _ hsize => exact hsize
  | got _ _ hlen _ hsize =>
    have hd := hgoes
    simp only [reduceCtorEq, ReadResult.data.injEq, exists_eq_left', false_or] at hd
    exact hsize (Nat.lt_of_lt_of_le (List.length_pos_iff.mpr hd) hlen)

theorem Reads.ended_bytes {cap : ℕ} {io io' : Io ε} (h : Reads cap io (.data [], io')) (hcap : 0 < cap) :
    io.reader.bytes = [] ∧ io'.reader.bytes = [] := by
  cases h with
  | ended hi => simp [Reader.bytes, hi]
  | got _ _ _ hpos => exact absurd rfl (hpos hcap)

theorem Reads.bytesRead {cap : ℕ} {io io' : Io ε} {d : Bytes} (h : Reads cap io (.data d, io')) :
    bytesRead io'.trace = bytesRead io.trace ++ d ∧ bytesWritten io'.trace = bytesWritten io.trace := by
  cases h with
  | ended => exact ⟨bytesRead_snoc _ _, bytesWritten_read _ _⟩
  | got => exact ⟨bytesRead_snoc _ _, bytesWritten_read _ _⟩

theorem Reads.quiet {cap : ℕ} {io : Io ε} {r : ReadResult ε × Io ε} (h : Reads cap io r) :
    r.2.failures = io.failures ∧ r.2.reader.ending = io.reader.ending := by
  cases h with
  | ended | failed => exact ⟨rfl, rfl⟩
  | blocked _ he => exact ⟨rfl, he⟩
  | got _ he => exact ⟨rfl, he⟩

theorem Reads.error_ending {cap : ℕ} {io io' : Io ε} {e : ε} (h : Reads cap io (.error e, io')) :
    io.reader.ending = some e := by
  cases h with
  | failed _ he => exact he

/-- The sink is never ahead of the source: at every moment what was written is the beginning of what was
read, and what was read is the beginning of the stream. -/
structure Behind (stream : Bytes) (io : Io ε) : Prop where
  stream : stream = bytesRead io.trace ++ io.reader.bytes
  always : ∀ acts, acts <+: io.trace → bytesWritten acts <+: bytesRead acts

theorem Behind.start (reader : Reader ε) (failures : List (Option (ℕ × ε))) :
    Behind reader.bytes (Io.start reader failures) := by
  refine ⟨rfl, ?_⟩
  intro acts h
  rw [List.prefix_nil.mp h]
  exact List.nil_prefix

theorem Behind.snoc {stream : Bytes} {io io' : Io ε} {act : Act} (h : Behind stream io)
    (ht : io'.trace = io.trace ++ [act]) (hs : stream = bytesRead io'.trace ++ io'.reader.bytes)
    (hw : bytesWritten io'.trace <+: bytesRead io'.trace) : Behind stream io' := by
  refine ⟨hs, ?_⟩
  intro acts hacts
  rw [ht, List.prefix_concat_iff] at hacts
  rcases hacts with rfl | hacts
  · rw [← ht]
    exact hw
  · exact h.always acts hacts

theorem Behind.reads {stream : Bytes} {cap : ℕ} {io : Io ε} {r : ReadResult ε × Io ε} (h : Behind stream io)
    (hr : Reads cap io r) : Behind stream r.2 := by
  have hnow := h.always io.trace (List.prefix_refl _)
  cases hr with
  | ended =>
    apply h.snoc rfl
    · rw [bytesRead_snoc, List.append_nil]
      exact h.stream
    · rw [bytesRead_snoc, bytesWritten_read, List.append_nil]
      exact hnow
  | failed => exact h
  | blocked hb => exact ⟨by rw [hb]; exact h.stream, h.always⟩
  | @got reader d hb =>
    apply h.snoc rfl
    · rw [bytesRead_snoc, List.append_assoc, ← hb]
      exact h.stream
    · rw [bytesRead_snoc, bytesWritten_read]
      exact hnow.trans (List.prefix_append _ _)

theorem Behind.writes {stream d : Bytes} {io : Io ε} {r : Except ε Unit × Io ε} (h : Behind stream io)
    (hd : bytesWritten io.trace ++ d <+: bytesRead io.trace) (hr : Writes d io r) :
    Behind stream r.2 ∧ bytesRead r.2.trace = bytesRead io.trace ∧ r.2.reader = io.reader ∧
      (r.1 = .ok () → bytesWritten r.2.trace = bytesWritten io.trace ++ d) := by
  cases hr with
  | nothing hnil => exact ⟨h, rfl, rfl, fun _ => by rw [hnil, List.append_nil]⟩
  | done =>
    refine ⟨?_, bytesRead_wrote _ _, rfl, fun _ => bytesWritten_snoc _ _⟩
    apply h.snoc rfl
    · rw [bytesRead_wrote]
      exact h.stream
    · rw [bytesRead_wrote, bytesWritten_snoc]
      exact hd
  | @failed _ failures k e =>
    refine ⟨?_, bytesRead_wrote _ _, rfl, by rintro ⟨⟩⟩
    apply h.snoc rfl
    · rw [bytesRead_wrote]
      exact h.stream
    · rw [bytesRead_wrote, bytesWritten_snoc]
      exact ((List.prefix_append_right_inj _).mpr (List.take_prefix k d)).trans hd

theorem Behind.flushes {stream : Bytes} {io : Io ε} {r : Except ε Unit × Io ε} (h : Behind stream io)
    (hr : Flushes io r) :
    Behind stream r.2 ∧ bytesRead r.2.trace = bytesRead io.trace ∧ r.2.reader = io.reader ∧
      bytesWritten r.2.trace = bytesWritten io.trace := by
  cases hr with
  | done =>
    refine ⟨?_, bytesRead_flushed _, rfl, bytesWritten_flushed _⟩
    apply h.snoc rfl
    · rw [bytesRead_flushed]
      exact h.stream
    · rw [bytesRead_flushed, bytesWritten_flushed]
      exact h.always _ (List.prefix_refl _)
  | failed => exact ⟨⟨h.stream, h.always⟩, rfl, rfl, rfl⟩

/-- Neither end will fail any more. -/
structure Io.Reliable (io : Io ε) : Prop where
  sink : io.failures = []
  source : io.reader.ending = none

theorem Io.Reliable.reads {cap : ℕ} {io : Io ε} {r : ReadResult ε × Io ε} (h : io.Reliable) (hr : Reads cap io r) :
    r.2.Reliable ∧ ∀ e, r.1 ≠ .error e := by
  obtain ⟨hfailures, hending⟩ := hr.quiet
  refine ⟨⟨hfailures.trans h.sink, hending.trans h.source⟩, ?_⟩
  cases hr with
  | ended | blocked | got => simp
  | failed _ he =>
    rw [h.source] at he
    cases he

theorem Io.Reliable.writes {d : Bytes} {io : Io ε} {r : Except ε Unit × Io ε} (h : io.Reliable) (hr : Writes d io r) :
    r.1 = .ok () ∧ r.2.Reliable := by
  cases hr with
  | nothing => exact ⟨rfl, h⟩
  | done => exact ⟨rfl, by simp [h.sink], h.source⟩
  | failed hf => exact absurd h.sink hf

theorem Io.Reliable.flushes {io : Io ε} {r : Except ε Unit × Io ε} (h : io.Reliable) (hr : Flushes io r) :
    r.1 = .ok () ∧ r.2.Reliable := by
  cases hr with
  | done => exact ⟨rfl, by simp [h.sink], h.source⟩
  | failed hf => exact absurd h.sink hf

end GscFq.StreamIo
