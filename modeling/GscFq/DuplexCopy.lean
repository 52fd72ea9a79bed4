import GscFq.ByteStream
import GscFq.Pipelines

/-!
One direction of tokio's `copy_bidirectional`: a buffer is filled from the source and emptied into the sink in
pieces of any size, and once the source has ended and the buffer is empty the sink is shut down.
-/

namespace GscFq.DuplexCopy

open ByteStream Pipelines

def bufferSize : ℕ := 8 * 1024

/-- What has been read and not yet written, marked once the source has ended, and the number of bytes written. -/
structure Copying where
  buffer : Stage UInt8
  amount : ℕ
  deriving DecidableEq, Repr

def Copying.start : Copying := ⟨.empty, 0⟩

inductive Event where
  | read (n : ℕ)
  | readEnd
  | write (k : ℕ)
  | shutdown
  deriving DecidableEq, Repr

/-- The source, the copy and the sink after an event; the direction is over when its sink is shut down. -/
def step (source : Stage UInt8) (c : Copying) (sink : Stage UInt8) :
    Event → Option (Stage UInt8 × Copying × Stage UInt8)
  | .read n =>
    if 0 < n ∧ n ≤ source.held.length ∧ c.buffer.held.length + n ≤ bufferSize ∧ c.buffer.ended = false then
      some (source.drop n, { c with buffer := c.buffer.put (source.held.take n) }, sink)
    else none
  | .readEnd =>
    if source.held = [] ∧ source.ended = true ∧ c.buffer.ended = false then
      some (source, { c with buffer := c.buffer.close }, sink)
    else none
  | .write k =>
    if 0 < k ∧ k ≤ c.buffer.held.length ∧ sink.ended = false then
      some (source, ⟨c.buffer.drop k, c.amount + k⟩, sink.put (c.buffer.held.take k))
    else none
  | .shutdown =>
    if c.buffer.held = [] ∧ c.buffer.ended = true ∧ sink.ended = false then some (source, c, sink.close) else none

/-- What a step does to the source, the copy and the sink. -/
inductive Steps (source : Stage UInt8) (c : Copying) (sink : Stage UInt8) : Stage UInt8 × Copying × Stage UInt8 → Prop
  | read {n : ℕ} (hn : 0 < n) (hle : n ≤ source.held.length) :
      Steps source c sink (source.drop n, { c with buffer := c.buffer.put (source.held.take n) }, sink)
  | readEnd (hheld : source.held = []) (hended : source.ended = true) (hopen : c.buffer.ended = false) :
      Steps source c sink (source, { c with buffer := c.buffer.close }, sink)
  | write {k : ℕ} (hk : 0 < k) (hle : k ≤ c.buffer.held.length) :
      Steps source c sink (source, ⟨c.buffer.drop k, c.amount + k⟩, sink.put (c.buffer.held.take k))
  | shutdown (hheld : c.buffer.held = []) (hended : c.buffer.ended = true) (hopen : sink.ended = false) :
      Steps source c sink (source, c, sink.close)

variable {source sink : Stage UInt8} {c : Copying} {r : Stage UInt8 × Copying × Stage UInt8}

theorem step_steps {e : Event} (h : step source c sink e = some r) : Steps source c sink r := by
  cases e with
  | read n =>
    obtain ⟨⟨hn, hle, -, -⟩, he⟩ := Option.ite_none_right_eq_some.mp h
    exact Option.some.inj he ▸ .read hn hle
  | readEnd =>
    obtain ⟨⟨hheld, hended, hopen⟩, he⟩ := Option.ite_none_right_eq_some.mp h
    exact Option.some.inj he ▸ .readEnd hheld hended hopen
  | write k =>
    obtain ⟨⟨hk, hle, -⟩, he⟩ := Option.ite_none_right_eq_some.mp h
    exact Option.some.inj he ▸ .write hk hle
  | shutdown =>
    obtain ⟨⟨hheld, hended, hopen⟩, he⟩ := Option.ite_none_right_eq_some.mp h
    exact Option.some.inj he ▸ .shutdown hheld hended hopen

theorem Steps.flow (h : Steps source c sink r) : Flow [sink, c.buffer, source] [r.2.2, r.2.1.buffer, r.1] := by
  cases h with
  | read hn hle => exact .later _ (.pass c.buffer source [] hn (List.length_pos_iff.mp (hn.trans_le hle)))
  | readEnd hheld hended hopen => exact .later _ (.finish c.buffer source [] hopen hheld hended)
  | write hk hle => exact .pass sink c.buffer [source] hk (List.length_pos_iff.mp (hk.trans_le hle))
  | shutdown hheld hended hopen => exact .finish sink c.buffer [source] hopen hheld hended

/-- A step does not depend on what the sink holds already. -/
theorem Steps.behind {k : ℕ} (h : Steps source c sink r) (hk : k ≤ sink.held.length) :
    Steps source c (sink.drop k) (r.1, r.2.1, r.2.2.drop k) := by
  cases h with
  | read hn hle => exact .read hn hle
  | readEnd hheld hended hopen => exact .readEnd hheld hended hopen
  | write hw hle =>
    rw [Stage.put_drop _ _ hk]
    exact .write hw hle
  | shutdown hheld hended hopen => exact .shutdown hheld hended hopen

/-- The count is that of the bytes written, no byte is made up, the sink only grows and no mark is taken back. -/
structure Accounts (source : Stage UInt8) (c : Copying) (sink : Stage UInt8) (r : Stage UInt8 × Copying × Stage UInt8) :
    Prop where
  left : r.2.1.amount + r.2.1.buffer.held.length + r.1.held.length =
    c.amount + c.buffer.held.length + source.held.length
  right : r.2.1.amount + sink.held.length = c.amount + r.2.2.held.length
  grows : ∃ xs, r.2.2.held = sink.held ++ xs
  source : r.1.ended = source.ended
  sink : sink.ended = true → r.2.2.ended = true

theorem Steps.accounts (h : Steps source c sink r) : Accounts source c sink r := by
  cases h with
  | read hn hle =>
    refine ⟨?_, rfl, ⟨[], (List.append_nil _).symm⟩, rfl, id⟩
    simp only [Stage.put_held, Stage.drop_held, List.length_append, List.length_take, List.length_drop]
    omega
  | readEnd => exact ⟨rfl, rfl, ⟨[], (List.append_nil _).symm⟩, rfl, id⟩
  | write hk hle =>
    refine ⟨?_, ?_, ⟨_, rfl⟩, rfl, id⟩
    · simp only [Stage.drop_held, List.length_drop]
      omega
    · simp only [Stage.put_held, List.length_append, List.length_take]
      omega
  | shutdown => exact ⟨rfl, rfl, ⟨[], (List.append_nil _).symm⟩, rfl, fun _ => rfl⟩

/-- A direction that can go no further and has not shut its sink down waits for its source. -/
theorem waits (hopen : sink.ended = false)
    (h : ∀ e, step source c sink e = none) : c.buffer = .empty ∧ source = .empty := by
  have hheld : c.buffer.held = [] := by
    by_contra hne
    have hpos := List.length_pos_iff.mpr hne
    have hwrite := h (.write 1)
    rw [step, if_pos ⟨Nat.one_pos, hpos, hopen⟩] at hwrite
    cases hwrite
  have hbuffer : c.buffer.ended = false := by
    by_contra hended
    have hshut := h .shutdown
    rw [step, if_pos ⟨hheld, by simpa using hended, hopen⟩] at hshut
    cases hshut
  have hsource : source.held = [] := by
    by_contra hne
    have hpos := List.length_pos_iff.mpr hne
    have hread := h (.read 1)
    rw [step, if_pos ⟨Nat.one_pos, hpos, by rw [hheld]; decide, hbuffer⟩] at hread
    cases hread
  have hsourceOpen : source.ended = false := by
    by_contra hended
    have hend := h .readEnd
    rw [step, if_pos ⟨hsource, by simpa using hended, hbuffer⟩] at hend
    cases hend
  exact ⟨Stage.eq_empty hheld hbuffer, Stage.eq_empty hsource hsourceOpen⟩

end GscFq.DuplexCopy
