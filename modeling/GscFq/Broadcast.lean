import Mathlib.Data.Nat.Basic
import Mathlib.Tactic

/-!
A bounded broadcast channel whose messages carry no data. A receiver sees what is sent after it was
created, in order, and learns that it lagged when more than `capacity` messages wait for it.
-/

namespace GscFq.Broadcast

structure Channel where
  capacity : ℕ
  tail : ℕ
  deriving DecidableEq, Repr

structure Receiver where
  next : ℕ
  deriving DecidableEq, Repr

inductive TryRecv where
  | ok
  | empty
  | lagged
  deriving DecidableEq, Repr

def Channel.send (c : Channel) : Channel := { c with tail := c.tail + 1 }

def Channel.subscribe (c : Channel) : Receiver := ⟨c.tail⟩

def Channel.tryRecv (c : Channel) (r : Receiver) : TryRecv × Receiver :=
  if c.tail ≤ r.next then (.empty, r)
  else if c.tail - r.next ≤ c.capacity then (.ok, ⟨r.next + 1⟩)
  else (.lagged, ⟨c.tail - c.capacity⟩)

def Channel.pending (c : Channel) (r : Receiver) : Bool := decide (r.next < c.tail)

theorem tryRecv_empty {c : Channel} {r : Receiver} (h : r.next = c.tail) : c.tryRecv r = (.empty, r) := by
  simp [Channel.tryRecv, h]

theorem tryRecv_one {c : Channel} {r : Receiver} (hc : 0 < c.capacity) (h : r.next + 1 = c.tail) :
    c.tryRecv r = (.ok, ⟨c.tail⟩) := by
  have hlt : ¬ c.tail ≤ r.next := by omega
  have hle : c.tail - r.next ≤ c.capacity := by omega
  simp [Channel.tryRecv, hlt, hle, h]

end GscFq.Broadcast
