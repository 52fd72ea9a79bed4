import Mathlib.Data.List.Basic
import Mathlib.Tactic

namespace GscFq.ByteStream

abbrev Bytes := List UInt8

/-- What a reader has been handed so far: the pieces in which the bytes arrived, and how the
stream ended (`none` while the writer may still send). -/
structure Stream (ε : Type) where
  chunks : List Bytes
  ending : Option ε
  deriving DecidableEq, Repr

def Stream.bytes {ε : Type} (s : Stream ε) : Bytes := s.chunks.flatten

def Stream.push {ε : Type} (s : Stream ε) (chunk : Bytes) : Stream ε :=
  { s with chunks := s.chunks ++ [chunk] }

inductive Read (σ ε α : Type) where
  | ok (value : α) (rest : σ)
  | err (e : ε)
  | pending
  deriving DecidableEq, Repr

def takeExact (n : ℕ) : List Bytes → Option (Bytes × List Bytes)
  | [] => if n = 0 then some ([], []) else none
  | c :: cs =>
    if n ≤ c.length then some (c.take n, c.drop n :: cs)
    else (takeExact (n - c.length) cs).map (fun p => (c ++ p.1, p.2))

/-- Fill a buffer of `n` bytes: a stream that is over with fewer bytes left reports its ending, a
stream that is still open keeps the reader waiting. -/
def readExact {ε : Type} (n : ℕ) (s : Stream ε) : Read (Stream ε) ε Bytes :=
  match takeExact n s.chunks with
  | some (d, cs) => .ok d ⟨cs, s.ending⟩
  | none => s.ending.elim .pending .err

theorem takeExact_some {n : ℕ} {cs rest : List Bytes} {d : Bytes} (h : takeExact n cs = some (d, rest)) :
    d.length = n ∧ cs.flatten = d ++ rest.flatten := by
  induction cs generalizing n d with
  | nil =>
    simp only [takeExact] at h
    split at h <;> simp_all
  | cons c cs ih =>
    simp only [takeExact] at h
    split at h
    · rename_i hn
      simp only [Option.some.injEq, Prod.mk.injEq] at h
      obtain ⟨rfl, rfl⟩ := h
      simp [hn, ← List.append_assoc]
    · rename_i hn
      obtain ⟨⟨d', rest'⟩, ht, he⟩ := Option.map_eq_some_iff.mp h
      simp only [Prod.mk.injEq] at he
      obtain ⟨rfl, rfl⟩ := he
      obtain ⟨hl, hf⟩ := ih ht
      refine ⟨by rw [List.length_append, hl]; omega, ?_⟩
      rw [List.flatten_cons, hf, List.append_assoc]

theorem takeExact_none {n : ℕ} {cs : List Bytes} : takeExact n cs = none ↔ cs.flatten.length < n := by
  induction cs generalizing n with
  | nil => by_cases hn : n = 0 <;> simp [takeExact, hn]; omega
  | cons c cs ih =>
    simp only [takeExact]
    by_cases hn : n ≤ c.length
    · simp [hn]; omega
    · rw [if_neg hn, Option.map_eq_none_iff, ih, List.flatten_cons, List.length_append]
      omega

theorem takeExact_append {n : ℕ} {cs rest : List Bytes} {d : Bytes} (more : List Bytes)
    (h : takeExact n cs = some (d, rest)) : takeExact n (cs ++ more) = some (d, rest ++ more) := by
  induction cs generalizing n d with
  | nil =>
    simp only [takeExact] at h
    split at h
    · simp only [Option.some.injEq, Prod.mk.injEq] at h
      obtain ⟨rfl, rfl⟩ := h
      subst n
      cases more <;> simp [takeExact]
    · cases h
  | cons c cs ih =>
    simp only [takeExact, List.cons_append] at h ⊢
    split at h
    · rename_i hn
      simp only [Option.some.injEq, Prod.mk.injEq] at h
      obtain ⟨rfl, rfl⟩ := h
      simp [hn]
    · rename_i hn
      obtain ⟨⟨d', rest'⟩, ht, he⟩ := Option.map_eq_some_iff.mp h
      simp only [Prod.mk.injEq] at he
      obtain ⟨rfl, rfl⟩ := he
      simp [hn, ih ht]

variable {ε : Type}

theorem readExact_eq_ok {n : ℕ} {s rest : Stream ε} {d : Bytes} (h : readExact n s = .ok d rest) :
    takeExact n s.chunks = some (d, rest.chunks) ∧ rest.ending = s.ending := by
  unfold readExact at h
  cases ht : takeExact n s.chunks with
  | none => cases he : s.ending <;> simp [ht, he] at h
  | some p =>
    simp only [ht, Read.ok.injEq] at h
    obtain ⟨rfl, rfl⟩ := h
    exact ⟨rfl, rfl⟩

theorem readExact_ok {n : ℕ} {s rest : Stream ε} {d : Bytes} (h : readExact n s = .ok d rest) :
    d.length = n ∧ s.bytes = d ++ rest.bytes ∧ rest.ending = s.ending := by
  obtain ⟨ht, he⟩ := readExact_eq_ok h
  obtain ⟨hl, hf⟩ := takeExact_some ht
  exact ⟨hl, hf, he⟩

theorem readExact_of_bytes {s : Stream ε} {d tail : Bytes} (h : s.bytes = d ++ tail) :
    ∃ rest : Stream ε, readExact d.length s = .ok d rest ∧ rest.bytes = tail ∧ rest.ending = s.ending := by
  cases ht : takeExact d.length s.chunks with
  | none =>
    have hl := takeExact_none.mp ht
    have hb : s.chunks.flatten = d ++ tail := h
    rw [hb, List.length_append] at hl
    omega
  | some p =>
    obtain ⟨d', cs⟩ := p
    obtain ⟨hl, hf⟩ := takeExact_some ht
    have he : d' ++ cs.flatten = d ++ tail := hf.symm.trans h
    obtain ⟨rfl, hc⟩ := List.append_inj he hl
    exact ⟨⟨cs, s.ending⟩, by simp [readExact, ht], hc, rfl⟩

theorem readExact_short {n : ℕ} {s : Stream ε} (h : s.bytes.length < n) :
    readExact n s = s.ending.elim .pending .err := by
  have ht : takeExact n s.chunks = none := takeExact_none.mpr h
  simp [readExact, ht]

theorem readExact_pending {n : ℕ} {s : Stream ε} (h : readExact n s = .pending) : s.ending = none := by
  unfold readExact at h
  cases ht : takeExact n s.chunks with
  | none => cases he : s.ending <;> simp [ht, he] at h ⊢
  | some p => simp [ht] at h

/-- A stream that grows: nothing it has delivered changes, and more may come until it ends. -/
def Stream.Extends (s s' : Stream ε) : Prop :=
  ∃ more, s'.chunks = s.chunks ++ more ∧ ∀ e, s.ending = some e → more = [] ∧ s'.ending = some e

theorem Stream.Extends.refl (s : Stream ε) : s.Extends s :=
  ⟨[], by simp, fun _ he => ⟨rfl, he⟩⟩

theorem Stream.Extends.trans {s t u : Stream ε} (hst : s.Extends t) (htu : t.Extends u) : s.Extends u := by
  obtain ⟨more, hc, he⟩ := hst
  obtain ⟨more', hc', he'⟩ := htu
  refine ⟨more ++ more', by rw [hc', hc, List.append_assoc], ?_⟩
  intro e hs
  obtain ⟨rfl, ht⟩ := he e hs
  obtain ⟨rfl, hu⟩ := he' e ht
  exact ⟨rfl, hu⟩

theorem readExact_extends {n : ℕ} {s s' rest : Stream ε} {d : Bytes} (hs : s.Extends s')
    (h : readExact n s = .ok d rest) : ∃ rest', readExact n s' = .ok d rest' ∧ rest.Extends rest' := by
  obtain ⟨more, hc, he⟩ := hs
  obtain ⟨ht, hr⟩ := readExact_eq_ok h
  have ht' := takeExact_append more ht
  rw [← hc] at ht'
  refine ⟨⟨rest.chunks ++ more, s'.ending⟩, by simp [readExact, ht'], more, rfl, ?_⟩
  intro e hre
  exact he e (hr.symm.trans hre)

end GscFq.ByteStream
