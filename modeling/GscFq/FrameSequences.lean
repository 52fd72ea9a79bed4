import GscFq.Framing
import GscFq.LibraryFormats
import GscFq.Lists

namespace GscFq.ControlMessage

open ByteStream GscFq.Lists

variable {X : Externals}

def writeAll (X : Externals) (ms : List ControlMessage) : Except AppError (List Bytes) := ms.mapM (writeTo X)

def readMany (X : Externals) : ℕ → Stream IoError → Read (Stream IoError) AppError (List ControlMessage)
  | 0, s => .ok [] s
  | n + 1, s =>
    match readFrom X s with
    | .pending => .pending
    | .err e => .err e
    | .ok m s =>
      match readMany X n s with
      | .pending => .pending
      | .err e => .err e
      | .ok ms s => .ok (m :: ms) s

def Fits (X : Externals) (m : ControlMessage) : Prop :=
  ∃ data, X.bincodeSerialize m = .ok data ∧ data.length ≤ maxMessageSize

theorem writeTo_frame {m : ControlMessage} (h : Fits X m) :
    ∃ data, X.bincodeSerialize m = .ok data ∧ data.length ≤ maxMessageSize ∧
      m.writeTo X = .ok (toBe 4 data.length ++ data) := by
  obtain ⟨data, hd, hl⟩ := h
  exact ⟨data, hd, hl, writeTo_of_serialize hd hl⟩

theorem writeAll_cons {m : ControlMessage} {ms : List ControlMessage} {frame : Bytes} {frames : List Bytes}
    (hm : m.writeTo X = .ok frame) (hms : writeAll X ms = .ok frames) :
    writeAll X (m :: ms) = .ok (frame :: frames) := by
  unfold writeAll at hms ⊢
  rw [List.mapM_cons, hm, hms]
  rfl

theorem readMany_succ {n : ℕ} {s s₁ rest : Stream IoError} {m : ControlMessage} {ms : List ControlMessage}
    (hm : readFrom X s = .ok m s₁) (hms : readMany X n s₁ = .ok ms rest) :
    readMany X (n + 1) s = .ok (m :: ms) rest := by
  simp only [readMany, hm, hms]

theorem writeAll_ok {ms : List ControlMessage} (h : ∀ m ∈ ms, Fits X m) : ∃ frames, writeAll X ms = .ok frames := by
  induction ms with
  | nil => exact ⟨[], rfl⟩
  | cons m ms ih =>
    obtain ⟨frames, hf⟩ := ih (fun a ha => h a (List.mem_cons_of_mem m ha))
    obtain ⟨data, -, -, hw⟩ := writeTo_frame (h m List.mem_cons_self)
    exact ⟨_, writeAll_cons hw hf⟩

theorem readMany_frames (hinv : ∀ m data, X.bincodeSerialize m = .ok data → X.bincodeDeserialize data = .ok m)
    {ms : List ControlMessage} {frames : List Bytes} (h : ∀ m ∈ ms, Fits X m) (hw : writeAll X ms = .ok frames)
    {k : ℕ} (hk : k ≤ ms.length) {s : Stream IoError} {tail : Bytes} (hs : s.bytes = (frames.take k).flatten ++ tail) :
    ∃ rest : Stream IoError, readMany X k s = .ok (ms.take k) rest ∧ rest.bytes = tail ∧ rest.ending = s.ending := by
  induction ms generalizing frames k s with
  | nil =>
    obtain rfl : k = 0 := Nat.le_zero.mp hk
    exact ⟨s, rfl, by simpa using hs, rfl⟩
  | cons m ms ih =>
    cases k with
    | zero => exact ⟨s, rfl, by simpa using hs, rfl⟩
    | succ k =>
      have hms := fun a ha => h a (List.mem_cons_of_mem m ha)
      obtain ⟨data, hd, hl, hframe⟩ := writeTo_frame (h m List.mem_cons_self)
      obtain ⟨frames', hw'⟩ := writeAll_ok hms
      obtain rfl := Except.ok.inj ((writeAll_cons hframe hw').symm.trans hw)
      rw [List.take_succ_cons, List.flatten_cons, List.append_assoc] at hs
      obtain ⟨s₁, hr, hb, he⟩ := readFrom_frame hl (hinv m data hd) hs
      obtain ⟨rest, hrest, hb', he'⟩ := ih hms hw' (Nat.le_of_succ_le_succ hk) hb
      exact ⟨rest, readMany_succ hr hrest, hb', he'.trans he⟩

theorem writeAll_get {ms : List ControlMessage} {frames : List Bytes} (h : ∀ m ∈ ms, Fits X m)
    (hw : writeAll X ms = .ok frames) {k : ℕ} (hk : k < ms.length) :
    ∃ data, data.length ≤ maxMessageSize ∧ frames[k]? = some (toBe 4 data.length ++ data) := by
  induction ms generalizing frames k with
  | nil => simp at hk
  | cons m ms ih =>
    have hms := fun a ha => h a (List.mem_cons_of_mem m ha)
    obtain ⟨data, -, hl, hframe⟩ := writeTo_frame (h m List.mem_cons_self)
    obtain ⟨frames', hw'⟩ := writeAll_ok hms
    obtain rfl := Except.ok.inj ((writeAll_cons hframe hw').symm.trans hw)
    cases k with
    | zero => exact ⟨data, hl, rfl⟩
    | succ k => exact ih hms hw' (Nat.lt_of_succ_lt_succ hk)

theorem take_inside {frames : List Bytes} {k n : ℕ} {frame : Bytes} (hk : frames[k]? = some frame)
    (hlo : (frames.take k).flatten.length ≤ n) (hhi : n < (frames.take (k + 1)).flatten.length) :
    ∃ part more, frames.flatten.take n = (frames.take k).flatten ++ part ∧ part ++ more = frame ∧ more ≠ [] := by
  obtain ⟨hlt, rfl⟩ := List.getElem?_eq_some_iff.mp hk
  have hsplit : frames.flatten = (frames.take k).flatten ++ (frames[k] ++ (frames.drop (k + 1)).flatten) := by
    rw [← List.flatten_cons, List.getElem_cons_drop, ← List.flatten_append, List.take_append_drop]
  rw [List.take_add_one, hk, Option.toList_some, List.flatten_append, List.length_append] at hhi
  simp only [List.flatten_cons, List.flatten_nil, List.append_nil] at hhi
  set d := n - (frames.take k).flatten.length with hd
  refine ⟨frames[k].take d, frames[k].drop d, ?_, List.take_append_drop _ _, ?_⟩
  · rw [hsplit, List.take_append, List.take_of_length_le hlo, List.take_append_of_le_length (by omega)]
  · rw [Ne, List.drop_eq_nil_iff]
    omega

theorem frames_round_trip
    (hinv : ∀ m data, X.bincodeSerialize m = .ok data → X.bincodeDeserialize data = .ok m)
    (ms : List ControlMessage) (hms : ∀ m ∈ ms, Fits X m) :
    ∃ frames, writeAll X ms = .ok frames ∧
      (∀ (s : Stream IoError) (tail : Bytes), s.bytes = frames.flatten ++ tail →
        ∃ rest : Stream IoError, readMany X ms.length s = .ok ms rest ∧ rest.bytes = tail) ∧
      ∀ (k n : ℕ) (s : Stream IoError) (e : IoError), k < ms.length → (frames.take k).flatten.length ≤ n →
        n < (frames.take (k + 1)).flatten.length → s.bytes = frames.flatten.take n → s.ending = some e →
          ∃ rest : Stream IoError, readMany X k s = .ok (ms.take k) rest ∧ readFrom X rest = .err (.io e) := by
  obtain ⟨frames, hw⟩ := writeAll_ok hms
  have hlen : frames.length = ms.length := (mapM_forall₂ hw).length_eq.symm
  refine ⟨frames, hw, ?_, ?_⟩
  · intro s tail hs
    rw [← List.take_of_length_le (le_of_eq hlen)] at hs
    obtain ⟨rest, hr, hb, -⟩ := readMany_frames hinv hms hw (le_refl _) hs
    rw [List.take_length] at hr
    exact ⟨rest, hr, hb⟩
  · intro k n s e hk hlo hhi hs he
    obtain ⟨data, hl, hget⟩ := writeAll_get hms hw hk
    obtain ⟨part, more, htake, hpart, hmore⟩ := take_inside hget hlo hhi
    rw [htake] at hs
    obtain ⟨rest, hr, hb, he'⟩ := readMany_frames hinv hms hw (Nat.le_of_lt hk) hs
    refine ⟨rest, hr, ?_⟩
    rw [readFrom_unfinished hl (by rw [hb]; exact hpart) hmore, he', he]
    rfl

theorem sample_frames_read :
    ∃ frames, writeAll Bincode.sample [.ping, .pong] = .ok frames ∧
      ∃ rest : Stream IoError, readMany Bincode.sample 2 ⟨[[0, 0, 0, 4, 2, 0], [0, 0, 0, 0, 0, 4, 3, 0, 0, 0]], none⟩ =
        .ok [.ping, .pong] rest ∧ rest.bytes = [] := by
  have hfits : ∀ m ∈ [ControlMessage.ping, .pong], Fits Bincode.sample m := by
    intro m hm
    rcases List.mem_pair.mp hm with rfl | rfl
    · exact ⟨[2, 0, 0, 0], by decide, by decide⟩
    · exact ⟨[3, 0, 0, 0], by decide, by decide⟩
  obtain ⟨frames, hw, hread, -⟩ :=
    frames_round_trip (Bincode.externals_lawful _ _).deserialize_serialize [.ping, .pong] hfits
  have hframes : writeAll Bincode.sample [.ping, .pong] =
      .ok [[0, 0, 0, 4, 2, 0, 0, 0], [0, 0, 0, 4, 3, 0, 0, 0]] := by decide
  obtain rfl := Except.ok.inj (hframes.symm.trans hw)
  exact ⟨_, hframes, hread _ [] (by decide)⟩

end GscFq.ControlMessage
