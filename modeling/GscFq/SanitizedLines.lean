import GscFq.Sanitize
import GscFq.TerminatedLines
import Mathlib.Data.List.TakeWhile

namespace GscFq.ConfigLoader

open TerminatedLines Text

def rawLines (content : String) : List (List Char) := splitInclusive '\n' content.toList

section Split

variable {c : Char}

theorem splitInclusive_lines (c : Char) (cs : List Char) : Lines c (splitInclusive c cs) := by
  induction cs with
  | nil => exact .nil
  | cons d cs ih =>
    rw [splitInclusive]
    split
    · rename_i hd
      subst hd
      exact @Lines.cons _ d [] _ List.not_mem_nil ih
    · rename_i hd
      split
      · exact .last (List.cons_ne_nil d []) (by simpa using Ne.symm hd)
      · rename_i line lines hlines
        rw [hlines] at ih
        cases ih with
        | last hne hc => exact .last (List.cons_ne_nil d _) (List.not_mem_cons_of_ne_of_not_mem (Ne.symm hd) hc)
        | cons hc hrest => exact .cons (List.not_mem_cons_of_ne_of_not_mem (Ne.symm hd) hc) hrest

theorem splitInclusive_flatten (c : Char) (cs : List Char) : (splitInclusive c cs).flatten = cs := by
  induction cs with
  | nil => rfl
  | cons d cs ih =>
    rw [splitInclusive]
    split
    · rw [List.flatten_cons, ih]
      rfl
    · split
      · rename_i hnil
        rw [hnil] at ih
        rw [← ih]
        rfl
      · rename_i line lines hlines
        rw [hlines, List.flatten_cons] at ih
        rw [← ih]
        rfl

theorem splitInclusive_ended {body : List Char} (h : c ∉ body) (rest : List Char) :
    splitInclusive c (body ++ c :: rest) = (body ++ [c]) :: splitInclusive c rest := by
  induction body with
  | nil => rw [List.nil_append, splitInclusive, if_pos rfl, List.nil_append]
  | cons d body ih =>
    obtain ⟨hd, hbody⟩ := List.ne_and_not_mem_of_not_mem_cons h
    rw [List.cons_append, splitInclusive, if_neg (Ne.symm hd), ih hbody, List.cons_append]

theorem splitInclusive_unended {body : List Char} (h : c ∉ body) (hne : body ≠ []) : splitInclusive c body = [body] := by
  induction body with
  | nil => exact absurd rfl hne
  | cons d body ih =>
    obtain ⟨hd, hbody⟩ := List.ne_and_not_mem_of_not_mem_cons h
    rw [splitInclusive, if_neg (Ne.symm hd)]
    cases body with
    | nil => rfl
    | cons e body => rw [ih hbody (List.cons_ne_nil e body)]

theorem splitInclusive_of_lines {ls : List (List Char)} (h : Lines c ls) : splitInclusive c ls.flatten = ls := by
  induction h with
  | nil => rfl
  | last hne hc => rw [List.flatten_singleton, splitInclusive_unended hc hne]
  | cons hc _ ih => rw [List.flatten_cons, List.append_assoc, List.singleton_append, splitInclusive_ended hc, ih]

end Split

/-- The text after the first equals sign of a `source_ip` line begins, after blanks, with an unquoted `null`. -/
structure UnquotedNull (line key blanks word rest : List Char) : Prop where
  text : line = key ++ '=' :: (blanks ++ (word ++ rest))
  first : '=' ∉ key
  sourceIp : isSourceIpKey key = true
  blank : ∀ c ∈ blanks, isWhitespace c = true
  null : eqIgnoreAsciiCase (String.ofList word) "null" = true
  follower : nullFollower rest = true

/-- Only an unquoted `null` is rewritten, in its place. -/
structure SanitizedBody (line line' : List Char) : Prop where
  quoted : ∀ key blanks word rest, UnquotedNull line key blanks word rest →
    line' = key ++ '=' :: (blanks ++ ("\"null\"".toList ++ rest))
  kept : (¬ ∃ key blanks word rest, UnquotedNull line key blanks word rest) → line' = line

structure Sanitized (rawLine rawLine' : List Char) : Prop where
  newline : (stripNewline rawLine').2 = (stripNewline rawLine).2
  body : SanitizedBody (stripNewline rawLine).1 (stripNewline rawLine').1

theorem toLower_cases (c : Char) : c.toLower = c ∨ 65 ≤ c.toNat ∧ c.toNat ≤ 90 := by
  unfold Char.toLower
  split
  · rename_i h
    exact .inr ⟨UInt32.le_iff_toNat_le.mp h.1, UInt32.le_iff_toNat_le.mp h.2⟩
  · exact .inl rfl

theorem letter_of_toLower {c d : Char} (h : c.toLower = d) (hd : 97 ≤ d.toNat ∧ d.toNat ≤ 122) :
    c.utf8Size = 1 ∧ isWhitespace c = false := by
  have hc : 65 ≤ c.toNat ∧ c.toNat ≤ 122 := by
    rcases toLower_cases c with hsame | hupper
    · rw [hsame] at h
      subst h
      omega
    · omega
  refine ⟨Char.utf8Size_eq_one_iff.mpr (UInt32.le_iff_toNat_le.mpr ?_), ?_⟩
  · change c.toNat ≤ 127
    omega
  · simp only [isWhitespace, Bool.or_eq_false_iff, Bool.and_eq_false_iff, decide_eq_false_iff_not, beq_eq_false_iff_ne]
    omega

theorem null_word {word : List Char} (h : eqIgnoreAsciiCase (String.ofList word) "null" = true) :
    byteLen word = 4 ∧ ∃ c cs, word = c :: cs ∧ isWhitespace c = false := by
  have hlower : word.map Char.toLower = ['n', 'u', 'l', 'l'] := by
    simpa [eqIgnoreAsciiCase] using h
  obtain ⟨a, word, rfl, ha, hlower⟩ := List.map_eq_cons_iff.mp hlower
  obtain ⟨b, word, rfl, hb, hlower⟩ := List.map_eq_cons_iff.mp hlower
  obtain ⟨c, word, rfl, hc, hlower⟩ := List.map_eq_cons_iff.mp hlower
  obtain ⟨d, word, rfl, hd, hlower⟩ := List.map_eq_cons_iff.mp hlower
  obtain rfl := List.map_eq_nil_iff.mp hlower
  have hn := letter_of_toLower ha (by decide)
  have hu := letter_of_toLower hb (by decide)
  have hl := letter_of_toLower hc (by decide)
  have hl' := letter_of_toLower hd (by decide)
  refine ⟨?_, a, [b, c, d], rfl, hn.2⟩
  simp only [byteLen_cons, byteLen_nil, hn.1, hu.1, hl.1, hl'.1]

theorem UnquotedNull.trimStart {line key blanks word rest : List Char} (h : UnquotedNull line key blanks word rest) :
    ConfigLoader.trimStart (blanks ++ (word ++ rest)) = word ++ rest ∧
      (blanks ++ (word ++ rest)).takeWhile isWhitespace = blanks := by
  obtain ⟨-, c, cs, rfl, hc⟩ := null_word h.null
  unfold ConfigLoader.trimStart
  rw [List.dropWhile_append_of_pos h.blank, List.takeWhile_append_of_pos h.blank]
  simp [hc]

theorem UnquotedNull.source {key value key' blanks word rest : List Char} (hkey : '=' ∉ key)
    (h : UnquotedNull (key ++ '=' :: value) key' blanks word rest) : key' = key ∧ value = blanks ++ (word ++ rest) := by
  obtain ⟨hk, hv⟩ := Lists.first_split_inj h.text hkey h.first
  exact ⟨hk.symm, hv⟩

/-- A line has an unquoted `null` in one way only: it is the first four bytes after the blanks. -/
theorem UnquotedNull.parts {key value key' blanks word rest first remainder : List Char} (hkey : '=' ∉ key)
    (h : UnquotedNull (key ++ '=' :: value) key' blanks word rest)
    (hsplit : splitAtByte 4 (ConfigLoader.trimStart value) = some (first, remainder)) :
    key' = key ∧ blanks = value.takeWhile isWhitespace ∧ word = first ∧ rest = remainder := by
  obtain ⟨rfl, rfl⟩ := h.source hkey
  obtain ⟨hdrop, htake⟩ := h.trimStart
  rw [hdrop, ← (null_word h.null).1, splitAtByte_append] at hsplit
  cases hsplit
  exact ⟨rfl, htake.symm, rfl, rfl⟩

theorem SanitizedBody.unchanged {line : List Char}
    (h : ∀ key blanks word rest, ¬ UnquotedNull line key blanks word rest) : SanitizedBody line line :=
  ⟨fun key blanks word rest hnull => absurd hnull (h key blanks word rest), fun _ => rfl⟩

theorem quoteNull_sanitized {key value line' : List Char} (hkey : '=' ∉ key) (hsource : isSourceIpKey key = true)
    (h : quoteNull (key ++ '=' :: value) (key ++ ['=']) value = some line') :
    SanitizedBody (key ++ '=' :: value) line' := by
  rcases Nat.lt_or_ge (byteLen (trimStart value)) 4 with hshort | hlong
  · rw [quoteNull_short hshort] at h
    obtain rfl := Option.some.inj h
    apply SanitizedBody.unchanged
    intro key' blanks word rest hnull
    obtain ⟨rfl, rfl⟩ := hnull.source hkey
    rw [hnull.trimStart.1, byteLen_append, (null_word hnull.null).1] at hshort
    omega
  · cases hsplit : splitAtByte 4 (trimStart value) with
    | none =>
      rw [quoteNull_cut ((splitAtByte_eq_none_iff hlong).mp hsplit)] at h
      cases h
    | some parts =>
      obtain ⟨first, remainder⟩ := parts
      obtain ⟨htrim, hfirst⟩ := splitAtByte_eq_some hsplit
      rw [quoteNull_split htrim hfirst] at h
      split at h
      · rename_i hword
        obtain rfl := Option.some.inj h
        have hnull : UnquotedNull (key ++ '=' :: value) key (value.takeWhile isWhitespace) first remainder :=
          ⟨by rw [← htrim, takeWhile_append_trimStart], hkey, hsource, fun c hc => List.mem_takeWhile_imp hc, hword.1,
            hword.2⟩
        refine ⟨?_, fun hno => absurd ⟨_, _, _, _, hnull⟩ hno⟩
        intro key' blanks word rest hnull'
        obtain ⟨rfl, rfl, rfl, rfl⟩ := hnull'.parts hkey hsplit
        simp
      · rename_i hword
        obtain rfl := Option.some.inj h
        apply SanitizedBody.unchanged
        intro key' blanks word rest hnull
        obtain ⟨rfl, rfl, rfl, rfl⟩ := hnull.parts hkey hsplit
        exact hword ⟨hnull.null, hnull.follower⟩

theorem sanitizeLine_sanitized {line line' : List Char} (h : sanitizeLine line = some line') : SanitizedBody line line' := by
  by_cases heq : '=' ∈ line
  · obtain ⟨key, value, rfl, hkey⟩ := List.eq_append_cons_of_mem heq
    rw [sanitizeLine_split hkey] at h
    split at h
    · rename_i hsource
      exact quoteNull_sanitized hkey hsource h
    · rename_i hsource
      obtain rfl := Option.some.inj h
      apply SanitizedBody.unchanged
      intro key' blanks word rest hnull
      obtain ⟨rfl, -⟩ := hnull.source hkey
      exact hsource hnull.sourceIp
  · rw [sanitizeLine_of_not_mem heq] at h
    obtain rfl := Option.some.inj h
    apply SanitizedBody.unchanged
    intro key blanks word rest hnull
    exact heq (by simp [hnull.text])

theorem sanitizeLine_cases {line line' : List Char} (h : sanitizeLine line = some line') :
    line' = line ∨ ∃ key blanks word rest, UnquotedNull line key blanks word rest ∧
      line' = key ++ '=' :: (blanks ++ ("\"null\"".toList ++ rest)) := by
  have hs := sanitizeLine_sanitized h
  by_cases hnull : ∃ key blanks word rest, UnquotedNull line key blanks word rest
  · obtain ⟨key, blanks, word, rest, hnull⟩ := hnull
    exact .inr ⟨key, blanks, word, rest, hnull, hs.quoted _ _ _ _ hnull⟩
  · exact .inl (hs.kept hnull)

theorem sanitizeLine_again {line line' : List Char} (h : sanitizeLine line = some line') :
    sanitizeLine line' = some line' := by
  rcases sanitizeLine_cases h with rfl | ⟨key, blanks, word, rest, hnull, rfl⟩
  · exact h
  · have htrim : trimStart (blanks ++ ("\"null\"".toList ++ rest)) = "\"nul".toList ++ ("l\"".toList ++ rest) := by
      unfold trimStart
      rw [List.dropWhile_append_of_pos hnull.blank]
      rfl
    have hquote : ¬ (eqIgnoreAsciiCase (String.ofList "\"nul".toList) "null" = true ∧
        nullFollower ("l\"".toList ++ rest) = true) := fun hand => absurd hand.1 (by decide)
    rw [sanitizeLine_split hnull.first, if_pos hnull.sourceIp, quoteNull_split htrim rfl, if_neg hquote]

theorem sanitizeLine_chars {line line' : List Char} (h : sanitizeLine line = some line') :
    ('\n' ∉ line → '\n' ∉ line') ∧ (line ≠ [] → line' ≠ []) := by
  rcases sanitizeLine_cases h with rfl | ⟨key, blanks, word, rest, hnull, rfl⟩
  · exact ⟨id, id⟩
  · rw [hnull.text]
    refine ⟨?_, fun _ => by simp⟩
    intro hno
    simp only [List.mem_append, List.mem_cons, not_or] at hno ⊢
    exact ⟨hno.1, hno.2.1, hno.2.2.1, by decide, hno.2.2.2.2⟩

theorem stripNewline_ended (body : List Char) : stripNewline (body ++ ['\n']) = (body, ['\n']) := by
  rw [stripNewline, List.getLast?_concat, if_pos rfl, List.dropLast_concat]

theorem stripNewline_unended {body : List Char} (h : '\n' ∉ body) : stripNewline body = (body, []) :=
  if_neg (fun hlast => h (List.mem_of_getLast? hlast))

inductive Rewrites : List Char → List Char → Prop
  | ended {body body' : List Char} (hno : '\n' ∉ body) (h : sanitizeLine body = some body') :
      Rewrites (body ++ ['\n']) (body' ++ ['\n'])
  | unended {body body' : List Char} (hno : '\n' ∉ body) (h : sanitizeLine body = some body') : Rewrites body body'

theorem Rewrites.sameEnding {raw raw' : List Char} (h : Rewrites raw raw') : SameEnding '\n' raw raw' := by
  cases h with
  | ended hno hline => exact .ended ((sanitizeLine_chars hline).1 hno)
  | unended hno hline => exact .unended hno ((sanitizeLine_chars hline).1 hno) (sanitizeLine_chars hline).2

theorem Rewrites.sanitized {raw raw' : List Char} (h : Rewrites raw raw') : Sanitized raw raw' := by
  cases h with
  | ended hno hline =>
    refine ⟨?_, ?_⟩
    · rw [stripNewline_ended, stripNewline_ended]
    · rw [stripNewline_ended, stripNewline_ended]
      exact sanitizeLine_sanitized hline
  | unended hno hline =>
    have hno' := (sanitizeLine_chars hline).1 hno
    refine ⟨?_, ?_⟩
    · rw [stripNewline_unended hno, stripNewline_unended hno']
    · rw [stripNewline_unended hno, stripNewline_unended hno']
      exact sanitizeLine_sanitized hline

theorem Rewrites.again {raw raw' : List Char} (h : Rewrites raw raw') : sanitizeRawLine raw' = some raw' := by
  unfold sanitizeRawLine
  cases h with
  | ended hno hline =>
    rw [stripNewline_ended, sanitizeLine_again hline]
    rfl
  | unended hno hline =>
    rw [stripNewline_unended ((sanitizeLine_chars hline).1 hno), sanitizeLine_again hline]
    exact congrArg some (List.append_nil _)

theorem rewrites_of_mapM {ls ls' : List (List Char)} (hls : Lines '\n' ls) (h : ls.mapM sanitizeRawLine = some ls') :
    List.Forall₂ Rewrites ls ls' := by
  rw [Lists.mapM_eq_some_iff] at h
  induction hls generalizing ls' with
  | nil =>
    cases h
    exact .nil
  | last _ hc =>
    cases h with
    | cons hraw hrest =>
      cases hrest
      rw [sanitizeRawLine, stripNewline_unended hc] at hraw
      obtain ⟨body', hbody, rfl⟩ := Option.map_eq_some_iff.mp hraw
      exact .cons (by simpa using Rewrites.unended hc hbody) .nil
  | cons hc _ ih =>
    cases h with
    | cons hraw hrest =>
      rw [sanitizeRawLine, stripNewline_ended] at hraw
      obtain ⟨body', hbody, rfl⟩ := Option.map_eq_some_iff.mp hraw
      exact .cons (.ended hc hbody) (ih hrest)

theorem sanitizeSpecialValues_rewrites {content output : String} {warnings : List String}
    (h : sanitizeSpecialValues content = some (output, warnings)) :
    List.Forall₂ Rewrites (rawLines content) (rawLines output) ∧ warnings = [] := by
  have hlines := splitInclusive_lines '\n' content.toList
  obtain ⟨ls', hmap, hout⟩ := Option.map_eq_some_iff.mp h
  have hrewrites := rewrites_of_mapM hlines hmap
  have hsame : List.Forall₂ (SameEnding '\n') (splitInclusive '\n' content.toList) ls' :=
    hrewrites.imp (fun _ _ hr => hr.sameEnding)
  -- the output ends with a newline only if the text does, so none is popped
  have hlast := (hlines.getLast_iff hsame).2
  rw [splitInclusive_flatten] at hlast
  have hkeep : ¬ (content.toList.getLast? ≠ some '\n' ∧ ls'.flatten.getLast? = some '\n') :=
    fun hand => hand.1 (hlast.mpr hand.2)
  dsimp only at hout
  rw [if_neg hkeep] at hout
  obtain ⟨rfl, rfl⟩ := Prod.mk.inj hout
  rw [rawLines, rawLines, String.toList_ofList, splitInclusive_of_lines (hlines.of_sameEnding hsame)]
  exact ⟨hrewrites, rfl⟩

theorem sanitizeSpecialValues_again {content output : String} {warnings : List String}
    (h : sanitizeSpecialValues content = some (output, warnings)) :
    sanitizeSpecialValues output = some (output, warnings) := by
  obtain ⟨hrewrites, rfl⟩ := sanitizeSpecialValues_rewrites h
  have hagain : List.Forall₂ (fun a b => sanitizeRawLine a = some b) (rawLines output) (rawLines output) := by
    generalize rawLines content = ls at hrewrites
    generalize rawLines output = ls' at hrewrites ⊢
    induction hrewrites with
    | nil => exact .nil
    | cons hline _ ih => exact .cons hline.again ih
  have hmap : (splitInclusive '\n' output.toList).mapM sanitizeRawLine = some (splitInclusive '\n' output.toList) :=
    Lists.mapM_eq_some_iff.mpr hagain
  have hkeep : ¬ (output.toList.getLast? ≠ some '\n' ∧ output.toList.getLast? = some '\n') := fun hand => hand.1 hand.2
  rw [sanitizeSpecialValues, hmap, Option.map_some, splitInclusive_flatten]
  dsimp only
  rw [if_neg hkeep, String.ofList_toList]

theorem newline_byte {c : Char} (h : (10 : UInt8) ∈ String.utf8EncodeChar c) : c = '\n' := by
  have hno : ∀ n m, 128 ≤ m → n + m < 256 → (10 : UInt8) ≠ UInt8.ofNat (n + m) := by
    intro n m hm hlt heq
    have hval := congrArg UInt8.toNat heq
    rw [UInt8.toNat_ofNat_of_lt' hlt] at hval
    change 10 = n + m at hval
    omega
  unfold String.utf8EncodeChar at h
  dsimp only at h
  split at h
  · rename_i hascii
    have hsmall : c.val.toNat < UInt8.size := Nat.lt_of_le_of_lt hascii (by decide)
    have hval := congrArg UInt8.toNat (List.mem_singleton.mp h)
    rw [UInt8.toNat_ofNat_of_lt' hsmall] at hval
    exact Char.toNat_inj.mp hval.symm
  · -- the bytes of a longer encoding have their highest bit set
    split at h
    · simp only [List.mem_cons, List.not_mem_nil, or_false] at h
      rcases h with h | h <;> exact absurd h (hno _ _ (by decide) (by omega))
    · split at h <;> simp only [List.mem_cons, List.not_mem_nil, or_false] at h
      · rcases h with h | h | h <;> exact absurd h (hno _ _ (by decide) (by omega))
      · rcases h with h | h | h | h <;> exact absurd h (hno _ _ (by decide) (by omega))

theorem newline_mem_utf8 {cs : List Char} : (10 : UInt8) ∈ cs.flatMap String.utf8EncodeChar ↔ '\n' ∈ cs := by
  rw [List.mem_flatMap]
  constructor
  · rintro ⟨c, hc, hbyte⟩
    exact newline_byte hbyte ▸ hc
  · intro h
    exact ⟨'\n', h, by decide⟩

theorem countByte_line (bytes : ByteStream.Bytes) (pos : ℕ × ℕ) :
    (bytes.foldl countByte pos).1 = pos.1 + bytes.count 10 := by
  induction bytes generalizing pos with
  | nil => simp
  | cons b bytes ih =>
    rw [List.foldl_cons, ih, List.count_cons]
    unfold countByte
    by_cases hb : b = 10
    · simp [hb]
      omega
    · simp [hb]
      split <;> rfl

theorem utf8_flatten (ls : List (List Char)) :
    (ls.map (·.flatMap String.utf8EncodeChar)).flatten = utf8 (String.ofList ls.flatten) := by
  rw [utf8_ofList, ← List.flatMap_def, List.flatten_eq_flatMap, List.flatMap_assoc]
  rfl

theorem rawLines_bytes (content : String) :
    Lines (10 : UInt8) ((rawLines content).map (·.flatMap String.utf8EncodeChar)) := by
  apply (splitInclusive_lines '\n' content.toList).map
  · intro body
    rw [List.flatMap_append, List.flatMap_singleton]
    rfl
  · intro body hno hmem
    exact hno (newline_mem_utf8.mp hmem)
  · intro body hne hnil
    obtain ⟨c, cs, rfl⟩ := List.exists_cons_of_ne_nil hne
    exact String.utf8EncodeChar_ne_nil (List.append_eq_nil_iff.mp hnil).1

theorem offsetToLineCol_line {content : String} {offset : ℕ} (h : offset < (utf8 content).length) :
    ∃ before line after, rawLines content = before ++ line :: after ∧
      (utf8 (String.ofList before.flatten)).length ≤ offset ∧
      offset < (utf8 (String.ofList (before ++ [line]).flatten)).length ∧
      (offsetToLineCol content offset).1 = before.length + 1 := by
  have hflat : ((rawLines content).map (·.flatMap String.utf8EncodeChar)).flatten = utf8 content := by
    rw [utf8_flatten, rawLines, splitInclusive_flatten, String.ofList_toList]
  rw [← hflat] at h
  obtain ⟨before, line, after, hsplit, hle, hlt, hcount⟩ := (rawLines_bytes content).locate h
  obtain ⟨before, rest, hraw, rfl, hrest⟩ := List.map_eq_append_iff.mp hsplit
  obtain ⟨line, after, rfl, rfl, rfl⟩ := List.map_eq_cons_iff.mp hrest
  refine ⟨before, line, after, hraw, ?_, ?_, ?_⟩
  · rw [← utf8_flatten]
    exact hle
  · rw [← utf8_flatten, List.map_append, List.flatten_append, List.length_append, List.map_singleton,
      List.flatten_singleton]
    exact hlt
  · rw [hflat] at h hcount
    rw [offsetToLineCol, countByte_line, Nat.min_eq_left (Nat.le_of_lt h), hcount, List.length_map, Nat.add_comm]

theorem sanitizing_line_local {content output : String} {warnings : List String}
    (h : sanitizeSpecialValues content = some (output, warnings)) :
    List.Forall₂ Sanitized (rawLines content) (rawLines output) ∧
    sanitizeSpecialValues output = some (output, warnings) ∧
    ∀ offset, offset < (utf8 output).length →
      ∃ before line after, rawLines output = before ++ line :: after ∧
        (utf8 (String.ofList before.flatten)).length ≤ offset ∧
        offset < (utf8 (String.ofList (before ++ [line]).flatten)).length ∧
        (offsetToLineCol output offset).1 = before.length + 1 ∧
        ∃ original, (rawLines content)[before.length]? = some original ∧ Sanitized original line := by
  obtain ⟨hrewrites, -⟩ := sanitizeSpecialValues_rewrites h
  have hsanitized : List.Forall₂ Sanitized (rawLines content) (rawLines output) :=
    hrewrites.imp (fun _ _ hr => hr.sanitized)
  refine ⟨hsanitized, sanitizeSpecialValues_again h, ?_⟩
  intro offset hoffset
  obtain ⟨before, line, after, hraw, hle, hlt, hnumber⟩ := offsetToLineCol_line hoffset
  refine ⟨before, line, after, hraw, hle, hlt, hnumber, ?_⟩
  rw [hraw] at hsanitized
  have hdrop := List.forall₂_drop_append _ before (line :: after) hsanitized
  obtain ⟨original, rest, hline, -, hrest⟩ := List.forall₂_cons_right_iff.mp hdrop
  refine ⟨original, ?_, hline⟩
  rw [← List.head?_drop, hrest, List.head?_cons]

theorem sample_sanitized :
    sanitizeSpecialValues "source_ip = NULL # any\r\n[a]" = some ("source_ip = \"null\" # any\r\n[a]", []) ∧
      sanitizeSpecialValues "source_ip = \"null\" # any\r\n[a]" = some ("source_ip = \"null\" # any\r\n[a]", []) := by
  have hsample : sanitizeSpecialValues "source_ip = NULL # any\r\n[a]" =
      some ("source_ip = \"null\" # any\r\n[a]", []) := by decide +kernel
  exact ⟨hsample, (sanitizing_line_local hsample).2.1⟩

end GscFq.ConfigLoader
