import GscFq.ByteOffsets
import GscFq.Lists
import GscFq.Totp
import GscFq.Validate

/-!
Loading a configuration from a text. `none` stands for a panic, which aborts the process; the TOML parser is a parameter.
-/

namespace GscFq.ConfigLoader

open Text

def stripNewline (rawLine : List Char) : List Char × List Char :=
  if rawLine.getLast? = some '\n' then (rawLine.dropLast, ['\n']) else (rawLine, [])

def trimStart (cs : List Char) : List Char := cs.dropWhile isWhitespace

def nullFollower : List Char → Bool
  | [] => true
  | c :: _ => isWhitespace c || c == '#'

/-- The line with an unquoted `null` after `before`, its part up to the equals sign, put in quotes. -/
def quoteNull (lineBody before rest : List Char) : Option (List Char) :=
  let trimmedRest := trimStart rest
  if 4 ≤ byteLen trimmedRest then
    (sliceTo 4 trimmedRest).bind fun word =>
      if eqIgnoreAsciiCase (String.ofList word) "null" then
        (sliceFrom 4 trimmedRest).bind fun remainder =>
          if nullFollower remainder then
            let whitespaceLen := byteLen rest - byteLen trimmedRest
            (sliceTo whitespaceLen rest).bind fun whitespace =>
              (sliceFrom (whitespaceLen + 4) rest).bind fun suffix =>
                some (before ++ whitespace ++ "\"null\"".toList ++ suffix)
          else some lineBody
      else some lineBody
  else some lineBody

def isSourceIpKey (keyPart : List Char) : Bool := eqIgnoreAsciiCase (trim (String.ofList keyPart)) "source_ip"

def sanitizeLine (lineBody : List Char) : Option (List Char) :=
  match findByte '=' lineBody with
  | none => some lineBody
  | some eqIndex =>
    (sliceTo eqIndex lineBody).bind fun keyPart =>
      if isSourceIpKey keyPart then
        (sliceTo (eqIndex + 1) lineBody).bind fun before =>
          (sliceFrom (eqIndex + 1) lineBody).bind fun rest => quoteNull lineBody before rest
      else some lineBody

def splitInclusive (c : Char) : List Char → List (List Char)
  | [] => []
  | d :: cs =>
    if d = c then [d] :: splitInclusive c cs
    else
      match splitInclusive c cs with
      | [] => [[d]]
      | line :: lines => (d :: line) :: lines

def sanitizeRawLine (rawLine : List Char) : Option (List Char) :=
  (sanitizeLine (stripNewline rawLine).1).map (· ++ (stripNewline rawLine).2)

/-- No warning is ever pushed. -/
def sanitizeSpecialValues (content : String) : Option (String × List String) :=
  ((splitInclusive '\n' content.toList).mapM sanitizeRawLine).map fun lines =>
    let sanitized := lines.flatten
    if content.toList.getLast? ≠ some '\n' ∧ sanitized.getLast? = some '\n' then (String.ofList sanitized.dropLast, [])
    else (String.ofList sanitized, [])

structure TomlError where
  message : String
  spanStart : Option ℕ
  deriving DecidableEq, Repr

def countByte (pos : ℕ × ℕ) (byte : UInt8) : ℕ × ℕ :=
  if byte = 10 then (pos.1 + 1, 1) else if byte = 13 then (pos.1, 1) else (pos.1, pos.2 + 1)

def offsetToLineCol (content : String) (offset : ℕ) : ℕ × ℕ :=
  ((utf8 content).take (min offset (utf8 content).length)).foldl countByte (1, 1)

def missingField (message : String) : Option String :=
  let label := "missing field `".toList
  if label.isPrefixOf message.toList then
    let field := message.toList.drop label.length
    (findByte (Char.ofNat 96) field).bind fun stop => (sliceTo stop field).map String.ofList
  else none

def mapTomlError (content : String) (error : TomlError) : ConfigError :=
  match missingField error.message with
  | some fieldName => .missingRequiredField fieldName
  | none =>
    let (line, column) := (error.spanStart.map (offsetToLineCol content)).getD (0, 0)
    .invalidTomlFormat ("TOML parse error at line " ++ toString line ++ ", column " ++ toString column ++ ": " ++
      error.message ++ "\nTip: Check for syntax errors like 'null' values (should be omitted), " ++
      "missing quotes, or invalid data types")

def loadFromStrWithWarnings (fromToml : String → Except TomlError ConfigFile) (content : String) :
    Option (Except ConfigError (ConfigFile × List String)) :=
  (sanitizeSpecialValues content).map fun (sanitized, warnings) =>
    match fromToml sanitized with
    | .error err => .error (mapTomlError sanitized err)
    | .ok config =>
      match config.validate with
      | (_, .error err) => .error err
      | (config, .ok validationWarnings) => .ok (config, warnings ++ validationWarnings)

def loadFromStr (fromToml : String → Except TomlError ConfigFile) (content : String) :
    Option (Except AppError ConfigFile) :=
  (loadFromStrWithWarnings fromToml content).map fun
    | .error err => .error (.config err)
    | .ok (config, _) => .ok config

theorem takeWhile_append_trimStart (rest : List Char) : rest.takeWhile isWhitespace ++ trimStart rest = rest :=
  List.takeWhile_append_dropWhile

section QuoteNull

variable {lineBody before rest : List Char}

theorem quoteNull_short (h : byteLen (trimStart rest) < 4) : quoteNull lineBody before rest = some lineBody :=
  if_neg (Nat.not_le.mpr h)

theorem quoteNull_cut (h : CutsAt 4 (trimStart rest)) : quoteNull lineBody before rest = none := by
  have hlen : 4 ≤ byteLen (trimStart rest) := by
    obtain ⟨b, c, after, heq, -, hafter⟩ := h
    rw [heq, byteLen_append, byteLen_cons]
    omega
  unfold quoteNull
  dsimp only
  rw [if_pos hlen, sliceTo, (splitAtByte_eq_none_iff hlen).mpr h]
  rfl

theorem quoteNull_split {word remainder : List Char} (h : trimStart rest = word ++ remainder) (hword : byteLen word = 4) :
    quoteNull lineBody before rest =
      if eqIgnoreAsciiCase (String.ofList word) "null" = true ∧ nullFollower remainder = true then
        some (before ++ rest.takeWhile isWhitespace ++ "\"null\"".toList ++ remainder)
      else some lineBody := by
  have hrest : rest.takeWhile isWhitespace ++ (word ++ remainder) = rest := h ▸ takeWhile_append_trimStart rest
  have hlen : 4 ≤ byteLen (trimStart rest) := by
    rw [h, byteLen_append]
    omega
  have hblanks : byteLen (rest.takeWhile isWhitespace) = byteLen rest - byteLen (trimStart rest) := by
    have hsum := congrArg byteLen (takeWhile_append_trimStart rest)
    rw [byteLen_append] at hsum
    omega
  have hwhitespace : sliceTo (byteLen rest - byteLen (trimStart rest)) rest = some (rest.takeWhile isWhitespace) := by
    conv_lhs => rw [← hrest]
    exact sliceTo_append (by rw [hrest]; exact hblanks) _
  have hsuffix : sliceFrom (byteLen rest - byteLen (trimStart rest) + 4) rest = some remainder := by
    conv_lhs => rw [← hrest, ← List.append_assoc]
    exact sliceFrom_append (by rw [List.append_assoc, hrest, byteLen_append, hblanks, hword]) _
  unfold quoteNull
  dsimp only
  rw [if_pos hlen, hwhitespace, hsuffix, h, sliceTo_append hword, sliceFrom_append hword]
  simp only [Option.bind_some]
  by_cases hnull : eqIgnoreAsciiCase (String.ofList word) "null" = true
  · by_cases hfollow : nullFollower remainder = true
    · rw [if_pos hnull, if_pos hfollow, if_pos ⟨hnull, hfollow⟩]
    · rw [if_pos hnull, if_neg hfollow, if_neg (fun hand => hfollow hand.2)]
  · rw [if_neg hnull, if_neg (fun hand => hnull hand.1)]

theorem quoteNull_eq_none_iff : quoteNull lineBody before rest = none ↔ CutsAt 4 (trimStart rest) := by
  constructor
  · intro hnone
    rcases Nat.lt_or_ge (byteLen (trimStart rest)) 4 with hlen | hlen
    · rw [quoteNull_short hlen] at hnone
      cases hnone
    · cases hsplit : splitAtByte 4 (trimStart rest) with
      | none => exact (splitAtByte_eq_none_iff hlen).mp hsplit
      | some parts =>
        obtain ⟨heq, hword⟩ := splitAtByte_eq_some hsplit
        rw [quoteNull_split heq hword] at hnone
        split at hnone <;> cases hnone
  · exact quoteNull_cut

end QuoteNull

theorem sanitizeLine_of_not_mem {line : List Char} (h : '=' ∉ line) : sanitizeLine line = some line := by
  simp only [sanitizeLine, findByte_of_not_mem h]

theorem sanitizeLine_split {key value : List Char} (h : '=' ∉ key) :
    sanitizeLine (key ++ '=' :: value) = if isSourceIpKey key then
      quoteNull (key ++ '=' :: value) (key ++ ['=']) value else some (key ++ '=' :: value) := by
  have hsize : byteLen (key ++ ['=']) = byteLen key + 1 := byteLen_append _ _
  have hsplit : key ++ '=' :: value = (key ++ ['=']) ++ value := by simp
  simp only [sanitizeLine, findByte_append h, sliceTo_append rfl, Option.bind_some]
  rw [hsplit, sliceTo_append hsize, sliceFrom_append hsize]
  rfl

/-- The line sets `source_ip`, and the fourth byte of its value ends inside a character. -/
def CutsValue (line : List Char) : Prop :=
  ∃ key value, line = key ++ '=' :: value ∧ '=' ∉ key ∧ isSourceIpKey key = true ∧ CutsAt 4 (trimStart value)

theorem sanitizeLine_eq_none_iff {line : List Char} : sanitizeLine line = none ↔ CutsValue line := by
  by_cases heq : '=' ∈ line
  · obtain ⟨key, value, rfl, hkey⟩ := List.eq_append_cons_of_mem heq
    rw [sanitizeLine_split hkey]
    constructor
    · intro hnone
      split at hnone
      · rename_i hsource
        exact ⟨key, value, rfl, hkey, hsource, quoteNull_eq_none_iff.mp hnone⟩
      · cases hnone
    · rintro ⟨key', value', hline, hkey', hsource, hcuts⟩
      obtain ⟨rfl, rfl⟩ := Lists.first_split_inj hline hkey hkey'
      rw [if_pos hsource]
      exact quoteNull_eq_none_iff.mpr hcuts
  · rw [sanitizeLine_of_not_mem heq]
    constructor
    · intro hnone
      cases hnone
    · rintro ⟨key, value, rfl, -⟩
      exact absurd (List.mem_append_right _ List.mem_cons_self) heq

def lineBodies (content : String) : List (List Char) :=
  (splitInclusive '\n' content.toList).map (fun rawLine => (stripNewline rawLine).1)

theorem sanitizeSpecialValues_isSome_iff (content : String) :
    (sanitizeSpecialValues content).isSome = true ↔ ∀ line ∈ lineBodies content, ¬ CutsValue line := by
  rw [sanitizeSpecialValues, Option.isSome_map, Lists.mapM_isSome_iff, lineBodies, List.forall_mem_map]
  apply forall₂_congr
  intro rawLine _
  rw [sanitizeRawLine, Option.isSome_map, Option.isSome_iff_ne_none, Ne, sanitizeLine_eq_none_iff]

theorem loadFromStr_isSome (fromToml : String → Except TomlError ConfigFile) (content : String) :
    (loadFromStr fromToml content).isSome = (sanitizeSpecialValues content).isSome := by
  rw [loadFromStr, Option.isSome_map, loadFromStrWithWarnings, Option.isSome_map]

theorem loading_survives_iff (fromToml : String → Except TomlError ConfigFile) (content : String) :
    ((sanitizeSpecialValues content).isSome = true ∧ (loadFromStr fromToml content).isSome = true) ↔
      ∀ line ∈ lineBodies content, ¬ CutsValue line := by
  rw [loadFromStr_isSome, and_self, sanitizeSpecialValues_isSome_iff]

theorem multibyte_source_ip_panics :
    sanitizeSpecialValues "source_ip = ab日" = none ∧
      loadFromStr (fun _ => .error ⟨"expected a quoted string", some 12⟩) "source_ip = ab日" = none := by
  have hnone : sanitizeSpecialValues "source_ip = ab日" = none := by decide
  refine ⟨hnone, ?_⟩
  rw [loadFromStr, loadFromStrWithWarnings, hnone]
  rfl

end GscFq.ConfigLoader
