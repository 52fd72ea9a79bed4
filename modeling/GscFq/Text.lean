import Mathlib.Data.List.Basic
import Mathlib.Tactic

/-!
The functions of `str` the configuration code calls, on the characters of a text. `trim` strips the
Unicode `White_Space` characters, and an unsigned number may carry one leading `+`.
-/

namespace GscFq.Text

def contains (c : Char) (s : String) : Bool := s.toList.contains c

def split (c : Char) (s : String) : List String := (s.toList.splitOn c).map String.ofList

def rsplit (c : Char) (s : String) : List String := (split c s).reverse

def join (c : Char) (parts : List String) : String :=
  String.ofList ([c].intercalate (parts.map String.toList))

def joinWith (sep : String) (parts : List String) : String :=
  String.ofList (sep.toList.intercalate (parts.map String.toList))

def isWhitespace (c : Char) : Bool :=
  (9 ≤ c.toNat && c.toNat ≤ 13) || c.toNat == 32 || c.toNat == 0x85 || c.toNat == 0xA0 ||
    c.toNat == 0x1680 || (0x2000 ≤ c.toNat && c.toNat ≤ 0x200A) || c.toNat == 0x2028 ||
    c.toNat == 0x2029 || c.toNat == 0x202F || c.toNat == 0x205F || c.toNat == 0x3000

def trim (s : String) : String :=
  String.ofList (((s.toList.dropWhile isWhitespace).reverse.dropWhile isWhitespace).reverse)

def eqIgnoreAsciiCase (a b : String) : Bool :=
  a.toList.map Char.toLower == b.toList.map Char.toLower

def digitsValue (radix : ℕ) (digit : Char → ℕ) (ds : List Char) : ℕ :=
  ds.foldl (fun n c => n * radix + digit c) 0

theorem digitsValue_snoc (radix : ℕ) (digit : Char → ℕ) (ds : List Char) (c : Char) :
    digitsValue radix digit (ds ++ [c]) = digitsValue radix digit ds * radix + digit c :=
  List.foldl_concat ..

def decimalDigit (c : Char) : ℕ := c.toNat - 48

def dropPlus : List Char → List Char
  | '+' :: cs => cs
  | cs => cs

def parseUnsigned (bound : ℕ) (s : String) : Option ℕ :=
  let ds := dropPlus s.toList
  if ds = [] ∨ ¬ ds.all Char.isDigit then none
  else if digitsValue 10 decimalDigit ds < bound then some (digitsValue 10 decimalDigit ds) else none

def parseU16 (s : String) : Option UInt16 := (parseUnsigned 65536 s).map UInt16.ofNat

def hexDigit (n : ℕ) : Char := if n < 10 then Char.ofNat (48 + n) else Char.ofNat (87 + n)

def lowerHex (bs : List UInt8) : String :=
  String.ofList (bs.flatMap (fun b => [hexDigit (b.toNat / 16), hexDigit (b.toNat % 16)]))

end GscFq.Text
