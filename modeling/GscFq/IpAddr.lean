import GscFq.ByteOrder
import GscFq.Text

/-!
Reading and printing of `std::net` addresses. The readers take one address off the front of the
input, an address text has to be used up, and a failed alternative restarts where it began.
-/

namespace GscFq

open ByteStream Text

inductive IpAddr where
  | v4 (a b c d : UInt8)
  | v6 (segments : Vector UInt16 8)
  deriving DecidableEq, Repr

structure SocketAddr where
  ip : IpAddr
  port : UInt16
  scope : UInt32
  deriving DecidableEq, Repr

def SocketAddr.new (ip : IpAddr) (port : UInt16) : SocketAddr := ⟨ip, port, 0⟩

namespace IpAddr

abbrev Parser (α : Type) := List Char → Option (α × List Char)

def digitValue (c : Char) : ℕ :=
  if c.isDigit then c.toNat - 48 else if 'a' ≤ c ∧ c ≤ 'f' then c.toNat - 87 else c.toNat - 55

def isDigitIn (radix : ℕ) (c : Char) : Bool :=
  c.isDigit || (radix == 16 && (('a' ≤ c && c ≤ 'f') || ('A' ≤ c && c ≤ 'F')))

def readGivenChar (target : Char) : Parser Unit
  | c :: cs => if c = target then some ((), cs) else none
  | [] => none

def readNumber (radix : ℕ) (maxDigits : Option ℕ) (allowZeroPrefix : Bool) (bound : ℕ) : Parser ℕ :=
  fun cs =>
    let ds := cs.takeWhile (isDigitIn radix)
    let n := digitsValue radix digitValue ds
    if ds = [] ∨ maxDigits.any (· < ds.length) ∨
        (!allowZeroPrefix ∧ ds.head? = some '0' ∧ 1 < ds.length) ∨ bound ≤ n then none
    else some (n, cs.dropWhile (isDigitIn radix))

def readSeparator {α : Type} (sep : Char) (first : Bool) (inner : Parser α) : Parser α :=
  fun cs => if first then inner cs else (readGivenChar sep cs).bind (fun p => inner p.2)

def readOctet (first : Bool) : Parser ℕ := readSeparator '.' first (readNumber 10 (some 3) false 256)

def readIpv4Addr : Parser (UInt8 × UInt8 × UInt8 × UInt8) := fun cs => do
  let (a, cs) ← readOctet true cs
  let (b, cs) ← readOctet false cs
  let (c, cs) ← readOctet false cs
  let (d, cs) ← readOctet false cs
  return ((UInt8.ofNat a, UInt8.ofNat b, UInt8.ofNat c, UInt8.ofNat d), cs)

def readGroups : ℕ → Bool → List Char → List UInt16 × Bool × List Char
  | 0, _, cs => ([], false, cs)
  | left + 1, first, cs =>
    match (if 0 < left then readSeparator ':' first readIpv4Addr cs else none) with
    | some ((a, b, c, d), rest) => ([ofBe16 a b, ofBe16 c d], true, rest)
    | none =>
      match readSeparator ':' first (readNumber 16 (some 4) true 65536) cs with
      | some (g, rest) =>
        let (gs, embedded, rest) := readGroups left false rest
        (UInt16.ofNat g :: gs, embedded, rest)
      | none => ([], false, cs)

def ofGroups (head tail : List UInt16) : IpAddr :=
  let groups := head ++ List.replicate (8 - head.length - tail.length) 0 ++ tail
  .v6 (Vector.ofFn (fun i => groups.getD i 0))

def readIpv6Addr : Parser IpAddr := fun cs =>
  let (head, headIpv4, cs) := readGroups 8 true cs
  if head.length = 8 then some (ofGroups head [], cs)
  else if headIpv4 then none
  else do
    let (_, cs) ← readGivenChar ':' cs
    let (_, cs) ← readGivenChar ':' cs
    let (tail, _, cs) := readGroups (8 - (head.length + 1)) true cs
    return (ofGroups head tail, cs)

def readIpAddr : Parser IpAddr := fun cs =>
  match readIpv4Addr cs with
  | some ((a, b, c, d), rest) => some (.v4 a b c d, rest)
  | none => readIpv6Addr cs

def parseWith {α : Type} (inner : Parser α) (s : String) : Option α :=
  match inner s.toList with
  | some (a, []) => some a
  | _ => none

def parse (s : String) : Option IpAddr := parseWith readIpAddr s

def readPort : Parser UInt16 := fun cs => do
  let (_, cs) ← readGivenChar ':' cs
  let (p, cs) ← readNumber 10 none true 65536 cs
  return (UInt16.ofNat p, cs)

def readScopeId : Parser UInt32 := fun cs => do
  let (_, cs) ← readGivenChar '%' cs
  let (n, cs) ← readNumber 10 none true (2 ^ 32) cs
  return (UInt32.ofNat n, cs)

def readSocketAddr : Parser SocketAddr := fun cs =>
  match (readIpv4Addr cs).bind (fun p => (readPort p.2).map (fun q => (p.1, q))) with
  | some ((a, b, c, d), port, rest) => some (⟨.v4 a b c d, port, 0⟩, rest)
  | none => do
    let (_, cs) ← readGivenChar '[' cs
    let (ip, cs) ← readIpv6Addr cs
    let (scope, cs) := (readScopeId cs).getD (0, cs)
    let (_, cs) ← readGivenChar ']' cs
    let (port, cs) ← readPort cs
    return (⟨ip, port, scope⟩, cs)

def parseSocketAddr (s : String) : Option SocketAddr := parseWith readSocketAddr s

def hexGroup (n : UInt16) : String := String.ofList (Nat.toDigits 16 n.toNat)

def fmtSubslice (groups : List UInt16) : String := join ':' (groups.map hexGroup)

def longestZeros : ℕ → List UInt16 → ℕ × ℕ → ℕ × ℕ → ℕ × ℕ
  | _, [], _, longest => longest
  | i, g :: gs, current, longest =>
    if g = 0 then
      let current := if current.2 = 0 then (i, 1) else (current.1, current.2 + 1)
      longestZeros (i + 1) gs current (if longest.2 < current.2 then current else longest)
    else longestZeros (i + 1) gs (0, 0) longest

def display : IpAddr → String
  | .v4 a b c d => join '.' ([a, b, c, d].map (fun n => toString n.toNat))
  | .v6 segments =>
    let gs := segments.toList
    match gs with
    | [0, 0, 0, 0, 0, 0xffff, x, y] => "::ffff:" ++ join '.' ((be16 x ++ be16 y).map (fun n => toString n.toNat))
    | _ =>
      let (start, len) := longestZeros 0 gs (0, 0) (0, 0)
      if 1 < len then fmtSubslice (gs.take start) ++ "::" ++ fmtSubslice (gs.drop (start + len))
      else fmtSubslice gs

end IpAddr

def SocketAddr.display (a : SocketAddr) : String :=
  let port := toString a.port.toNat
  match a.ip with
  | .v4 _ _ _ _ => a.ip.display ++ ":" ++ port
  | .v6 _ =>
    if a.scope = 0 then "[" ++ a.ip.display ++ "]:" ++ port
    else "[" ++ a.ip.display ++ "%" ++ toString a.scope.toNat ++ "]:" ++ port

end GscFq
