/-!
Sets of characters, kept as sorted ranges of code points and read from a compact hexadecimal text.
-/
namespace StreamingLM

structure CharSet where
  ranges : Array (Nat × Nat)

namespace CharSet

def hexDigit (c : Char) : Nat :=
  if '0' ≤ c ∧ c ≤ '9' then c.toNat - '0'.toNat
  else if 'a' ≤ c ∧ c ≤ 'f' then c.toNat - 'a'.toNat + 10
  else if 'A' ≤ c ∧ c ≤ 'F' then c.toNat - 'A'.toNat + 10
  else 0

def hexValue (digits : List Char) : Nat :=
  digits.foldl (fun n c => 16 * n + hexDigit c) 0

def decimalValue (digits : List Char) : Nat :=
  digits.foldl (fun n c => 10 * n + (c.toNat - '0'.toNat)) 0

/-- Read one range, written as one code point or as two joined by a hyphen. -/
def readRange (text : String) : Nat × Nat :=
  match text.splitOn "-" with
  | [low, high] => (hexValue low.toList, hexValue high.toList)
  | _ => (hexValue text.toList, hexValue text.toList)

def ofLines (lines : List String) : CharSet :=
  ⟨((lines.map fun line => (line.splitOn " ").map readRange).flatten).toArray⟩

/-- Binary search between two indices; the gap halves, so `fuel` need only exceed its logarithm. -/
def search (ranges : Array (Nat × Nat)) (n : Nat) : Nat → Nat → Nat → Bool
  | 0, _, _ => false
  | fuel + 1, low, high =>
    if high ≤ low then false
    else
      let middle := (low + high) / 2
      match ranges[middle]? with
      | none => false
      | some (a, b) =>
        if n < a then search ranges n fuel low middle
        else if b < n then search ranges n fuel (middle + 1) high
        else true

def contains (s : CharSet) (c : Char) : Bool :=
  search s.ranges c.toNat (s.ranges.size + 1) 0 s.ranges.size

end CharSet
end StreamingLM
