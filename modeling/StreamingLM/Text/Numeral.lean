import StreamingLM.Text.Decimal
import StreamingLM.Text.Property

/-!
Numbers written as text. Documents use the digits of ASCII; what a person types may have those of any
script. Integers with too many digits are taken for mistakes.
-/
namespace StreamingLM
namespace Numeral

def mostDigits : Nat := 4300

def digits? (allowUnderscore : Bool) : List Char → Option (List Char)
  | [] => some []
  | '_' :: d :: rest =>
    if allowUnderscore && Property.isDigit d then (digits? true rest).map (d :: ·) else none
  | d :: rest => if Property.isDigit d then (digits? true rest).map (d :: ·) else none

def number? (cs : List Char) : Option (List Char) :=
  match digits? false cs with
  | some (d :: rest) => some (d :: rest)
  | _ => none

def signed (cs : List Char) : Bool × List Char :=
  match cs with
  | '-' :: rest => (true, rest)
  | '+' :: rest => (false, rest)
  | _ => (false, cs)

def signedInt (negative : Bool) (digits : List Char) : Int :=
  let n : Int := digits.foldl (fun n c => 10 * n + (c.toNat - '0'.toNat)) 0
  if negative then -n else n

def spanNumber (cs : List Char) : List Char × List Char :=
  (cs.takeWhile fun c => Property.isDigit c || c == '_',
    cs.dropWhile fun c => Property.isDigit c || c == '_')

def optionalDigits? (cs : List Char) : Option (List Char) :=
  if cs.isEmpty then some [] else number? cs

def exponentText? : List Char → Option Int
  | [] => some 0
  | c :: rest =>
    if c = 'e' ∨ c = 'E' then
      let (negative, digits) := signed rest
      (number? digits).map (signedInt negative)
    else none

def magnitude? (negative : Bool) (cs : List Char) : Option Float :=
  let name := String.ofList (cs.map Char.toLower)
  let signedValue (x : Float) : Float := if negative then -x else x
  if name = "inf" ∨ name = "infinity" then some (signedValue (1.0 / 0.0))
  else if name = "nan" then some (0.0 / 0.0)
  else
    let (whole, rest) := spanNumber cs
    let (places, rest) := match rest with
      | '.' :: more => spanNumber more
      | _ => ([], rest)
    match optionalDigits? whole, optionalDigits? places, exponentText? rest with
    | some w, some p, some e =>
      if w.isEmpty && p.isEmpty then none
      else some (Decimal.toFloat negative ((w ++ p).foldl
        (fun n c => 10 * n + (c.toNat - '0'.toNat)) 0) (e - p.length))
    | _, _, _ => none

/-- A real text: blanks around it, a sign, a point, an exponent and the names of infinity and of
the absent number are allowed. -/
def real? (text : String) : Option Float :=
  let (negative, body) := signed (trimWhite text.toList)
  magnitude? negative body

/-- The double nearest to an integer, if that is not beyond the range of doubles. -/
def realOfInt? (n : Int) : Option Float :=
  if n.natAbs < Nat.pow 2 1024 - Nat.pow 2 970 then some (Decimal.toFloat (n < 0) n.natAbs 0) else none

/-- Put digits of ASCII in the place of those of other scripts. -/
def plain (cs : List Char) : List Char :=
  cs.map fun c => ((Property.decimal? c).map fun n => Char.ofNat ('0'.toNat + n)).getD c

def typedInt? (text : String) : Option Int :=
  let (negative, body) := signed (trimWhite (plain text.toList))
  (number? body).bind fun digits =>
    if digits.length ≤ mostDigits then some (signedInt negative digits) else none

def typedReal? (text : String) : Option Float := real? (String.ofList (plain text.toList))

end Numeral
end StreamingLM
