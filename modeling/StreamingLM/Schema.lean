import StreamingLM.Failure
import StreamingLM.Text.Numeral

/-!
Reading typed settings out of documents. A reader turns a value into a setting or into a list of
issues; the readers of a model's fields run side by side, so that all issues are reported, in the
order in which the fields are declared.
-/
namespace StreamingLM

/-- A setting, or everything that is wrong with its document. -/
inductive Validated (α : Type) where
  | valid (a : α)
  | invalid (issues : List Issue)

namespace Validated

variable {α β : Type}

def map (f : α → β) : Validated α → Validated β
  | valid a => valid (f a)
  | invalid issues => invalid issues

def seq (f : Validated (α → β)) (x : Validated α) : Validated β :=
  match f, x with
  | valid f, valid a => valid (f a)
  | valid _, invalid issues => invalid issues
  | invalid issues, valid _ => invalid issues
  | invalid issues, invalid more => invalid (issues ++ more)

instance : Functor Validated where
  map := map

instance : Applicative Validated where
  pure := valid
  seq f x := seq f (x ())

def complain (c : Complaint) : Validated α := invalid [⟨[], c⟩]

def under (name : String) : Validated α → Validated α
  | valid a => valid a
  | invalid issues => invalid (issues.map (·.under name))

/-- A rule on a whole setting, looked at only when all its parts are valid. -/
def keeping (x : Validated α) (rule : α → Option Violation) : Validated α :=
  match x with
  | valid a =>
    match rule a with
    | none => valid a
    | some broken => complain (.broken broken)
  | invalid issues => invalid issues

def toExcept (model : String) : Validated α → Except Failure α
  | valid a => .ok a
  | invalid issues => .error (.invalid model issues)

end Validated

abbrev Reader (α : Type) := Value → Validated α

namespace Reader

variable {α β : Type}

def check (reader : Reader α) (rule : α → Option Violation) : Reader α :=
  fun v => (reader v).keeping rule

/-- An integer text: blanks around it, a sign and a tail of zero places are allowed. Zeros in front do
not count towards its length, but a minus sign does. -/
def intText (text : String) : Validated Int :=
  let (negative, body) := Numeral.signed (trimWhite text.toList)
  let whole := body.takeWhile (· ≠ '.')
  let places := (body.dropWhile (· ≠ '.')).drop 1
  match if places.all (· = '0') then Numeral.number? whole else none with
  | none => .complain .badInt
  | some digits =>
    let significant := digits.dropWhile (· = '0')
    if significant.length + negative.toNat ≤ Numeral.mostDigits then
      .valid (Numeral.signedInt negative significant)
    else .complain .hugeInt

def textual? : Value → Option (Option String)
  | .text s => some (some s)
  | .bytes bs => some (Utf8.decodeStrict bs).toOption
  | _ => none

def ofText (read : String → Validated α) (bad other : Complaint) : Reader α := fun v =>
  match textual? v with
  | none => .complain other
  | some none => .complain bad
  | some (some text) => read text

def orComplain (bad : Complaint) (read? : String → Option α) (text : String) : Validated α :=
  match read? text with
  | some a => .valid a
  | none => .complain bad

def int : Reader Int
  | .int n => .valid n
  | .bool b => .valid (if b then 1 else 0)
  | .real x =>
    match Decimal.parts x with
    | .finite .. =>
      match Value.integral? x with
      | some n => if n.natAbs < Nat.pow 2 63 then .valid n else .complain .hugeInt
      | none => .complain .fractionalInt
    | _ => .complain .notFinite
  | v => ofText intText .badInt .notInt v

def real : Reader Float
  | .int n =>
    match Numeral.realOfInt? n with
    | some x => .valid x
    | none => .complain .notReal
  | .bool b => .valid (if b then 1.0 else 0.0)
  | .real x => .valid x
  | v => ofText (orComplain .badReal Numeral.real?) .badReal .notReal v

def boolText? (text : String) : Option Bool :=
  let name := String.ofList (text.toList.map Char.toLower)
  if ["1", "t", "true", "y", "yes", "on"].contains name then some true
  else if ["0", "f", "false", "n", "no", "off"].contains name then some false
  else none

def bool : Reader Bool
  | .bool b => .valid b
  | .int 0 => .valid false
  | .int 1 => .valid true
  | .int _ => .complain .badBool
  | .real x =>
    match Value.integral? x with
    | some 0 => .valid false
    | some 1 => .valid true
    | some _ => .complain .badBool
    | none => .complain .notBool
  | v => ofText (orComplain .badBool boolText?) .badBool .notBool v

def text : Reader String := ofText .valid .badUnicode .notText

def optional (reader : Reader α) : Reader (Option α)
  | .null => .valid none
  | v => (reader v).map some

def choice (ofName? : String → Option α) : Reader α
  | .text s =>
    match ofName? s with
    | some a => .valid a
    | none => .complain .badChoice
  | _ => .complain .badChoice

def literal (name : String) : Reader Unit
  | .text s => if s = name then .valid () else .complain .badLiteral
  | _ => .complain .badLiteral

def positive (n : Int) : Option Violation := if n ≤ 0 then some (.notPositive (.int n)) else none

def positiveInt : Reader Int := int.check positive

def naturalInt : Reader Int :=
  int.check fun n => if n < 0 then some (.negative (.int n)) else none

def positiveReal : Reader Float :=
  real.check fun x => if x ≤ 0.0 then some (.notPositive (.real x)) else none

def nonnegativeReal : Reader Float :=
  real.check fun x => if x < 0.0 then some (.negative (.real x)) else none

def mass : Reader Float :=
  real.check fun x =>
    if x ≤ 0.0 then some (.outOfRange (.real x) .above (.real 0.0))
    else if 1.0 < x then some (.outOfRange (.real x) .atMost (.real 1.0))
    else none

def model (fields : List (Value × Value) → Validated α) : Reader α
  | .dict entries => fields entries
  | _ => .complain .notModel

def required (reader : Reader α) (name : String) (entries : List (Value × Value)) : Validated α :=
  match Value.lookup entries name with
  | some v => (reader v).under name
  | none => .invalid [⟨[name], .missing⟩]

/-- A field that takes its default, unchecked, when it is absent. -/
def withDefault (reader : Reader α) (default : α) (name : String)
    (entries : List (Value × Value)) : Validated α :=
  match Value.lookup entries name with
  | some v => (reader v).under name
  | none => .valid default

/-- A choice between models by the tag in their field `type`. -/
def tagged (readers : List (String × Reader α)) : Reader α
  | .dict entries =>
    match Value.lookup entries "type" with
    | none => .complain .noTag
    | some (.text tag) =>
      match readers.lookup tag with
      | some reader => (reader (.dict entries)).under tag
      | none => .complain .unknownTag
    | some _ => .complain .unknownTag
  | _ => .complain .notTagged

end Reader
end StreamingLM
