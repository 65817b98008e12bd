import StreamingLM.Schema

/-!
Checks on single values that are not yet typed: truth, equality, divisibility, sign and range.
-/
namespace StreamingLM

/-- A check on a value, perhaps against a second one. -/
inductive Rule where
  | isTrue
  | equalTo
  | multipleOf
  | positive
  | nonNegative
  deriving DecidableEq, Repr

namespace Rule

def name : Rule → String
  | isTrue => "SHOULD_BE_TRUE"
  | equalTo => "SHOULD_BE_EQUAL_TO"
  | multipleOf => "SHOULD_BE_MULTIPLE_OF"
  | positive => "SHOULD_BE_POSITIVE"
  | nonNegative => "SHOULD_BE_NON_NEGATIVE"

def ofName? (s : String) : Option Rule :=
  [isTrue, equalTo, multipleOf, positive, nonNegative].find? (·.name = s)

/-- A number as an exact signed fraction; none for infinities and the absent number. -/
def fraction? : Int ⊕ Float → Option (Int × Nat)
  | .inl n => some (n, 1)
  | .inr x =>
    match Decimal.parts x with
    | .finite negative m q =>
      let r := Decimal.Ratio.ofBinary m q
      some (if negative then -(r.num : Int) else r.num, r.den)
    | _ => none

/-- Whether the quotient of two numbers is an integer; a zero divisor is a failure. -/
def divides (left right : Int ⊕ Float) : Except Failure Bool :=
  match fraction? right with
  | none => .ok (match fraction? left with
    | some (n, _) => n = 0
    | none => false)
  | some (n, d) =>
    if n = 0 then .error (.fault .zeroDivision "division by zero")
    else
      match fraction? left with
      | none => .ok false
      | some (m, e) => .ok ((m * d) % (n * e) = 0)

def badType : Failure := .fault .type "operand"

/-- The order of a number against zero; none for the absent number. -/
def sign (v : Value) : Except Failure (Option Ordering) :=
  match v.number? with
  | some x => .ok (Value.compareNumbers x (.inl 0))
  | none => .error badType

def check (rule : Rule) (left right : Value) : Except Failure Value :=
  match rule with
  | isTrue => if left.truthy then .ok left else .error (.violated (.notTrue left))
  | equalTo => if left.same right then .ok left else .error (.violated (.notEqual left right))
  | multipleOf =>
    match right with
    | .null => .error (.violated (.notMultiple left right))
    | _ =>
      match left.number?, right.number? with
      | some x, some y => do
        if ← divides x y then return left else .error (.violated (.notMultiple left right))
      | _, _ => .error badType
  | positive => do
    let order ← sign left
    if order = some .lt ∨ order = some .eq then .error (.violated (.notPositive left))
    else return left
  | nonNegative => do
    let order ← sign left
    if order = some .lt then .error (.violated (.negative left)) else return left

end Rule

def Bound.forbids (b : Bound) (order : Ordering) : Bool :=
  match b, order with
  | .atLeast, .lt | .above, .lt | .above, .eq | .atMost, .gt | .below, .gt | .below, .eq => true
  | _, _ => false

def realOf : Value → Except Failure Float
  | .text s =>
    match Numeral.typedReal? s with
    | some x => .ok x
    | none => .error (.fault .value "could not convert string to float")
  | v =>
    match v.number? with
    | some (.inl n) =>
      match Numeral.realOfInt? n with
      | some x => .ok x
      | none => .error (.fault .overflow "int too large to convert to float")
    | some (.inr x) => .ok x
    | none => .error (.fault .type "not a real number")

/-- Return a number if it is within all bounds that are given; they are looked at in order. -/
def checkRange (value : Value) (bounds : List (Bound × Value)) : Except Failure Float := do
  let x ← realOf value
  for (bound, limit) in bounds do
    match limit with
    | .null => pure ()
    | _ =>
      match limit.number? with
      | none => .error Rule.badType
      | some y =>
        match Value.compareNumbers (.inr x) y with
        | some order =>
          if bound.forbids order then .error (.violated (.outOfRange (.real x) bound limit))
        | none => pure ()
  return x

end StreamingLM
