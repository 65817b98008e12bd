/-!
The arithmetic that the model needs, over any kind of number. Double-precision numbers run the
model; laws are stated over number systems in which the operations are exact.
-/
namespace StreamingLM

/-- Numbers that stand for a score that a mask rules out. -/
def maskedScore (halfPrecision : Bool) : Float := if halfPrecision then -65504.0 else -1e9

/-- Numbers with the operations of the model. `ruledOut` is what a mask puts in the place of a
score: a number so low that its weight vanishes, or nothing at all. -/
class Scalar (α : Type) extends Add α, Sub α, Mul α, Div α, Neg α where
  ofFloat : Float → α
  ofInt : Int → α
  exp : α → α
  log : α → α
  sqrt : α → α
  cos : α → α
  sin : α → α
  pow : α → α → α
  lt : α → α → Bool
  finite : α → Bool
  isNaN : α → Bool
  ruledOut : Option α

namespace Scalar

instance : Scalar Float where
  ofFloat x := x
  ofInt n := Float.ofInt n
  exp := Float.exp
  log := Float.log
  sqrt := Float.sqrt
  cos := Float.cos
  sin := Float.sin
  pow := Float.pow
  lt x y := x < y
  finite x := x.isFinite
  isNaN x := x.isNaN
  ruledOut := some (maskedScore false)

end Scalar

section Vectors

variable {α : Type} [Scalar α]

def Scalar.zero : α := Scalar.ofInt 0

def Scalar.one : α := Scalar.ofInt 1

def total (xs : List α) : α := xs.foldl (· + ·) Scalar.zero

def dotFrom (acc : α) : List α → List α → α
  | x :: xs, y :: ys => dotFrom (acc + x * y) xs ys
  | _, _ => acc

def dot (xs ys : List α) : α := dotFrom Scalar.zero xs ys

def addVec (xs ys : List α) : List α := List.zipWith (· + ·) xs ys

def addScaled (acc : List α) (c : α) (v : List α) : List α := List.zipWith (fun a x => a + c * x) acc v

def weightedSum (width : Nat) (weights : List α) (vectors : List (List α)) : List α :=
  (List.zip weights vectors).foldl (fun acc entry => addScaled acc entry.1 entry.2)
    (List.replicate width Scalar.zero)

def larger (x y : α) : α := if Scalar.lt x y then y else x

/-- The exponential of a score above a peak; a score that is not there has no weight. -/
def weight (peak : α) : Option α → α
  | some x => Scalar.exp (x - peak)
  | none => Scalar.zero

/-- The weights of scores, some of which may be missing: exponentials divided by their sum. The
largest score is subtracted first. -/
def softmaxPresent (scores : List (Option α)) : List α :=
  match scores.filterMap id with
  | [] => scores.map fun _ => Scalar.zero
  | x :: xs =>
    let weights := scores.map (weight (xs.foldl larger x))
    let sum := total weights
    weights.map (· / sum)

/-- Exponentials of a row, divided by their sum; the largest entry is subtracted first. -/
def softmax (scores : List α) : List α := softmaxPresent (scores.map some)

end Vectors
end StreamingLM
