import StreamingLM.Config.Rule
import StreamingLM.Tensor

/-!
Choosing the next token: the best one, or one drawn from the nucleus, the smallest set of most
likely tokens whose mass reaches a bound.
-/
namespace StreamingLM

section Choice

variable {α : Type} [Scalar α]

def softmaxAt (temperature : α) (scores : List α) : List α :=
  softmax (scores.map (· / temperature))

/-- A temperature that is zero or less has no softmax. -/
def scaledSoftmax (temperature : Value) (scores : Tensor α) : Except Failure (Tensor α) := do
  let order ← Rule.sign temperature
  if order = some .lt ∨ order = some .eq then .error (.badTemperature temperature)
  else
    let t ← realOf temperature
    return ⟨scores.shape,
      ((scores.rows.map (softmaxAt (Scalar.ofFloat t))).flatten).toArray⟩

/-- Whether a score beats the best so far: a larger one does, and so does one that is no number. -/
def beats (x best : α) : Bool :=
  Scalar.lt best x || (Scalar.isNaN x && !Scalar.isNaN best)

/-- The best index so far and its score, over the scores from index `i` on. -/
def bestFrom (best : Nat × α) : Nat → List α → Nat × α
  | _, [] => best
  | i, x :: xs => bestFrom (if beats x best.2 then (i, x) else best) (i + 1) xs

/-- The index of the largest score; of several the first. -/
def argmax : List α → Except Failure Nat
  | [] => .error .index
  | x :: xs => .ok (bestFrom (0, x) 1 xs).1

/-- Indexed probabilities, the largest first; equal ones keep their order. -/
def ranked (probs : List α) : List (Nat × α) :=
  (probs.zipIdx.map fun (x, i) => (i, x)).mergeSort fun a b => !Scalar.lt a.2 b.2

/-- The entries before which less than `p` has been collected, from a running mass on. -/
def withinMass (p : α) (before : α) : List (Nat × α) → List (Nat × α)
  | [] => []
  | (i, x) :: rest =>
    let after := before + x
    if Scalar.lt (after - x) p || Scalar.isNaN (after - x) then (i, x) :: withinMass p after rest
    else withinMass p after rest

/-- The nucleus of a row of probabilities; its first entry always belongs to it. -/
def nucleus (p : α) (probs : List α) : List (Nat × α) :=
  match ranked probs with
  | [] => []
  | first :: rest => first :: withinMass p (Scalar.zero + first.2) rest

def isMass (x : α) : Bool := Scalar.finite x && !Scalar.lt x Scalar.zero

def badMasses : Failure := .fault .runtime "invalid probabilities"

/-- The nucleus divided by its mass, if that leaves probabilities. -/
def normalised (kept : List (Nat × α)) : Except Failure (List (Nat × α)) :=
  let sum := total (kept.map (·.2))
  let scaled := kept.map fun (i, x) => (i, x / sum)
  if kept.isEmpty then .error .index
  else if scaled.all fun entry => isMass entry.2 then .ok scaled
  else .error badMasses

/-- The tokens that can be drawn: those of the nucleus that have a mass. -/
def drawable (p : α) (probs : List α) : Except Failure (List Nat) := do
  let kept ← normalised (nucleus p probs)
  return (kept.filter fun entry => Scalar.lt Scalar.zero entry.2).map (·.1)

/-- The entry at which the running mass passes a bound. -/
def pick (bound : α) (before : α) : List (Nat × α) → Nat → Nat
  | [], last => last
  | (i, x) :: rest, last =>
    if Scalar.lt Scalar.zero x then
      if Scalar.lt bound (before + x) then i else pick bound (before + x) rest i
    else pick bound before rest last

end Choice

/-- A generator of numbers below one, seeded once. It is a stand-in: the numbers that a seed stands for
are nowhere fixed, and no theorem looks at them. -/
structure Generator where
  state : Nat
  deriving DecidableEq, Repr

namespace Generator

def ofSeed (seed : Int) : Generator := ⟨(seed % (Nat.pow 2 64 : Int)).toNat⟩

def next (g : Generator) : Float × Generator :=
  let state := (6364136223846793005 * g.state + 1442695040888963407) % Nat.pow 2 64
  (Float.ofNat (state / 2048) / 9007199254740992.0, ⟨state⟩)

end Generator

/-- Choosers of tokens: from a row of scores, a token and the chooser that is left. -/
class Sampling (ρ : Type) (α : Type) where
  sample : ρ → List α → Except Failure (Int × ρ)

/-- How the next token is chosen. `scripted` plays back given tokens, whatever the scores. -/
inductive Sampler where
  | greedy
  | nucleus (p : Float) (seed : Int) (generator : Generator)
  | scripted (tokens : List Int) (played : Nat)

namespace Sampler

/-- A nucleus sampler: the mass lies above zero and up to one, and the seed fits in 64 bits. -/
def ofMass (p : Value) (seed : Int) : Except Failure Sampler := do
  let mass ← realOf p
  if 0.0 < mass ∧ mass ≤ 1.0 then
    if -(Nat.pow 2 63 : Int) ≤ seed ∧ seed < (Nat.pow 2 64 : Int) then
      return nucleus mass seed (Generator.ofSeed seed)
    else .error (.fault .value "seed out of range")
  else .error (.badMass p)

/-- Nucleus sampling above temperature zero, the best token otherwise; seed zero is replaced by
`fresh`. -/
def ofSettings (temperature : Value) (p : Value) (seed fresh : Int) : Except Failure Sampler := do
  let order ← Rule.sign temperature
  if order = some .gt then ofMass p (if seed = 0 then fresh else seed) else return greedy

def sample {α : Type} [Scalar α] (s : Sampler) (scores : List α) : Except Failure (Int × Sampler) :=
  match s with
  | greedy => (argmax scores).map fun i => ((i : Int), greedy)
  | nucleus p seed generator => do
    let kept ← normalised (StreamingLM.nucleus (Scalar.ofFloat p) scores)
    let (u, generator) := generator.next
    return ((pick (Scalar.ofFloat u) Scalar.zero kept 0 : Nat), nucleus p seed generator)
  | scripted tokens played =>
    match tokens[played % tokens.length]? with
    | some t => .ok (t, scripted tokens (played + 1))
    | none => .error (.fault .zeroDivision "empty script")

instance {α : Type} [Scalar α] : Sampling Sampler α := ⟨sample⟩

end Sampler
end StreamingLM
