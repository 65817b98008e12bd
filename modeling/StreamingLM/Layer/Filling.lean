import StreamingLM.Layer.Feature

/-!
Reproducible weights for trials: all parameters are filled from one stream of numbers.
-/
namespace StreamingLM

/-- A linear congruential stream of numbers in `[-1, 1)`. -/
structure NumberStream where
  state : Nat

namespace NumberStream

def ofSeed (seed : Int) : NumberStream := ⟨(seed % (Nat.pow 2 31 : Int)).toNat⟩

def advance (s : NumberStream) : NumberStream := ⟨(1103515245 * s.state + 12345) % Nat.pow 2 31⟩

def value (s : NumberStream) : Float := Float.ofNat (s.state / 65536) / 16384.0 - 1.0

/-- The next `n` numbers behind those already taken, and the stream behind them. -/
def takeOnto (taken : Array Float) : Nat → NumberStream → Array Float × NumberStream
  | 0, s => (taken, s)
  | n + 1, s => takeOnto (taken.push s.advance.value) n s.advance

def take (n : Nat) (s : NumberStream) : Array Float × NumberStream := takeOnto #[] n s

end NumberStream

namespace Parameters

/-- Whether a parameter scales a normalisation: its name says so, and it has one axis. -/
def isNormScale (name : String) (shape : List Nat) : Bool :=
  shape.length == 1 && 1 < (name.splitOn "norm").length

def filling (name : String) (shape : List Nat) (scale x : Float) : Float :=
  if isNormScale name shape then 1 + 0.5 * x * scale else x * scale

def fill (scale : Float) : NumberStream → List (String × List Nat) → Parameters Float
  | _, [] => []
  | s, (name, shape) :: rest =>
    let (data, s) := s.take (Tensor.size shape)
    (name, ⟨shape, data.map (filling name shape scale)⟩) :: fill scale s rest

def ones {α : Type} [Scalar α] (shapes : List (String × List Nat)) : Parameters α :=
  shapes.map fun (name, shape) => (name, ⟨shape, Array.replicate (Tensor.size shape) Scalar.one⟩)

end Parameters
end StreamingLM
