import StreamingLM.Tensor
import StreamingLM.Config.Layer

/-!
The layers that look at one position at a time: linear maps, normalisation by the root mean square,
and the gated feed-forward block. Their parameters come from a list of named tensors.
-/
namespace StreamingLM

abbrev Parameters (α : Type) := List (String × Tensor α)

namespace Parameters

variable {α : Type}

def tensor (p : Parameters α) (name : String) : Tensor α :=
  (p.lookup name).getD ⟨[0], #[]⟩

end Parameters

/-- A linear map: one row of weights for each output, and perhaps a constant for each. -/
structure Linear (α : Type) where
  rows : List (List α)
  bias : Option (List α) := none

namespace Linear

variable {α : Type}

def ofParameters (p : Parameters α) (name : String) (bias : Bool) : Linear α where
  rows := (p.tensor (name ++ ".weight")).rows
  bias := if bias then some (p.tensor (name ++ ".bias")).data.toList else none

def inputs (l : Linear α) : Nat := (l.rows.head?.map List.length).getD 0

def apply [Scalar α] (l : Linear α) (x : List α) : List α :=
  let y := l.rows.map fun row => dot x row
  match l.bias with
  | some b => addVec y b
  | none => y

end Linear

/-- Normalisation: a vector is divided by its root mean square and scaled per dimension. -/
structure Norm (α : Type) where
  width : Nat
  weight : List α
  eps : α

namespace Norm

variable {α : Type} [Scalar α]

def ofParameters (c : NormConfig) (p : Parameters α) (name : String) : Norm α where
  width := c.width.toNat
  weight := (p.tensor name).data.toList
  eps := Scalar.ofFloat c.eps

/-- The reciprocal of the root mean square, with `eps` added under the root. -/
def inverseRms (eps : α) (x : List α) : α :=
  Scalar.one / Scalar.sqrt (total (x.map fun a => a * a) / Scalar.ofInt x.length + eps)

def apply (n : Norm α) (x : List α) : List α :=
  let inverse := inverseRms n.eps x
  List.zipWith (fun a w => a * inverse * w) x n.weight

def applyTensor (n : Norm α) (x : Tensor α) : Except Failure (Tensor α) :=
  match x.shape.getLast? with
  | none => .error .index
  | some width =>
    if width ≠ n.width then .error (.normWidth n.width x.shape)
    else .ok ⟨x.shape, ((x.rows.map n.apply).flatten).toArray⟩

end Norm

/-- The gated feed-forward block: one projection, passed through `silu`, scales another. -/
structure Gated (α : Type) where
  gate : Linear α
  up : Linear α
  down : Linear α

namespace Gated

variable {α : Type} [Scalar α]

def ofParameters (c : GatedConfig) (p : Parameters α) (scope : String) : Gated α where
  gate := Linear.ofParameters p (scope ++ "w_gate") c.bias
  up := Linear.ofParameters p (scope ++ "w_up") c.bias
  down := Linear.ofParameters p (scope ++ "w_down") c.bias

def silu (x : α) : α := x / (Scalar.one + Scalar.exp (-x))

def apply (g : Gated α) (x : List α) : List α :=
  g.down.apply (List.zipWith (fun a b => silu a * b) (g.gate.apply x) (g.up.apply x))

def applyTensor (g : Gated α) (width : Nat) (x : Tensor α) : Except Failure (Tensor α) :=
  match x.shape with
  | [_, _, w] =>
    if w ≠ width then .error Failure.shape
    else .ok ⟨x.shape, ((x.rows.map g.apply).flatten).toArray⟩
  | _ => .error (.notRankThree x.shape)

end Gated
end StreamingLM
