import StreamingLM.Failure
import StreamingLM.Scalar

/-!
Tensors in row-major order, and blocks: rank-four tensors of batch rows, heads, positions and
features, arranged by position so that a sequence of positions is a list.
-/
namespace StreamingLM

/-- A place in a list of known length; a negative number counts from its end. -/
def place? (length : Nat) (i : Int) : Except Failure Nat :=
  let j := if i < 0 then i + length else i
  if 0 ≤ j ∧ j < length then .ok j.toNat else .error .index

structure Tensor (α : Type) where
  shape : List Nat
  data : Array α

namespace Tensor

variable {α β : Type}

def size (shape : List Nat) : Nat := shape.foldl (· * ·) 1

def map (f : α → β) (t : Tensor α) : Tensor β := ⟨t.shape, t.data.map f⟩

def rank (t : Tensor α) : Nat := t.shape.length

def width (t : Tensor α) : Nat := t.shape.getLast?.getD 1

def height (t : Tensor α) : Nat := size t.shape.dropLast

def chunk (data : Array α) (width i : Nat) : List α :=
  (data.extract (i * width) ((i + 1) * width)).toList

def rows (t : Tensor α) : List (List α) :=
  (List.range t.height).map (chunk t.data t.width)

def ofRows (leading : List Nat) (width : Nat) (rows : List (List α)) : Tensor α :=
  ⟨leading ++ [width], rows.flatten.toArray⟩

/-- The rows of a rank-three tensor as positions of batch rows. -/
def steps (t : Tensor α) : List (List (List α)) :=
  match t.shape with
  | [batch, count, width] =>
    (List.range count).map fun i =>
      (List.range batch).map fun b => chunk t.data width (b * count + i)
  | _ => []

def rowAt (rows : List (List α)) (i : Nat) : List α := (rows[i]?).getD []

def ofSteps (batch width : Nat) (steps : List (List (List α))) : Tensor α :=
  ofRows [batch, steps.length] width
    ((List.range batch).flatMap fun b => steps.map fun rows => rowAt rows b)

end Tensor

/-- What one position holds: for each batch row, for each head, a vector. -/
abbrev Slot (α : Type) := List (List (List α))

/-- A rank-four tensor by position. -/
structure Block (α : Type) where
  batch : Nat
  heads : Nat
  dim : Nat
  slots : List (Slot α)

namespace Block

variable {α : Type}

def shape (b : Block α) : List Nat := [b.batch, b.heads, b.slots.length, b.dim]

def ofTensor (t : Tensor α) : Except Failure (Block α) :=
  match t.shape with
  | [batch, heads, count, dim] =>
    .ok ⟨batch, heads, dim, (List.range count).map fun i =>
      (List.range batch).map fun b =>
        (List.range heads).map fun h => Tensor.chunk t.data dim ((b * heads + h) * count + i)⟩
  | _ => .error (.notRankFour t.shape)

def vector (slot : Slot α) (row head : Nat) : List α :=
  Tensor.rowAt ((slot[row]?).getD []) head

def column (b : Block α) (row head : Nat) : List (List α) :=
  b.slots.map fun slot => vector slot row head

def toTensor (b : Block α) : Tensor α :=
  ⟨b.shape, ((List.range b.batch).flatMap fun row =>
    (List.range b.heads).flatMap fun head =>
      b.slots.flatMap fun slot => vector slot row head).toArray⟩

end Block
end StreamingLM
