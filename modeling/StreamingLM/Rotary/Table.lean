import StreamingLM.Rotary.Frequency
import StreamingLM.Tensor

/-!
A table of rotations for a range of positions. Row `r` holds the angles of position `start + r`;
the table is moved to another start by turning every row by the same angle.
-/
namespace StreamingLM

structure Turn (α : Type) where
  cos : α
  sin : α

namespace Turn

variable {α : Type} [Scalar α]

def ofAngle (angle : α) : Turn α := ⟨Scalar.cos angle, Scalar.sin angle⟩

def add (a b : Turn α) : Turn α :=
  ⟨a.cos * b.cos - a.sin * b.sin, a.sin * b.cos + a.cos * b.sin⟩

def atPosition (frequencies : List α) (position : Int) : List (Turn α) :=
  frequencies.map fun f => ofAngle (Scalar.ofInt position * f)

/-- Turn the pair `(x, y)`; the two results go to the two halves. -/
def first (t : Turn α) (x y : α) : α := x * t.cos - y * t.sin

def second (t : Turn α) (x y : α) : α := x * t.sin + y * t.cos

def firsts : List (Turn α) → List α → List α → List α
  | t :: ts, x :: xs, y :: ys => t.first x y :: firsts ts xs ys
  | _, _, _ => []

def seconds : List (Turn α) → List α → List α → List α
  | t :: ts, x :: xs, y :: ys => t.second x y :: seconds ts xs ys
  | _, _, _ => []

/-- Turn the first `2 * turns.length` dimensions, dimension `i` paired with the one half further;
the rest passes through. -/
def rotate (turns : List (Turn α)) (v : List α) : List α :=
  let half := turns.length
  let xs := v.take half
  let ys := (v.drop half).take half
  firsts turns xs ys ++ seconds turns xs ys ++ v.drop (2 * half)

def rotateSlot (turns : List (Turn α)) (slot : Slot α) : Slot α :=
  slot.map fun heads => heads.map (rotate turns)

end Turn

/-- Rotations for the positions from `start` on, one row for each. -/
structure RotaryTable (α : Type) where
  dim : Nat
  frequencies : List α
  rows : List (List (Turn α))
  start : Int

namespace RotaryTable

variable {α : Type} [Scalar α]

def capacity (t : RotaryTable α) : Nat := t.rows.length

def build (dim capacity : Int) (config : RotaryConfig) : Except Failure (RotaryTable α) :=
  if Int.fmod dim 2 ≠ 0 then .error (.oddRotary dim)
  else if capacity ≤ 0 then .error (.badCapacity capacity)
  else if dim < 0 then .error (.fault .runtime "inconsistent range")
  else
    let frequencies := config.frequencies dim.toNat
    .ok
      { dim := dim.toNat, frequencies, start := 0
        rows := (List.range capacity.toNat).map fun (r : Nat) => Turn.atPosition frequencies r }

/-- Move the table: every row is turned by the angle between the two starts. -/
def shift (t : RotaryTable α) (start : Int) : RotaryTable α :=
  if start = t.start then t
  else
    let delta := Turn.atPosition t.frequencies (start - t.start)
    { t with start, rows := t.rows.map fun row => List.zipWith Turn.add row delta }

def reset (t : RotaryTable α) : RotaryTable α := t.shift 0

def rowsAt (t : RotaryTable α) (index : Int) (count : Nat) :
    Except Failure (List (List (Turn α))) :=
  if index < 0 ∨ (t.capacity : Int) < index + count then
    .error (.rotaryRows index (index + count) t.capacity)
  else .ok ((t.rows.drop index.toNat).take count)

/-- The rotations of positions from `offset` on, without the table. -/
def direct (t : RotaryTable α) (offset : Int) (count : Nat) : List (List (Turn α)) :=
  (List.range count).map fun (i : Nat) => Turn.atPosition t.frequencies (offset + i)

def rotateBlock (t : RotaryTable α) (turns : List (List (Turn α))) (x : Block α) :
    Except Failure (Block α) :=
  if x.dim < t.dim then .error (.rotaryWidth t.dim x.dim)
  else .ok { x with slots := List.zipWith Turn.rotateSlot turns x.slots }

def rotateBlockAt (t : RotaryTable α) (x : Block α) (index : Int) : Except Failure (Block α) := do
  let turns ← t.rowsAt index x.slots.length
  t.rotateBlock turns x

def rotateBlockFrom (t : RotaryTable α) (x : Block α) (offset : Int) : Except Failure (Block α) :=
  t.rotateBlock (t.direct offset x.slots.length) x

def positionsOf (x : Tensor α) : Except Failure Nat :=
  match x.shape.reverse with
  | _ :: count :: _ => .ok count
  | _ => .error .index

/-- Rotate the rows of a tensor of rank four or more; the last axis but one counts positions. -/
def rotateTensor (t : RotaryTable α) (turns : List (List (Turn α))) (x : Tensor α) :
    Except Failure (Tensor α) :=
  if x.width < t.dim then .error (.rotaryWidth t.dim x.width)
  else if x.rank < 4 then .error Failure.shape
  else
    let count := turns.length
    let rotated := x.rows.zipIdx.map fun (row, i) => Turn.rotate ((turns[i % count]?).getD []) row
    .ok ⟨x.shape, rotated.flatten.toArray⟩

def rotateAt (t : RotaryTable α) (x : Tensor α) (index : Int) : Except Failure (Tensor α) := do
  let turns ← t.rowsAt index (← positionsOf x)
  t.rotateTensor turns x

/-- Rotate for the positions from `offset` on, wherever the table starts. -/
def rotateFrom (t : RotaryTable α) (x : Tensor α) (offset : Int) : Except Failure (Tensor α) := do
  t.rotateTensor (t.direct offset (← positionsOf x)) x

end RotaryTable
end StreamingLM
