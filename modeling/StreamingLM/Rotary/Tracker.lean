import StreamingLM.Rotary.Table
import StreamingLM.Config.Model

/-!
The position of a decoding run. Every step advances the position; when a step would run past the
end of the rotary table, the table is moved to the start of the step, so that angles always belong
to true positions.
-/
namespace StreamingLM

/-- A rotary table and the cursor into it: `next` counts all positions so far, `step` is the size
of the current step, and `offset` the position of the table's first row. -/
structure RotaryTracker (α : Type) where
  table : RotaryTable α
  next : Int := 0
  step : Int := 0
  offset : Int := 0

namespace RotaryTracker

variable {α : Type} [Scalar α]

def ofConfig (c : LlamaConfig) : Except Failure (RotaryTracker α) := do
  let table ← RotaryTable.build c.transformer.headDim c.rotaryRows c.rotary
  return { table }

def capacity (t : RotaryTracker α) : Nat := t.table.capacity

def position (t : RotaryTracker α) : Int := t.next - t.step

def index (t : RotaryTracker α) : Except Failure Int :=
  let index := t.position - t.offset
  if index < 0 then .error (.negativeIndex t.position t.offset) else .ok index

/-- Move the table to the start of the current step. -/
def reanchor (t : RotaryTracker α) : RotaryTracker α :=
  { t with table := t.table.shift t.position, offset := t.position }

/-- Advance by a step, moving the table if the step does not fit. -/
def prepare (t : RotaryTracker α) (count : Int) : Except Failure (RotaryTracker α) :=
  if count ≤ 0 then .error (.badStep count)
  else if (t.capacity : Int) < count then .error (.stepBeyondTable count t.capacity)
  else
    let advanced := { t with step := count, next := t.next + count }
    if t.capacity + t.offset < advanced.next then .ok advanced.reanchor else .ok advanced

def apply (t : RotaryTracker α) (x : Tensor α) : Except Failure (Tensor α) := do
  t.table.rotateAt x (← t.index)

def applyBlock (t : RotaryTracker α) (x : Block α) : Except Failure (Block α) := do
  t.table.rotateBlockAt x (← t.index)

/-- Return to position zero, with the table anchored there. -/
def reset (t : RotaryTracker α) : RotaryTracker α :=
  { table := t.table.reset, next := 0, step := 0, offset := 0 }

end RotaryTracker
end StreamingLM
