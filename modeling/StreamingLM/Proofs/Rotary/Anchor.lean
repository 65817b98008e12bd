import Mathlib.Data.List.Basic
import StreamingLM.Rotary.Tracker

/-!
Where the rotary table stands. A tracker whose steps fit the table never leaves it, however often it
is moved; and in a number system with the laws of angle addition its rows are always the rotations
of their true positions.
-/
namespace StreamingLM

/-- The laws by which a table of turns can be moved: addition of angles, and an angle that is linear
in the position. -/
class TurnLaws (α : Type) [Scalar α] : Prop where
  cos_add : ∀ a b : α,
    Scalar.cos (a + b) = Scalar.cos a * Scalar.cos b - Scalar.sin a * Scalar.sin b
  sin_add : ∀ a b : α,
    Scalar.sin (a + b) = Scalar.sin a * Scalar.cos b + Scalar.cos a * Scalar.sin b
  angle_add : ∀ (m n : Int) (f : α),
    Scalar.ofInt (m + n) * f = Scalar.ofInt m * f + Scalar.ofInt n * f

variable {α : Type} [Scalar α]

namespace Turn

theorem ofAngle_add [TurnLaws α] (a b : α) : (ofAngle a).add (ofAngle b) = ofAngle (a + b) := by
  simp only [ofAngle, add, TurnLaws.cos_add, TurnLaws.sin_add]

theorem atPosition_add [TurnLaws α] (frequencies : List α) (m n : Int) :
    List.zipWith add (atPosition frequencies m) (atPosition frequencies n) =
      atPosition frequencies (m + n) := by
  simp only [atPosition, List.zipWith_map, List.zipWith_self, TurnLaws.angle_add, ofAngle_add]

@[simp] theorem length_rotateSlot (turns : List (Turn α)) (slot : Slot α) :
    List.length (rotateSlot turns slot) = List.length slot := by
  simp [rotateSlot]

end Turn

namespace RotaryTable

@[simp] theorem capacity_shift (t : RotaryTable α) (start : Int) :
    (t.shift start).capacity = t.capacity := by
  unfold shift
  split <;> simp [capacity]

@[simp] theorem dim_shift (t : RotaryTable α) (start : Int) : (t.shift start).dim = t.dim := by
  unfold shift
  split <;> rfl

@[simp] theorem frequencies_shift (t : RotaryTable α) (start : Int) :
    (t.shift start).frequencies = t.frequencies := by
  unfold shift
  split <;> rfl

@[simp] theorem start_shift (t : RotaryTable α) (start : Int) : (t.shift start).start = start := by
  unfold shift
  split
  case isTrue h => exact h.symm
  case isFalse => rfl

/-- Every row holds the rotations of its position. -/
def Exact (t : RotaryTable α) : Prop := t.rows = t.direct t.start t.capacity

theorem build_exact {dim capacity : Int} {config : RotaryConfig} {t : RotaryTable α}
    (ok : build dim capacity config = .ok t) : t.Exact := by
  simp only [build] at ok
  split at ok
  · cases ok
  · split at ok
    · cases ok
    · split at ok
      · cases ok
      · cases ok
        simp [Exact, direct, RotaryTable.capacity]

theorem Exact.getElem_rows {t : RotaryTable α} (h : t.Exact) {i : Nat} (hi : i < t.rows.length) :
    t.rows[i] = Turn.atPosition t.frequencies (t.start + i) := by
  have hrows : t.rows = (List.range t.capacity).map _ := h
  rw [List.getElem_of_eq hrows hi]
  simp

theorem exact_of_getElem {t : RotaryTable α}
    (h : ∀ (i : Nat) (hi : i < t.rows.length),
      t.rows[i] = Turn.atPosition t.frequencies (t.start + i)) : t.Exact := by
  apply List.ext_getElem
  · simp [direct, capacity]
  · intro i h₁ h₂
    rw [h i h₁]
    simp [direct]

theorem Exact.shift [TurnLaws α] {t : RotaryTable α} (h : t.Exact) (start : Int) :
    (t.shift start).Exact := by
  unfold RotaryTable.shift
  split
  · exact h
  · apply exact_of_getElem
    intro i hi
    have hmove : t.start + (i : Int) + (start - t.start) = start + i := by omega
    simp only [List.length_map] at hi
    simp only [List.getElem_map, h.getElem_rows hi, Turn.atPosition_add, hmove]

theorem Exact.rows_drop_take {t : RotaryTable α} (h : t.Exact) {index count : Nat}
    (room : index + count ≤ t.capacity) :
    (t.rows.drop index).take count = t.direct (t.start + index) count := by
  have hlen : t.rows.length = t.capacity := rfl
  apply List.ext_getElem
  · simp only [direct, List.length_take, List.length_drop, List.length_map, List.length_range]
    omega
  · intro i h₁ h₂
    simp only [List.length_take, List.length_drop] at h₁
    rw [List.getElem_take, List.getElem_drop, h.getElem_rows (by omega)]
    simp [direct, Int.add_assoc]

@[simp] theorem length_direct (t : RotaryTable α) (offset : Int) (count : Nat) :
    (t.direct offset count).length = count := by
  simp [direct]

end RotaryTable

namespace RotaryTracker

/-- The table stands at or before the position reached, which is still inside it. -/
structure Anchored (t : RotaryTracker α) (dim capacity position : Nat) : Prop where
  dim_eq : t.table.dim = dim
  capacity_eq : t.capacity = capacity
  start_eq : t.table.start = t.offset
  next_eq : t.next = position
  offset_le : t.offset ≤ position
  within : position ≤ t.offset + capacity

/-- A step of `count` positions from `position` on lies wholly inside the table. -/
structure Ready (t : RotaryTracker α) (dim capacity position count : Nat) : Prop where
  anchored : t.Anchored dim capacity (position + count)
  step_eq : t.step = count
  offset_le : t.offset ≤ position

theorem Anchored.reset {t : RotaryTracker α} {dim capacity position : Nat}
    (h : t.Anchored dim capacity position) : t.reset.Anchored dim capacity 0 where
  dim_eq := by simpa [RotaryTracker.reset, RotaryTable.reset] using h.dim_eq
  capacity_eq := by
    simpa [RotaryTracker.reset, RotaryTable.reset, RotaryTracker.capacity] using h.capacity_eq
  start_eq := by simp [RotaryTracker.reset, RotaryTable.reset]
  next_eq := rfl
  offset_le := Int.le_refl 0
  within := by simp [RotaryTracker.reset]

theorem prepare_ready {t : RotaryTracker α} {dim capacity position : Nat}
    (h : t.Anchored dim capacity position) {count : Nat} (hpos : 1 ≤ count)
    (hcount : count ≤ capacity) :
    ∃ ready, t.prepare count = .ok ready ∧ ready.Ready dim capacity position count := by
  have hcap := h.capacity_eq
  have hnext := h.next_eq
  have hoffset := h.offset_le
  rw [prepare, if_neg (by omega), if_neg (by omega)]
  simp only
  split
  case isTrue hmove =>
    refine ⟨_, rfl, ⟨?_, ?_, ?_, ?_, ?_, ?_⟩, rfl, ?_⟩
    · simpa [reanchor] using h.dim_eq
    · simpa [reanchor, RotaryTracker.capacity] using h.capacity_eq
    · simp [reanchor]
    all_goals
      simp only [reanchor, RotaryTracker.position]
      omega
  case isFalse hstay =>
    refine ⟨_, rfl, ⟨h.dim_eq, hcap, h.start_eq, ?_, ?_, ?_⟩, rfl, hoffset⟩
    all_goals
      simp only
      omega

/-- All that a step can do: it fits the table, and the table stays, or is moved to the first position
of the step, when it would run past the end. -/
theorem prepare_cases {t ready : RotaryTracker α} {count : Int}
    (ok : t.prepare count = .ok ready) :
    0 < count ∧ count ≤ t.capacity ∧
      (t.next + count ≤ t.capacity + t.offset ∧
          ready = { t with step := count, next := t.next + count } ∨
        t.capacity + t.offset < t.next + count ∧
          ready = { table := t.table.shift t.next, step := count, next := t.next + count,
                    offset := t.next }) := by
  have hposition : t.next + count - count = t.next := Int.add_sub_cancel _ _
  simp only [prepare] at ok
  split at ok
  case isTrue hempty => cases ok
  case isFalse hpos =>
    split at ok
    case isTrue hlong => cases ok
    case isFalse hcount =>
      refine ⟨by omega, by omega, ?_⟩
      split at ok <;> cases ok
      case isTrue hmove =>
        exact .inr ⟨hmove, by simp only [reanchor, RotaryTracker.position, hposition]⟩
      case isFalse hstay => exact .inl ⟨by omega, rfl⟩

theorem next_prepare {t ready : RotaryTracker α} {count : Int}
    (ok : t.prepare count = .ok ready) : ready.next = t.next + count := by
  obtain ⟨-, -, ⟨-, rfl⟩ | ⟨-, rfl⟩⟩ := prepare_cases ok <;> rfl

theorem capacity_prepare {t ready : RotaryTracker α} {count : Int}
    (ok : t.prepare count = .ok ready) : ready.capacity = t.capacity := by
  obtain ⟨-, -, ⟨-, rfl⟩ | ⟨-, rfl⟩⟩ := prepare_cases ok
  · rfl
  · exact RotaryTable.capacity_shift _ _

theorem prepare_frequencies {t ready : RotaryTracker α} {count : Int}
    (ok : t.prepare count = .ok ready) : ready.table.frequencies = t.table.frequencies := by
  obtain ⟨-, -, ⟨-, rfl⟩ | ⟨-, rfl⟩⟩ := prepare_cases ok
  · rfl
  · exact RotaryTable.frequencies_shift _ _

theorem prepare_exact [TurnLaws α] {t ready : RotaryTracker α} {count : Int}
    (ok : t.prepare count = .ok ready) (h : t.table.Exact) : ready.table.Exact := by
  obtain ⟨-, -, ⟨-, rfl⟩ | ⟨-, rfl⟩⟩ := prepare_cases ok
  · exact h
  · exact h.shift _

def turns (t : RotaryTracker α) : List (List (Turn α)) :=
  (t.table.rows.drop (t.position - t.offset).toNat).take t.step.toNat

/-- A step of `count` positions from `position` on lies inside a table of `capacity` rows, when its
first row is taken for the position `offset`, wherever the table stands. -/
structure Placed (t : RotaryTracker α) (capacity position count : Nat) : Prop where
  capacity_eq : t.capacity = capacity
  next_eq : t.next = position + count
  step_eq : t.step = count
  offset_le : t.offset ≤ position
  within : position + count ≤ t.offset + capacity

namespace Placed

variable {t : RotaryTracker α} {capacity position count : Nat}

omit [Scalar α] in
theorem position_eq (h : t.Placed capacity position count) : t.position = position := by
  have hnext := h.next_eq
  have hstep := h.step_eq
  unfold RotaryTracker.position
  omega

omit [Scalar α] in
theorem index_eq (h : t.Placed capacity position count) : t.index = .ok (position - t.offset) := by
  have hoffset := h.offset_le
  rw [index, h.position_eq, if_neg (by omega)]

theorem reset (h : t.Placed capacity position count) : t.reset.Placed capacity 0 0 where
  capacity_eq := by
    simpa [RotaryTracker.reset, RotaryTable.reset, RotaryTracker.capacity] using h.capacity_eq
  next_eq := rfl
  step_eq := rfl
  offset_le := Int.le_refl 0
  within := by simp [RotaryTracker.reset]

theorem prepare (h : t.Placed capacity position count) {steps : Int} {ready : RotaryTracker α}
    (ok : t.prepare steps = .ok ready) : ready.Placed capacity (position + count) steps.toNat := by
  have hcapacity := (capacity_prepare ok).trans h.capacity_eq
  have hcap := h.capacity_eq
  have hnext := h.next_eq
  have hoffset := h.offset_le
  have hwithin := h.within
  obtain ⟨hpos, hcount, ⟨hroom, rfl⟩ | ⟨-, rfl⟩⟩ := prepare_cases ok
  all_goals
    refine ⟨hcapacity, ?_, ?_, ?_, ?_⟩ <;> simp only <;> omega

omit [Scalar α] in
theorem rowsAt_eq (h : t.Placed capacity position count) :
    t.table.rowsAt (position - t.offset) count = .ok t.turns ∧ t.turns.length = count := by
  have hcap : t.table.capacity = capacity := h.capacity_eq
  have hrows : t.table.rows.length = capacity := h.capacity_eq
  have hoffset := h.offset_le
  have hwithin := h.within
  constructor
  · rw [RotaryTable.rowsAt, if_neg (by omega), turns, h.position_eq, h.step_eq, Int.toNat_natCast]
  · rw [turns, h.position_eq, h.step_eq, List.length_take, List.length_drop, hrows]
    omega

theorem apply_eq (h : t.Placed capacity position count) {x : Tensor α}
    (hx : RotaryTable.positionsOf x = .ok count) :
    t.apply x = t.table.rotateTensor t.turns x := by
  simp only [apply, h.index_eq, RotaryTable.rotateAt, hx, h.rowsAt_eq.1, bind, Except.bind]

/-- In an exact table the rows of a step are rotations of the positions where the table stands. -/
theorem turns_eq (h : t.Placed capacity position count) (hexact : t.table.Exact) :
    t.turns = t.table.direct (position + (t.table.start - t.offset)) count := by
  have hcap : t.table.capacity = capacity := h.capacity_eq
  have hoffset := h.offset_le
  have hwithin := h.within
  have hstart : t.table.start + ((position - t.offset).toNat : Int) =
      position + (t.table.start - t.offset) := by omega
  rw [turns, h.position_eq, h.step_eq, Int.toNat_natCast, hexact.rows_drop_take (by omega), hstart]

end Placed

namespace Ready

variable {t : RotaryTracker α} {dim capacity position count : Nat}

omit [Scalar α] in
theorem placed (h : t.Ready dim capacity position count) : t.Placed capacity position count where
  capacity_eq := h.anchored.capacity_eq
  next_eq := by exact_mod_cast h.anchored.next_eq
  step_eq := h.step_eq
  offset_le := h.offset_le
  within := by exact_mod_cast h.anchored.within

omit [Scalar α] in
theorem length_turns (h : t.Ready dim capacity position count) : t.turns.length = count :=
  h.placed.rowsAt_eq.2

theorem turns_eq (h : t.Ready dim capacity position count) (hexact : t.table.Exact) :
    t.turns = t.table.direct position count := by
  rw [h.placed.turns_eq hexact, h.anchored.start_eq, Int.sub_self, Int.add_zero]

theorem applyBlock_eq (h : t.Ready dim capacity position count) {x : Block α}
    (hx : x.slots.length = count) (hdim : dim ≤ x.dim) :
    t.applyBlock x = .ok { x with slots := List.zipWith Turn.rotateSlot t.turns x.slots } := by
  have hd := h.anchored.dim_eq
  rw [applyBlock, h.placed.index_eq]
  simp only [RotaryTable.rotateBlockAt, hx, h.placed.rowsAt_eq.1, bind, Except.bind,
    RotaryTable.rotateBlock]
  rw [if_neg (by omega)]

end Ready

theorem build_anchored {dim capacity : Int} {config : RotaryConfig} {table : RotaryTable α}
    (ok : RotaryTable.build dim capacity config = .ok table) :
    (RotaryTracker.mk table 0 0 0).Anchored dim.toNat capacity.toNat 0 := by
  simp only [RotaryTable.build] at ok
  split at ok
  · cases ok
  · split at ok
    · cases ok
    · split at ok
      · cases ok
      · cases ok
        refine ⟨rfl, by simp [RotaryTracker.capacity, RotaryTable.capacity], rfl, rfl, ?_, ?_⟩
        all_goals
          simp only
          omega

end RotaryTracker
end StreamingLM
