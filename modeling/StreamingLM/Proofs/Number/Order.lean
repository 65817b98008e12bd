import Mathlib.Order.Compare

/-!
The order of doubles: two numbers are comparable, and only what is no number escapes both of two
opposite comparisons.
-/
namespace StreamingLM
namespace Double

open Float.Model

theorem compare_swap (a b : UnpackedFloat) : (a.compare b).map Ordering.swap = b.compare a := by
  cases a with
  | notANumber => cases b <;> rfl
  | infinity s =>
    cases b with
    | infinity t => cases s <;> cases t <;> rfl
    | _ => cases s <;> rfl
  | zero s =>
    cases b with
    | infinity t => cases t <;> rfl
    | finite t => cases t <;> rfl
    | _ => rfl
  | finite s m e =>
    cases b with
    | infinity t => cases s <;> cases t <;> rfl
    | zero t => cases s <;> rfl
    | notANumber => cases s <;> rfl
    | finite t n f =>
      have hswap : ((compare e f).then (compare m n)).swap = (compare f e).then (compare n m) := by
        rw [Ordering.swap_then, Std.OrientedOrd.eq_swap, Std.OrientedOrd.eq_swap (a := m)]
        simp
      cases s <;> cases t <;> dsimp only [UnpackedFloat.compare, Option.map] <;> simp [hswap]

theorem compare_isSome {a b : UnpackedFloat} (ha : a.isNaN = false) (hb : b.isNaN = false) :
    (a.compare b).isSome := by
  cases a with
  | notANumber => cases ha
  | infinity s =>
    cases b with
    | notANumber => cases hb
    | _ => cases s <;> rfl
  | zero s =>
    cases b with
    | notANumber => cases hb
    | zero t => rfl
    | _ t => cases t <;> rfl
  | finite s m e =>
    cases b with
    | notANumber => cases hb
    | zero t => cases s <;> rfl
    | _ t => cases s <;> cases t <;> rfl

def order (x y : Float) : Option Ordering := x.toModel.unpack.compare y.toModel.unpack

theorem le_iff {x y : Float} : x ≤ y ↔ (order x y).any (·.isLE) = true :=
  decide_eq_true_iff

theorem lt_iff {x y : Float} : x < y ↔ order x y = some .lt :=
  decide_eq_true_iff.trans beq_iff_eq

theorem order_swap (x y : Float) : (order x y).map Ordering.swap = order y x := compare_swap _ _

theorem order_isSome {x y : Float} (hx : x.isNaN = false) (hy : y.isNaN = false) :
    ∃ o, order x y = some o := Option.isSome_iff_exists.mp (compare_isSome hx hy)

theorem lt_of_not_le {x y : Float} (hx : x.isNaN = false) (hy : y.isNaN = false) (h : ¬x ≤ y) :
    y < x := by
  obtain ⟨o, ho⟩ := order_isSome hx hy
  rw [le_iff, ho] at h
  rw [lt_iff, ← order_swap, ho]
  cases o with
  | gt => rfl
  | _ => exact absurd rfl h

theorem le_of_not_lt {x y : Float} (hx : x.isNaN = false) (hy : y.isNaN = false) (h : ¬x < y) :
    y ≤ x := by
  obtain ⟨o, ho⟩ := order_isSome hx hy
  rw [lt_iff, ho] at h
  rw [le_iff, ← order_swap, ho]
  cases o with
  | lt => exact absurd rfl h
  | _ => rfl

end Double
end StreamingLM
