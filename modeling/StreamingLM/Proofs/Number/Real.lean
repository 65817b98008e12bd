import Mathlib.Analysis.SpecialFunctions.Pow.Real
import StreamingLM.Proofs.Layer.Causal
import StreamingLM.Text.Decimal

/-!
Exact arithmetic: the real numbers, in which a score that a mask rules out has no weight.
-/
namespace StreamingLM

/-- The value of a double; infinities and what is no number count as zero. -/
noncomputable def realValue (x : Float) : ℝ :=
  match Decimal.parts x with
  | .finite negative m q => (if negative then -1 else 1) * (m : ℝ) * (2 : ℝ) ^ q
  | _ => 0

noncomputable def Double.magnitude (m : Nat) (q : Int) : ℝ := (m : ℝ) * (2 : ℝ) ^ q

open Classical in
noncomputable instance : Scalar ℝ where
  ofFloat := realValue
  ofInt n := n
  exp := Real.exp
  log := Real.log
  sqrt := Real.sqrt
  cos := Real.cos
  sin := Real.sin
  pow := Real.rpow
  lt x y := decide (x < y)
  finite _ := true
  isNaN _ := false
  ruledOut := none

theorem Scalar.ofInt_real (n : Int) : (Scalar.ofInt n : ℝ) = n := rfl

theorem Scalar.zero_real : (Scalar.zero : ℝ) = 0 := Int.cast_zero

instance : TurnLaws ℝ where
  cos_add := Real.cos_add
  sin_add := Real.sin_add
  angle_add m n f := by
    simp only [Scalar.ofInt_real, Int.cast_add]
    exact add_mul (m : ℝ) n f

instance : MaskLaws ℝ where
  ruledOut_eq := rfl
  add_zero a := by
    rw [Scalar.zero_real]
    exact add_zero a
  zero_mul a := by
    rw [Scalar.zero_real]
    exact zero_mul a
  zero_div a := by
    rw [Scalar.zero_real]
    exact zero_div a

end StreamingLM
