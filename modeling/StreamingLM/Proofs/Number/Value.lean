import Mathlib
import StreamingLM.Proofs.Number.Order
import StreamingLM.Proofs.Number.Real

/-!
The values of doubles. Main statement: finite doubles are ordered as their values are.
-/
namespace StreamingLM
namespace Double

open Float.Model Decimal

def bits (x : Float) : BitVec Format.binary64.numBits := x.toModel.toBits.toBitVec

theorem toNat_exponent (x : Float) :
    (UnpackedFloat.unpackExponent (bits x)).toNat = x.toBits.toNat / 2 ^ 52 % 2048 := by
  simp only [UnpackedFloat.unpackExponent, BitVec.extractLsb, BitVec.toNat_cast,
    BitVec.extractLsb'_toNat, Nat.shiftRight_eq_div_pow]
  rfl

theorem toNat_mantissa (x : Float) :
    (UnpackedFloat.unpackMantissa (bits x)).toNat = x.toBits.toNat % 2 ^ 52 := by
  simp only [UnpackedFloat.unpackMantissa, BitVec.extractLsb, BitVec.toNat_cast,
    BitVec.extractLsb'_toNat, Nat.shiftRight_zero]
  rfl

theorem toNat_sign (x : Float) :
    (UnpackedFloat.unpackSign (bits x)).toNat = x.toBits.toNat / 2 ^ 63 % 2 := by
  simp only [UnpackedFloat.unpackSign, BitVec.extractLsb, BitVec.toNat_cast,
    BitVec.extractLsb'_toNat, Nat.shiftRight_eq_div_pow]
  rfl

def isNegative : UnpackedFloat.Sign → Bool
  | .negative => true
  | .positive => false

theorem isNegative_eq (x : Float) :
    isNegative (.ofBitVec (UnpackedFloat.unpackSign (bits x))) =
      (x.toBits.toNat / Nat.pow 2 63 % 2 == 1) := by
  have hsign := toNat_sign x
  have hcases : ∀ b : BitVec 1, isNegative (.ofBitVec b) = (b.toNat == 1) := by decide
  rw [hcases, hsign]
  rfl

def partsOf : UnpackedFloat → Parts
  | .notANumber => .nan
  | .infinity s => .infinite (isNegative s)
  | .zero s => .finite (isNegative s) 0 (-1074)
  | .finite s m e _ => .finite (isNegative s) m e

theorem parts_eq (x : Float) : parts x = partsOf x.toModel.unpack := by
  have hexponent := toNat_exponent x
  have hmantissa := toNat_mantissa x
  have hsign := isNegative_eq x
  have hleading : (1#1 ++ UnpackedFloat.unpackMantissa (bits x)).toNat =
      x.toBits.toNat % 2 ^ 52 + 2 ^ 52 := by
    rw [BitVec.toNat_append, ← Nat.shiftLeft_add_eq_or_of_lt (BitVec.isLt _), hmantissa, Nat.add_comm]
    rfl
  have hmax : (-1#11).toNat = 2047 := rfl
  have hbias : (Format.binary64.exponentBias : Int) = 1023 := rfl
  show Parts.ofBits x.toBits.toNat = partsOf (UnpackedFloat.unpack Format.binary64 (bits x))
  unfold Parts.ofBits UnpackedFloat.unpack
  simp only [← BitVec.toNat_inj, hexponent, hmantissa, hleading, hmax, hbias, BitVec.toNat_ofNat,
    Nat.zero_mod, Nat.pow_eq]
  split
  · split <;> simp only [partsOf, hsign]
  · split
    case isTrue hfield =>
      split
      case isTrue hfraction => simp only [partsOf, hsign, hfraction]
      case isFalse =>
        simp only [partsOf, hsign, hfield]
        rfl
    case isFalse =>
      simp only [partsOf, hsign]
      rfl

/-- How a finite number is written: in as many places as there are, or with the least exponent. -/
structure Written (m : Nat) (q : Int) : Prop where
  short : m < 2 ^ 53
  least_le : -1074 ≤ q
  full : 2 ^ 52 ≤ m ∨ q = -1074

theorem written {x : Float} {negative : Bool} {m : Nat} {q : Int}
    (h : parts x = .finite negative m q) : Written m q := by
  unfold parts Parts.ofBits at h
  simp only [Nat.pow_eq] at h
  split at h
  · split at h <;> cases h
  · split at h
    · cases h
      exact ⟨by omega, by omega, .inr rfl⟩
    · cases h
      exact ⟨by omega, by omega, .inl (by omega)⟩

theorem magnitude_pos {m : Nat} (pos : 0 < m) (q : Int) : 0 < magnitude m q :=
  mul_pos (Nat.cast_pos.mpr pos) (zpow_pos two_pos q)

/-- A greater exponent makes a greater number, and with one exponent the longer number is greater. -/
theorem magnitude_lt {m n : Nat} {p q : Int} (hm : Written m p) (hn : Written n q)
    (h : (compare p q).then (compare m n) = .lt) : magnitude m p < magnitude n q := by
  rcases lt_trichotomy p q with hlt | rfl | hgt
  · have hfull : 2 ^ 52 ≤ n := by
      have hleast := hm.least_le
      rcases hn.full with hfull | hleastq
      · exact hfull
      · omega
    have hshort : (m : ℝ) < 2 ^ 53 := by exact_mod_cast hm.short
    have hlong : (2 : ℝ) ^ 52 ≤ n := by exact_mod_cast hfull
    calc magnitude m p < 2 ^ 53 * 2 ^ p := mul_lt_mul_of_pos_right hshort (zpow_pos two_pos p)
      _ = 2 ^ 52 * 2 ^ (p + 1) := by
        rw [zpow_add_one₀ two_ne_zero]
        ring
      _ ≤ 2 ^ 52 * 2 ^ q := by
        gcongr
        · exact one_le_two
        · omega
      _ ≤ magnitude n q := mul_le_mul_of_nonneg_right hlong (zpow_pos two_pos q).le
  · have hless : m < n := by simpa [Nat.compare_eq_lt] using h
    exact mul_lt_mul_of_pos_right (Nat.cast_lt.mpr hless) (zpow_pos two_pos p)
  · simp [Int.compare_eq_gt.mpr hgt] at h

noncomputable def value : UnpackedFloat → ℝ
  | .finite .positive m e _ => magnitude m e
  | .finite .negative m e _ => -magnitude m e
  | _ => 0

theorem realValue_eq (x : Float) : realValue x = value x.toModel.unpack := by
  rw [realValue, parts_eq]
  cases x.toModel.unpack with
  | finite s m e _ => cases s <;> simp [partsOf, isNegative, value, magnitude]
  | zero s => simp [partsOf, value]
  | _ => rfl

theorem value_lt {a b : UnpackedFloat} (ha : a.isFinite) (hb : b.isFinite)
    (writtenA : ∀ s m e pos, a = .finite s m e pos → Written m e)
    (writtenB : ∀ s m e pos, b = .finite s m e pos → Written m e)
    (h : a.compare b = some .lt) : value a < value b := by
  cases a with
  | notANumber => cases ha
  | infinity s => cases ha
  | zero s =>
    cases b with
    | notANumber => cases hb
    | infinity t => cases hb
    | zero t => cases h
    | finite t n f pos =>
      cases t with
      | negative => cases h
      | positive => exact magnitude_pos pos f
  | finite s m e pos =>
    have hm := writtenA s m e pos rfl
    cases b with
    | notANumber => cases hb
    | infinity t => cases hb
    | zero t =>
      cases s with
      | negative => exact neg_neg_of_pos (magnitude_pos pos e)
      | positive => cases h
    | finite t n f pos' =>
      have hn := writtenB t n f pos' rfl
      cases s with
      | negative =>
        cases t with
        | negative =>
          have hgreater : (compare f e).then (compare n m) = .lt := by
            rw [Std.OrientedOrd.eq_swap (a := f), Std.OrientedOrd.eq_swap (a := n),
              ← Ordering.swap_then]
            exact Option.some.inj h
          exact neg_lt_neg (magnitude_lt hn hm hgreater)
        | positive =>
          exact (neg_neg_of_pos (magnitude_pos pos e)).trans (magnitude_pos pos' f)
      | positive =>
        cases t with
        | negative => cases h
        | positive => exact magnitude_lt hm hn (Option.some.inj h)

theorem written_unpack {x : Float} {s : UnpackedFloat.Sign} {m : Nat} {e : Int} {pos : 0 < m}
    (h : x.toModel.unpack = .finite s m e pos) : Written m e :=
  written ((parts_eq x).trans (congrArg partsOf h))

/-- Finite doubles are ordered as their values are. -/
theorem realValue_lt {x y : Float} (hx : x.isFinite) (hy : y.isFinite) (h : x < y) :
    realValue x < realValue y := by
  rw [realValue_eq, realValue_eq]
  exact value_lt hx hy (fun _ _ _ _ => written_unpack) (fun _ _ _ _ => written_unpack)
    (lt_iff.mp h)

theorem isNaN_of_isFinite {x : Float} (h : x.isFinite) : x.isNaN = false := by
  have hfinite : x.toModel.unpack.isFinite = true := h
  show x.toModel.unpack.isNaN = false
  cases hx : x.toModel.unpack with
  | notANumber =>
    rw [hx] at hfinite
    cases hfinite
  | _ => rfl

theorem realValue_lt_of_not_le {x y : Float} (hx : x.isFinite) (hy : y.isFinite) (h : ¬x ≤ y) :
    realValue y < realValue x :=
  realValue_lt hy hx (lt_of_not_le (isNaN_of_isFinite hx) (isNaN_of_isFinite hy) h)

theorem realValue_zero : realValue 0.0 = 0 := by
  have hparts : parts 0.0 = .finite false 0 (-1074) := by decide
  rw [realValue, hparts]
  simp

theorem isFinite_of_compare {a b c : UnpackedFloat} (ha : a.isFinite) (hc : c.isFinite)
    (low : a.compare b = some .lt) (high : (b.compare c).any (·.isLE) = true) : b.isFinite := by
  cases b with
  | notANumber => cases a <;> cases low
  | infinity s =>
    cases s with
    | negative =>
      cases a with
      | notANumber => cases ha
      | infinity t => cases ha
      | _ => cases low
    | positive =>
      cases c with
      | notANumber => cases hc
      | infinity t => cases hc
      | _ => cases high
  | zero s => rfl
  | finite s m e pos => rfl

theorem isFinite_of_between {x y z : Float} (hx : x.isFinite) (hz : z.isFinite) (low : x < y)
    (high : y ≤ z) : y.isFinite :=
  isFinite_of_compare hx hz (lt_iff.mp low) (le_iff.mp high)

theorem realValue_pos {x : Float} (hx : x.isFinite) (pos : 0.0 < x) : 0 < realValue x := by
  have hzero : (0.0 : Float).isFinite := by decide
  exact realValue_zero ▸ realValue_lt hzero hx pos

theorem num_ofBinary_zero (q : Int) : (Ratio.ofBinary 0 q).num = 0 := by
  cases q <;> simp [Ratio.ofBinary, Ratio.scale]

theorem of_compareIntReal {x : Float} {negative : Bool} {m : Nat} {q : Int}
    (h : parts x = .finite negative m q) (low : Value.compareIntReal 0 x = some .lt) :
    negative = false ∧ m ≠ 0 := by
  simp only [Value.compareIntReal, h, Option.some.injEq, Int.compare_eq_lt, Int.zero_mul] at low
  split at low
  · omega
  · refine ⟨by simp_all, ?_⟩
    rintro rfl
    rw [num_ofBinary_zero] at low
    omega

theorem pos_of_compareNumbers {x : Float}
    (h : Value.compareNumbers (.inr x) (.inl 0) = some .gt) : 0.0 < x := by
  have hbelow : Value.compareIntReal 0 x = some .lt := by
    obtain ⟨o, ho, hswap⟩ := Option.map_eq_some_iff.mp h
    cases o with
    | lt => exact ho
    | _ => cases hswap
  have hparts := parts_eq x
  rw [lt_iff]
  show (UnpackedFloat.zero .positive).compare x.toModel.unpack = some .lt
  generalize x.toModel.unpack = u at hparts ⊢
  cases u with
  | notANumber =>
    rw [Value.compareIntReal, hparts] at hbelow
    cases hbelow
  | infinity s =>
    rw [Value.compareIntReal, hparts] at hbelow
    cases s with
    | negative => cases hbelow
    | positive => rfl
  | zero s => exact absurd rfl (of_compareIntReal hparts hbelow).2
  | finite s m e pos =>
    cases s with
    | negative => cases (of_compareIntReal hparts hbelow).1
    | positive => rfl

end Double
end StreamingLM
