import Mathlib.Topology.Algebra.Order.Field
import StreamingLM.Proofs.Config.Accepted
import StreamingLM.Proofs.Number.Value

/-!
Stretching of frequencies by parts, over the real numbers. Main statement: with accepted factors the
stretched frequency lies between the frequency and its quotient by the scale factor, is the one or the
other beyond the cutoffs, and grows with the frequency, without a jump.
-/
namespace StreamingLM

namespace StretchFactors

/-- What is known of accepted factors: all are positive, and the cutoffs do not coincide. -/
structure Proper (k : StretchFactors ℝ) : Prop where
  scale_pos : 0 < k.scale
  low_pos : 0 < k.low
  low_lt_high : k.low < k.high
  context_pos : 0 < k.context

section Share

variable (k : StretchFactors ℝ) (turn : ℝ)

noncomputable def ramp (f : ℝ) : ℝ := (k.context * f / turn - k.low) / (k.high - k.low)

/-- The share of a frequency that is not divided. -/
noncomputable def share (f : ℝ) : ℝ := max 0 (min 1 (k.ramp turn f))

theorem share_nonneg (f : ℝ) : 0 ≤ k.share turn f := le_max_left _ _

theorem share_le_one (f : ℝ) : k.share turn f ≤ 1 := max_le zero_le_one (min_le_left _ _)

variable {k turn}

theorem share_eq_one {f : ℝ} (h : 1 ≤ k.ramp turn f) : k.share turn f = 1 := by
  rw [share, min_eq_left h, max_eq_right zero_le_one]

theorem share_eq_zero {f : ℝ} (h : k.ramp turn f ≤ 0) : k.share turn f = 0 := by
  rw [share, max_eq_left ((min_le_right _ _).trans h)]

theorem share_eq_ramp {f : ℝ} (nonneg : 0 ≤ k.ramp turn f) (le_one : k.ramp turn f ≤ 1) :
    k.share turn f = k.ramp turn f := by
  rw [share, min_eq_right le_one, max_eq_right nonneg]

/-- A frequency of which a share is kept and the rest is divided. -/
noncomputable def mixed (k : StretchFactors ℝ) (t f : ℝ) : ℝ := (1 - t) * (f / k.scale) + t * f

theorem mixed_zero (f : ℝ) : k.mixed 0 f = f / k.scale := by simp [mixed]

theorem mixed_one (f : ℝ) : k.mixed 1 f = f := by simp [mixed]

variable {f : ℝ}

theorem blended_eq : k.blended (turn / f) f = k.mixed (k.ramp turn f) f := by
  have hblend : k.blend (turn / f) = k.ramp turn f := by
    show (k.context / (turn / f) - k.low) / (k.high - k.low) = _
    rw [div_div_eq_mul_div, ramp]
  have hone : (Scalar.one : ℝ) = 1 := Int.cast_one
  rw [blended, hblend, hone, mixed, mul_div_assoc]

section Bands

variable (turn_pos : 0 < turn) (hf : 0 < f)

include turn_pos hf

theorem wavelength_le_iff {cutoff : ℝ} (pos : 0 < cutoff) :
    turn / f ≤ k.context / cutoff ↔ cutoff ≤ k.context * f / turn := by
  rw [div_le_div_iff₀ hf pos, le_div_iff₀ turn_pos, mul_comm]

theorem le_wavelength_iff {cutoff : ℝ} (pos : 0 < cutoff) :
    k.context / cutoff ≤ turn / f ↔ k.context * f / turn ≤ cutoff := by
  rw [div_le_div_iff₀ pos hf, div_le_iff₀ turn_pos, mul_comm turn]

variable (h : k.Proper)

include h

theorem fast_iff : turn / f ≤ k.context / k.high ↔ 1 ≤ k.ramp turn f := by
  rw [wavelength_le_iff turn_pos hf (h.low_pos.trans h.low_lt_high), ramp,
    one_le_div (sub_pos.mpr h.low_lt_high), sub_le_sub_iff_right]

theorem not_fast_iff : k.context / k.high ≤ turn / f ↔ k.ramp turn f ≤ 1 := by
  rw [le_wavelength_iff turn_pos hf (h.low_pos.trans h.low_lt_high), ramp,
    div_le_one (sub_pos.mpr h.low_lt_high), sub_le_sub_iff_right]

theorem slow_iff : k.context / k.low ≤ turn / f ↔ k.ramp turn f ≤ 0 := by
  rw [le_wavelength_iff turn_pos hf h.low_pos, ramp, div_le_iff₀ (sub_pos.mpr h.low_lt_high),
    zero_mul, sub_nonpos]

theorem not_slow_iff : turn / f ≤ k.context / k.low ↔ 0 ≤ k.ramp turn f := by
  rw [wavelength_le_iff turn_pos hf h.low_pos, ramp, le_div_iff₀ (sub_pos.mpr h.low_lt_high),
    zero_mul, sub_nonneg]

theorem stretchBy_eq : k.stretchBy turn f = k.mixed (k.share turn f) f := by
  have hbands : k.stretchBy turn f = if turn / f < k.context / k.high then f
      else if k.context / k.low < turn / f then f / k.scale else k.blended (turn / f) f := by
    simp only [stretchBy, Scalar.lt, decide_eq_true_eq]
  rw [hbands]
  split
  case isTrue fast => rw [share_eq_one ((fast_iff turn_pos hf h).mp fast.le), mixed_one]
  case isFalse fast =>
    split
    case isTrue slow => rw [share_eq_zero ((slow_iff turn_pos hf h).mp slow.le), mixed_zero]
    case isFalse slow =>
      rw [blended_eq, share_eq_ramp ((not_slow_iff turn_pos hf h).mp (not_lt.mp slow))
        ((not_fast_iff turn_pos hf h).mp (not_lt.mp fast))]

end Bands

theorem mixed_between {t : ℝ} (nonneg : 0 ≤ t) (le_one : t ≤ 1) (f : ℝ) :
    min f (f / k.scale) ≤ k.mixed t f ∧ k.mixed t f ≤ max f (f / k.scale) := by
  have hlow := min_le_left f (f / k.scale)
  have hlow' := min_le_right f (f / k.scale)
  have hhigh := le_max_left f (f / k.scale)
  have hhigh' := le_max_right f (f / k.scale)
  rw [mixed]
  constructor <;> nlinarith

theorem ramp_mono (h : k.Proper) (turn_pos : 0 < turn) : Monotone (k.ramp turn) := by
  intro f g hfg
  have hwidth := sub_pos.mpr h.low_lt_high
  have hcontext := h.context_pos
  unfold ramp
  gcongr

theorem share_mono (h : k.Proper) (turn_pos : 0 < turn) : Monotone (k.share turn) :=
  fun _ _ hfg => max_le_max le_rfl (min_le_min le_rfl (ramp_mono h turn_pos hfg))

theorem mixed_lt (h : k.Proper) (scale_ge : 1 ≤ k.scale) {t u f g : ℝ} (nonneg : 0 ≤ t)
    (htu : t ≤ u) (hf : 0 < f) (hfg : f < g) : k.mixed t f < k.mixed u g := by
  let gain (s : ℝ) : ℝ := (1 - s) * k.scale⁻¹ + s
  have hgain (s x : ℝ) : k.mixed s x = x * gain s := by
    rw [mixed, div_eq_mul_inv]
    ring
  have hinv : 0 < k.scale⁻¹ := inv_pos.mpr h.scale_pos
  have hinv_le : k.scale⁻¹ ≤ 1 := inv_le_one_of_one_le₀ scale_ge
  have hpos : 0 < gain t := by
    have hrest : 0 ≤ t * (1 - k.scale⁻¹) := mul_nonneg nonneg (sub_nonneg.mpr hinv_le)
    have hsplit : gain t = k.scale⁻¹ + t * (1 - k.scale⁻¹) := by ring
    rw [hsplit]
    exact add_pos_of_pos_of_nonneg hinv hrest
  have hmono : gain t ≤ gain u := by
    have hmore : 0 ≤ (u - t) * (1 - k.scale⁻¹) :=
      mul_nonneg (sub_nonneg.mpr htu) (sub_nonneg.mpr hinv_le)
    have hsplit : gain u = gain t + (u - t) * (1 - k.scale⁻¹) := by ring
    rw [hsplit]
    exact le_add_of_nonneg_right hmore
  rw [hgain, hgain]
  calc f * gain t < g * gain t := mul_lt_mul_of_pos_right hfg hpos
    _ ≤ g * gain u := mul_le_mul_of_nonneg_left hmono (hf.trans hfg).le

theorem continuous_mixed_share (k : StretchFactors ℝ) (turn : ℝ) :
    Continuous fun f => k.mixed (k.share turn f) f := by
  unfold mixed share ramp
  fun_prop

end Share

end StretchFactors

namespace FrequencyScaling

variable {v : Value} {s : FrequencyScaling}

theorem settings_valid (ok : reader v = .valid s) : ¬s.scaleFactor ≤ 0.0 ∧ ¬s.lowFactor ≤ 0.0 ∧
    ¬s.highFactor ≤ s.lowFactor ∧ 0 < s.oldContext := by
  cases v with
  | dict entries =>
    obtain ⟨hfields, hrule⟩ := Validated.keeping_eq_valid.mp ok
    simp only [Validated.seq_eq_valid, Validated.map_eq_valid] at hfields
    obtain ⟨_, _, ⟨_, _, ⟨_, _, ⟨_, hscale, rfl⟩, hlow, rfl⟩, hhigh, rfl⟩, hcontext, rfl⟩ := hfields
    refine ⟨Reader.withDefault_not_le hscale (by decide), Reader.withDefault_not_le hlow (by decide),
      ?_, Reader.withDefault_pos hcontext (by decide)⟩
    unfold factorOrder at hrule
    split at hrule
    · cases hrule
    · assumption
  | _ => cases ok

theorem factors_proper (ok : reader v = .valid s) (scale : s.scaleFactor.isFinite)
    (low : s.lowFactor.isFinite) (high : s.highFactor.isFinite) :
    (s.factors : StretchFactors ℝ).Proper := by
  obtain ⟨hscale, hlow, horder, hcontext⟩ := settings_valid ok
  have hzero : Float.isFinite 0.0 := by decide
  refine ⟨?_, ?_, Double.realValue_lt_of_not_le high low horder, Int.cast_pos.mpr hcontext⟩
  · rw [← Double.realValue_zero]
    exact Double.realValue_lt_of_not_le scale hzero hscale
  · rw [← Double.realValue_zero]
    exact Double.realValue_lt_of_not_le low hzero hlow

open StretchFactors in
/-- Stretching by parts has no jumps, is bounded and keeps the order, whatever the angle of a full turn.
A stretched frequency lies between the frequency and its quotient by the scale factor. It is the former
up to the short cutoff of the wavelength and the latter from the long one on, and the blend agrees with
them at the cutoffs. With a scale factor of at least one, it grows with the frequency. -/
theorem stretch_by_parts (ok : reader v = .valid s)
    (finite : s.scaleFactor.isFinite ∧ s.lowFactor.isFinite ∧ s.highFactor.isFinite) {turn : ℝ}
    (turn_pos : 0 < turn) :
    let k : StretchFactors ℝ := s.factors
    (∀ f, 0 < f →
      (min f (f / k.scale) ≤ k.stretchBy turn f ∧ k.stretchBy turn f ≤ max f (f / k.scale)) ∧
      (turn / f ≤ k.context / k.high → k.stretchBy turn f = f) ∧
      (k.context / k.low ≤ turn / f → k.stretchBy turn f = f / k.scale) ∧
      (turn / f = k.context / k.high → k.blended (turn / f) f = f) ∧
      (turn / f = k.context / k.low → k.blended (turn / f) f = f / k.scale)) ∧
    ContinuousOn (k.stretchBy turn) (Set.Ioi 0) ∧
    (1 ≤ k.scale → ∀ f g, 0 < f → f < g → k.stretchBy turn f < k.stretchBy turn g) := by
  intro k
  have h : k.Proper := factors_proper ok finite.1 finite.2.1 finite.2.2
  refine ⟨fun f hf => ⟨?_, fun fast => ?_, fun slow => ?_, fun short => ?_, fun long => ?_⟩,
    ?_, fun scale_ge f g hf hfg => ?_⟩
  · rw [stretchBy_eq turn_pos hf h]
    exact mixed_between (share_nonneg k turn f) (share_le_one k turn f) f
  · rw [stretchBy_eq turn_pos hf h, share_eq_one ((fast_iff turn_pos hf h).mp fast), mixed_one]
  · rw [stretchBy_eq turn_pos hf h, share_eq_zero ((slow_iff turn_pos hf h).mp slow), mixed_zero]
  · have hramp : k.ramp turn f = 1 := le_antisymm ((not_fast_iff turn_pos hf h).mp short.ge)
      ((fast_iff turn_pos hf h).mp short.le)
    rw [blended_eq, hramp, mixed_one]
  · have hramp : k.ramp turn f = 0 := le_antisymm ((slow_iff turn_pos hf h).mp long.ge)
      ((not_slow_iff turn_pos hf h).mp long.le)
    rw [blended_eq, hramp, mixed_zero]
  · exact (continuous_mixed_share k turn).continuousOn.congr
      fun f hf => stretchBy_eq turn_pos hf h
  · rw [stretchBy_eq turn_pos hf h, stretchBy_eq turn_pos (hf.trans hfg) h]
    exact mixed_lt h scale_ge (share_nonneg k turn f) (share_mono h turn_pos hfg.le) hf hfg

/-- The default factors, with the full turn of the model. -/
theorem default_stretches : reader (.dict []) = .valid {} ∧
    let k : StretchFactors ℝ := FrequencyScaling.factors {}
    (0 : ℝ) < StretchFactors.tau ∧ k.scale = 8 ∧
    (∀ f, 0 < f → k.stretch f ≤ max f (f / 8)) ∧
    ∀ f g, 0 < f → f < g → k.stretch f < k.stretch g := by
  have htau : (0 : ℝ) < StretchFactors.tau := by
    have hlt : realValue 0.0 < realValue 6.283185307179586 :=
      Double.realValue_lt (by decide) (by decide) (by decide)
    rwa [Double.realValue_zero] at hlt
  have hscale : (FrequencyScaling.factors {} : StretchFactors ℝ).scale = 8 := by
    have hparts : Decimal.parts 8.0 = .finite false (2 ^ 52) (-49) := by decide
    show realValue 8.0 = 8
    rw [realValue, hparts]
    norm_num
  obtain ⟨hbounds, -, hgrows⟩ :=
    stretch_by_parts (v := .dict []) (s := {}) rfl ⟨by decide, by decide, by decide⟩ htau
  refine ⟨rfl, htau, hscale, fun f hf => ?_, hgrows (by rw [hscale]; norm_num)⟩
  obtain ⟨⟨-, hle⟩, -⟩ := hbounds f hf
  rw [hscale] at hle
  exact hle

end FrequencyScaling
end StreamingLM
