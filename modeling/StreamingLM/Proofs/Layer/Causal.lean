import Mathlib.Data.List.TakeDrop
import StreamingLM.Proofs.Layer.CachedStep

/-!
What a mask leaves. In a number system in which a score that is ruled out has no weight at all,
attention under a row of the causal mask is attention over the positions that the row allows.
-/
namespace StreamingLM

/-- The laws by which a position without weight drops out: a ruled-out score is no score, and zero
vanishes in sums, products and quotients. -/
class MaskLaws (α : Type) [Scalar α] : Prop where
  ruledOut_eq : (Scalar.ruledOut : Option α) = none
  add_zero : ∀ a : α, a + Scalar.zero = a
  zero_mul : ∀ a : α, Scalar.zero * a = Scalar.zero
  zero_div : ∀ a : α, Scalar.zero / a = Scalar.zero

section Weights

variable {α : Type} [Scalar α] [MaskLaws α]

theorem total_append_zeros (xs : List α) (n : Nat) :
    total (xs ++ List.replicate n Scalar.zero) = total xs := by
  have hzeros : ∀ a : α, (List.replicate n Scalar.zero).foldl (· + ·) a = a := by
    induction n with
    | zero => exact fun _ => rfl
    | succ n ih =>
      intro a
      rw [List.replicate_succ, List.foldl_cons, MaskLaws.add_zero, ih]
  rw [total, List.foldl_append, hzeros, total]

theorem softmaxPresent_append_none {scores : List α} (h : scores ≠ []) (n : Nat) :
    softmaxPresent (scores.map some ++ List.replicate n none) =
      softmaxPresent (scores.map some) ++ List.replicate n Scalar.zero := by
  obtain ⟨x, xs, rfl⟩ := List.exists_cons_of_ne_nil h
  have hsome : (List.map some (x :: xs)).filterMap id = x :: xs := by simp
  have hnone : (List.map some (x :: xs) ++ List.replicate n none).filterMap id = x :: xs := by
    simp
  have hzero (a : α) : weight a none = Scalar.zero := rfl
  unfold softmaxPresent
  rw [hsome, hnone]
  simp only [List.map_append, List.map_replicate, hzero, total_append_zeros, MaskLaws.zero_div]

theorem addScaled_zero {acc v : List α} (h : acc.length ≤ v.length) :
    addScaled acc Scalar.zero v = acc := by
  have hkeep : (fun a x : α => a + Scalar.zero * x) = fun a _ => a := by
    funext a x
    rw [MaskLaws.zero_mul, MaskLaws.add_zero]
  rw [addScaled, hkeep]
  induction acc generalizing v with
  | nil => rfl
  | cons a acc ih =>
    cases v with
    | nil => simp at h
    | cons x v => rw [List.zipWith_cons_cons, ih (by simpa using h)]

def addWeighted (acc : List α) (entries : List (α × List α)) : List α :=
  entries.foldl (fun acc entry => addScaled acc entry.1 entry.2) acc

omit [MaskLaws α] in
theorem length_addWeighted_le (entries : List (α × List α)) (acc : List α) :
    (addWeighted acc entries).length ≤ acc.length := by
  induction entries generalizing acc with
  | nil => exact le_rfl
  | cons entry entries ih =>
    have hfirst : (addScaled acc entry.1 entry.2).length ≤ acc.length := by
      rw [addScaled, List.length_zipWith]
      exact Nat.min_le_left _ _
    exact (ih _).trans hfirst

theorem addWeighted_zeros {acc : List α} {more : List (List α)}
    (long : ∀ v ∈ more, acc.length ≤ v.length) :
    addWeighted acc (List.zip (List.replicate more.length Scalar.zero) more) = acc := by
  induction more with
  | nil => rfl
  | cons v more ih =>
    have hfirst := addScaled_zero (long v (by simp))
    have hrest := ih fun u hu => long u (List.mem_cons_of_mem _ hu)
    rw [addWeighted] at hrest
    rw [List.length_cons, List.replicate_succ, List.zip_cons_cons, addWeighted, List.foldl_cons,
      hfirst, hrest]

theorem weightedSum_append_zeros (width : Nat) {weights : List α} (h : weights ≠ [])
    {vectors more : List (List α)} (all : weights.length = vectors.length) {size : Nat}
    (uniform : ∀ v ∈ vectors ++ more, v.length = size) :
    weightedSum width (weights ++ List.replicate more.length Scalar.zero) (vectors ++ more) =
      weightedSum width weights vectors := by
  have hbegun : (weightedSum width weights vectors).length ≤ size := by
    obtain ⟨w, ws, rfl⟩ := List.exists_cons_of_ne_nil h
    obtain ⟨v, vs, rfl⟩ := List.exists_cons_of_length_pos (all ▸ List.length_pos_of_ne_nil h)
    have hv : (addScaled (List.replicate width Scalar.zero) w v).length ≤ size := by
      rw [addScaled, List.length_zipWith, uniform v (by simp)]
      exact Nat.min_le_right _ _
    exact (length_addWeighted_le (List.zip ws vs) _).trans hv
  have hmore : ∀ v ∈ more, (weightedSum width weights vectors).length ≤ v.length := fun v hv => by
    rw [uniform v (List.mem_append_right _ hv)]
    exact hbegun
  have hzeros := addWeighted_zeros hmore
  rw [weightedSum, List.zip_append all, List.foldl_append]
  exact hzeros

end Weights

namespace Attention

variable {α : Type} [Scalar α]

theorem maskScores_row [MaskLaws α] (queries i : Nat) (scores : List α) :
    let seen := scores.length - queries + i + 1
    maskScores (some (maskRow queries scores.length i)) scores =
      (scores.take seen).map some ++ List.replicate (scores.length - seen) none := by
  intro seen
  simp only [maskScores, MaskLaws.ruledOut_eq]
  apply List.ext_getElem
  · simp only [maskRow, List.length_zipWith, List.length_map, List.length_range,
      List.length_append, List.length_take, List.length_replicate]
    omega
  · intro j h₁ h₂
    simp only [maskRow, List.getElem_zipWith, List.getElem_map, List.getElem_range,
      List.getElem_append, List.length_map, List.length_take, List.getElem_take,
      List.getElem_replicate, decide_eq_true_eq]
    have hj : j < scores.length := by
      simp only [maskRow, List.length_zipWith, List.length_map, List.length_range] at h₁
      omega
    by_cases h : j < seen
    · rw [if_pos (by omega), dif_pos (by omega)]
    · rw [if_neg (by omega), dif_neg (by omega)]

theorem attendOne_causal [MaskLaws α] (dim : Nat) (scale : α) (query : List α)
    {keys values : List (List α)} (queries i : Nat) (all : keys.length = values.length)
    (nonempty : keys ≠ []) {size : Nat} (uniform : ∀ v ∈ values, v.length = size) :
    let seen := keys.length - queries + i + 1
    attendOne dim scale (some (maskRow queries keys.length i)) query keys values =
      attendOne dim scale none query (keys.take seen) (values.take seen) := by
  intro seen
  let scores := keys.map fun key => dot query key * scale
  have hlen : scores.length = keys.length := List.length_map ..
  have hfirst : (keys.take seen).map (fun key => dot query key * scale) = scores.take seen :=
    List.map_take
  have hmask := maskScores_row queries i scores
  rw [hlen] at hmask
  have hseen : scores.take seen ≠ [] := by
    simp only [ne_eq, List.take_eq_nil_iff, not_or]
    exact ⟨Nat.succ_ne_zero _, by simpa [scores] using nonempty⟩
  have hmore : keys.length - seen = (values.drop seen).length := by rw [List.length_drop, all]
  have hweights : softmaxPresent ((scores.take seen).map some) ≠ [] := by
    rw [← List.length_pos_iff, length_softmaxPresent, List.length_map]
    exact List.length_pos_of_ne_nil hseen
  have htake : (softmaxPresent ((scores.take seen).map some)).length =
      (values.take seen).length := by
    rw [length_softmaxPresent, List.length_map, List.length_take, List.length_take, hlen, all]
  have huniform : ∀ v ∈ values.take seen ++ values.drop seen, v.length = size := by
    rw [List.take_append_drop]
    exact uniform
  have hsum := weightedSum_append_zeros dim hweights htake huniform
  rw [List.take_append_drop, ← hmore] at hsum
  calc attendOne dim scale (some (maskRow queries keys.length i)) query keys values
      = weightedSum dim (softmaxPresent ((scores.take seen).map some ++
          List.replicate (keys.length - seen) none)) values := by rw [← hmask]; rfl
    _ = weightedSum dim (softmaxPresent ((scores.take seen).map some)) (values.take seen) := by
        rw [softmaxPresent_append_none hseen, hsum]
    _ = attendOne dim scale none query (keys.take seen) (values.take seen) := by
        rw [attendOne, hfirst]
        rfl

end Attention
end StreamingLM
