import StreamingLM.Proofs.Model.Engine
import StreamingLM.Proofs.Number.Value
import StreamingLM.Proofs.Sampling.Greedy

/-!
The samplers that settings ask for. In exact arithmetic each of them gives every row of scores a known
token, so calls with them fail for no reason that their caller cannot see.
-/
namespace StreamingLM

theorem lt_length_of_massAt {row : List ℝ} {i : Nat} (h : 0 < massAt row i) : i < row.length := by
  by_contra hout
  have hnone : massAt row i = 0 := by simp [massAt, not_lt.mp hout]
  exact h.ne' hnone

namespace Sampler

variable {c : LlamaConfig} {temperature p : Float}

/-- At a temperature above zero every row is drawn from, and what is drawn is an id of the row. -/
theorem nucleus_draws (h : 0 < c.vocabSize) (hot : 0.0 < temperature) (mass : 0 < realValue p)
    (seed : Int) (g : Generator) : Sampling.Draws ℝ c temperature (nucleus p seed g) := by
  refine ⟨fun s => ∃ g, s = .nucleus p seed g, ⟨g, rfl⟩, ?_⟩
  rintro s ⟨g, rfl⟩ row hrow
  have hlength := (Generation.length_tempered temperature row).trans hrow
  have hnonempty : Generation.tempered temperature row ≠ [] := List.length_pos_iff.mp (by omega)
  rw [Generation.tempered, if_pos hot] at hlength hnonempty ⊢
  have hweighs := List.sum_pos _ (fun _ => softmaxAt_pos (Scalar.ofFloat temperature)) hnonempty
  obtain ⟨ids, -, order, kept, drawable⟩ :=
    drawable_row (fun x hx => (softmaxAt_pos _ hx).le) hweighs mass
  obtain ⟨i, hi, hsample⟩ := drawable.sampled p seed g rfl
  have hlt := lt_length_of_massAt ((drawable.mem_iff i).mp hi).2
  exact ⟨i, _, hsample, ⟨by omega, by omega⟩, _, rfl⟩

theorem of_ofMass {seed : Int} {s : Sampler} (ok : ofMass (.real p) seed = .ok s) :
    (0.0 < p ∧ p ≤ 1.0) ∧ s = nucleus p seed (Generator.ofSeed seed) := by
  obtain ⟨mass, hmass, hrest⟩ := Outcome.bind_eq_ok.mp ok
  obtain rfl : p = mass := Except.ok.inj hmass
  split at hrest
  case isFalse => cases hrest
  case isTrue bounds =>
    split at hrest
    case isFalse => cases hrest
    case isTrue =>
      cases hrest
      exact ⟨bounds, rfl⟩

/-- The sampler of any settings gives known tokens at their temperature. -/
theorem ofSettings_draws (h : 0 < c.vocabSize) {seed now : Int} {s : Sampler}
    (settled : ofSettings (.real temperature) (.real p) seed now = .ok s) :
    Sampling.Draws ℝ c temperature s := by
  obtain ⟨order, horder, hrest⟩ := Outcome.bind_eq_ok.mp settled
  by_cases hgt : order = some .gt
  · rw [if_pos hgt] at hrest
    obtain ⟨⟨low, high⟩, rfl⟩ := of_ofMass hrest
    have hot : 0.0 < temperature := Double.pos_of_compareNumbers ((Except.ok.inj horder).trans hgt)
    have hfinite : p.isFinite := Double.isFinite_of_between (by decide : (0.0 : Float).isFinite)
      (by decide : (1.0 : Float).isFinite) low high
    exact nucleus_draws h hot (Double.realValue_pos hfinite low) _ _
  · rw [if_neg hgt] at hrest
    cases hrest
    exact Sampling.greedy_draws ℝ h temperature

end Sampler

namespace Llama

variable {σ : Type} {c : LlamaConfig} {m : Llama ℝ}

/-- With the sampler of any settings, a call on known tokens fails exactly for the reasons that can be
seen from outside. -/
theorem Reachable.settings_fail {fresh : Filling ℝ} (fills : fresh.Fills) {d : Directory ℝ}
    (h : Reachable fresh d c m) {prompt : String} {ids : List Int}
    (tokenized : m.tokenize prompt = .ok ids) (known : ∀ id ∈ ids, c.Knows id) {l : Listener σ}
    (fair : m.Fair c l) {temperature p : Float} {seed now : Int} {sampler : Sampler}
    (settled : Sampler.ofSettings (.real temperature) (.real p) seed now = .ok sampler)
    (pace : Nat → Pace) (n : Int) (audience : σ) (f : Failure) :
    (m.generatePaced pace prompt n temperature sampler l audience).1 = .error f ↔
      generateFailure c.window ids n = some f := by
  obtain ⟨v, accepted⟩ := h.accepted
  obtain ⟨single, hm⟩ := h.sound fills
  have hdraws := Sampler.ofSettings_draws (LlamaConfig.vocabSize_pos accepted) settled
  have hchooses := hm.chooses fair hdraws tokenized known pace n audience
  obtain ⟨result, after, hcall, -, hfails⟩ := generate_outcome hm fair tokenized known hchooses
  rw [hcall]
  exact hfails f

end Llama
end StreamingLM
