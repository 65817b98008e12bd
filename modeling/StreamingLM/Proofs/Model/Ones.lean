import StreamingLM.Proofs.Model.Engine
import StreamingLM.Proofs.Session.Collected

/-!
A model all of whose parameters are one gives every token the same score. Which one a greedy chooser
takes is then known as far as it matters: the first or the last, whatever the numbers are.
-/
namespace StreamingLM

open Outcome

variable {α : Type} [Scalar α]

theorem bestFrom_replicate (x : α) (i n : Nat) :
    bestFrom (i, x) (i + 1) (List.replicate n x) = (if beats x x then i + n else i, x) := by
  by_cases hbeats : beats x x = true
  · rw [if_pos hbeats]
    induction n generalizing i with
    | zero => rfl
    | succ n ih =>
      rw [List.replicate_succ, bestFrom, if_pos hbeats, ih, Nat.add_assoc, Nat.add_comm 1 n]
  · rw [if_neg hbeats]
    have hstill : ∀ j, bestFrom (i, x) j (List.replicate n x) = (i, x) := by
      induction n with
      | zero => exact fun j => rfl
      | succ n ih =>
        intro j
        rw [List.replicate_succ, bestFrom, if_neg hbeats]
        exact ih _
    exact hstill _

theorem argmax_replicate (x : α) (n : Nat) :
    argmax (List.replicate (n + 1) x) = .ok 0 ∨ argmax (List.replicate (n + 1) x) = .ok n := by
  rw [List.replicate_succ, argmax, bestFrom_replicate x 0 n]
  split
  · exact .inr (by rw [Nat.zero_add])
  · exact .inl rfl

namespace Parameters

theorem tensor_ones {shapes : List (String × List Nat)} {name : String} {shape : List Nat}
    (found : shapes.lookup name = some shape) :
    (ones (α := α) shapes).tensor name =
      ⟨shape, Array.replicate (Tensor.size shape) Scalar.one⟩ := by
  rw [tensor]
  induction shapes with
  | nil => cases found
  | cons entry shapes ih =>
    obtain ⟨other, size⟩ := entry
    rw [ones, List.map_cons, List.lookup_cons]
    rw [List.lookup_cons] at found
    split
    · rename_i hsame
      rw [hsame] at found
      cases found
      rfl
    · rename_i hother
      rw [hother] at found
      exact ih found

end Parameters

namespace Transformer

variable {t : Transformer α}

theorem step_scores {s after : DecodeState α} {batch : Nat} {tokens : List (List Int)}
    {steps : Steps α} (ok : t.step s batch tokens = (.ok steps, after)) :
    ∃ x, steps = t.scores x := by
  have hforward : ∀ (s : DecodeState α) (mask : Option Mask),
      t.forward s batch tokens mask = (.ok steps, after) → ∃ x, steps = t.scores x := by
    intro s mask ok
    simp only [forward] at ok
    split at ok
    · cases ok
    · cases hembed : t.embed tokens with
      | error f =>
        rw [hembed] at ok
        cases ok
      | ok x =>
        rw [hembed] at ok
        dsimp only at ok
        split at ok
        · cases ok
        · rename_i x _
          obtain ⟨-, -, rfl⟩ := map_eq_ok.mp (Prod.mk.inj ok).1
          exact ⟨x, rfl⟩
  rw [step] at ok
  split at ok
  · cases ok
  · exact hforward _ _ ok

theorem scores_alike {row : List α} (rows : ∀ r ∈ t.output.rows, r = row)
    (plain : t.output.bias = none) (x : Steps α) :
    ∃ y, ∀ score ∈ Tensor.rowAt ((t.scores x).getLast?.getD []) 0, score = y := by
  rw [scores, DecoderBlock.mapSteps, List.getLast?_map]
  cases x.getLast? with
  | none => exact ⟨Scalar.zero, fun score hscore => absurd hscore List.not_mem_nil⟩
  | some vectors =>
    cases vectors with
    | nil => exact ⟨Scalar.zero, fun score hscore => absurd hscore List.not_mem_nil⟩
    | cons v vectors =>
      refine ⟨dot (t.norm.apply v) row, fun score hscore => ?_⟩
      have happly : score ∈ t.output.rows.map fun r => dot (t.norm.apply v) r := by
        have hmem : score ∈ t.output.apply (t.norm.apply v) := hscore
        rwa [Linear.apply, plain] at hmem
      obtain ⟨r, hr, rfl⟩ := List.mem_map.mp happly
      rw [rows r hr]

end Transformer

namespace Tensor

omit [Scalar α] in
theorem mem_rows_replicate {n width : Nat} {x : α} {row : List α}
    (h : row ∈ rows ⟨[n, width], Array.replicate (n * width) x⟩) : row = List.replicate width x := by
  obtain ⟨i, hi, rfl⟩ := List.mem_map.mp h
  have hlt : i < n := by simpa [height, size] using hi
  have hin : (i + 1) * width ≤ n * width := Nat.mul_le_mul_right width hlt
  have hone : (i + 1) * width - i * width = width := by
    rw [← Nat.sub_mul, Nat.add_sub_cancel_left, Nat.one_mul]
  have hwidth : (⟨[n, width], Array.replicate (n * width) x⟩ : Tensor α).width = width := rfl
  rw [hwidth, List.eq_replicate_iff]
  refine ⟨by simp [chunk, Nat.min_eq_left hin, hone], fun y hy => ?_⟩
  simp [chunk] at hy
  exact hy.2

end Tensor

namespace Llama

variable {c : LlamaConfig} {single : 0 < c.batch} {m : Llama α} {d : Directory α}

theorem ones_chooses (ok : build Parameters.ones d c = .ok m) (single : 0 < c.batch) {n : Nat}
    (vocabulary : c.vocabSize = (n + 1 : Nat)) {ids : List Int} (nonempty : ids ≠ [])
    (short : ids.length ≤ c.window) (known : ∀ id ∈ ids, c.Knows id) {temperature : Float}
    (cold : ¬0.0 < temperature) :
    ∃ t steps state, m.transformer = .ok t ∧
      t.step m.state 1 (ids.map fun id => [id]) = (.ok steps, state) ∧
      (argmax (Generation.lastScores temperature steps) = .ok 0 ∨
        argmax (Generation.lastScores temperature steps) = .ok n) := by
  have hsound := build_sound Parameters.ones_fills ok single
  obtain ⟨t, ht, hfit, hspeaks⟩ := hsound.transformer
  obtain ⟨steps, state, hstep, -, hscored⟩ :=
    Transformer.step_steady hfit hspeaks hsound.state nonempty short known
  refine ⟨t, steps, state, ht, hstep, ?_⟩
  obtain ⟨shapes, hshapes, hrest⟩ := bind_eq_ok.mp ok
  have hweights : m.weights = Parameters.ones shapes := by
    obtain ⟨tokenizer, -, hrest⟩ := bind_eq_ok.mp hrest
    obtain ⟨fresh, -, hm⟩ := bind_eq_ok.mp hrest
    cases hm
    rfl
  have houtput : t.output = Linear.ofParameters m.weights "output" false := by
    obtain ⟨blocks, -, hblocks⟩ := bind_eq_ok.mp ht
    cases hblocks
    rfl
  have hrows : ∀ r ∈ t.output.rows, r = List.replicate c.transformer.width.toNat Scalar.one := by
    intro r hr
    have hsize : Tensor.size [c.transformer.vocabSize.toNat, c.transformer.width.toNat] =
        c.transformer.vocabSize.toNat * c.transformer.width.toNat := by simp [Tensor.size]
    have hname : "output" ++ ".weight" = "output.weight" := rfl
    rw [houtput, Linear.ofParameters, hweights, hname,
      Parameters.tensor_ones (TransformerConfig.lookup_parameters hshapes).2, hsize] at hr
    exact Tensor.mem_rows_replicate hr
  obtain ⟨x, rfl⟩ := Transformer.step_scores hstep
  obtain ⟨y, hy⟩ := Transformer.scores_alike hrows (by rw [houtput]; rfl) x
  have hlength := hscored.length_last (List.length_pos_iff.mpr nonempty)
  rw [Generation.lastScores, Generation.tempered, if_neg cold,
    List.eq_replicate_iff.mpr ⟨hlength, hy⟩, vocabulary, Int.toNat_natCast]
  exact argmax_replicate y n

/-- Asked for one token, such a model shows the first or the last of a vocabulary in which neither
ends the text. -/
theorem ones_shows (ok : build Parameters.ones d c = .ok m) (single : 0 < c.batch)
    (bytes : m.tokenizer = .bytes) (vocabulary : c.vocabSize = 255) (short : 2 ≤ c.window)
    {temperature : Float} (cold : ¬0.0 < temperature) (a : Heard) :
    ∃ text after, text ≠ "" ∧
      m.generatePaced (fun _ => .lockStep) "hi" 1 temperature Sampler.greedy .scribe a =
        (.ok 1, after) ∧ after.audience = (a.told [text]).ended := by
  have hknown : ∀ id ∈ [104, 105], c.Knows id := by
    simp [LlamaConfig.Knows, vocabulary]
  have hshort : ([104, 105] : List Int).length ≤ c.window := short
  obtain ⟨t, steps, state, stack, hstep, hchosen⟩ := ones_chooses ok single (n := 254) vocabulary
    (List.cons_ne_nil _ _) hshort hknown cold
  have htokenized : m.tokenize "hi" = .ok [104, 105] := by
    rw [tokenize, bytes]
    rfl
  have hopen : Session.start 3 a =
      .ok { transcript := .empty 3, worker := { audience := a } } := rfl
  have hstart :=
    generationStart_eq stack htokenized (List.cons_ne_nil _ _) (n := 1) (by decide) hopen
  have hrecorded : Session.prompt { transcript := .empty 3, worker := { audience := a } }
      [104, 105] = .ok { transcript := ⟨[104, 105], 3, by decide⟩, worker := { audience := a } } :=
    rfl
  have hsample : Sampling.sample Sampler.greedy (Generation.lastScores temperature steps) =
      (argmax (Generation.lastScores temperature steps)).map fun i =>
        ((i : Int), Sampler.greedy) := rfl
  have hdetokenizer : m.tokenizer.detokenizer = Tokenizer.bytes.detokenizer := by rw [bytes]
  rw [List.map_cons, List.map_cons, List.map_nil] at hstep
  rw [generatePaced, hstart, hdetokenizer]
  simp only [Generation.complete, hrecorded, Int.toNat_one, Generation.run, Session.stopped,
    Bool.false_eq_true, if_false, Generation.step, List.map_cons, List.map_nil, hstep,
    Generation.choose, hsample]
  obtain hfirst | hlast := hchosen
  · rw [hfirst]
    exact ⟨"[0]", _, by decide, rfl, rfl⟩
  · rw [hlast]
    exact ⟨"[254]", _, by decide, rfl, rfl⟩

end Llama
end StreamingLM
