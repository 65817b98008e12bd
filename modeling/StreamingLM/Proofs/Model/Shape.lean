import StreamingLM.Layer.Filling
import StreamingLM.Model.Llama
import StreamingLM.Proofs.Model.Build

/-!
The shapes of fresh parameters. A stack whose parameters have the shapes of its settings has a
vector and a score for every token of its vocabulary.
-/
namespace StreamingLM

variable {α : Type}

namespace Parameters

def HasShapes (p : Parameters α) (shapes : List (String × List Nat)) : Prop :=
  p.map (fun entry => (entry.1, entry.2.shape)) = shapes

theorem HasShapes.shape_tensor {p : Parameters α} {shapes : List (String × List Nat)}
    (h : p.HasShapes shapes) {name : String} {shape : List Nat}
    (found : shapes.lookup name = some shape) : (p.tensor name).shape = shape := by
  induction p generalizing shapes with
  | nil =>
    cases h
    simp at found
  | cons entry p ih =>
    obtain ⟨key, t⟩ := entry
    cases h
    simp only [List.map_cons, List.lookup_cons] at found
    by_cases hname : name == key
    · simp only [hname, Option.some.injEq] at found
      simp only [tensor, List.lookup_cons, hname]
      exact found
    · simp only [hname] at found
      simp only [tensor, List.lookup_cons, hname]
      exact ih rfl found

end Parameters

/-- A filling gives the parameters that it is asked for, whatever numbers it puts in. -/
def Filling.Fills (fresh : Filling α) : Prop :=
  ∀ shapes : List (String × List Nat), (fresh shapes).HasShapes shapes

theorem Parameters.ones_fills [Scalar α] : Filling.Fills (Parameters.ones (α := α)) := by
  intro shapes
  rw [Parameters.HasShapes, Parameters.ones, List.map_map]
  exact List.map_id shapes

theorem Tensor.length_rows {t : Tensor α} {n width : Nat} (h : t.shape = [n, width]) :
    t.rows.length = n := by
  simp [rows, height, size, h]

theorem LayerConfig.named_ok {params : List (String × List Int)}
    {shapes : List (String × List Nat)} (ok : named params = .ok shapes) :
    shapes = params.map fun entry => (entry.1, entry.2.map Int.toNat) := by
  have hall := Outcome.mapM_eq_ok.mp ok
  induction hall with
  | nil => rfl
  | @cons entry shape params shapes hentry hrest ih =>
    obtain ⟨dims, hdims, rfl⟩ := Outcome.map_eq_ok.mp hentry
    simp only [LayerConfig.shape] at hdims
    split at hdims
    · cases hdims
    · cases hdims
      exact congrArg _ (ih (Outcome.mapM_eq_ok.mpr hrest))

namespace TransformerConfig

theorem mem_within {scope name : String} {shape : List Nat} {params : List (String × List Nat)}
    (h : (name, shape) ∈ within scope params) : ∃ rest, name = scope ++ rest := by
  obtain ⟨entry, -, hentry⟩ := List.mem_map.mp h
  cases hentry
  exact ⟨entry.1, rfl⟩

theorem layerScope_append (i : Nat) (part : String) :
    ∃ rest, layerScope i ++ part = "layers." ++ rest := by
  refine ⟨toString i ++ ("." ++ part), ?_⟩
  simp only [layerScope, String.append_assoc]
  rfl

theorem mem_blockParameters {c : TransformerConfig} {i : Nat} {shapes : List (String × List Nat)}
    (ok : c.blockParameters i = .ok shapes) {name : String} {shape : List Nat}
    (h : (name, shape) ∈ shapes) : ∃ rest, name = "layers." ++ rest := by
  obtain ⟨config, -, hrest⟩ := Outcome.bind_eq_ok.mp ok
  obtain ⟨attention, -, hrest⟩ := Outcome.bind_eq_ok.mp hrest
  obtain ⟨norm, -, hrest⟩ := Outcome.bind_eq_ok.mp hrest
  obtain ⟨feedForward, -, hrest⟩ := Outcome.bind_eq_ok.mp hrest
  cases hrest
  have hpart : ∀ {part : String} {params : List (String × List Nat)},
      (name, shape) ∈ within (layerScope i ++ part) params → ∃ rest, name = "layers." ++ rest := by
    intro part params hmem
    obtain ⟨rest, rfl⟩ := mem_within hmem
    rw [String.append_assoc]
    exact layerScope_append i (part ++ rest)
  simp only [List.mem_append] at h
  rcases h with ((h | h) | h) | h <;> exact hpart h

theorem lookup_parameters {c : TransformerConfig} {shapes : List (String × List Nat)}
    (ok : c.parameters = .ok shapes) :
    shapes.lookup "tok_embeddings.weight" = some [c.vocabSize.toNat, c.width.toNat] ∧
      shapes.lookup "output.weight" = some [c.vocabSize.toNat, c.width.toNat] := by
  obtain ⟨vocabulary, hvocabulary, hrest⟩ := Outcome.bind_eq_ok.mp ok
  obtain ⟨blocks, hblocks, hrest⟩ := Outcome.bind_eq_ok.mp hrest
  obtain ⟨norm, -, hrest⟩ := Outcome.bind_eq_ok.mp hrest
  obtain ⟨output, houtput, hrest⟩ := Outcome.bind_eq_ok.mp hrest
  cases hrest
  obtain rfl := LayerConfig.named_ok hvocabulary
  obtain rfl := LayerConfig.named_ok houtput
  have hlayers : blocks.flatten.lookup "output.weight" = none := by
    refine List.lookup_eq_none_iff.mpr fun entry hentry => ?_
    obtain ⟨block, hblock, hmem⟩ := List.mem_flatten.mp hentry
    obtain ⟨i, -, hi⟩ := Outcome.mem_of_mapM_ok hblocks block hblock
    obtain ⟨rest, hname⟩ := mem_blockParameters hi hmem
    rw [hname]
    simp [← String.toList_inj]
  have hnorm : (within "norm." norm).lookup "output.weight" = none := by
    refine List.lookup_eq_none_iff.mpr fun entry hentry => ?_
    obtain ⟨rest, hname⟩ := mem_within hentry
    rw [hname]
    simp [← String.toList_inj]
  refine ⟨by simp, ?_⟩
  simp only [List.lookup_append, hlayers, hnorm]
  simp [List.lookup_cons]

end TransformerConfig

namespace Transformer

variable [Scalar α]

/-- The stack has a vector and a score for each of `vocab` tokens. -/
structure Speaks (t : Transformer α) (vocab : Nat) : Prop where
  embeddings : t.embeddings.length = vocab
  output : ∀ v, (t.output.apply v).length = vocab

theorem ofParameters_speaks {c : TransformerConfig} {shapes : List (String × List Nat)}
    (hshapes : c.parameters = .ok shapes) {p : Parameters α} (hp : p.HasShapes shapes)
    {t : Transformer α} (ok : ofParameters c p = .ok t) : t.Speaks c.vocabSize.toNat := by
  obtain ⟨hembeddings, houtput⟩ := TransformerConfig.lookup_parameters hshapes
  obtain ⟨blocks, -, ht⟩ := Outcome.bind_eq_ok.mp ok
  cases ht
  refine ⟨Tensor.length_rows (hp.shape_tensor hembeddings), fun v => ?_⟩
  have hrows := Tensor.length_rows (hp.shape_tensor houtput)
  simpa [Linear.ofParameters, Linear.apply] using hrows

end Transformer
end StreamingLM
