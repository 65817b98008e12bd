import StreamingLM.Proofs.Model.Step

/-!
What a configuration builds: a decoding state whose caches and table agree on all sizes, and a stack
of the same sizes, whatever its parameters.
-/
namespace StreamingLM

namespace LlamaConfig

/-- The sizes of the caches when `rows` batch rows are in use. -/
def layout (c : LlamaConfig) (rows : Nat) (h : rows ≤ c.batch.toNat) : Layout where
  rows := rows
  batch := c.batch.toNat
  heads := c.transformer.keyHeads.toNat
  dim := c.transformer.headDim.toNat
  capacity := c.window.toNat
  rows_le := h

theorem capacity_layout_le (c : LlamaConfig) {rows : Nat} (h : rows ≤ c.batch.toNat) :
    (c.layout rows h).capacity ≤ (c.window * 5).toNat := by
  show c.window.toNat ≤ _
  omega

end LlamaConfig

variable {α : Type} [Scalar α]

namespace DecodeState

theorem window_pos {c : LlamaConfig} {tracker : RotaryTracker α}
    (ok : RotaryTracker.ofConfig c = .ok tracker) : 0 < c.window := by
  obtain ⟨table, htable, -⟩ := Outcome.bind_eq_ok.mp ok
  simp only [RotaryTable.build] at htable
  split at htable
  · cases htable
  · split at htable
    · cases htable
    case isFalse h =>
      simp only [LlamaConfig.rotaryRows] at h
      omega

/-- A fresh state is empty, at position zero, and its table has five rows for each position of the
window. -/
theorem ofConfig_holds {c : LlamaConfig} {s : DecodeState α} (ok : ofConfig c = .ok s) {rows : Nat}
    (h : rows ≤ c.batch.toNat) :
    0 < c.window ∧ s.tracker.table.Exact ∧
      s.Holds (c.layout rows h) c.transformer.headDim.toNat (c.window * 5).toNat 0 0
        (List.replicate c.layers.toNat []) := by
  obtain ⟨caches, hcaches, hrest⟩ := Outcome.bind_eq_ok.mp ok
  obtain ⟨tracker, htracker, hs⟩ := Outcome.bind_eq_ok.mp hrest
  obtain ⟨table, htable, ht⟩ := Outcome.bind_eq_ok.mp htracker
  have hw := window_pos htracker
  have hwindow : 0 ≤ c.transformer.window := by
    simp only [LlamaConfig.transformer]
    omega
  cases hs
  cases ht
  exact ⟨hw, RotaryTable.build_exact htable,
    LayerCacheSet.empty_holds hcaches h hwindow, RotaryTracker.build_anchored htable⟩

end DecodeState

namespace TransformerConfig

theorem attention_ok {c : TransformerConfig} {a : AttentionConfig} (ok : c.attention = .ok a) :
    a = ⟨c.width, c.heads, some c.keyHeads⟩ := by
  simp only [attention, Validated.keeping] at ok
  split at ok <;> cases ok
  rfl

end TransformerConfig

namespace DecoderBlock

theorem ofParameters_ok {c : TransformerConfig} {i : Nat} {shapes : List (String × List Nat)}
    (ok : c.blockParameters i = .ok shapes) (p : Parameters α) :
    ∃ b, ofParameters c p i = .ok b := by
  obtain ⟨a, ha, hrest⟩ := Outcome.bind_eq_ok.mp ok
  obtain ⟨params, hparams, -⟩ := Outcome.bind_eq_ok.mp hrest
  have hbuild : ∀ scope, ∃ attention, Attention.build a p scope = .ok attention := fun scope =>
    ⟨_, by rw [Attention.build, hparams]; rfl⟩
  obtain ⟨attention, hattention⟩ := hbuild (TransformerConfig.layerScope i ++ "attention.")
  exact ⟨_, by rw [ofParameters, ha]; simp only [bind, Except.bind, hattention]; rfl⟩

theorem ofParameters_fits {c : LlamaConfig} {p : Parameters α} {i : Nat} {b : DecoderBlock α}
    (ok : ofParameters c.transformer p i = .ok b) {rows : Nat} (h : rows ≤ c.batch.toNat) :
    b.attention.Fits (c.layout rows h) := by
  obtain ⟨config, hconfig, hrest⟩ := Outcome.bind_eq_ok.mp ok
  obtain ⟨attention, hattention, hb⟩ := Outcome.bind_eq_ok.mp hrest
  obtain ⟨params, -, ha⟩ := Outcome.bind_eq_ok.mp hattention
  obtain rfl := TransformerConfig.attention_ok hconfig
  cases hb
  cases ha
  exact ⟨rfl, rfl⟩

end DecoderBlock

namespace Transformer

theorem ofParameters_ok {c : TransformerConfig} {shapes : List (String × List Nat)}
    (ok : c.parameters = .ok shapes) (p : Parameters α) : ∃ t, ofParameters c p = .ok t := by
  obtain ⟨vocabulary, -, hrest⟩ := Outcome.bind_eq_ok.mp ok
  obtain ⟨blockShapes, hshapes, -⟩ := Outcome.bind_eq_ok.mp hrest
  have hblock : ∀ i ∈ List.range c.layers.toNat, ∃ b, DecoderBlock.ofParameters c p i = .ok b := by
    intro i hi
    obtain ⟨block, hblock⟩ := Outcome.exists_of_mapM_ok hshapes i hi
    exact DecoderBlock.ofParameters_ok hblock p
  obtain ⟨blocks, hblocks⟩ := Outcome.mapM_ok hblock
  exact ⟨_, by rw [ofParameters, hblocks]; rfl⟩

theorem ofParameters_fits {c : LlamaConfig} {p : Parameters α} {t : Transformer α}
    (ok : ofParameters c.transformer p = .ok t) {rows : Nat} (h : rows ≤ c.batch.toNat) :
    t.Fits (c.layout rows h) c.layers.toNat := by
  obtain ⟨blocks, hblocks, ht⟩ := Outcome.bind_eq_ok.mp ok
  cases ht
  refine ⟨?_, fun b hb => ?_⟩
  · simpa [LlamaConfig.transformer] using (Outcome.mapM_eq_ok.mp hblocks).length_eq.symm
  · obtain ⟨i, -, hi⟩ := Outcome.mem_of_mapM_ok hblocks b hb
    exact DecoderBlock.ofParameters_fits hi h

end Transformer
end StreamingLM
