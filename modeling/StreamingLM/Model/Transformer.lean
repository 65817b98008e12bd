import StreamingLM.Model.State

/-!
The decoder stack: token embedding, blocks that each add attention and then a feed-forward term to
what they are given, a last normalisation, and the scores of all tokens.
-/
namespace StreamingLM

def within (scope : String) (params : List (String × List Nat)) : List (String × List Nat) :=
  params.map fun (name, shape) => (scope ++ name, shape)

namespace TransformerConfig

def layerScope (i : Nat) : String := s!"layers.{i}."

def blockParameters (c : TransformerConfig) (i : Nat) : Except Failure (List (String × List Nat)) := do
  let scope := layerScope i
  let attention ← (LayerConfig.attention (← c.attention)).parameters
  let norm ← (LayerConfig.norm c.norm).parameters
  let feedForward ← (LayerConfig.gated c.feedForward).parameters
  return within (scope ++ "attention.") attention ++ within (scope ++ "attention_norm.") norm
    ++ within (scope ++ "feed_forward.") feedForward ++ within (scope ++ "ffn_norm.") norm

def parameters (c : TransformerConfig) : Except Failure (List (String × List Nat)) := do
  let vocabulary ← LayerConfig.named [("tok_embeddings.weight", [c.vocabSize, c.width])]
  let blocks ← (List.range c.layers.toNat).mapM c.blockParameters
  let norm ← (LayerConfig.norm c.norm).parameters
  let output ← LayerConfig.named [("output.weight", [c.vocabSize, c.width])]
  return vocabulary ++ blocks.flatten ++ within "norm." norm ++ output

end TransformerConfig

/-- One block: attention and a feed-forward term, each on normalised input and added to it. -/
structure DecoderBlock (α : Type) where
  attention : Attention α
  attentionNorm : Norm α
  feedForward : Gated α
  feedForwardNorm : Norm α

abbrev Steps (α : Type) := List (List (List α))

namespace DecoderBlock

variable {α : Type} [Scalar α]

def ofParameters (c : TransformerConfig) (p : Parameters α) (i : Nat) :
    Except Failure (DecoderBlock α) := do
  let scope := TransformerConfig.layerScope i
  return {
    attention := ← Attention.build (← c.attention) p (scope ++ "attention.")
    attentionNorm := Norm.ofParameters c.norm p (scope ++ "attention_norm.weight")
    feedForward := Gated.ofParameters c.feedForward p (scope ++ "feed_forward.")
    feedForwardNorm := Norm.ofParameters c.norm p (scope ++ "ffn_norm.weight") }

def mapSteps (f : List α → List α) (x : Steps α) : Steps α := x.map fun rows => rows.map f

def addSteps (x y : Steps α) : Steps α := List.zipWith (List.zipWith addVec) x y

/-- What follows the attention of a block. -/
def finish (b : DecoderBlock α) (x attended : Steps α) : Steps α :=
  let h := addSteps x attended
  addSteps h (mapSteps (fun v => b.feedForward.apply (b.feedForwardNorm.apply v)) h)

/-- One step against a cache. -/
def step (b : DecoderBlock α) (batch : Nat) (x : Steps α) (cache : KeyValueCache α)
    (tracker : RotaryTracker α) (mask : Option Mask) : Attempt (KeyValueCache α) (Steps α) :=
  let (attended, cache) :=
    b.attention.stepCached batch (mapSteps b.attentionNorm.apply x) cache tracker mask
  (attended.map (b.finish x), cache)

/-- A whole sequence without a cache. -/
def score (b : DecoderBlock α) (batch : Nat) (x : Steps α) (table : RotaryTable α) :
    Except Failure (Steps α) := do
  return b.finish x (← b.attention.scoreSteps batch (mapSteps b.attentionNorm.apply x) table)

end DecoderBlock

structure Transformer (α : Type) where
  embeddings : List (List α)
  blocks : List (DecoderBlock α)
  norm : Norm α
  output : Linear α

namespace Transformer

variable {α : Type} [Scalar α]

def ofParameters (c : TransformerConfig) (p : Parameters α) : Except Failure (Transformer α) := do
  return {
    embeddings := (p.tensor "tok_embeddings.weight").rows
    blocks := ← (List.range c.layers.toNat).mapM (DecoderBlock.ofParameters c p)
    norm := Norm.ofParameters c.norm p "norm.weight"
    output := Linear.ofParameters p "output" false }

def embedOne (t : Transformer α) (id : Int) : Except Failure (List α) :=
  if id < 0 then .error .index
  else
    match t.embeddings[id.toNat]? with
    | some v => .ok v
    | none => .error .index

def embed (t : Transformer α) (tokens : List (List Int)) : Except Failure (Steps α) :=
  tokens.mapM fun row => row.mapM t.embedOne

def scores (t : Transformer α) (x : Steps α) : Steps α :=
  DecoderBlock.mapSteps (fun v => t.output.apply (t.norm.apply v)) x

/-- Pass a step through blocks and their caches, up to the first that refuses. -/
def stepBlocks (batch : Nat) (tracker : RotaryTracker α) (mask : Option Mask) :
    List (DecoderBlock α) → List (KeyValueCache α) → Steps α → Attempt (List (KeyValueCache α)) (Steps α)
  | b :: blocks, cache :: caches, x =>
    match b.step batch x cache tracker mask with
    | (.error f, cache) => (.error f, cache :: caches)
    | (.ok x, cache) =>
      let (result, caches) := stepBlocks batch tracker mask blocks caches x
      (result, cache :: caches)
  | _, caches, x => (.ok x, caches)

def forward (t : Transformer α) (s : DecodeState α) (batch : Nat) (tokens : List (List Int))
    (mask : Option Mask) : Attempt (DecodeState α) (Steps α) :=
  if s.caches.layers.length ≠ t.blocks.length then
    (.error (.layerCaches t.blocks.length s.caches.layers.length), s)
  else
    match t.embed tokens with
    | .error f => (.error f, s)
    | .ok x =>
      let (result, layers) := stepBlocks batch s.tracker mask t.blocks s.caches.layers x
      let s := { s with caches := { s.caches with layers } }
      match result with
      | .error f => (.error f, s)
      | .ok x => (s.caches.ensureConsistent.map fun _ => t.scores x, s)

def step (t : Transformer α) (s : DecodeState α) (batch : Nat) (tokens : List (List Int)) :
    Attempt (DecodeState α) (Steps α) :=
  match s.prepare tokens.length with
  | (.error f, s) => (.error f, s)
  | (.ok mask, s) => t.forward s batch tokens mask

/-- Run a step without making room for it. -/
def unmaskedStep (t : Transformer α) (s : DecodeState α) (batch : Nat) (tokens : List (List Int)) :
    Attempt (DecodeState α) (Steps α) :=
  match s.advance tokens.length with
  | (.error f, s) => (.error f, s)
  | (.ok (), s) => t.forward s batch tokens none

def scoreBlocks (batch : Nat) (table : RotaryTable α) :
    List (DecoderBlock α) → Steps α → Except Failure (Steps α)
  | [], x => .ok x
  | b :: blocks, x => do scoreBlocks batch table blocks (← b.score batch x table)

/-- The scores of a whole sequence, from position zero and without a cache. -/
def forwardMasked (t : Transformer α) (table : RotaryTable α) (batch : Nat)
    (tokens : List (List Int)) : Except Failure (Steps α) := do
  return t.scores (← scoreBlocks batch table t.blocks (← t.embed tokens))

end Transformer
end StreamingLM
