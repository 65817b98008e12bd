import StreamingLM.Layer.Feature
import StreamingLM.Cache.KeyValue
import StreamingLM.Cache.Mask
import StreamingLM.Rotary.Tracker

/-!
Attention in which groups of query heads share a key/value head. A sequence is either decoded step
by step against a cache, or scored in one go without one.
-/
namespace StreamingLM

/-- The projections of an attention layer and the sizes of its heads. -/
structure Attention (α : Type) where
  width : Nat
  heads : Nat
  keyHeads : Nat
  headDim : Nat
  wq : Linear α
  wk : Linear α
  wv : Linear α
  wo : Linear α

namespace Attention

variable {α : Type} [Scalar α]

/-- Build the layer from its parameters; heads have to come in equal groups. -/
def build (c : AttentionConfig) (p : Parameters α) (scope : String) :
    Except Failure (Attention α) := do
  let _ ← (LayerConfig.attention c).parameters
  return {
    width := c.width.toNat, heads := c.heads.toNat, keyHeads := c.keyHeads.toNat
    headDim := c.headDim.toNat
    wq := Linear.ofParameters p (scope ++ "wq") false
    wk := Linear.ofParameters p (scope ++ "wk") false
    wv := Linear.ofParameters p (scope ++ "wv") false
    wo := Linear.ofParameters p (scope ++ "wo") false }

def groupSize (a : Attention α) : Nat := a.heads / a.keyHeads

def splitHeads (dim : Nat) : Nat → List α → List (List α)
  | 0, _ => []
  | heads + 1, v => v.take dim :: splitHeads dim heads (v.drop dim)

def projectRows (l : Linear α) (heads dim : Nat) (rows : List (List α)) : Slot α :=
  rows.map fun x => splitHeads dim heads (l.apply x)

def project (l : Linear α) (heads dim batch : Nat) (steps : List (List (List α))) : Block α :=
  ⟨batch, heads, dim, steps.map (projectRows l heads dim)⟩

def maskScores (row : Option (List Bool)) (scores : List α) : List (Option α) :=
  match row with
  | some allowed => List.zipWith (fun ok s => if ok then some s else Scalar.ruledOut) allowed scores
  | none => scores.map some

/-- One query over keys and values: the values under the softmax of the scaled scores. -/
def attendOne (dim : Nat) (scale : α) (row : Option (List Bool)) (query : List α)
    (keys values : List (List α)) : List α :=
  let scores := keys.map fun key => dot query key * scale
  weightedSum dim (softmaxPresent (maskScores row scores)) values

/-- The factor of all scores, the reciprocal of the root of the width of a head. -/
def scale (a : Attention α) : α := Scalar.one / Scalar.sqrt (Scalar.ofInt a.headDim)

/-- The queries of one position over the history; query head `h` reads key/value head
`h / groupSize`. -/
def attendSlot (a : Attention α) (batch : Nat) (row : Option (List Bool)) (k v : Block α)
    (query : Slot α) : Slot α :=
  (List.range batch).map fun b =>
    (List.range a.heads).map fun head =>
      attendOne a.headDim a.scale row (Block.vector query b head)
        (k.column b (head / a.groupSize)) (v.column b (head / a.groupSize))

/-- All queries of a block over the history, each under its row of the mask. -/
def attend (a : Attention α) (q k v : Block α) (mask : Option Mask) : Block α :=
  { q with
    slots := q.slots.zipIdx.map fun (query, i) =>
      a.attendSlot q.batch (mask.bind fun m => m[i]?) k v query }

def outputRows (a : Attention α) (slot : Slot α) : List (List α) :=
  slot.map fun heads => a.wo.apply heads.flatten

def output (a : Attention α) (x : Block α) : List (List (List α)) := x.slots.map a.outputRows

def maskFits (mask : Option Mask) (keys : Nat) : Bool :=
  match mask with
  | some (row :: _) => row.length == keys || row.length == 1
  | _ => true

/-- The mask of a step: the one that is given, or a causal one over the whole history. -/
def stepMask (mask : Option Mask) (queries keys : Nat) : Except Failure (Option Mask) :=
  match mask with
  | some m => if maskFits (some m) keys then .ok (some m) else .error Failure.shape
  | none => if queries ≤ 1 then .ok none else (causalMask queries keys).map some

/-- Attend from the current step to the cached history, which the step joins first. -/
def stepCached (a : Attention α) (batch : Nat) (x : List (List (List α)))
    (cache : KeyValueCache α) (tracker : RotaryTracker α) (mask : Option Mask) :
    Attempt (KeyValueCache α) (List (List (List α))) :=
  let q := project a.wq a.heads a.headDim batch x
  let k := project a.wk a.keyHeads a.headDim batch x
  let v := project a.wv a.keyHeads a.headDim batch x
  match tracker.applyBlock q, tracker.applyBlock k with
  | .ok q, .ok k =>
    match cache.forward k v with
    | (.error f, cache) => (.error f, cache)
    | (.ok (keys, values), cache) =>
      ((stepMask mask x.length keys.slots.length).map fun m => a.output (a.attend q keys values m),
        cache)
  | .error f, _ => (.error f, cache)
  | _, .error f => (.error f, cache)

def scoreSteps (a : Attention α) (batch : Nat) (x : List (List (List α)))
    (table : RotaryTable α) : Except Failure (List (List (List α))) := do
  let q ← table.rotateBlockFrom (project a.wq a.heads a.headDim batch x) 0
  let k ← table.rotateBlockFrom (project a.wk a.keyHeads a.headDim batch x) 0
  let v := project a.wv a.keyHeads a.headDim batch x
  let mask ← stepMask none x.length x.length
  return a.output (a.attend q k v mask)

def checkInput (a : Attention α) (x : Tensor α) : Except Failure Nat :=
  match x.shape with
  | [] | [_] => .error .index
  | [batch, _, width] => if width = a.width then .ok batch else .error (.featureWidth a.width x.shape)
  | _ => .error (.notRankThree x.shape)

def forwardCached (a : Attention α) (x : Tensor α) (cache : KeyValueCache α)
    (tracker : RotaryTracker α) (mask : Option Mask) : Attempt (KeyValueCache α) (Tensor α) :=
  match a.checkInput x with
  | .error f => (.error f, cache)
  | .ok batch =>
    let (result, cache) := a.stepCached batch x.steps cache tracker mask
    (result.map (Tensor.ofSteps batch a.width), cache)

def forwardMasked (a : Attention α) (x : Tensor α) (table : RotaryTable α) :
    Except Failure (Tensor α) := do
  let batch ← a.checkInput x
  return Tensor.ofSteps batch a.width (← a.scoreSteps batch x.steps table)

/-- Attention with what the caller has at hand: a cache needs a tracker, and without a cache a
rotary table is needed. -/
def forward (a : Attention α) (x : Tensor α) (cache : Option (KeyValueCache α))
    (tracker : Option (RotaryTracker α)) (mask : Option Mask) (table : Option (RotaryTable α)) :
    Attempt (Option (KeyValueCache α)) (Tensor α) :=
  match cache, tracker, table with
  | some c, some t, _ => let (result, c) := a.forwardCached x c t mask; (result, some c)
  | some c, none, _ => (.error .trackerNeeded, some c)
  | none, _, some r => (a.forwardMasked x r, none)
  | none, _, none => (.error .rotaryNeeded, none)

end Attention
end StreamingLM
