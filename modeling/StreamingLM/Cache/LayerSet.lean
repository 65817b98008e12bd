import StreamingLM.Cache.KeyValue
import StreamingLM.Cache.Mask
import StreamingLM.Config.Model

/-!
The caches of all layers and the cursor that they share. Each decoding step first makes room by
dropping the oldest history of every layer, and gets the causal mask over what is left and the
step itself.
-/
namespace StreamingLM

/-- One cache for each layer; `len` counts the positions each will hold once the current step has
passed through all layers. -/
structure LayerCacheSet (α : Type) where
  window : Int
  len : Int
  layers : List (KeyValueCache α)

namespace LayerCacheSet

variable {α : Type} [Scalar α]

def empty (layers batch heads window dim : Int) (strategy : CacheStrategy) :
    Except Failure (LayerCacheSet α) := do
  if layers ≤ 0 then return ⟨window, 0, []⟩
  let cache ← KeyValueCache.empty batch heads window dim strategy
  return ⟨window, 0, List.replicate layers.toNat cache⟩

def ofConfig (c : LlamaConfig) : Except Failure (LayerCacheSet α) :=
  let t := c.transformer
  empty t.layers c.batch t.keyHeads t.window t.headDim c.cache.strategy

/-- Drop positions of one layer after the other, up to the first that refuses. -/
def evictAll (n : Int) : List (KeyValueCache α) → Attempt (List (KeyValueCache α)) Unit
  | [] => (.ok (), [])
  | cache :: rest =>
    match cache.evict n with
    | (.error f, cache) => (.error f, cache :: rest)
    | (.ok (), cache) =>
      let (result, rest) := evictAll n rest
      (result, cache :: rest)

def stepMask (step len : Int) : Except Failure (Option Mask) :=
  if step ≤ 1 then .ok none else (causalMask step len).map some

/-- Make room for a step and build its mask. -/
def prepare (s : LayerCacheSet α) (step : Int) : Attempt (LayerCacheSet α) (Option Mask) :=
  if s.window < step then (.error (.stepTooLong step s.window), s)
  else if step ≤ 0 then (.error (.badStep step), s)
  else
    let len := s.len + step
    if len ≤ s.window then (stepMask step len, { s with len })
    else
      match evictAll (len - s.window) s.layers with
      | (.error f, layers) => (.error f, { s with len, layers })
      | (.ok (), layers) => (stepMask step s.window, { s with len := s.window, layers })

/-- Act on one layer; negative numbers count from the last. -/
def atLayer {β : Type} (s : LayerCacheSet α) (i : Int)
    (act : KeyValueCache α → Attempt (KeyValueCache α) β) : Attempt (LayerCacheSet α) β :=
  match place? s.layers.length i with
  | .error f => (.error f, s)
  | .ok n =>
    match s.layers[n]? with
    | none => (.error .index, s)
    | some cache =>
      let (result, cache) := act cache
      (result, { s with layers := s.layers.set n cache })

/-- Feed the same keys and values to one layer after the other, up to the first that refuses. -/
def forwardAll (k v : Tensor α) : List (KeyValueCache α) →
    Attempt (List (KeyValueCache α)) (List (Block α × Block α))
  | [] => (.ok [], [])
  | cache :: rest =>
    match cache.forwardTensor k v with
    | (.error f, cache) => (.error f, cache :: rest)
    | (.ok pair, cache) =>
      let (result, rest) := forwardAll k v rest
      (result.map (pair :: ·), cache :: rest)

/-- The first layer whose length differs from the cursor. -/
def consistentFrom (len : Int) : Nat → List (KeyValueCache α) → Except Failure Unit
  | _, [] => .ok ()
  | i, cache :: rest =>
    if (cache.len : Int) = len then consistentFrom len (i + 1) rest
    else .error (.layerLength i cache.len len)

def ensureConsistent (s : LayerCacheSet α) : Except Failure Unit := consistentFrom s.len 0 s.layers

def reset (s : LayerCacheSet α) : LayerCacheSet α :=
  { s with len := 0, layers := s.layers.map (·.reset) }

end LayerCacheSet
end StreamingLM
