import StreamingLM.Cache.Buffer

/-!
The keys and values of one attention layer, in two buffers that move together.
-/
namespace StreamingLM

structure KeyValueCache (α : Type) where
  key : SequenceBuffer α
  value : SequenceBuffer α

namespace KeyValueCache

variable {α : Type}

def len (c : KeyValueCache α) : Nat := c.key.len

def capacity (c : KeyValueCache α) : Nat := c.key.capacity

def inSync (c : KeyValueCache α) : Bool := c.key.len == c.value.len

def checkSync (c : KeyValueCache α) (operation : String) : Except Failure Unit :=
  if c.inSync then .ok () else .error (.desync operation c.key.len c.value.len)

/-- Take in what appending gave, first for the keys and then for the values, and return the whole
history of both. Keys that have been appended stay when the values are refused. -/
def join (c : KeyValueCache α) (key value : Except Failure (SequenceBuffer α × Block α)) :
    Attempt (KeyValueCache α) (Block α × Block α) :=
  match key with
  | .error f => (.error f, c)
  | .ok (key, keys) =>
    match value with
    | .error f => (.error f, { c with key })
    | .ok (value, values) =>
      let grown : KeyValueCache α := ⟨key, value⟩
      ((grown.checkSync "append").map fun _ => (keys, values), grown)

def forward (c : KeyValueCache α) (k v : Block α) :
    Attempt (KeyValueCache α) (Block α × Block α) := c.join (c.key.append k) (c.value.append v)

def forwardTensor (c : KeyValueCache α) (k v : Tensor α) :
    Attempt (KeyValueCache α) (Block α × Block α) :=
  c.join (c.key.appendTensor k) (c.value.appendTensor v)

def reset (c : KeyValueCache α) : KeyValueCache α := ⟨c.key.reset, c.value.reset⟩

variable [Scalar α]

def empty (batch heads capacity dim : Int) (strategy : CacheStrategy) :
    Except Failure (KeyValueCache α) := do
  let buffer ← SequenceBuffer.empty batch heads capacity dim strategy
  return ⟨buffer, buffer⟩

def evict (c : KeyValueCache α) (n : Int) : Attempt (KeyValueCache α) Unit :=
  match c.key.evict n with
  | .error f => (.error f, c)
  | .ok key =>
    match c.value.evict n with
    | .error f => (.error f, { c with key })
    | .ok value =>
      let shorter : KeyValueCache α := ⟨key, value⟩
      (shorter.checkSync "evict", shorter)

end KeyValueCache
end StreamingLM
