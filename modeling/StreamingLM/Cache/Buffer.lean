import StreamingLM.Tensor
import StreamingLM.Config.Cache

/-!
A buffer of fixed capacity along the positions of a sequence. New positions are written at the tail;
when room is needed the oldest ones are dropped and the survivors move to the front, so that the
first `len` slots are always the history in order.
-/
namespace StreamingLM

/-- Storage for a fixed number of positions, of which the first `len` are valid. -/
structure SequenceBuffer (α : Type) where
  batch : Nat
  heads : Nat
  dim : Nat
  strategy : CacheStrategy
  storage : List (Slot α)
  len : Nat
  len_le : len ≤ storage.length

namespace SequenceBuffer

variable {α : Type}

def capacity (b : SequenceBuffer α) : Nat := b.storage.length

def shape (b : SequenceBuffer α) : List Nat := [b.batch, b.heads, b.capacity, b.dim]

/-- The valid positions, oldest first. -/
def history (b : SequenceBuffer α) : List (Slot α) := b.storage.take b.len

@[simp] theorem length_history (b : SequenceBuffer α) : b.history.length = b.len := by
  simp [history, b.len_le]

section Empty

variable [Scalar α]

def zeroSlot (batch heads dim : Nat) : Slot α :=
  List.replicate batch (List.replicate heads (List.replicate dim Scalar.zero))

/-- An empty buffer; its sizes come from settings and may be impossible. -/
def empty (batch heads capacity dim : Int) (strategy : CacheStrategy) :
    Except Failure (SequenceBuffer α) :=
  if capacity ≤ 0 then .error (.badCapacity capacity)
  else if batch < 0 ∨ heads < 0 ∨ dim < 0 then .error (.fault .runtime "negative dimension")
  else .ok
    { batch := batch.toNat, heads := heads.toNat, dim := dim.toNat, strategy
      storage := List.replicate capacity.toNat (zeroSlot batch.toNat heads.toNat dim.toNat)
      len := 0
      len_le := Nat.zero_le _ }

end Empty

/-- The new rows of a slot in front of the old ones that they leave in place. -/
def overwrite (new old : Slot α) : Slot α := new ++ old.drop new.length

def overwriteAll : List (Slot α) → List (Slot α) → List (Slot α)
  | new :: news, old :: olds => overwrite new old :: overwriteAll news olds
  | _, olds => olds

@[simp] theorem length_overwriteAll (news olds : List (Slot α)) :
    (overwriteAll news olds).length = olds.length := by
  fun_induction overwriteAll news olds <;> simp_all

def view (b : SequenceBuffer α) (rows : Nat) : Block α :=
  ⟨rows, b.heads, b.dim, b.history.map (·.take rows)⟩

def append (b : SequenceBuffer α) (x : Block α) : Except Failure (SequenceBuffer α × Block α) :=
  if x.batch > b.batch ∨ x.heads ≠ b.heads ∨ x.dim ≠ b.dim then .error (.misfit x.shape b.shape)
  else if h : b.capacity < b.len + x.slots.length then
    .error (.capacityExceeded b.len x.slots.length b.capacity)
  else
    let grown : SequenceBuffer α :=
      { b with
        storage := b.storage.take b.len ++ overwriteAll x.slots (b.storage.drop b.len)
        len := b.len + x.slots.length
        len_le := by
          have := b.len_le
          simp only [capacity] at h
          simp only [List.length_append, List.length_take, length_overwriteAll, List.length_drop]
          omega }
    .ok (grown, grown.view x.batch)

def appendTensor (b : SequenceBuffer α) (x : Tensor α) :
    Except Failure (SequenceBuffer α × Block α) := (Block.ofTensor x).bind b.append

def get (b : SequenceBuffer α) : Block α := b.view b.batch

section Evict

variable [Scalar α]

/-- The storage after the oldest `n` positions are dropped: the survivors in front, and behind them
what was there before or, in fresh storage, zeros. -/
def compacted (b : SequenceBuffer α) (n : Nat) : List (Slot α) :=
  let kept := (b.storage.drop n).take (b.len - n)
  match b.strategy with
  | .shift => kept ++ b.storage.drop (b.len - n)
  | .shrink =>
    kept ++ List.replicate (b.capacity - (b.len - n)) (zeroSlot b.batch b.heads b.dim)

theorem length_compacted (b : SequenceBuffer α) (n : Nat) (h : n ≤ b.len) :
    (b.compacted n).length = b.capacity := by
  have := b.len_le
  unfold compacted capacity
  cases b.strategy <;> simp <;> omega

/-- Drop the `n` oldest positions; nothing happens for counts that are not positive. -/
def evict (b : SequenceBuffer α) (n : Int) : Except Failure (SequenceBuffer α) :=
  if n ≤ 0 then .ok b
  else if h : (b.len : Int) < n then .error (.evictTooMany n b.len)
  else .ok
    { b with
      storage := b.compacted n.toNat
      len := b.len - n.toNat
      len_le := by
        have := b.len_le
        rw [length_compacted b n.toNat (by omega)]
        simp only [capacity]
        omega }

end Evict

/-- Forget all positions; the storage is kept as it is. -/
def reset (b : SequenceBuffer α) : SequenceBuffer α := { b with len := 0, len_le := Nat.zero_le _ }

end SequenceBuffer
end StreamingLM
