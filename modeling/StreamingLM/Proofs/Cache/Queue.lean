import Mathlib.Data.List.Forall2
import Mathlib.Data.List.Induction
import StreamingLM.Proofs.Cache.Sizes

/-!
A buffer as a bounded queue. Blocks need not write all batch rows, so a slot may hold more than was
written to it last; it begins with that. Main statement: after any calls, a row that all surviving
blocks have written holds what was taken in since the last reset, less what was dropped from its
front, and each further call comes to what that queue says.
-/
namespace StreamingLM

variable {α : Type}

namespace Layout

/-- A block with at most all batch rows, and with all heads in their full width. -/
def Admits (l : Layout) (batch heads dim : Nat) : Prop :=
  batch ≤ l.batch ∧ heads = l.heads ∧ dim = l.dim

instance (l : Layout) (batch heads dim : Nat) : Decidable (l.Admits batch heads dim) :=
  inferInstanceAs (Decidable (_ ∧ _))

end Layout

namespace Block

theorem ofTensor_ok {x : Tensor α} {batch heads count dim : Nat}
    (shape : x.shape = [batch, heads, count, dim]) :
    ∃ slots, ofTensor x = .ok ⟨batch, heads, dim, slots⟩ ∧ slots.length = count ∧
      ∀ slot ∈ slots, slot.length = batch := by
  rw [ofTensor, shape]
  refine ⟨_, rfl, by simp, fun slot hslot => ?_⟩
  obtain ⟨i, -, rfl⟩ := List.mem_map.mp hslot
  simp

theorem ofTensor_error {x : Tensor α} (h : x.rank ≠ 4) :
    ofTensor x = .error (.notRankFour x.shape) := by
  unfold ofTensor
  split
  · rename_i hshape
    exact absurd (congrArg List.length hshape) h
  · rfl

theorem shape_of_ofTensor {x : Tensor α} {block : Block α} (ok : ofTensor x = .ok block) :
    x.shape = block.shape ∧ ∀ slot ∈ block.slots, slot.length = block.batch := by
  by_cases hrank : x.rank = 4
  · obtain ⟨batch, heads, count, dim, hshape⟩ := List.length_eq_four.mp hrank
    obtain ⟨slots, hslots, hcount, hrows⟩ := ofTensor_ok hshape
    rw [hslots] at ok
    cases ok
    exact ⟨by rw [hshape, Block.shape, hcount], hrows⟩
  · rw [ofTensor_error hrank] at ok
    cases ok

end Block

namespace SequenceBuffer

inductive Call (α : Type) where
  | append (x : Tensor α)
  | evict (n : Int)
  | reset

/-- What a call leaves of a queue: a block of the right sizes for which there is room joins at the
end, and the oldest slots leave if there are so many. -/
def next (l : Layout) (queue : List (Slot α)) : Call α → List (Slot α)
  | .append x =>
    match Block.ofTensor x with
    | .ok block =>
      if l.Admits block.batch block.heads block.dim ∧
          queue.length + block.slots.length ≤ l.capacity then
        queue ++ block.slots
      else queue
    | .error _ => queue
  | .evict n => if n ≤ queue.length then queue.drop n.toNat else queue
  | .reset => []

/-- The slots taken in since the last reset, less those dropped since then, the oldest first. -/
def queue (l : Layout) (calls : List (Call α)) : List (Slot α) := calls.foldl (next l) []

theorem queue_concat (l : Layout) (calls : List (Call α)) (c : Call α) :
    queue l (calls ++ [c]) = next l (queue l calls) c := by
  rw [queue, List.foldl_concat, queue]

/-- What slots hold in a batch row, slot by slot. -/
def rowOf (row : Nat) (slots : List (Slot α)) : List (Option (List (List α))) := slots.map (·[row]?)

def Wrote (row : Nat) (slots : List (Slot α)) : Prop := ∀ slot ∈ slots, row < slot.length

instance (row : Nat) (slots : List (Slot α)) : Decidable (Wrote row slots) :=
  inferInstanceAs (Decidable (∀ slot ∈ slots, _))

section Calls

variable [Scalar α]

/-- A call shows the history of the rows that it wrote, if it wrote any. One that is refused leaves
the buffer as it is. -/
def call (b : SequenceBuffer α) : Call α → Attempt (SequenceBuffer α) (Option (Block α))
  | .append x =>
    match b.appendTensor x with
    | .ok (grown, view) => (.ok (some view), grown)
    | .error f => (.error f, b)
  | .evict n =>
    match b.evict n with
    | .ok shorter => (.ok none, shorter)
    | .error f => (.error f, b)
  | .reset => (.ok none, b.reset)

def calls (b : SequenceBuffer α) (cs : List (Call α)) : SequenceBuffer α :=
  cs.foldl (fun b c => (b.call c).2) b

end Calls

theorem overwriteAll_begins {news olds : List (Slot α)} (room : news.length ≤ olds.length) :
    List.Forall₂ (· <+: ·) news ((overwriteAll news olds).take news.length) := by
  induction news generalizing olds with
  | nil => exact .nil
  | cons new news ih =>
    cases olds with
    | nil => simp at room
    | cons old olds => exact .cons (List.prefix_append _ _) (ih (by simpa using room))

theorem rowOf_take {written slots : List (Slot α)} (h : List.Forall₂ (· <+: ·) written slots)
    {rows row : Nat} (shown : ∀ slot ∈ written, row < rows) (all : Wrote row written) :
    rowOf row (slots.map (·.take rows)) = rowOf row written := by
  induction h with
  | nil => rfl
  | @cons new slot written slots hslot _ ih =>
    obtain ⟨rest, rfl⟩ := hslot
    have hfirst : ((new ++ rest).take rows)[row]? = new[row]? := by
      rw [List.getElem?_take_of_lt (shown new (by simp)),
        List.getElem?_append_left (all new (by simp))]
    exact congrArg₂ List.cons hfirst (ih (fun slot hmem => shown slot (List.mem_cons_of_mem _ hmem))
      fun slot hmem => all slot (List.mem_cons_of_mem _ hmem))

/-- The storage has the sizes of a layout, and its valid slots begin with those of a queue, which
have no more batch rows than there are. -/
structure Queued (b : SequenceBuffer α) (l : Layout) (held : List (Slot α)) : Prop where
  sized : b.Sized l
  begins : List.Forall₂ (· <+: ·) held b.history
  rows_le : ∀ slot ∈ held, slot.length ≤ l.batch

namespace Queued

variable {b : SequenceBuffer α} {l : Layout} {held : List (Slot α)}

theorem len_eq (h : b.Queued l held) : b.len = held.length := by
  rw [← b.length_history, h.begins.length_eq]

theorem len_le (h : b.Queued l held) : held.length ≤ l.capacity := by
  rw [← h.len_eq, ← h.sized.capacity_eq]
  exact b.len_le

theorem shape_eq (h : b.Queued l held) : b.shape = [l.batch, l.heads, l.capacity, l.dim] := by
  rw [shape, h.sized.batch_eq, h.sized.heads_eq, h.sized.capacity_eq, h.sized.dim_eq]

theorem rowOf_view (h : b.Queued l held) {rows row : Nat} (shown : row < rows)
    (wrote : Wrote row held) : rowOf row (b.view rows).slots = rowOf row held :=
  rowOf_take h.begins (fun _ _ => shown) wrote

theorem rowOf_get (h : b.Queued l held) {row : Nat} (wrote : Wrote row held) :
    rowOf row b.get.slots = rowOf row held := by
  refine rowOf_take h.begins (fun slot hslot => ?_) wrote
  rw [h.sized.batch_eq]
  exact Nat.lt_of_lt_of_le (wrote slot hslot) (h.rows_le slot hslot)

theorem reset (h : b.Queued l held) : b.reset.Queued l [] := ⟨h.sized.reset, .nil, by simp⟩

theorem fits_iff (h : b.Queued l held) (x : Block α) :
    ¬(x.batch > b.batch ∨ x.heads ≠ b.heads ∨ x.dim ≠ b.dim) ↔ l.Admits x.batch x.heads x.dim := by
  rw [h.sized.batch_eq, h.sized.heads_eq, h.sized.dim_eq, Layout.Admits]
  omega

theorem append_misfit (h : b.Queued l held) {x : Block α}
    (misfit : ¬l.Admits x.batch x.heads x.dim) :
    b.append x = .error (.misfit x.shape [l.batch, l.heads, l.capacity, l.dim]) := by
  rw [append, if_pos (by_contra fun hfits => misfit ((h.fits_iff x).mp hfits)), h.shape_eq]

theorem append_full (h : b.Queued l held) {x : Block α} (admits : l.Admits x.batch x.heads x.dim)
    (full : l.capacity < held.length + x.slots.length) :
    b.append x = .error (.capacityExceeded held.length x.slots.length l.capacity) := by
  have hcapacity := h.sized.capacity_eq
  have hlen := h.len_eq
  rw [append, if_neg ((h.fits_iff x).mpr admits), dif_pos (by omega), hlen, hcapacity]

theorem append_taken (h : b.Queued l held) {x : Block α} (admits : l.Admits x.batch x.heads x.dim)
    (rows : ∀ slot ∈ x.slots, slot.length = x.batch)
    (room : held.length + x.slots.length ≤ l.capacity) :
    ∃ grown, b.append x = .ok (grown, grown.view x.batch) ∧ grown.Queued l (held ++ x.slots) := by
  have hroom : b.len + x.slots.length ≤ b.capacity := by rwa [h.len_eq, h.sized.capacity_eq]
  have htail : x.slots.length ≤ (b.storage.drop b.len).length := by
    rw [List.length_drop]
    exact Nat.le_sub_of_add_le' hroom
  obtain ⟨grown, happend, hsizes, -, hhistory⟩ :=
    SequenceBuffer.append_taken ⟨(h.fits_iff x).mpr admits, hroom⟩
  refine ⟨grown, happend, h.sized.of_sameSizes hsizes, ?_,
    List.forall_mem_append.mpr ⟨h.rows_le, ?_⟩⟩
  · rw [hhistory]
    exact List.rel_append h.begins (overwriteAll_begins htail)
  · intro slot hslot
    rw [rows slot hslot]
    exact admits.1

section Evict

variable [Scalar α]

theorem evict_taken (h : b.Queued l held) {n : Int} (few : n ≤ held.length) :
    ∃ shorter, b.evict n = .ok shorter ∧ shorter.Queued l (held.drop n.toNat) := by
  have hlen := h.len_eq
  obtain ⟨hmany, -⟩ | ⟨-, shorter, hevict, hsizes, hhistory⟩ := b.evict_cases n
  · omega
  · refine ⟨shorter, hevict, h.sized.of_sameSizes hsizes, ?_,
      fun slot hslot => h.rows_le slot (List.mem_of_mem_drop hslot)⟩
    rw [hhistory]
    exact List.forall₂_drop n.toNat h.begins

theorem evict_refused (h : b.Queued l held) {n : Int} (many : held.length < n) :
    b.evict n = .error (.evictTooMany n held.length) := by
  have hlen := h.len_eq
  obtain ⟨-, hevict⟩ | ⟨hfew, -⟩ := b.evict_cases n
  · rw [hevict, hlen]
  · omega

/-- A call leaves of the buffer what it leaves of the queue. -/
theorem call (h : b.Queued l held) (c : Call α) : (b.call c).2.Queued l (next l held c) := by
  cases c with
  | reset => exact h.reset
  | evict n =>
    rw [next, SequenceBuffer.call]
    by_cases hfew : n ≤ held.length
    · obtain ⟨shorter, hevict, hshorter⟩ := h.evict_taken hfew
      rw [if_pos hfew, hevict]
      exact hshorter
    · rw [if_neg hfew, h.evict_refused (by omega)]
      exact h
  | append x =>
    rw [next, SequenceBuffer.call, appendTensor]
    cases hblock : Block.ofTensor x with
    | error f => exact h
    | ok block =>
      simp only [Except.bind]
      by_cases hadmits : l.Admits block.batch block.heads block.dim
      · by_cases hroom : held.length + block.slots.length ≤ l.capacity
        · obtain ⟨grown, happend, hgrown⟩ :=
            h.append_taken hadmits (Block.shape_of_ofTensor hblock).2 hroom
          rw [if_pos ⟨hadmits, hroom⟩, happend]
          exact hgrown
        · rw [if_neg fun hboth => hroom hboth.2, h.append_full hadmits (by omega)]
          exact h
      · rw [if_neg fun hboth => hadmits hboth.1, h.append_misfit hadmits]
        exact h

theorem calls (h : b.Queued l []) (cs : List (Call α)) : (b.calls cs).Queued l (queue l cs) := by
  induction cs using List.reverseRecOn with
  | nil => exact h
  | append_singleton cs c ih =>
    rw [queue_concat, SequenceBuffer.calls, List.foldl_concat]
    exact ih.call c

variable {x : Tensor α} {batch heads count dim : Nat}

theorem call_misfit (h : b.Queued l held) (shape : x.shape = [batch, heads, count, dim])
    (misfit : ¬l.Admits batch heads dim) :
    b.call (.append x) = (.error (.misfit x.shape b.shape), b) := by
  obtain ⟨slots, hblock, hcount, -⟩ := Block.ofTensor_ok shape
  have hrefused := h.append_misfit (x := ⟨batch, heads, dim, slots⟩) misfit
  rw [Block.shape, hcount, ← shape, ← h.shape_eq] at hrefused
  rw [SequenceBuffer.call, appendTensor, hblock, Except.bind, hrefused]

theorem call_full (h : b.Queued l held) (shape : x.shape = [batch, heads, count, dim])
    (admits : l.Admits batch heads dim) (full : l.capacity < held.length + count) :
    b.call (.append x) = (.error (.capacityExceeded held.length count l.capacity), b) := by
  obtain ⟨slots, hblock, rfl, -⟩ := Block.ofTensor_ok shape
  have hrefused := h.append_full (x := ⟨batch, heads, dim, slots⟩) admits full
  rw [SequenceBuffer.call, appendTensor, hblock, Except.bind, hrefused]

theorem call_taken (h : b.Queued l held) (shape : x.shape = [batch, heads, count, dim])
    (admits : l.Admits batch heads dim) (room : held.length + count ≤ l.capacity) :
    ∃ view grown, b.call (.append x) = (.ok (some view), grown) ∧
      view.shape = [batch, l.heads, held.length + count, l.dim] ∧
      ∀ row < batch, Wrote row held →
        rowOf row view.slots = rowOf row (next l held (.append x)) := by
  obtain ⟨slots, hblock, rfl, hrows⟩ := Block.ofTensor_ok shape
  obtain ⟨grown, happend, hgrown⟩ :=
    h.append_taken (x := ⟨batch, heads, dim, slots⟩) admits hrows room
  refine ⟨grown.view batch, grown, ?_, ?_, fun row hrow hwrote => ?_⟩
  · rw [SequenceBuffer.call, appendTensor, hblock, Except.bind, happend]
  · have hlen := hgrown.len_eq
    rw [List.length_append] at hlen
    simp [Block.shape, view, hgrown.sized.heads_eq, hgrown.sized.dim_eq, hlen]
  · have hnew : Wrote row slots := fun slot hslot => by rw [hrows slot hslot]; exact hrow
    rw [hgrown.rowOf_view hrow (List.forall_mem_append.mpr ⟨hwrote, hnew⟩), next, hblock]
    simp only [if_pos (And.intro admits room)]

theorem call_evict (h : b.Queued l held) (n : Int) :
    (held.length < n → b.call (.evict n) = (.error (.evictTooMany n held.length), b)) ∧
      (n ≤ held.length → (b.call (.evict n)).1 = .ok none) ∧
      (n ≤ 0 → (b.call (.evict n)).2 = b) := by
  refine ⟨fun hmany => ?_, fun hfew => ?_, fun hnone => ?_⟩
  · rw [SequenceBuffer.call, h.evict_refused hmany]
  · obtain ⟨shorter, hevict, -⟩ := h.evict_taken hfew
    rw [SequenceBuffer.call, hevict]
  · rw [SequenceBuffer.call, evict, if_pos hnone]

end Evict

end Queued

section Main

variable [Scalar α]

theorem empty_queued (l : Layout) (hc : 0 < l.capacity) (strategy : CacheStrategy) :
    ∃ fresh : SequenceBuffer α,
      empty l.batch l.heads l.capacity l.dim strategy = .ok fresh ∧ fresh.Queued l [] := by
  obtain ⟨fresh, hfresh⟩ := empty_ok (α := α) l.batch l.heads l.dim hc strategy
  have hempty := empty_holds hfresh (Nat.zero_le _)
  have hhistory : fresh.history = [] := List.map_eq_nil_iff.mp hempty.content_eq
  refine ⟨fresh, hfresh, ⟨hempty.batch_eq, hempty.heads_eq, hempty.dim_eq, hempty.capacity_eq⟩, ?_,
    by simp⟩
  rw [hhistory]
  exact .nil

/-- Whatever the sizes, the strategy and the calls so far, a row that all surviving blocks have
written holds the queue of what was taken in, in order, and the buffer is never longer than its
capacity. A tensor is refused for its axes, else for its sizes, else for want of room, and for
nothing else; dropping is refused for more slots than there are, and drops none for a count that is
not positive. A refused call changes nothing. -/
theorem calls_queue (l : Layout) (hc : 0 < l.capacity) (strategy : CacheStrategy)
    (cs : List (Call α)) :
    ∃ fresh : SequenceBuffer α, empty l.batch l.heads l.capacity l.dim strategy = .ok fresh ∧
      let b := fresh.calls cs
      let held := queue l cs
      b.len = held.length ∧ held.length ≤ l.capacity ∧ b.capacity = l.capacity ∧
      b.get.shape = [l.batch, l.heads, held.length, l.dim] ∧
      (∀ row, Wrote row held → rowOf row b.get.slots = rowOf row held) ∧
      (∀ c, (b.call c).2 = fresh.calls (cs ++ [c])) ∧
      (∀ x : Tensor α, x.rank ≠ 4 → b.call (.append x) = (.error (.notRankFour x.shape), b)) ∧
      (∀ x batch heads count dim, x.shape = [batch, heads, count, dim] →
        (¬l.Admits batch heads dim → b.call (.append x) = (.error (.misfit x.shape b.shape), b)) ∧
        (l.Admits batch heads dim → l.capacity < held.length + count →
          b.call (.append x) = (.error (.capacityExceeded held.length count l.capacity), b)) ∧
        (l.Admits batch heads dim → held.length + count ≤ l.capacity →
          ∃ view grown, b.call (.append x) = (.ok (some view), grown) ∧
            view.shape = [batch, l.heads, held.length + count, l.dim] ∧
            ∀ row < batch, Wrote row held →
              rowOf row view.slots = rowOf row (queue l (cs ++ [.append x])))) ∧
      ∀ n : Int,
        (held.length < n → b.call (.evict n) = (.error (.evictTooMany n held.length), b)) ∧
        (n ≤ held.length → (b.call (.evict n)).1 = .ok none) ∧
        (n ≤ 0 → (b.call (.evict n)).2 = b) := by
  obtain ⟨fresh, hfresh, hempty⟩ := empty_queued (α := α) l hc strategy
  have h := hempty.calls cs
  refine ⟨fresh, hfresh, h.len_eq, h.len_le, h.sized.capacity_eq, ?_, fun row => h.rowOf_get,
    fun c => ?_, fun x hrank => ?_, fun x batch heads count dim hshape => ?_, h.call_evict⟩
  · simp [Block.shape, get, view, h.sized.batch_eq, h.sized.heads_eq, h.sized.dim_eq, h.len_eq]
  · rw [calls, calls, List.foldl_concat]
  · rw [call, appendTensor, Block.ofTensor_error hrank]
    rfl
  · simp only [queue_concat]
    exact ⟨h.call_misfit hshape, h.call_full hshape, h.call_taken hshape⟩

/-- Two batch rows of one number each. The second block writes only the first row; then the oldest
slot is dropped, a block finds no room, and too many slots are asked for. -/
def unevenCalls : List (Call Float) :=
  [.append ⟨[2, 1, 2, 1], #[1, 2, 3, 4]⟩, .append ⟨[1, 1, 1, 1], #[5]⟩, .evict 1,
    .append ⟨[2, 1, 2, 1], #[6, 7, 8, 9]⟩, .evict 3]

theorem unevenCalls_queue :
    let l : Layout := ⟨2, 2, 1, 1, 3, Nat.le_refl 2⟩
    0 < l.capacity ∧ ∃ fresh : SequenceBuffer Float,
      empty 2 1 3 1 .shrink = .ok fresh ∧ (fresh.calls unevenCalls).len = 2 ∧
      rowOf 0 (fresh.calls unevenCalls).get.slots = [some [[2]], some [[5]]] ∧
      (fresh.calls unevenCalls).call (.append ⟨[1, 1, 2, 1], #[6, 7]⟩) =
        (.error (.capacityExceeded 2 2 3), fresh.calls unevenCalls) := by
  refine ⟨by decide, ?_⟩
  obtain ⟨fresh, hfresh, hlen, -, -, -, hrow, -, -, happend, -⟩ :=
    calls_queue ⟨2, 2, 1, 1, 3, Nat.le_refl 2⟩ (by decide) .shrink unevenCalls
  have hheld : queue ⟨2, 2, 1, 1, 3, Nat.le_refl 2⟩ unevenCalls = [[[[2]], [[4]]], [[[5]]]] := rfl
  rw [hheld] at hlen hrow happend
  exact ⟨fresh, hfresh, hlen, hrow 0 (by decide),
    (happend _ 1 1 2 1 rfl).2.1 (by decide) (by decide)⟩

end Main

end SequenceBuffer
end StreamingLM
