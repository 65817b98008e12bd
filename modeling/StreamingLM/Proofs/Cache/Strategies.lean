import StreamingLM.Proofs.Cache.Queue
import StreamingLM.Proofs.Number.Real

/-!
The two ways to drop positions, side by side. One keeps its storage and the other takes fresh
storage, and a block that does not fill all batch rows leaves in the others what it finds there.
Main statement: after any calls, buffers of both strategies come to the same wherever the block of a
position has written a row or none before it had, and everywhere if the blocks never get narrower.
-/
namespace StreamingLM

variable {α : Type}

def Layout.ofSizes (batch heads capacity dim : Int) : Layout :=
  ⟨0, batch.toNat, heads.toNat, dim.toNat, capacity.toNat, Nat.zero_le _⟩

namespace SequenceBuffer

/-- A slot that was taken in, and how many batch rows had been written before it came. -/
structure Arrival (α : Type) where
  slot : Slot α
  before : Nat

def Arrival.Settled (a : Arrival α) (row : Nat) : Prop := row < a.slot.length ∨ a.before ≤ row

/-- The slots that are in a buffer, and how many batch rows have been written since it was made. -/
structure Intake (α : Type) where
  reach : Nat := 0
  arrivals : List (Arrival α) := []

/-- The slots by which a tensor makes a queue longer, none if it is refused. -/
def joining (l : Layout) (queue : List (Slot α)) (x : Tensor α) : List (Slot α) :=
  (next l queue (.append x)).drop queue.length

namespace Intake

def queue (t : Intake α) : List (Slot α) := t.arrivals.map (·.slot)

def next (l : Layout) (t : Intake α) : Call α → Intake α
  | .append x =>
    let joined := joining l t.queue x
    { reach := joined.foldl (fun reach slot => max reach slot.length) t.reach
      arrivals := t.arrivals ++ joined.map (⟨·, t.reach⟩) }
  | .evict n => if n ≤ t.arrivals.length then { t with arrivals := t.arrivals.drop n.toNat } else t
  | .reset => { t with arrivals := [] }

end Intake

/-- What calls leave of an intake, from a new buffer on. -/
def intake (l : Layout) (cs : List (Call α)) : Intake α := cs.foldl (Intake.next l) {}

/-- Blocks of the same sizes, with the slots of these arrivals, that show the same in every row that
is settled. -/
structure AgreeOn (arrivals : List (Arrival α)) (x y : Block α) : Prop where
  shape_eq : x.shape = y.shape
  length_eq : x.slots.length = arrivals.length
  rows_eq : ∀ (i : Nat) (a : Arrival α), arrivals[i]? = some a → ∀ row, a.Settled row →
    (x.slots[i]?).bind (·[row]?) = (y.slots[i]?).bind (·[row]?)

/-- What two buffers answer to a call: the same refusal, nothing, or blocks that agree. -/
inductive Answers (arrivals : List (Arrival α)) :
    Except Failure (Option (Block α)) → Except Failure (Option (Block α)) → Prop where
  | refused (f : Failure) : Answers arrivals (.error f) (.error f)
  | silent : Answers arrivals (.ok none) (.ok none)
  | shown {x y : Block α} (agree : AgreeOn arrivals x y) : Answers arrivals (.ok x) (.ok y)

def Call.batch? : Call α → Option Nat
  | .append x => x.shape.head?
  | _ => none

/-- No tensor has fewer batch rows than one before it. -/
def Widening (cs : List (Call α)) : Prop := (cs.filterMap Call.batch?).Pairwise (· ≤ ·)

instance (cs : List (Call α)) : Decidable (Widening cs) :=
  inferInstanceAs (Decidable (List.Pairwise _ _))

theorem intake_concat (l : Layout) (cs : List (Call α)) (c : Call α) :
    intake l (cs ++ [c]) = (intake l cs).next l c := by
  rw [intake, List.foldl_concat, intake]

theorem next_append_of_ok {l : Layout} {queue : List (Slot α)} {x : Tensor α} {block : Block α}
    (ok : Block.ofTensor x = .ok block) (admits : l.Admits block.batch block.heads block.dim)
    (room : queue.length + block.slots.length ≤ l.capacity) :
    next l queue (.append x) = queue ++ block.slots := by
  rw [next, ok]
  exact if_pos ⟨admits, room⟩

theorem next_append_cases (l : Layout) (queue : List (Slot α)) (x : Tensor α) :
    next l queue (.append x) = queue ∨
      ∃ block, Block.ofTensor x = .ok block ∧ next l queue (.append x) = queue ++ block.slots := by
  rw [next]
  cases hblock : Block.ofTensor x with
  | error f => exact .inl rfl
  | ok block =>
    by_cases htaken : l.Admits block.batch block.heads block.dim ∧
        queue.length + block.slots.length ≤ l.capacity
    · exact .inr ⟨block, rfl, if_pos htaken⟩
    · exact .inl (if_neg htaken)

theorem next_append (l : Layout) (queue : List (Slot α)) (x : Tensor α) :
    next l queue (.append x) = queue ++ joining l queue x := by
  obtain h | ⟨block, -, h⟩ := next_append_cases l queue x <;> simp [joining, h]

theorem batch?_of_mem_joining {l : Layout} {queue : List (Slot α)} {x : Tensor α} {slot : Slot α}
    (h : slot ∈ joining l queue x) : Call.batch? (.append x) = some slot.length := by
  obtain hnext | ⟨block, hblock, hnext⟩ := next_append_cases l queue x
  · simp [joining, hnext] at h
  · obtain ⟨hshape, hrows⟩ := Block.shape_of_ofTensor hblock
    rw [joining, hnext, List.drop_left] at h
    rw [Call.batch?, hshape, hrows slot h]
    rfl

theorem reach_le_iff (joined : List (Slot α)) (reach row : Nat) :
    joined.foldl (fun reach slot => max reach slot.length) reach ≤ row ↔
      reach ≤ row ∧ ∀ slot ∈ joined, slot.length ≤ row := by
  induction joined generalizing reach with
  | nil => simp
  | cons slot joined ih =>
    rw [List.foldl_cons, ih, Nat.max_le, List.forall_mem_cons, and_assoc]

namespace Intake

@[simp] theorem length_queue (t : Intake α) : t.queue.length = t.arrivals.length := by simp [queue]

theorem queue_next (l : Layout) (t : Intake α) (c : Call α) :
    (t.next l c).queue = SequenceBuffer.next l t.queue c := by
  cases c with
  | append x => simp [next_append, next, queue, Function.comp_def]
  | evict n =>
    simp only [next, SequenceBuffer.next, length_queue]
    split <;> simp [queue]
  | reset => rfl

theorem next_refused {l : Layout} {t : Intake α} {x : Tensor α}
    (h : SequenceBuffer.next l t.queue (.append x) = t.queue) : t.next l (.append x) = t := by
  have hnone : joining l t.queue x = [] := by rw [joining, h, List.drop_length]
  simp [next, hnone]

/-- Every slot that is in has as many batch rows as were written before it. -/
def Wide (t : Intake α) : Prop := ∀ a ∈ t.arrivals, a.before ≤ a.slot.length

theorem Wide.settled {t : Intake α} (h : t.Wide) {a : Arrival α} (ha : a ∈ t.arrivals) (row : Nat) :
    a.Settled row := by
  have hwide := h a ha
  unfold Arrival.Settled
  omega

theorem Wide.next {t : Intake α} (h : t.Wide) (l : Layout) {c : Call α}
    (wide : ∀ rows ∈ c.batch?, t.reach ≤ rows) : (t.next l c).Wide := by
  cases c with
  | reset => exact List.forall_mem_nil _
  | evict n =>
    rw [Intake.next]
    split
    · exact fun a ha => h a (List.mem_of_mem_drop ha)
    · exact h
  | append x =>
    refine List.forall_mem_append.mpr ⟨h, fun a ha => ?_⟩
    obtain ⟨slot, hslot, rfl⟩ := List.mem_map.mp ha
    exact wide _ (batch?_of_mem_joining hslot)

theorem reach_next_le {t : Intake α} (l : Layout) {c : Call α} {rows : Nat} (h : t.reach ≤ rows)
    (narrow : ∀ n ∈ c.batch?, n ≤ rows) : (t.next l c).reach ≤ rows := by
  cases c with
  | reset => exact h
  | evict n =>
    rw [Intake.next]
    split <;> exact h
  | append x =>
    exact (reach_le_iff _ _ _).mpr ⟨h, fun slot hslot => narrow _ (batch?_of_mem_joining hslot)⟩

end Intake

theorem reach_intake_le (l : Layout) {cs : List (Call α)} {rows : Nat}
    (h : ∀ n ∈ cs.filterMap Call.batch?, n ≤ rows) : (intake l cs).reach ≤ rows := by
  induction cs using List.reverseRecOn with
  | nil => exact Nat.zero_le _
  | append_singleton cs c ih =>
    rw [List.filterMap_append, List.forall_mem_append] at h
    rw [intake_concat]
    exact Intake.reach_next_le l (ih h.1) fun n hn => h.2 n (by simpa using hn)

/-- Blocks that never get narrower leave no old rows behind. -/
theorem Widening.wide (l : Layout) {cs : List (Call α)} (h : Widening cs) : (intake l cs).Wide := by
  induction cs using List.reverseRecOn with
  | nil => exact List.forall_mem_nil _
  | append_singleton cs c ih =>
    rw [Widening, List.filterMap_append, List.pairwise_append] at h
    obtain ⟨hcs, -, hlast⟩ := h
    rw [intake_concat]
    refine (ih hcs).next l fun rows hrows => reach_intake_le l fun n hn => ?_
    exact hlast n hn rows (by simpa using hrows)

theorem AgreeOn.eq {arrivals : List (Arrival α)} {x y : Block α} (h : AgreeOn arrivals x y)
    (settled : ∀ a ∈ arrivals, ∀ row, a.Settled row) : x = y := by
  obtain ⟨batch, heads, dim, slots⟩ := x
  obtain ⟨batch', heads', dim', slots'⟩ := y
  have hshape := h.shape_eq
  have hslots := h.length_eq
  simp only [Block.shape, List.cons.injEq, and_true] at hshape
  obtain ⟨rfl, rfl, hlen, rfl⟩ := hshape
  have hsame : slots = slots' := by
    refine List.ext_getElem hlen fun i hi hi' => List.ext_getElem? fun row => ?_
    have ha : i < arrivals.length := hslots ▸ hi
    have hrow := h.rows_eq i arrivals[i] (List.getElem?_eq_getElem ha) row
      (settled _ (List.getElem_mem ha) row)
    simpa [List.getElem?_eq_getElem hi, List.getElem?_eq_getElem hi'] using hrow
  rw [hsame]

theorem Answers.eq {arrivals : List (Arrival α)} {r r' : Except Failure (Option (Block α))}
    (h : Answers arrivals r r') (settled : ∀ a ∈ arrivals, ∀ row, a.Settled row) : r = r' := by
  cases h with
  | refused f => rfl
  | silent => rfl
  | shown agree => rw [agree.eq settled]

theorem queue_intake (l : Layout) (cs : List (Call α)) : (intake l cs).queue = queue l cs := by
  induction cs using List.reverseRecOn with
  | nil => rfl
  | append_singleton cs c ih => rw [intake_concat, queue_concat, Intake.queue_next, ih]

theorem getElem?_overwrite (new old : Slot α) (row : Nat) :
    (overwrite new old)[row]? = if row < new.length then new[row]? else old[row]? := by
  rw [overwrite, List.getElem?_append]
  split
  · rfl
  · rw [List.getElem?_drop]
    congr 1
    omega

theorem overwriteAll_over {news olds : List (Slot α)} (room : news.length ≤ olds.length) :
    List.Forall₂ (fun new slot => ∃ old ∈ olds, slot = overwrite new old) news
      ((overwriteAll news olds).take news.length) := by
  induction news generalizing olds with
  | nil => exact .nil
  | cons new news ih =>
    cases olds with
    | nil => simp at room
    | cons old olds =>
      refine .cons ⟨old, by simp, rfl⟩ ((ih (by simpa using room)).imp ?_)
      rintro new slot ⟨under, hunder, rfl⟩
      exact ⟨under, List.mem_cons_of_mem _ hunder, rfl⟩

theorem mem_overwriteAll {news olds : List (Slot α)} {slot : Slot α}
    (h : slot ∈ overwriteAll news olds) :
    slot ∈ olds ∨ ∃ new ∈ news, ∃ old ∈ olds, slot = overwrite new old := by
  fun_induction overwriteAll news olds with
  | case1 new news old olds ih =>
    obtain rfl | h := List.mem_cons.mp h
    · exact .inr ⟨new, by simp, old, by simp, rfl⟩
    · obtain hold | ⟨new', hnew, old', hold, rfl⟩ := ih h
      · exact .inl (List.mem_cons_of_mem _ hold)
      · exact .inr ⟨new', List.mem_cons_of_mem _ hnew, old', List.mem_cons_of_mem _ hold, rfl⟩
  | case2 => exact .inl h

variable {b b' : SequenceBuffer α} {l : Layout} {t : Intake α}

/-- What stands in the storage after a block was taken in stood there before, or stands over it. -/
theorem mem_storage_append {x : Block α} {grown : SequenceBuffer α} {shown : Block α}
    (ok : b.append x = .ok (grown, shown)) {slot : Slot α} (h : slot ∈ grown.storage) :
    slot ∈ b.storage ∨ ∃ new ∈ x.slots, ∃ old ∈ b.storage, slot = overwrite new old := by
  unfold append at ok
  split at ok
  · cases ok
  · split at ok
    · cases ok
    · cases ok
      obtain h | h := List.mem_append.mp h
      · exact .inl (List.mem_of_mem_take h)
      · obtain h | ⟨new, hnew, old, hold, rfl⟩ := mem_overwriteAll h
        · exact .inl (List.mem_of_mem_drop h)
        · exact .inr ⟨new, hnew, old, List.mem_of_mem_drop hold, rfl⟩

section Strategies

variable [Scalar α]

def freshSlot (l : Layout) : Slot α := zeroSlot l.batch l.heads l.dim

theorem mem_storage_evict {n : Int} {shorter : SequenceBuffer α} (ok : b.evict n = .ok shorter)
    {slot : Slot α} (h : slot ∈ shorter.storage) :
    slot ∈ b.storage ∨ slot = zeroSlot b.batch b.heads b.dim := by
  unfold evict at ok
  split at ok
  · cases ok
    exact .inl h
  · split at ok
    · cases ok
    · cases ok
      simp only [compacted] at h
      cases hstrategy : b.strategy <;> rw [hstrategy] at h <;>
        obtain h | h := List.mem_append.mp h
      · exact .inl (List.mem_of_mem_drop (List.mem_of_mem_take h))
      · exact .inl (List.mem_of_mem_drop h)
      · exact .inl (List.mem_of_mem_drop (List.mem_of_mem_take h))
      · exact .inr (List.eq_of_mem_replicate h)

/-- The buffer holds what was taken in. In a row that is settled, a slot shows what arrived, over
fresh storage; what is past all rows that were ever written is fresh. -/
structure Keeps (b : SequenceBuffer α) (l : Layout) (t : Intake α) : Prop where
  queued : b.Queued l t.queue
  fresh : ∀ slot ∈ b.storage, ∀ row, t.reach ≤ row → slot[row]? = (freshSlot l)[row]?
  shows : List.Forall₂ (fun a slot => ∀ row, a.Settled row →
    slot[row]? = (overwrite a.slot (freshSlot l))[row]?) t.arrivals b.history

namespace Keeps

theorem len_eq (h : b.Keeps l t) : b.len = t.arrivals.length := by
  rw [h.queued.len_eq, Intake.length_queue]

theorem reset (h : b.Keeps l t) : b.reset.Keeps l (t.next l .reset) where
  queued := h.queued.reset
  fresh := h.fresh
  shows := .nil

theorem evict (h : b.Keeps l t) {n : Int} (few : n ≤ t.arrivals.length)
    {shorter : SequenceBuffer α} (ok : b.evict n = .ok shorter) :
    shorter.Keeps l (t.next l (.evict n)) := by
  have hnext : t.next l (.evict n) = { t with arrivals := t.arrivals.drop n.toNat } := if_pos few
  have hqueued := h.queued.call (.evict n)
  rw [call, ok, ← Intake.queue_next] at hqueued
  have hhistory : shorter.history = b.history.drop n.toNat := by
    obtain ⟨-, hrefused⟩ | ⟨-, shorter', hevict, -, hhistory⟩ := b.evict_cases n
    · rw [hrefused] at ok
      cases ok
    · rw [hevict] at ok
      cases ok
      exact hhistory
  refine ⟨hqueued, fun slot hslot row hrow => ?_, ?_⟩
  · rw [hnext] at hrow
    obtain hold | rfl := mem_storage_evict ok hslot
    · exact h.fresh slot hold row hrow
    · rw [h.queued.sized.batch_eq, h.queued.sized.heads_eq, h.queued.sized.dim_eq, freshSlot]
  · rw [hnext, hhistory]
    exact List.forall₂_drop n.toNat h.shows

theorem append (h : b.Keeps l t) {x : Tensor α} {block : Block α}
    (tensor : Block.ofTensor x = .ok block) (admits : l.Admits block.batch block.heads block.dim)
    (room : t.arrivals.length + block.slots.length ≤ l.capacity) :
    ∃ grown, b.append block = .ok (grown, grown.view block.batch) ∧
      grown.Keeps l (t.next l (.append x)) := by
  have hjoined : joining l t.queue x = block.slots := by
    rw [joining, next_append_of_ok tensor admits (by simpa using room), List.drop_left]
  have hroom : b.len + block.slots.length ≤ b.capacity := by
    rw [h.len_eq, h.queued.sized.capacity_eq]
    exact room
  have htail : block.slots.length ≤ (b.storage.drop b.len).length := by
    rw [List.length_drop]
    exact Nat.le_sub_of_add_le' hroom
  obtain ⟨grown, ok, -, -, hhistory⟩ :=
    append_taken ⟨(h.queued.fits_iff block).mpr admits, hroom⟩
  have hqueued := h.queued.call (.append x)
  rw [call, appendTensor, tensor, Except.bind, ok, ← Intake.queue_next] at hqueued
  refine ⟨grown, ok, hqueued, fun slot hslot row hrow => ?_, ?_⟩
  · rw [Intake.next, hjoined, reach_le_iff] at hrow
    obtain ⟨hreach, hrows⟩ := hrow
    obtain hold | ⟨new, hnew, old, hold, rfl⟩ := mem_storage_append ok hslot
    · exact h.fresh slot hold row hreach
    · rw [getElem?_overwrite, if_neg (Nat.not_lt.mpr (hrows new hnew))]
      exact h.fresh old hold row hreach
  · rw [Intake.next, hjoined, hhistory]
    refine List.rel_append h.shows (List.forall₂_map_left_iff.mpr ?_)
    refine (overwriteAll_over htail).imp ?_
    rintro new slot ⟨old, hold, rfl⟩ row hsettled
    rw [getElem?_overwrite, getElem?_overwrite]
    split
    · rfl
    · have hfree : t.reach ≤ row := hsettled.resolve_left (by assumption)
      exact h.fresh old (List.mem_of_mem_drop hold) row hfree

theorem length_view (h : b.Keeps l t) (rows : Nat) :
    (b.view rows).slots.length = t.arrivals.length := by
  simp [view, h.len_eq]

/-- What shows in a settled row does not depend on the buffer. -/
theorem view_agree (h : b.Keeps l t) (h' : b'.Keeps l t) (rows : Nat) :
    AgreeOn t.arrivals (b.view rows) (b'.view rows) where
  shape_eq := by
    rw [Block.shape, Block.shape, h.length_view, h'.length_view, view, view,
      h.queued.sized.heads_eq, h'.queued.sized.heads_eq, h.queued.sized.dim_eq,
      h'.queued.sized.dim_eq]
  length_eq := h.length_view rows
  rows_eq := by
    have hshown (c : SequenceBuffer α) (hc : c.Keeps l t) (i : Nat) (a : Arrival α)
        (ha : t.arrivals[i]? = some a) (row : Nat) (settled : a.Settled row) :
        ((c.view rows).slots[i]?).bind (·[row]?) =
          if row < rows then (overwrite a.slot (freshSlot l))[row]? else none := by
      obtain ⟨hi, rfl⟩ := List.getElem?_eq_some_iff.mp ha
      have hi' : i < c.history.length := hc.shows.length_eq ▸ hi
      have hslot := List.Forall₂.get hc.shows hi hi' row settled
      simp only [List.get_eq_getElem] at hslot
      simp only [view, List.getElem?_map, List.getElem?_eq_getElem hi', Option.map_some,
        Option.bind_some, List.getElem?_take, hslot]
    intro i a ha row settled
    rw [hshown b h i a ha row settled, hshown b' h' i a ha row settled]

theorem get_agree (h : b.Keeps l t) (h' : b'.Keeps l t) : AgreeOn t.arrivals b.get b'.get := by
  rw [get, get, h.queued.sized.batch_eq, h'.queued.sized.batch_eq]
  exact h.view_agree h' l.batch

/-- Two buffers that hold the same intake answer a call alike, and hold the same intake again. -/
theorem call (h : b.Keeps l t) (h' : b'.Keeps l t) (c : Call α) :
    Answers (t.next l c).arrivals (b.call c).1 (b'.call c).1 ∧
      (b.call c).2.Keeps l (t.next l c) ∧ (b'.call c).2.Keeps l (t.next l c) := by
  cases c with
  | reset => exact ⟨.silent, h.reset, h'.reset⟩
  | evict n =>
    by_cases hfew : n ≤ t.arrivals.length
    · have hqueue : n ≤ t.queue.length := by simpa using hfew
      obtain ⟨shorter, ok, -⟩ := h.queued.evict_taken hqueue
      obtain ⟨shorter', ok', -⟩ := h'.queued.evict_taken hqueue
      simp only [SequenceBuffer.call, ok, ok']
      exact ⟨.silent, h.evict hfew ok, h'.evict hfew ok'⟩
    · have hmany : t.queue.length < n := by
        rw [Intake.length_queue]
        exact Int.not_le.mp hfew
      have hstays : t.next l (.evict n) = t := if_neg hfew
      simp only [SequenceBuffer.call, h.queued.evict_refused hmany, h'.queued.evict_refused hmany,
        hstays]
      exact ⟨.refused _, h, h'⟩
  | append x =>
    rw [SequenceBuffer.call, SequenceBuffer.call, appendTensor, appendTensor]
    cases hblock : Block.ofTensor x with
    | error f =>
      rw [Intake.next_refused (by rw [SequenceBuffer.next, hblock])]
      exact ⟨.refused f, h, h'⟩
    | ok block =>
      simp only [Except.bind]
      by_cases hadmits : l.Admits block.batch block.heads block.dim
      · by_cases hroom : t.arrivals.length + block.slots.length ≤ l.capacity
        · obtain ⟨grown, ok, hgrown⟩ := h.append hblock hadmits hroom
          obtain ⟨grown', ok', hgrown'⟩ := h'.append hblock hadmits hroom
          simp only [ok, ok']
          exact ⟨.shown (hgrown.view_agree hgrown' _), hgrown, hgrown'⟩
        · have hfull : l.capacity < t.queue.length + block.slots.length := by
            rw [Intake.length_queue]
            omega
          rw [Intake.next_refused (by
            rw [SequenceBuffer.next, hblock]
            exact if_neg fun hboth => by omega)]
          simp only [h.queued.append_full hadmits hfull, h'.queued.append_full hadmits hfull]
          exact ⟨.refused _, h, h'⟩
      · rw [Intake.next_refused (by
          rw [SequenceBuffer.next, hblock]
          exact if_neg fun hboth => hadmits hboth.1)]
        simp only [h.queued.append_misfit hadmits, h'.queued.append_misfit hadmits]
        exact ⟨.refused _, h, h'⟩

theorem calls (h : b.Keeps l {}) (cs : List (Call α)) : (b.calls cs).Keeps l (intake l cs) := by
  induction cs using List.reverseRecOn with
  | nil => exact h
  | append_singleton cs c ih =>
    rw [intake_concat, SequenceBuffer.calls, List.foldl_concat]
    exact (ih.call ih c).2.1

end Keeps

theorem empty_cases (batch heads capacity dim : Int) :
    (∃ f, ∀ strategy, empty (α := α) batch heads capacity dim strategy = .error f) ∨
      ∀ strategy, ∃ fresh : SequenceBuffer α,
        empty batch heads capacity dim strategy = .ok fresh ∧
          fresh.Keeps (.ofSizes batch heads capacity dim) {} := by
  by_cases hcapacity : capacity ≤ 0
  · exact .inl ⟨_, fun strategy => by rw [empty, if_pos hcapacity]⟩
  · by_cases hsizes : batch < 0 ∨ heads < 0 ∨ dim < 0
    · exact .inl ⟨_, fun strategy => by rw [empty, if_neg hcapacity, if_pos hsizes]⟩
    · refine .inr fun strategy => ⟨_, by rw [empty, if_neg hcapacity, if_neg hsizes], ?_, ?_, .nil⟩
      · exact ⟨⟨rfl, rfl, rfl, List.length_replicate⟩, .nil, by simp [Intake.queue]⟩
      · intro slot hslot row _
        rw [List.eq_of_mem_replicate hslot]
        rfl

/-- Whatever the sizes, either both strategies are refused them or both get a buffer. After any
calls, refused ones among them, the two have taken in the same and are of one length; they answer
every further call alike, and show the same wherever the slot of a position has written a batch row
or none before it had. As long as no block has fewer batch rows than one before it, they cannot be
told apart. -/
theorem strategies_agree (batch heads capacity dim : Int) :
    (∃ f, ∀ strategy, empty (α := α) batch heads capacity dim strategy = .error f) ∨
      ∃ shift shrink : SequenceBuffer α,
        empty batch heads capacity dim .shift = .ok shift ∧
        empty batch heads capacity dim .shrink = .ok shrink ∧
        ∀ cs : List (Call α),
          let l := Layout.ofSizes batch heads capacity dim
          let a := shift.calls cs
          let b := shrink.calls cs
          let arrivals := (intake l cs).arrivals
          arrivals.map (·.slot) = queue l cs ∧ a.len = arrivals.length ∧ b.len = arrivals.length ∧
          a.capacity = l.capacity ∧ b.capacity = l.capacity ∧
          AgreeOn arrivals a.get b.get ∧ (Widening cs → a.get = b.get) ∧
          ∀ c, Answers (intake l (cs ++ [c])).arrivals (a.call c).1 (b.call c).1 ∧
            (Widening (cs ++ [c]) → (a.call c).1 = (b.call c).1) := by
  obtain hrefused | hfresh := empty_cases (α := α) batch heads capacity dim
  · exact .inl hrefused
  · obtain ⟨shift, hshift, hs⟩ := hfresh .shift
    obtain ⟨shrink, hshrink, hr⟩ := hfresh .shrink
    refine .inr ⟨shift, shrink, hshift, hshrink, fun cs => ?_⟩
    have ha := hs.calls cs
    have hb := hr.calls cs
    have hget := ha.get_agree hb
    refine ⟨queue_intake _ cs, ha.len_eq, hb.len_eq, ha.queued.sized.capacity_eq,
      hb.queued.sized.capacity_eq, hget, fun hwide => ?_, fun c => ?_⟩
    · exact hget.eq fun a hmem => (hwide.wide _).settled hmem
    · obtain ⟨hanswers, hafter, -⟩ := ha.call hb c
      rw [← intake_concat] at hanswers hafter
      exact ⟨hanswers, fun hwide => hanswers.eq fun a hmem => (hwide.wide _).settled hmem⟩

/-- Two batch rows of one number each. A block of one row, one of both, an eviction, and a block of
both rows again. -/
def wideningCalls : List (Call Float) :=
  [.append ⟨[1, 1, 1, 1], #[1]⟩, .append ⟨[2, 1, 1, 1], #[2, 3]⟩, .evict 1,
    .append ⟨[2, 1, 1, 1], #[4, 5]⟩]

theorem wideningCalls_agree : ∃ shift shrink : SequenceBuffer Float,
    empty 2 1 2 1 .shift = .ok shift ∧ empty 2 1 2 1 .shrink = .ok shrink ∧
      (shift.calls wideningCalls).get = (shrink.calls wideningCalls).get := by
  obtain ⟨f, hrefused⟩ | ⟨shift, shrink, hshift, hshrink, hcalls⟩ :=
    strategies_agree (α := Float) 2 1 2 1
  · cases hrefused .shift
  · obtain ⟨-, -, -, -, -, -, hget, -⟩ := hcalls wideningCalls
    exact ⟨shift, shrink, hshift, hshrink, hget (by decide)⟩

/-- Both rows are written, the older position is dropped, a block of one row follows, and the older
position is dropped again. The second row of the position that is left shows what its block was
written over: a number that an eviction had moved to the front and left behind, or a zero of fresh
storage. -/
theorem narrowingCalls_differ :
    let narrowingCalls : List (Call ℝ) :=
      [.append ⟨[2, 1, 2, 1], #[1, 2, 3, 4]⟩, .evict 1, .append ⟨[1, 1, 1, 1], #[5]⟩, .evict 1]
    ∃ shift shrink : SequenceBuffer ℝ,
      empty 2 1 2 1 .shift = .ok shift ∧ empty 2 1 2 1 .shrink = .ok shrink ∧
        (shift.calls narrowingCalls).get = ⟨2, 1, 1, [[[[5]], [[4]]]]⟩ ∧
        (shrink.calls narrowingCalls).get = ⟨2, 1, 1, [[[[5]], [[Scalar.zero]]]]⟩ ∧
        (shift.calls narrowingCalls).get ≠ (shrink.calls narrowingCalls).get := by
  intro narrowingCalls
  refine ⟨_, _, rfl, rfl, rfl, rfl, fun hsame => ?_⟩
  have hrow : [[(4 : ℝ)]] = [[Scalar.zero]] := congrArg (·.column 1 0) hsame
  rw [Scalar.zero_real] at hrow
  simp at hrow

end Strategies

end SequenceBuffer
end StreamingLM
