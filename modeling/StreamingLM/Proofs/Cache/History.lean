import Mathlib.Data.List.Basic
import StreamingLM.Cache.KeyValue

/-!
What buffers hold, as lists of slots: writing a block appends it, eviction drops the oldest slots
under either strategy, and neither fails as long as sizes and room agree.
-/
namespace StreamingLM

/-- The sizes that a buffer and the blocks written to it agree on: the batch rows in use out of
those that there are, the heads, the width of a head, and the positions that fit. -/
structure Layout where
  rows : Nat
  batch : Nat
  heads : Nat
  dim : Nat
  capacity : Nat
  rows_le : rows ≤ batch

namespace Layout

variable {α : Type}

def block (l : Layout) (slots : List (Slot α)) : Block α := ⟨l.rows, l.heads, l.dim, slots⟩

/-- Every slot has an entry for each batch row in use. -/
def Full (l : Layout) (slots : List (Slot α)) : Prop := ∀ slot ∈ slots, slot.length = l.rows

end Layout

namespace SequenceBuffer

variable {α : Type}

/-- A buffer of the sizes of a layout that holds `content` in the batch rows in use. -/
structure Holds (b : SequenceBuffer α) (l : Layout) (content : List (Slot α)) : Prop where
  batch_eq : b.batch = l.batch
  heads_eq : b.heads = l.heads
  dim_eq : b.dim = l.dim
  capacity_eq : b.capacity = l.capacity
  content_eq : b.history.map (·.take l.rows) = content

namespace Holds

variable {b : SequenceBuffer α} {l : Layout} {content : List (Slot α)}

theorem len_eq (h : b.Holds l content) : b.len = content.length := by
  rw [← h.content_eq, List.length_map, length_history]

theorem view_eq (h : b.Holds l content) : b.view l.rows = l.block content := by
  simp [view, Layout.block, h.heads_eq, h.dim_eq, h.content_eq]

theorem get_eq (h : b.Holds l content) (all : l.rows = l.batch) : b.get = l.block content := by
  rw [get, h.batch_eq, ← all, h.view_eq]

theorem reset (h : b.Holds l content) : b.reset.Holds l [] where
  batch_eq := h.batch_eq
  heads_eq := h.heads_eq
  dim_eq := h.dim_eq
  capacity_eq := h.capacity_eq
  content_eq := by simp [SequenceBuffer.reset, history]

end Holds

theorem take_overwriteAll {rows : Nat} (news olds : List (Slot α))
    (full : ∀ slot ∈ news, slot.length = rows) (room : news.length ≤ olds.length) :
    ((overwriteAll news olds).take news.length).map (·.take rows) = news := by
  induction news generalizing olds with
  | nil => simp
  | cons new news ih =>
    cases olds with
    | nil => simp at room
    | cons old olds =>
      have hnew : (overwrite new old).take rows = new := List.take_left' (full new (by simp))
      have hrest := ih olds (fun slot h => full slot (by simp [h])) (by simpa using room)
      simp only [overwriteAll, List.length_cons, List.take_succ_cons, List.map_cons, hnew, hrest]

theorem append_fits {b : SequenceBuffer α} {x : Block α}
    (fit : ¬(x.batch > b.batch ∨ x.heads ≠ b.heads ∨ x.dim ≠ b.dim))
    (room : b.len + x.slots.length ≤ b.capacity) :
    ∃ grown, b.append x = .ok (grown, grown.view x.batch) ∧
      grown.batch = b.batch ∧ grown.heads = b.heads ∧ grown.dim = b.dim ∧
      grown.capacity = b.capacity ∧
      grown.history =
        b.history ++ (overwriteAll x.slots (b.storage.drop b.len)).take x.slots.length := by
  have hl := b.len_le
  rw [append, if_neg fit, dif_neg (by omega)]
  refine ⟨_, rfl, rfl, rfl, rfl, ?_, ?_⟩
  · simp only [capacity, List.length_append, List.length_take, length_overwriteAll,
      List.length_drop]
    omega
  · have hlen : (b.storage.take b.len).length = b.len := List.length_take_of_le hl
    simp only [history, List.take_append, hlen, Nat.add_sub_cancel_left]
    rw [List.take_of_length_le (by omega)]

theorem append_holds {b : SequenceBuffer α} {l : Layout} {content slots : List (Slot α)}
    (h : b.Holds l content) (full : l.Full slots)
    (room : content.length + slots.length ≤ l.capacity) :
    ∃ grown, b.append (l.block slots) = .ok (grown, l.block (content ++ slots)) ∧
      grown.Holds l (content ++ slots) := by
  have hfit : ¬((l.block slots).batch > b.batch ∨ (l.block slots).heads ≠ b.heads ∨
      (l.block slots).dim ≠ b.dim) := by
    have := l.rows_le
    simp only [Layout.block, h.batch_eq, h.heads_eq, h.dim_eq]
    omega
  have hroom : b.len + (l.block slots).slots.length ≤ b.capacity := by
    rw [h.len_eq, h.capacity_eq]
    exact room
  obtain ⟨grown, hok, hbatch, hheads, hdim, hcapacity, hhistory⟩ := append_fits hfit hroom
  have htail : slots.length ≤ (b.storage.drop b.len).length := by
    rw [List.length_drop]
    exact Nat.le_sub_of_add_le' hroom
  have hgrown : grown.Holds l (content ++ slots) := by
    refine ⟨hbatch.trans h.batch_eq, hheads.trans h.heads_eq, hdim.trans h.dim_eq,
      hcapacity.trans h.capacity_eq, ?_⟩
    rw [hhistory, List.map_append, h.content_eq]
    exact congrArg _ (take_overwriteAll slots _ full htail)
  refine ⟨grown, ?_, hgrown⟩
  rw [hok]
  exact congrArg (fun v => Except.ok (grown, v)) hgrown.view_eq

section Evict

variable [Scalar α]

theorem take_compacted (b : SequenceBuffer α) (n : Nat) :
    (b.compacted n).take (b.len - n) = b.history.drop n := by
  have hl := b.len_le
  have hkept : ((b.storage.drop n).take (b.len - n)).length = b.len - n := by
    simp only [List.length_take, List.length_drop]
    omega
  have htake : (b.compacted n).take (b.len - n) = (b.storage.drop n).take (b.len - n) := by
    unfold compacted
    cases b.strategy <;> exact List.take_left' hkept
  rw [htake, history, List.drop_take]

theorem evict_holds {b : SequenceBuffer α} {l : Layout} {content : List (Slot α)}
    (h : b.Holds l content) {n : Nat} (hn : n ≤ content.length) :
    ∃ shorter, b.evict n = .ok shorter ∧ shorter.Holds l (content.drop n) := by
  rcases Nat.eq_zero_or_pos n with rfl | hpos
  · exact ⟨b, by simp [evict], by simpa using h⟩
  · have hlen := h.len_eq
    have h0 : ¬(n : Int) ≤ 0 := by omega
    have h1 : ¬(b.len : Int) < n := by omega
    simp only [evict, h0, h1, if_false, dif_neg, not_false_eq_true]
    refine ⟨_, rfl, h.batch_eq, h.heads_eq, h.dim_eq, ?_, ?_⟩
    · rw [← h.capacity_eq]
      exact b.length_compacted n (by omega)
    · rw [← h.content_eq, ← List.map_drop]
      exact congrArg (List.map _) (b.take_compacted n)

theorem empty_holds {batch heads capacity dim : Int} {strategy : CacheStrategy}
    {b : SequenceBuffer α} (ok : empty batch heads capacity dim strategy = .ok b) {rows : Nat}
    (hrows : rows ≤ batch.toNat) :
    b.Holds ⟨rows, batch.toNat, heads.toNat, dim.toNat, capacity.toNat, hrows⟩ [] := by
  simp only [empty] at ok
  split at ok
  · cases ok
  · split at ok
    · cases ok
    · cases ok
      exact ⟨rfl, rfl, rfl, by simp [SequenceBuffer.capacity], by simp [history]⟩

theorem empty_ok (batch heads dim : Nat) {capacity : Nat} (hc : 0 < capacity)
    (strategy : CacheStrategy) :
    ∃ b : SequenceBuffer α, empty batch heads capacity dim strategy = .ok b := by
  have h0 : ¬(capacity : Int) ≤ 0 := by omega
  have h1 : ¬((batch : Int) < 0 ∨ (heads : Int) < 0 ∨ (dim : Int) < 0) := by omega
  exact ⟨_, by rw [empty, if_neg h0, if_neg h1]⟩

end Evict

end SequenceBuffer

abbrev Entry (α : Type) := Slot α × Slot α

namespace KeyValueCache

variable {α : Type}

structure Holds (c : KeyValueCache α) (l : Layout) (entries : List (Entry α)) : Prop where
  key : c.key.Holds l (entries.map (·.1))
  value : c.value.Holds l (entries.map (·.2))

namespace Holds

variable {c : KeyValueCache α} {l : Layout} {entries : List (Entry α)}

theorem len_eq (h : c.Holds l entries) : c.len = entries.length := by
  rw [KeyValueCache.len, h.key.len_eq, List.length_map]

theorem checkSync (h : c.Holds l entries) (operation : String) :
    c.checkSync operation = .ok () := by
  have hk := h.key.len_eq
  have hv := h.value.len_eq
  simp only [List.length_map] at hk hv
  simp [KeyValueCache.checkSync, inSync, hk, hv]

theorem reset (h : c.Holds l entries) : c.reset.Holds l [] := ⟨h.key.reset, h.value.reset⟩

end Holds

theorem forward_holds {c : KeyValueCache α} {l : Layout} {entries new : List (Entry α)}
    (h : c.Holds l entries) (keys : l.Full (new.map (·.1))) (values : l.Full (new.map (·.2)))
    (room : entries.length + new.length ≤ l.capacity) :
    ∃ grown, c.forward (l.block (new.map (·.1))) (l.block (new.map (·.2))) =
        (.ok (l.block ((entries ++ new).map (·.1)), l.block ((entries ++ new).map (·.2))), grown) ∧
      grown.Holds l (entries ++ new) := by
  obtain ⟨key, hkey, hk⟩ := SequenceBuffer.append_holds h.key keys (by simpa using room)
  obtain ⟨value, hvalue, hv⟩ := SequenceBuffer.append_holds h.value values (by simpa using room)
  rw [← List.map_append] at hkey hk hvalue hv
  have hgrown : (⟨key, value⟩ : KeyValueCache α).Holds l (entries ++ new) := ⟨hk, hv⟩
  refine ⟨⟨key, value⟩, ?_, hgrown⟩
  simp only [forward, join, hkey, hvalue, hgrown.checkSync]
  rfl

variable [Scalar α]

theorem evict_holds {c : KeyValueCache α} {l : Layout} {entries : List (Entry α)}
    (h : c.Holds l entries) {n : Nat} (hn : n ≤ entries.length) :
    ∃ shorter, c.evict n = (.ok (), shorter) ∧ shorter.Holds l (entries.drop n) := by
  obtain ⟨key, hkey, hk⟩ := SequenceBuffer.evict_holds h.key (n := n) (by simpa using hn)
  obtain ⟨value, hvalue, hv⟩ := SequenceBuffer.evict_holds h.value (n := n) (by simpa using hn)
  rw [← List.map_drop] at hk hv
  have hshorter : (⟨key, value⟩ : KeyValueCache α).Holds l (entries.drop n) := ⟨hk, hv⟩
  refine ⟨⟨key, value⟩, ?_, hshorter⟩
  simp only [evict, hkey, hvalue, hshorter.checkSync]

theorem empty_holds {batch heads capacity dim : Int} {strategy : CacheStrategy}
    {c : KeyValueCache α} (ok : empty batch heads capacity dim strategy = .ok c) {rows : Nat}
    (hrows : rows ≤ batch.toNat) :
    c.Holds ⟨rows, batch.toNat, heads.toNat, dim.toNat, capacity.toNat, hrows⟩ [] := by
  simp only [empty] at ok
  cases hb : SequenceBuffer.empty (α := α) batch heads capacity dim strategy with
  | error f => rw [hb] at ok; cases ok
  | ok b =>
    rw [hb] at ok
    cases ok
    have h := SequenceBuffer.empty_holds hb hrows
    exact ⟨h, h⟩

end KeyValueCache
end StreamingLM
