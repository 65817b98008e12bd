import StreamingLM.Proofs.Cache.Queue
import StreamingLM.Proofs.Cache.Run

/-!
Runs of a cache set whose steps may bring any number of batch rows. What a layer retains is told by
queues: each slot begins with what was written at its position. Main statement: a run of steps and
resets never fails, and every layer retains the last window of positions, in order.
-/
namespace StreamingLM

variable {α : Type} {l : Layout}

/-- A block of `count` positions for the heads of a layout, with any batch rows that there are. -/
structure Layout.Brings (l : Layout) (count : Nat) (x : Block α) : Prop where
  admits : l.Admits x.batch x.heads x.dim
  length_eq : x.slots.length = count
  rows : ∀ slot ∈ x.slots, slot.length = x.batch

namespace KeyValueCache

/-- Both buffers hold their sides of the same entries, position by position. -/
structure Queued (c : KeyValueCache α) (l : Layout) (log : List (Entry α)) : Prop where
  key : c.key.Queued l (log.map (·.1))
  value : c.value.Queued l (log.map (·.2))

namespace Queued

variable {c : KeyValueCache α} {log : List (Entry α)}

theorem len_eq (h : c.Queued l log) : c.len = log.length := by
  rw [KeyValueCache.len, h.key.len_eq, List.length_map]

theorem checkSync (h : c.Queued l log) (operation : String) : c.checkSync operation = .ok () := by
  simp [KeyValueCache.checkSync, inSync, h.key.len_eq, h.value.len_eq]

theorem reset (h : c.Queued l log) : c.reset.Queued l [] := ⟨h.key.reset, h.value.reset⟩

theorem forward (h : c.Queued l log) {count : Nat} {k v : Block α} (hk : l.Brings count k)
    (hv : l.Brings count v) (room : log.length + count ≤ l.capacity) :
    ∃ shown grown, c.forward k v = (.ok shown, grown) ∧
      grown.Queued l (log ++ LayerCacheSet.entriesOf (k, v)) := by
  obtain ⟨key, hkey, hks⟩ := h.key.append_taken hk.admits hk.rows
    (by rw [List.length_map, hk.length_eq]; exact room)
  obtain ⟨value, hvalue, hvs⟩ := h.value.append_taken hv.admits hv.rows
    (by rw [List.length_map, hv.length_eq]; exact room)
  have hlen : k.slots.length = v.slots.length := hk.length_eq.trans hv.length_eq.symm
  have hgrown : (⟨key, value⟩ : KeyValueCache α).Queued l
      (log ++ LayerCacheSet.entriesOf (k, v)) := by
    constructor <;> rw [List.map_append, LayerCacheSet.entriesOf]
    · rwa [List.map_fst_zip hlen.le]
    · rwa [List.map_snd_zip hlen.ge]
  refine ⟨(key.view k.batch, value.view v.batch), ⟨key, value⟩, ?_, hgrown⟩
  simp only [KeyValueCache.forward, join, hkey, hvalue, hgrown.checkSync]
  rfl

theorem evict [Scalar α] (h : c.Queued l log) {n : Nat} (few : n ≤ log.length) :
    ∃ shorter, c.evict n = (.ok (), shorter) ∧ shorter.Queued l (log.drop n) := by
  obtain ⟨key, hkey, hk⟩ := h.key.evict_taken (n := n) (by simpa using few)
  obtain ⟨value, hvalue, hv⟩ := h.value.evict_taken (n := n) (by simpa using few)
  rw [Int.toNat_natCast, ← List.map_drop] at hk hv
  have hshorter : (⟨key, value⟩ : KeyValueCache α).Queued l (log.drop n) := ⟨hk, hv⟩
  refine ⟨⟨key, value⟩, ?_, hshorter⟩
  simp only [KeyValueCache.evict, hkey, hvalue, hshorter.checkSync]

end Queued

end KeyValueCache

namespace LayerCacheSet

abbrev AllQueued (l : Layout) : List (KeyValueCache α) → List (List (Entry α)) → Prop :=
  List.Forall₂ fun cache log => cache.Queued l log

/-- A step can be consumed if it is not longer than the window and brings every layer blocks for
its heads. -/
def Event.Consumable (layers : Nat) (l : Layout) : Event α → Prop
  | .step count pairs => 1 ≤ count ∧ count ≤ l.capacity ∧ pairs.length = layers ∧
      ∀ pair ∈ pairs, l.Brings count pair.1 ∧ l.Brings count pair.2
  | .reset => True

theorem length_entriesOf_brings {count : Nat} {pair : Block α × Block α}
    (h : l.Brings count pair.1 ∧ l.Brings count pair.2) : (entriesOf pair).length = count := by
  rw [entriesOf, List.length_zip, h.1.length_eq, h.2.length_eq, Nat.min_self]

theorem forwardEach_queued {caches : List (KeyValueCache α)} {logs : List (List (Entry α))}
    (h : AllQueued l caches logs) {held count : Nat} (even : ∀ log ∈ logs, log.length = held)
    (room : held + count ≤ l.capacity) {pairs : List (Block α × Block α)}
    (brings : ∀ pair ∈ pairs, l.Brings count pair.1 ∧ l.Brings count pair.2)
    (all : pairs.length = logs.length) :
    ∃ filled, forwardEach pairs caches = (.ok (), filled) ∧
      AllQueued l filled (extend logs pairs) := by
  induction h generalizing pairs with
  | nil => exact ⟨[], by cases pairs <;> rfl, by simp [extend]⟩
  | @cons cache log caches logs hc _ ih =>
    obtain _ | ⟨pair, pairs⟩ := pairs
    · simp at all
    · obtain ⟨hk, hv⟩ := brings pair (by simp)
      obtain ⟨shown, first, hfirst, hf⟩ :=
        hc.forward hk hv (by rw [even log (by simp)]; exact room)
      obtain ⟨rest, hrest, hr⟩ := ih (fun log h => even log (List.mem_cons_of_mem _ h))
        (fun pair h => brings pair (List.mem_cons_of_mem _ h)) (by simpa using all)
      exact ⟨first :: rest, by simp only [forwardEach, hfirst, hrest], .cons hf hr⟩

theorem length_of_mem_rtake {logs : List (List (Entry α))} {total : Nat}
    (even : ∀ log ∈ logs, log.length = total) (n : Nat) :
    ∀ log ∈ logs.map (·.rtake n), log.length = min total n := by
  intro log hlog
  obtain ⟨long, hlong, rfl⟩ := List.mem_map.mp hlog
  rw [List.rtake, List.length_drop, even long hlong]
  omega

/-- Every layer retains the last window of its log, and the cursor counts what is retained. -/
structure Retains (s : LayerCacheSet α) (l : Layout) (total : Nat)
    (logs : List (List (Entry α))) : Prop where
  window_eq : s.window = l.capacity
  len_eq : s.len = (min total l.capacity : Nat)
  even : ∀ log ∈ logs, log.length = total
  layers : AllQueued l s.layers (logs.map (·.rtake l.capacity))

theorem Retains.reset {s : LayerCacheSet α} {total : Nat} {logs : List (List (Entry α))}
    (h : s.Retains l total logs) : s.reset.Retains l 0 (logs.map fun _ => []) where
  window_eq := h.window_eq
  len_eq := by simp [LayerCacheSet.reset]
  even := by simp
  layers := by
    have hlayers := h.layers
    simp only [AllQueued, LayerCacheSet.reset, List.forall₂_map_left_iff,
      List.forall₂_map_right_iff] at hlayers ⊢
    exact hlayers.imp fun cache log hc => by simpa [List.rtake] using hc.reset

/-- Room has been made for a step: the cursor counts it, and every layer retains what is kept beside
it. -/
structure Awaits (s : LayerCacheSet α) (l : Layout) (total count : Nat)
    (logs : List (List (Entry α))) : Prop where
  window_eq : s.window = l.capacity
  len_eq : s.len = (min (total + count) l.capacity : Nat)
  layers : AllQueued l s.layers (logs.map fun log =>
    (log.rtake l.capacity).drop
      (min total l.capacity - kept l.capacity (min total l.capacity) count))

section Run

variable [Scalar α] {s : LayerCacheSet α} {total count : Nat} {logs : List (List (Entry α))}

theorem evictAll_queued {caches : List (KeyValueCache α)} (h : AllQueued l caches logs) {n : Nat}
    (few : ∀ log ∈ logs, n ≤ log.length) :
    ∃ shorter, evictAll n caches = (.ok (), shorter) ∧
      AllQueued l shorter (logs.map (·.drop n)) := by
  induction h with
  | nil => exact ⟨[], rfl, .nil⟩
  | @cons cache log caches logs hc _ ih =>
    obtain ⟨first, hfirst, hf⟩ := hc.evict (few log (by simp))
    obtain ⟨rest, hrest, hr⟩ := ih fun log h => few log (List.mem_cons_of_mem _ h)
    exact ⟨first :: rest, by simp only [evictAll, hfirst, hrest], .cons hf hr⟩

namespace Retains

theorem prepare (h : s.Retains l total logs) (hpos : 1 ≤ count) (hcount : count ≤ l.capacity) :
    ∃ ready, s.prepare count = (.ok (maskOf count (min (total + count) l.capacity)), ready) ∧
      ready.Awaits l total count logs := by
  have hwin := h.window_eq
  have hlen := h.len_eq
  let spare := min total l.capacity - kept l.capacity (min total l.capacity) count
  have hspare : spare = min total l.capacity - kept l.capacity (min total l.capacity) count := rfl
  unfold kept at hspare
  rw [LayerCacheSet.prepare, if_neg (by omega), if_neg (by omega)]
  by_cases hfit : s.len + count ≤ s.window
  · have hnone : spare = 0 := by omega
    have hsum : s.len + count = (min (total + count) l.capacity : Nat) := by omega
    simp only [if_pos hfit]
    rw [hsum, stepMask_eq (by omega)]
    refine ⟨_, rfl, hwin, rfl, ?_⟩
    show AllQueued l s.layers (logs.map fun log => (log.rtake l.capacity).drop spare)
    simpa only [hnone, List.drop_zero] using h.layers
  · have hdrop : s.len + count - s.window = (spare : Int) := by omega
    have hwindow : s.window = (min (total + count) l.capacity : Nat) := by omega
    have hfew : ∀ log ∈ logs.map (·.rtake l.capacity), spare ≤ log.length := fun log hlog => by
      rw [length_of_mem_rtake h.even _ log hlog]
      omega
    obtain ⟨layers, hevict, hl⟩ := evictAll_queued h.layers hfew
    simp only [if_neg hfit, hdrop, hevict]
    rw [hwindow, stepMask_eq (by omega)]
    refine ⟨_, rfl, by simp only; omega, rfl, ?_⟩
    simpa only [List.map_map, Function.comp_def] using hl

end Retains

omit [Scalar α] in
theorem Awaits.consume (h : s.Awaits l total count logs) (even : ∀ log ∈ logs, log.length = total)
    (hcount : count ≤ l.capacity) {pairs : List (Block α × Block α)}
    (all : pairs.length = logs.length)
    (brings : ∀ pair ∈ pairs, l.Brings count pair.1 ∧ l.Brings count pair.2) :
    ∃ filled, forwardEach pairs s.layers = (.ok (), filled) ∧
      { s with layers := filled }.Retains l (total + count) (extend logs pairs) := by
  have hnew : ∀ pair ∈ pairs, (entriesOf pair).length = count := fun pair hp =>
    length_entriesOf_brings (brings pair hp)
  have hkept : kept l.capacity (min total l.capacity) count + count ≤ l.capacity := by
    rw [kept_add total hcount]
    exact Nat.min_le_right _ _
  have hlayers := h.layers
  rw [← Function.comp_def (List.drop _) (List.rtake · _), ← List.map_map] at hlayers
  have heven : ∀ log ∈ (logs.map (List.rtake · l.capacity)).map
      (List.drop (min total l.capacity - kept l.capacity (min total l.capacity) count)),
      log.length = kept l.capacity (min total l.capacity) count := by
    intro log hlog
    obtain ⟨window, hwindow, rfl⟩ := List.mem_map.mp hlog
    rw [List.length_drop, length_of_mem_rtake even _ window hwindow]
    unfold kept
    omega
  obtain ⟨filled, hforward, hf⟩ :=
    forwardEach_queued hlayers heven hkept brings (by simpa using all)
  rw [extend_rtake hcount even hnew] at hf
  exact ⟨filled, hforward, h.window_eq, h.len_eq, length_of_mem_extend even hnew, hf⟩

namespace Retains

theorem apply (h : s.Retains l total logs) {e : Event α} (consumed : e.Consumable logs.length l) :
    ∃ after, s.apply e = (.ok (), after) ∧ after.Retains l (e.total total) (e.record logs) := by
  cases e with
  | reset => exact ⟨s.reset, rfl, h.reset⟩
  | step count pairs =>
    obtain ⟨hpos, hcount, hall, hbrings⟩ := consumed
    obtain ⟨ready, hprepare, hready⟩ := h.prepare hpos hcount
    obtain ⟨filled, hforward, hfilled⟩ := hready.consume h.even hcount hall hbrings
    exact ⟨_, by simp only [LayerCacheSet.apply, hprepare, hforward], hfilled⟩

theorem run {layers : Nat} (events : List (Event α))
    (consumed : ∀ e ∈ events, e.Consumable layers l)
    {s : LayerCacheSet α} {total : Nat} {logs : List (List (Entry α))} (all : logs.length = layers)
    (h : s.Retains l total logs) :
    ∃ after, s.run events = (.ok (), after) ∧
      after.Retains l (events.foldl Event.total total) (events.foldl Event.record logs) ∧
      (events.foldl Event.record logs).length = layers := by
  induction events generalizing s total logs with
  | nil => exact ⟨s, rfl, h, all⟩
  | cons e events ih =>
    have he := consumed e (by simp)
    obtain ⟨next, hnext, hn⟩ := h.apply (all.symm ▸ he)
    have hlength : (e.record logs).length = layers := by
      cases e with
      | reset => simpa [Event.record] using all
      | step count pairs => simp [Event.record, extend, all, he.2.2.1]
    obtain ⟨after, hafter, ha⟩ :=
      ih (fun e h => consumed e (List.mem_cons_of_mem _ h)) hlength hn
    exact ⟨after, by simp only [LayerCacheSet.run, hnext, hafter], ha⟩

end Retains

theorem empty_retains (layers : Nat) (l : Layout) (hc : 0 < l.capacity) (strategy : CacheStrategy) :
    ∃ fresh : LayerCacheSet α,
      empty layers l.batch l.heads l.capacity l.dim strategy = .ok fresh ∧
        fresh.Retains l 0 (List.replicate layers []) := by
  obtain ⟨buffer, hbuffer, h⟩ := SequenceBuffer.empty_queued (α := α) l hc strategy
  have hcache : (⟨buffer, buffer⟩ : KeyValueCache α).Queued l ([] : List (Entry α)) := ⟨h, h⟩
  refine ⟨⟨l.capacity, 0, List.replicate layers ⟨buffer, buffer⟩⟩, ?_, rfl, by simp, by simp, ?_⟩
  · rw [empty, KeyValueCache.empty, hbuffer]
    by_cases hnone : (layers : Int) ≤ 0
    · obtain rfl : layers = 0 := by omega
      rfl
    · rw [if_neg hnone]
      rfl
  · rw [List.map_replicate]
    exact List.forall₂_iff_get.mpr ⟨by simp, fun i _ _ => by simpa [List.rtake] using hcache⟩

end Run

end LayerCacheSet
end StreamingLM
