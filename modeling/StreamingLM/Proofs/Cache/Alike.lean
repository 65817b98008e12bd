import StreamingLM.Cache.LayerSet
import StreamingLM.Proofs.Cache.Sizes
import StreamingLM.Proofs.Outcome

/-!
Caches that cannot be told apart. What lies behind the valid positions, in batch rows that are not
in use, or in storage of the other strategy has no part in what an operation on caches gives, be it
a result or a failure.
-/
namespace StreamingLM

open Outcome

namespace SequenceBuffer

variable {α : Type} {rows : Nat} {b b' : SequenceBuffer α}

/-- Buffers of the same sizes that show the same positions in the first batch rows. -/
structure Alike (rows : Nat) (b b' : SequenceBuffer α) : Prop extends b.SameSizes b' where
  shown_eq : b.history.map (·.take rows) = b'.history.map (·.take rows)

namespace Alike

theorem len_eq (h : b.Alike rows b') : b.len = b'.len := by
  simpa using congrArg List.length h.shown_eq

theorem view_eq (h : b.Alike rows b') : b.view rows = b'.view rows := by
  rw [view, view, h.heads_eq, h.dim_eq, h.shown_eq]

theorem of_reset (same : b.SameSizes b') (empty : b'.len = 0) : b.reset.Alike rows b' :=
  ⟨⟨same.batch_eq, same.heads_eq, same.dim_eq, same.capacity_eq⟩,
    by simp [SequenceBuffer.reset, history, empty]⟩

theorem reset (h : b.Alike rows b') : b.reset.Alike rows b'.reset :=
  of_reset ⟨h.batch_eq, h.heads_eq, h.dim_eq, h.capacity_eq⟩ rfl

/-- A block that fills the rows in use is refused by both, or written to both and read back with the
same history. -/
theorem append (h : b.Alike rows b') {x : Block α} (batch : x.batch = rows)
    (full : ∀ slot ∈ x.slots, slot.length = rows) :
    (∃ f, b.append x = .error f ∧ b'.append x = .error f) ∨
      ∃ grown grown' shown, b.append x = .ok (grown, shown) ∧ b'.append x = .ok (grown', shown) ∧
        grown.Alike rows grown' := by
  by_cases htakes : b.Takes x
  · have htakes' := (takes_iff h.toSameSizes h.len_eq x).mp htakes
    have hwritten : ∀ c : SequenceBuffer α, c.Takes x →
        ((overwriteAll x.slots (c.storage.drop c.len)).take x.slots.length).map (·.take rows) =
          x.slots := fun c hc =>
      take_overwriteAll x.slots _ full (by
        rw [List.length_drop]
        exact Nat.le_sub_of_add_le' hc.room)
    obtain ⟨grown, hok, hsizes, -, hhistory⟩ := append_taken htakes
    obtain ⟨grown', hok', hsizes', -, hhistory'⟩ := append_taken htakes'
    have hgrown : grown.Alike rows grown' := by
      refine ⟨(hsizes.trans h.toSameSizes).trans hsizes'.symm, ?_⟩
      rw [hhistory, hhistory', List.map_append, List.map_append, h.shown_eq, hwritten b htakes,
        hwritten b' htakes']
    rw [batch] at hok hok'
    exact .inr ⟨grown, grown', grown.view rows, hok, hgrown.view_eq ▸ hok', hgrown⟩
  · exact .inl (append_refused h.toSameSizes h.len_eq htakes)

variable [Scalar α]

theorem evict (h : b.Alike rows b') (n : Int) :
    (∃ f, b.evict n = .error f ∧ b'.evict n = .error f) ∨
      ∃ shorter shorter', b.evict n = .ok shorter ∧ b'.evict n = .ok shorter' ∧
        shorter.Alike rows shorter' := by
  have hlen := h.len_eq
  obtain ⟨hmany, hevict⟩ | ⟨hfew, shorter, hevict, hsizes, hkept⟩ := b.evict_cases n <;>
    obtain ⟨hmany', hevict'⟩ | ⟨hfew', shorter', hevict', hsizes', hkept'⟩ := b'.evict_cases n
  · exact .inl ⟨_, hevict, hlen ▸ hevict'⟩
  · omega
  · omega
  · refine .inr ⟨shorter, shorter', hevict, hevict',
      (hsizes.trans h.toSameSizes).trans hsizes'.symm, ?_⟩
    rw [hkept, hkept', List.map_drop, List.map_drop, h.shown_eq]

theorem of_empty {batch heads capacity dim : Int} {strategy : CacheStrategy}
    (ok : empty batch heads capacity dim strategy = .ok b) (other : CacheStrategy) (rows : Nat) :
    ∃ twin, empty batch heads capacity dim other = .ok twin ∧ twin.Alike rows b := by
  simp only [empty] at ok ⊢
  by_cases hcapacity : capacity ≤ 0
  · rw [if_pos hcapacity] at ok
    cases ok
  · by_cases hsizes : batch < 0 ∨ heads < 0 ∨ dim < 0
    · rw [if_neg hcapacity, if_pos hsizes] at ok
      cases ok
    · rw [if_neg hcapacity, if_neg hsizes] at ok
      rw [if_neg hcapacity, if_neg hsizes]
      cases ok
      exact ⟨_, rfl, ⟨rfl, rfl, rfl, rfl⟩, rfl⟩

end Alike

end SequenceBuffer

namespace KeyValueCache

variable {α : Type} {rows : Nat} {c c' : KeyValueCache α}

/-- Caches that cannot be told apart in the first batch rows. -/
structure Alike (rows : Nat) (c c' : KeyValueCache α) : Prop where
  key : c.key.Alike rows c'.key
  value : c.value.Alike rows c'.value

namespace Alike

theorem len_eq (h : c.Alike rows c') : c.len = c'.len := h.key.len_eq

theorem reset (h : c.Alike rows c') : c.reset.Alike rows c'.reset := ⟨h.key.reset, h.value.reset⟩

theorem checkSync_eq (h : c.Alike rows c') (operation : String) :
    c.checkSync operation = c'.checkSync operation := by
  rw [checkSync, checkSync, inSync, inSync, h.key.len_eq, h.value.len_eq]

theorem forward (h : c.Alike rows c') {k v : Block α} (kbatch : k.batch = rows)
    (vbatch : v.batch = rows) (kfull : ∀ slot ∈ k.slots, slot.length = rows)
    (vfull : ∀ slot ∈ v.slots, slot.length = rows) :
    Agree (Alike rows) (c.forward k v) (c'.forward k v) := by
  unfold KeyValueCache.forward join
  obtain ⟨f, hk, hk'⟩ | ⟨key, key', keys, hk, hk', hkeys⟩ := h.key.append kbatch kfull
  · exact ⟨_, _, _, by rw [hk], by rw [hk'], h⟩
  · obtain ⟨f, hv, hv'⟩ | ⟨value, value', values, hv, hv', hvalues⟩ := h.value.append vbatch vfull
    · exact ⟨.error f, ⟨key, c.value⟩, ⟨key', c'.value⟩, by simp only [hk, hv],
        by simp only [hk', hv'], hkeys, h.value⟩
    · have hgrown : (⟨key, value⟩ : KeyValueCache α).Alike rows ⟨key', value'⟩ := ⟨hkeys, hvalues⟩
      simp only [hk, hk', hv, hv', hgrown.checkSync_eq]
      exact ⟨_, _, _, rfl, rfl, hgrown⟩

variable [Scalar α]

theorem evict (h : c.Alike rows c') (n : Int) : Agree (Alike rows) (c.evict n) (c'.evict n) := by
  unfold KeyValueCache.evict
  obtain ⟨f, hk, hk'⟩ | ⟨key, key', hk, hk', hkeys⟩ := h.key.evict n
  · exact ⟨_, _, _, by rw [hk], by rw [hk'], h⟩
  · obtain ⟨f, hv, hv'⟩ | ⟨value, value', hv, hv', hvalues⟩ := h.value.evict n
    · exact ⟨.error f, ⟨key, c.value⟩, ⟨key', c'.value⟩, by simp only [hk, hv],
        by simp only [hk', hv'], hkeys, h.value⟩
    · have hshorter : (⟨key, value⟩ : KeyValueCache α).Alike rows ⟨key', value'⟩ := ⟨hkeys, hvalues⟩
      simp only [hk, hk', hv, hv', hshorter.checkSync_eq]
      exact ⟨_, _, _, rfl, rfl, hshorter⟩

end Alike

end KeyValueCache

namespace LayerCacheSet

variable {α : Type} {rows : Nat} {s s' : LayerCacheSet α}

abbrev AllAlike (rows : Nat) : List (KeyValueCache α) → List (KeyValueCache α) → Prop :=
  List.Forall₂ (KeyValueCache.Alike rows)

structure Alike (rows : Nat) (s s' : LayerCacheSet α) : Prop where
  window_eq : s.window = s'.window
  len_eq : s.len = s'.len
  layers : AllAlike rows s.layers s'.layers

theorem consistentFrom_alike {caches caches' : List (KeyValueCache α)}
    (h : AllAlike rows caches caches') (len : Int) (i : Nat) :
    consistentFrom len i caches = consistentFrom len i caches' := by
  induction h generalizing i with
  | nil => rfl
  | cons hcache _ ih => simp only [consistentFrom, hcache.len_eq, ih]

namespace Alike

theorem ensureConsistent_eq (h : s.Alike rows s') : s.ensureConsistent = s'.ensureConsistent := by
  rw [ensureConsistent, ensureConsistent, h.len_eq]
  exact consistentFrom_alike h.layers _ _

theorem reset (h : s.Alike rows s') : s.reset.Alike rows s'.reset where
  window_eq := h.window_eq
  len_eq := rfl
  layers := by
    simp only [LayerCacheSet.reset, AllAlike, List.forall₂_map_left_iff, List.forall₂_map_right_iff]
    exact h.layers.imp fun _ _ hc => hc.reset

variable [Scalar α]

theorem evictAll {caches caches' : List (KeyValueCache α)} (h : AllAlike rows caches caches')
    (n : Int) : Agree (AllAlike rows) (evictAll n caches) (evictAll n caches') := by
  induction h with
  | nil => exact ⟨_, _, _, rfl, rfl, .nil⟩
  | @cons cache cache' caches caches' hcache hcaches ih =>
    obtain ⟨result, first, first', hfirst, hfirst', hf⟩ := hcache.evict n
    obtain ⟨results, rest, rest', hrest, hrest', hr⟩ := ih
    cases result with
    | error f =>
      exact ⟨_, _, _, by rw [LayerCacheSet.evictAll, hfirst], by rw [LayerCacheSet.evictAll, hfirst'],
        .cons hf hcaches⟩
    | ok u =>
      exact ⟨results, first :: rest, first' :: rest', by simp only [LayerCacheSet.evictAll, hfirst, hrest],
        by simp only [LayerCacheSet.evictAll, hfirst', hrest'], .cons hf hr⟩

theorem prepare (h : s.Alike rows s') (step : Int) :
    Agree (Alike rows) (s.prepare step) (s'.prepare step) := by
  obtain ⟨window, len, layers⟩ := s
  obtain ⟨window', len', layers'⟩ := s'
  obtain ⟨rfl, rfl, hlayers⟩ := h
  unfold LayerCacheSet.prepare
  by_cases hlong : window < step
  · exact ⟨_, _, _, if_pos hlong, if_pos hlong, rfl, rfl, hlayers⟩
  · by_cases hbad : step ≤ 0
    · simp only [if_neg hlong, if_pos hbad]
      exact ⟨_, _, _, rfl, rfl, rfl, rfl, hlayers⟩
    · simp only [if_neg hlong, if_neg hbad]
      by_cases hroom : len + step ≤ window
      · exact ⟨_, _, _, if_pos hroom, if_pos hroom, rfl, rfl, hlayers⟩
      · obtain ⟨result, kept, kept', hevict, hevict', hk⟩ := evictAll hlayers (len + step - window)
        simp only [if_neg hroom, hevict, hevict']
        cases result with
        | error f => exact ⟨_, _, _, rfl, rfl, rfl, rfl, hk⟩
        | ok u => exact ⟨_, _, _, rfl, rfl, rfl, rfl, hk⟩

theorem of_empty {layers batch heads window dim : Int} {strategy : CacheStrategy}
    (ok : empty layers batch heads window dim strategy = .ok s) (other : CacheStrategy)
    (rows : Nat) :
    ∃ twin, empty layers batch heads window dim other = .ok twin ∧ twin.Alike rows s := by
  simp only [empty] at ok ⊢
  by_cases hnone : layers ≤ 0
  · rw [if_pos hnone] at ok ⊢
    exact ⟨s, ok, rfl, rfl, by cases ok; exact .nil⟩
  · rw [if_neg hnone] at ok ⊢
    obtain ⟨cache, hcache, hs⟩ := bind_eq_ok.mp ok
    obtain ⟨buffer, hbuffer, hc⟩ := bind_eq_ok.mp hcache
    obtain ⟨twin, htwin, halike⟩ := SequenceBuffer.Alike.of_empty hbuffer other rows
    cases hc
    cases hs
    refine ⟨⟨window, 0, List.replicate layers.toNat ⟨twin, twin⟩⟩, ?_, rfl, rfl, ?_⟩
    · rw [KeyValueCache.empty, htwin]
      rfl
    · exact List.forall₂_iff_get.mpr ⟨by simp, fun i hi hi' => by simpa using ⟨halike, halike⟩⟩

end Alike

end LayerCacheSet
end StreamingLM
