import StreamingLM.Proofs.Cache.Alike
import StreamingLM.Proofs.Layer.Rows
import StreamingLM.Proofs.Model.Step

/-!
States of decoding that cannot be told apart: the stack gives the same scores from them, or fails in
the same way, and leaves states that cannot be told apart either.
-/
namespace StreamingLM

open Outcome

variable {α : Type} [Scalar α]

theorem Attention.stepCached_alike (a : Attention α) {rows : Nat} {x : List (List (List α))}
    (full : ∀ r ∈ x, r.length = rows) {cache cache' : KeyValueCache α}
    (h : cache.Alike rows cache') (tracker : RotaryTracker α) (mask : Option Mask) :
    Agree (KeyValueCache.Alike rows) (a.stepCached rows x cache tracker mask)
      (a.stepCached rows x cache' tracker mask) := by
  obtain ⟨f, hfails⟩ | ⟨q, k, v, hbrings, hover⟩ := a.stepCached_cases rows x tracker
  · exact ⟨.error f, cache, cache', hfails cache mask, hfails cache' mask, h⟩
  · obtain ⟨hkfull, hvfull⟩ := hbrings.full rows full
    have hkbatch := hbrings.keys.1
    have hvbatch : v.batch = rows := (List.cons.inj hbrings.shape_eq).1 ▸ hkbatch
    obtain ⟨result, after, after', hforward, hforward', ha⟩ :=
      h.forward hkbatch hvbatch hkfull hvfull
    rw [hover, hover, overCache, overCache, hforward, hforward']
    cases result with
    | error f => exact ⟨_, _, _, rfl, rfl, ha⟩
    | ok pair => exact ⟨_, _, _, rfl, rfl, ha⟩

namespace DecoderBlock

variable (b : DecoderBlock α) {rows : Nat} {x : Steps α}

theorem step_shape {cache after : KeyValueCache α} {tracker : RotaryTracker α} {mask : Option Mask}
    {y : Steps α} (ok : b.step rows x cache tracker mask = (.ok y, after)) :
    List.length y = List.length x ∧
      ((∀ r ∈ x, r.length = rows) → ∀ r ∈ y, r.length = rows) := by
  have hfinished : (b.attention.stepCached rows (mapSteps b.attentionNorm.apply x) cache tracker
      mask).1.map (b.finish x) = .ok y := congrArg Prod.fst ok
  obtain ⟨attended, hattended, rfl⟩ := map_eq_ok.mp hfinished
  obtain ⟨f, hfails⟩ | ⟨q, k, v, hbrings, hover⟩ :=
    b.attention.stepCached_cases rows (mapSteps b.attentionNorm.apply x) tracker
  · rw [hfails] at hattended
    cases hattended
  · rw [hover] at hattended
    obtain ⟨hlength, hrows⟩ := b.attention.overCache_shape hattended
    rw [hbrings.queries.1] at hrows
    rw [hbrings.queries.2, length_mapSteps] at hlength
    exact ⟨b.length_finish hlength, fun full => b.rows_finish full hrows⟩

theorem step_alike (full : ∀ r ∈ x, r.length = rows) {cache cache' : KeyValueCache α}
    (h : cache.Alike rows cache') (tracker : RotaryTracker α) (mask : Option Mask) :
    Agree (KeyValueCache.Alike rows) (b.step rows x cache tracker mask)
      (b.step rows x cache' tracker mask) := by
  obtain ⟨result, after, after', hstep, hstep', ha⟩ :=
    b.attention.stepCached_alike (rows_mapSteps b.attentionNorm.apply full) h tracker mask
  exact ⟨result.map (b.finish x), after, after', by rw [step, hstep], by rw [step, hstep'], ha⟩

end DecoderBlock

namespace DecodeState

/-- The caches cannot be told apart in the first batch rows, and the positions are the same. -/
structure Alike (rows : Nat) (s s' : DecodeState α) : Prop where
  caches : s.caches.Alike rows s'.caches
  tracker_eq : s.tracker = s'.tracker

variable {rows : Nat} {s s' : DecodeState α}

theorem Alike.reset (h : s.Alike rows s') : s.reset.Alike rows s'.reset :=
  ⟨h.caches.reset, congrArg RotaryTracker.reset h.tracker_eq⟩

theorem Alike.prepare (h : s.Alike rows s') (count : Int) :
    Agree (Alike rows) (s.prepare count) (s'.prepare count) := by
  obtain ⟨result, caches, caches', hprepare, hprepare', hc⟩ := h.caches.prepare count
  simp only [DecodeState.prepare, hprepare, hprepare', ← h.tracker_eq]
  cases result with
  | error f => exact ⟨_, _, _, rfl, rfl, hc, rfl⟩
  | ok mask =>
    cases s.tracker.prepare count with
    | error f => exact ⟨_, _, _, rfl, rfl, hc, rfl⟩
    | ok tracker => exact ⟨_, _, _, rfl, rfl, hc, rfl⟩

theorem ofConfig_alike {c : LlamaConfig} (ok : ofConfig c = .ok s) (strategy : CacheStrategy)
    (rows : Nat) :
    ∃ twin, ofConfig { c with cache := ⟨strategy⟩ } = .ok twin ∧ twin.Alike rows s := by
  obtain ⟨caches, hcaches, hrest⟩ := bind_eq_ok.mp ok
  obtain ⟨tracker, htracker, hs⟩ := bind_eq_ok.mp hrest
  obtain ⟨twin, htwin, halike⟩ := LayerCacheSet.Alike.of_empty hcaches strategy rows
  have hsame : RotaryTracker.ofConfig { c with cache := ⟨strategy⟩ } = .ok tracker := htracker
  have hother : LayerCacheSet.ofConfig { c with cache := ⟨strategy⟩ } = .ok twin := htwin
  cases hs
  exact ⟨⟨twin, tracker⟩, by rw [ofConfig, hother, hsame]; rfl, halike, rfl⟩

end DecodeState

namespace Transformer

variable {rows : Nat}

theorem stepBlocks_alike (blocks : List (DecoderBlock α)) {caches caches' : List (KeyValueCache α)}
    (h : LayerCacheSet.AllAlike rows caches caches') (tracker : RotaryTracker α)
    (mask : Option Mask) {x : Steps α} (full : ∀ r ∈ x, r.length = rows) :
    Agree (LayerCacheSet.AllAlike rows) (stepBlocks rows tracker mask blocks caches x)
      (stepBlocks rows tracker mask blocks caches' x) := by
  induction blocks generalizing caches caches' x with
  | nil => exact ⟨_, _, _, rfl, rfl, h⟩
  | cons b blocks ih =>
    cases h with
    | nil => exact ⟨_, _, _, rfl, rfl, .nil⟩
    | @cons cache cache' caches caches' hcache hcaches =>
      obtain ⟨result, first, first', hfirst, hfirst', hf⟩ := b.step_alike full hcache tracker mask
      simp only [stepBlocks, hfirst, hfirst']
      cases result with
      | error f => exact ⟨_, _, _, rfl, rfl, .cons hf hcaches⟩
      | ok y =>
        obtain ⟨results, rest, rest', hrest, hrest', hr⟩ := ih hcaches ((b.step_shape hfirst).2 full)
        simp only [hrest, hrest']
        exact ⟨_, _, _, rfl, rfl, .cons hf hr⟩

variable (t : Transformer α) {s s' : DecodeState α} (h : s.Alike rows s') {tokens : List (List Int)}
  (full : ∀ ids ∈ tokens, ids.length = rows)

include h full

theorem forward_alike (mask : Option Mask) :
    Agree (DecodeState.Alike rows) (t.forward s rows tokens mask)
      (t.forward s' rows tokens mask) := by
  have hlayers := h.caches.layers.length_eq
  unfold forward
  rw [hlayers]
  by_cases hmany : s'.caches.layers.length ≠ t.blocks.length
  · exact ⟨_, _, _, if_pos hmany, if_pos hmany, h⟩
  · rw [if_neg hmany, if_neg hmany]
    cases hembed : t.embed tokens with
    | error f => exact ⟨_, _, _, rfl, rfl, h⟩
    | ok x =>
      obtain ⟨result, caches, caches', hblocks, hblocks', hc⟩ := stepBlocks_alike t.blocks
        h.caches.layers s.tracker mask (embed_isStep hembed full).full
      have hafter : LayerCacheSet.Alike rows { s.caches with layers := caches }
          { s'.caches with layers := caches' } := ⟨h.caches.window_eq, h.caches.len_eq, hc⟩
      simp only [hblocks, ← h.tracker_eq, hblocks', hafter.ensureConsistent_eq]
      cases result with
      | error f => exact ⟨_, _, _, rfl, rfl, hafter, rfl⟩
      | ok y => exact ⟨_, _, _, rfl, rfl, hafter, rfl⟩

/-- From states that cannot be told apart, a step gives the same. -/
theorem step_alike : Agree (DecodeState.Alike rows) (t.step s rows tokens)
    (t.step s' rows tokens) := by
  obtain ⟨result, ready, ready', hprepare, hprepare', hr⟩ := h.prepare tokens.length
  unfold step
  rw [hprepare, hprepare']
  cases result with
  | error f => exact ⟨_, _, _, rfl, rfl, hr⟩
  | ok mask => exact t.forward_alike hr full mask

end Transformer
end StreamingLM
