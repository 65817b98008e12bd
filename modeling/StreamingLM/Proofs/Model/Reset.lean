import StreamingLM.Proofs.Model.Aftermath
import StreamingLM.Proofs.Model.Indistinct
import StreamingLM.Proofs.Number.Real

/-!
Starting over. Whatever a model has been asked and whatever failed on the way, its caches keep their
sizes and its table, over exact numbers, the rotations of its positions; a reset then leaves nothing
of the past that a request could find.
-/
namespace StreamingLM

open Outcome

variable {α : Type} [Scalar α]

namespace RotaryTable

theorem Exact.eq {t u : RotaryTable α} (ht : t.Exact) (hu : u.Exact) (dim : t.dim = u.dim)
    (frequencies : t.frequencies = u.frequencies) (capacity : t.capacity = u.capacity)
    (start : t.start = u.start) : t = u := by
  have hrows : t.rows = u.rows := by
    rw [ht, hu, direct, direct, frequencies, capacity, start]
  cases t
  cases u
  simp only at dim frequencies hrows start
  subst dim frequencies hrows start
  rfl

end RotaryTable

namespace RotaryTracker

theorem ofConfig_start {c : LlamaConfig} {t : RotaryTracker α} (ok : ofConfig c = .ok t) :
    t = { table := t.table } ∧ t.table.start = 0 := by
  obtain ⟨table, htable, ht⟩ := bind_eq_ok.mp ok
  cases ht
  refine ⟨rfl, ?_⟩
  simp only [RotaryTable.build] at htable
  split at htable
  · cases htable
  · split at htable
    · cases htable
    · split at htable
      · cases htable
      · cases htable
        rfl

end RotaryTracker

namespace LayerCacheSet

variable {s fresh : LayerCacheSet α} {l : Layout} {layers rows : Nat}

omit [Scalar α] in
theorem Sized.reset_alike (h : s.Sized l layers) (hfresh : fresh.Sized l layers)
    (start : fresh.len = 0) (empty : ∀ cache ∈ fresh.layers, cache.len = 0) :
    s.reset.Alike rows fresh where
  window_eq := h.window_eq.trans hfresh.window_eq.symm
  len_eq := start.symm
  layers := by
    refine List.forall₂_iff_get.mpr ⟨?_, fun i hi hi' => ?_⟩
    · rw [LayerCacheSet.reset, List.length_map, h.length_eq, hfresh.length_eq]
    · simp only [LayerCacheSet.reset, List.length_map] at hi
      have hnew := hfresh.layers fresh.layers[i] (List.getElem_mem hi')
      have hold := h.layers s.layers[i] (List.getElem_mem hi)
      have hkey : fresh.layers[i].key.len = 0 := empty _ (List.getElem_mem hi')
      have hvalue : fresh.layers[i].value.len = 0 := hnew.sync.symm.trans hkey
      simp only [LayerCacheSet.reset, List.get_eq_getElem, List.getElem_map]
      exact ⟨.of_reset (hold.key.sameSizes hnew.key) hkey,
        .of_reset (hold.value.sameSizes hnew.value) hvalue⟩

end LayerCacheSet

namespace DecodeState

/-- A state of the right sizes whose table holds the rotations of its positions. -/
structure Regular (s : DecodeState α) (l : Layout) (layers dim capacity : Nat)
    (frequencies : List α) : Prop where
  sized : s.Sized l layers dim capacity
  exact : s.tracker.table.Exact
  frequencies_eq : s.tracker.table.frequencies = frequencies

variable {s : DecodeState α} {l : Layout} {layers dim capacity : Nat} {frequencies : List α}

theorem Regular.reset [TurnLaws α] (h : s.Regular l layers dim capacity frequencies) :
    s.reset.Regular l layers dim capacity frequencies where
  sized := h.sized.reset
  exact := h.exact.shift 0
  frequencies_eq := (s.tracker.table.frequencies_shift 0).trans h.frequencies_eq

/-- A step keeps a state regular, whatever becomes of it. -/
theorem Regular.step [TurnLaws α] (h : s.Regular l layers dim capacity frequencies)
    (hcapacity : l.capacity ≤ capacity) (t : Transformer α) (batch : Nat)
    (tokens : List (List Int)) :
    (t.step s batch tokens).2.Regular l layers dim capacity frequencies := by
  have hsized := t.step_sized batch tokens h.sized hcapacity
  obtain hsame | hprepared := t.step_tracker batch tokens s
  · exact ⟨hsized, hsame ▸ h.exact, hsame ▸ h.frequencies_eq⟩
  · exact ⟨hsized, RotaryTracker.prepare_exact hprepared h.exact,
      (RotaryTracker.prepare_frequencies hprepared).trans h.frequencies_eq⟩

theorem ofConfig_regular {c : LlamaConfig} {s : DecodeState α} (ok : ofConfig c = .ok s) :
    s.Regular (c.layout 0 (Nat.zero_le _)) c.layers.toNat c.transformer.headDim.toNat
      (c.window * 5).toNat s.tracker.table.frequencies := by
  obtain ⟨-, hexact, hs⟩ := ofConfig_holds ok (Nat.zero_le _)
  refine ⟨?_, hexact, rfl⟩
  have hsized := hs.sized
  rwa [List.length_replicate] at hsized

theorem Regular.reset_alike [TurnLaws α] {c : LlamaConfig} {fresh : DecodeState α}
    (ok : ofConfig c = .ok fresh)
    (h : s.Regular (c.layout 0 (Nat.zero_le _)) c.layers.toNat c.transformer.headDim.toNat
      (c.window * 5).toNat fresh.tracker.table.frequencies) (rows : Nat) :
    s.reset.Alike rows fresh := by
  obtain ⟨-, hexact, hholds⟩ := ofConfig_holds ok (Nat.zero_le _)
  obtain ⟨caches, hcaches, hrest⟩ := bind_eq_ok.mp ok
  obtain ⟨tracker, htracker, hfresh⟩ := bind_eq_ok.mp hrest
  cases hfresh
  obtain ⟨hstart, hzero⟩ := RotaryTracker.ofConfig_start htracker
  have hnew := (ofConfig_regular ok).sized
  have hempty : ∀ cache ∈ caches.layers, cache.len = 0 := by
    intro cache hcache
    have hcount := LayerCacheSet.len_of_consistentFrom hholds.caches.consistent cache hcache
    have hlen : caches.len = 0 := hholds.caches.len_eq
    simp only [hlen] at hcount
    omega
  obtain ⟨position, hanchored⟩ := h.sized.tracker
  have htable : s.tracker.table.shift 0 = tracker.table := by
    refine (h.exact.shift 0).eq hexact ?_ ?_ ?_ ?_
    · rw [RotaryTable.dim_shift, hanchored.dim_eq, hholds.tracker.dim_eq]
    · rw [RotaryTable.frequencies_shift, h.frequencies_eq]
    · rw [RotaryTable.capacity_shift]
      exact hanchored.capacity_eq.trans hholds.tracker.capacity_eq.symm
    · rw [RotaryTable.start_shift, hzero]
  refine ⟨h.sized.caches.reset_alike hnew.caches hholds.caches.len_eq hempty, ?_⟩
  rw [hstart]
  simp only [DecodeState.reset, RotaryTracker.reset, RotaryTable.reset, htable]

end DecodeState

namespace Llama

/-- Over exact numbers, a reset makes a model that has been used in any way answer like a new one. -/
theorem reset_as_new [TurnLaws α] {m : Llama α} (fresh : DecodeState.ofConfig m.config = .ok m.state)
    (earlier later : List (Request α)) :
    replies later (serve earlier m).reset = replies later m := by
  let regular (s : DecodeState α) : Prop := s.Regular (m.config.layout 0 (Nat.zero_le _))
    m.config.layers.toNat m.config.transformer.headDim.toNat (m.config.window * 5).toNat
    m.state.tracker.table.frequencies
  have hcapacity := m.config.capacity_layout_le (Nat.zero_le _)
  have hstepped : ∀ t, m.transformer = .ok t → ∀ (ids : List Int) s, regular s →
      regular (t.step s 1 (ids.map fun id => [id])).2 := fun t _ ids s hs => hs.step hcapacity t 1 _
  have hreset : ∀ s, regular s → regular s.reset := fun s hs => hs.reset
  obtain ⟨hmodel, hkept⟩ :=
    serve_keeps hstepped hreset earlier (DecodeState.ofConfig_regular fresh)
  refine Alike.replies_eq ?_ later
  rw [hmodel]
  exact ⟨rfl, rfl, hkept.reset_alike fresh 1⟩

/-- Thirty tokens, for which the table of ten rows has to be moved, and a prompt that is too long. -/
noncomputable def busyRequests : List (Request ℝ) :=
  [.generate (fun _ => .lockStep) "hi" 30 0 Sampler.greedy Listener.collecting {},
    .generate (fun _ => .lockStep) "hey" 1 0 Sampler.greedy Listener.collecting {}, .score "hi"]

theorem tiny_reset_as_new : ∃ m : Llama ℝ, build Parameters.ones .empty tinyConfig = .ok m ∧
    replies busyRequests (serve busyRequests m).reset = replies busyRequests m := by
  obtain ⟨m, hm⟩ : ∃ m : Llama ℝ, build Parameters.ones .empty tinyConfig = .ok m := ⟨_, rfl⟩
  obtain ⟨hconfig, hfresh⟩ := build_fresh hm
  exact ⟨m, hm, reset_as_new (hconfig ▸ hfresh) busyRequests busyRequests⟩

end Llama
end StreamingLM
