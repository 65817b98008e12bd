import StreamingLM.Proofs.Cache.Sizes
import StreamingLM.Proofs.Cache.Window
import StreamingLM.Proofs.Outcome

/-!
The layers and the cursor that they share, also after failures. Whatever is refused, the sizes stay;
the cursor may run ahead of the layers, and a layer that is behind it stays behind it until a reset.
-/
namespace StreamingLM

namespace LayerCacheSet

variable {α : Type} {s : LayerCacheSet α} {l : Layout} {layers : Nat}

/-- So many layers of the sizes of a layout, under its window; the cursor may have run ahead of
them. -/
structure Sized (s : LayerCacheSet α) (l : Layout) (layers : Nat) : Prop where
  window_eq : s.window = l.capacity
  len_nonneg : 0 ≤ s.len
  length_eq : s.layers.length = layers
  layers : ∀ cache ∈ s.layers, cache.Sized l

theorem Sized.reset (h : s.Sized l layers) : s.reset.Sized l layers where
  window_eq := h.window_eq
  len_nonneg := Int.le_refl 0
  length_eq := by rw [LayerCacheSet.reset, List.length_map, h.length_eq]
  layers := by
    intro cache hcache
    obtain ⟨old, hold, rfl⟩ := List.mem_map.mp hcache
    exact (h.layers old hold).reset

theorem Holds.sized {held pending : Nat} {logs : List (List (Entry α))}
    (h : s.Holds l held pending logs) : s.Sized l logs.length where
  window_eq := h.window_eq
  len_nonneg := by rw [h.len_eq]; exact Int.natCast_nonneg _
  length_eq := h.layers.length_eq
  layers := by
    intro cache hcache
    obtain ⟨entries, -, hcache⟩ := Outcome.exists_of_forall₂ h.layers hcache
    exact hcache.sized

theorem len_of_consistentFrom {len : Int} {i : Nat} {caches : List (KeyValueCache α)}
    (h : consistentFrom len i caches = .ok ()) : ∀ cache ∈ caches, (cache.len : Int) = len := by
  induction caches generalizing i with
  | nil => simp
  | cons cache caches ih =>
    unfold consistentFrom at h
    by_cases hlen : (cache.len : Int) = len
    · rw [if_pos hlen] at h
      exact List.forall_mem_cons.mpr ⟨hlen, ih h⟩
    · rw [if_neg hlen] at h
      cases h

theorem consistent_reset (s : LayerCacheSet α) : s.reset.ensureConsistent = .ok () := by
  have hall : ∀ (caches : List (KeyValueCache α)) (i : Nat),
      consistentFrom 0 i (caches.map (·.reset)) = .ok () := by
    intro caches
    induction caches with
    | nil => exact fun _ => rfl
    | cons cache caches ih => exact fun i => ih (i + 1)
  exact hall s.layers 0

theorem allHold_of_sized {caches : List (KeyValueCache α)} (h : ∀ cache ∈ caches, cache.Sized l)
    {rows : Nat} (hrows : rows ≤ l.batch) {held : Nat} (even : ∀ cache ∈ caches, cache.len = held) :
    ∃ logs, AllHold (l.use rows hrows) caches logs ∧ ∀ log ∈ logs, log.length = held := by
  induction caches with
  | nil => exact ⟨[], .nil, by simp⟩
  | cons cache caches ih =>
    obtain ⟨hfirst, hrest⟩ := List.forall_mem_cons.mp h
    obtain ⟨hlen, hlens⟩ := List.forall_mem_cons.mp even
    obtain ⟨log, hlog, hcount⟩ := hfirst.holds hrows
    obtain ⟨logs, hlogs, hcounts⟩ := ih hrest hlens
    exact ⟨log :: logs, .cons hlog hlogs, List.forall_mem_cons.mpr ⟨hcount.trans hlen, hcounts⟩⟩

/-- When all layers stand at the cursor, the set holds as many positions as the cursor counts. -/
theorem Sized.holds (h : s.Sized l layers) (nonempty : 0 < layers)
    (consistent : s.ensureConsistent = .ok ()) {rows : Nat} (hrows : rows ≤ l.batch) :
    ∃ held logs, s.Holds (l.use rows hrows) held 0 logs ∧ logs.length = layers := by
  have hlens := len_of_consistentFrom consistent
  obtain ⟨first, hfirst⟩ : ∃ first, first ∈ s.layers :=
    List.exists_mem_of_length_pos (by rw [h.length_eq]; exact nonempty)
  have heven : ∀ cache ∈ s.layers, cache.len = first.len := fun cache hcache => by
    have hone := hlens cache hcache
    have htwo := hlens first hfirst
    omega
  obtain ⟨logs, hlogs, hcounts⟩ := allHold_of_sized h.layers hrows heven
  have hroom : first.len ≤ l.capacity := by
    rw [← (h.layers first hfirst).key.capacity_eq]
    exact first.key.len_le
  exact ⟨first.len, logs, ⟨h.window_eq, (hlens first hfirst).symm, hroom, hcounts, hlogs⟩,
    hlogs.length_eq.symm.trans h.length_eq⟩

/-- What preparing a step leaves: the cursor counts the step, up to the window, and each layer has
dropped the oldest positions to make room for it. -/
structure Prepared (s : LayerCacheSet α) (count : Nat) (after : LayerCacheSet α) : Prop where
  window_eq : after.window = s.window
  len_eq : after.len = min (s.len + count) s.window
  layers : List.Forall₂ (fun cache ready => cache.Dropped (s.len + count - s.window) ready)
    s.layers after.layers

/-- What is left when some layer refused to make room: the cursor counts the step all the same, and
no layer has gained anything. -/
structure Overrun (s : LayerCacheSet α) (count : Nat) (after : LayerCacheSet α) : Prop where
  len_eq : after.len = s.len + count
  layers : List.Forall₂ (fun cache left => left.len ≤ cache.len) s.layers after.layers

/-- Some layer is more than `pending` positions behind the cursor. -/
def Behind (s : LayerCacheSet α) (pending : Nat) : Prop :=
  ∃ cache ∈ s.layers, (cache.len : Int) + pending < s.len

theorem Behind.inconsistent (h : s.Behind 0) : s.ensureConsistent ≠ .ok () := by
  obtain ⟨cache, hcache, hlen⟩ := h
  intro consistent
  have hcursor := len_of_consistentFrom consistent cache hcache
  omega

/-- A layer that gains no more on the cursor than was pending stays behind it. -/
theorem Behind.stay {after : LayerCacheSet α} {before pending : Nat} (h : s.Behind before)
    (gained : List.Forall₂ (fun cache left =>
      (left.len : Int) + pending + s.len ≤ cache.len + before + after.len) s.layers after.layers) :
    after.Behind pending := by
  obtain ⟨cache, hcache, hlen⟩ := h
  obtain ⟨left, hleft, hgain⟩ := Outcome.exists_of_forall₂ gained hcache
  exact ⟨left, hleft, by omega⟩

theorem Behind.prepared {after : LayerCacheSet α} {count : Nat} (h : s.Behind 0)
    (prepared : s.Prepared count after) : after.Behind count := by
  have hcursor := prepared.len_eq
  refine h.stay (prepared.layers.imp fun cache left dropped => ?_)
  have hmany := dropped.many
  have hlen := dropped.len_eq
  omega

theorem Behind.overrun {after : LayerCacheSet α} {count : Nat} (h : s.Behind 0)
    (overrun : s.Overrun count after) : after.Behind 0 := by
  have hcursor := overrun.len_eq
  exact h.stay (overrun.layers.imp fun cache left fewer => by omega)

theorem Prepared.behind {after : LayerCacheSet α} {count : Nat} (h : s.Prepared count after)
    (consistent : s.ensureConsistent = .ok ()) (hpos : 1 ≤ count) (nonempty : s.layers ≠ []) :
    after.Behind 0 := by
  have hcursor := h.len_eq
  obtain ⟨cache, hcache⟩ := List.exists_mem_of_ne_nil _ nonempty
  have hlen := len_of_consistentFrom consistent cache hcache
  obtain ⟨ready, hready, hdropped⟩ := Outcome.exists_of_forall₂ h.layers hcache
  have hmany := hdropped.many
  have hafter := hdropped.len_eq
  exact ⟨ready, hready, by omega⟩

variable [Scalar α]

theorem evictAll_cases (n : Int) {caches : List (KeyValueCache α)}
    (h : ∀ cache ∈ caches, cache.Sized l) :
    ∃ result after, evictAll n caches = (result, after) ∧ (∀ cache ∈ after, cache.Sized l) ∧
      List.Forall₂ (fun cache left => left.len ≤ cache.len) caches after ∧
      (result = .ok () →
        List.Forall₂ (fun cache ready => cache.Dropped n ready) caches after) := by
  induction caches with
  | nil => exact ⟨_, _, rfl, h, .nil, fun _ => .nil⟩
  | cons cache caches ih =>
    obtain ⟨hfirst, hrest⟩ := List.forall_mem_cons.mp h
    obtain ⟨result, rest, hevicted, hsized, hfewer, hdropped⟩ := ih hrest
    unfold evictAll
    obtain ⟨f, hevict⟩ | ⟨shorter, hevict, hshorter, hdrop⟩ := hfirst.evict n
    · rw [hevict]
      refine ⟨_, _, rfl, h, ?_, fun hok => by cases hok⟩
      exact List.forall₂_same.mpr fun _ _ => Nat.le_refl _
    · have hlen := hdrop.len_eq
      rw [hevict]
      simp only [hevicted]
      exact ⟨_, _, rfl, List.forall_mem_cons.mpr ⟨hshorter, hsized⟩, .cons (by omega) hfewer,
        fun hok => .cons hdrop (hdropped hok)⟩

/-- A step is refused for its length, which changes nothing, or it is prepared, or some layer
refuses to make room for it. -/
theorem Sized.prepare (h : s.Sized l layers) (count : Nat) :
    ∃ result after, s.prepare count = (result, after) ∧ after.Sized l layers ∧
      ((count = 0 ∨ l.capacity < count) → after = s ∧ ∃ f, result = .error f) ∧
      (1 ≤ count → count ≤ l.capacity →
        s.Prepared count after ∧ (∃ mask, result = .ok mask) ∨
          s.Overrun count after ∧ ∃ f, result = .error f) := by
  have hwin := h.window_eq
  have hlen := h.len_nonneg
  have hlength := h.length_eq
  unfold LayerCacheSet.prepare
  by_cases hlong : s.window < count
  · rw [if_pos hlong]
    exact ⟨_, _, rfl, h, fun _ => ⟨rfl, _, rfl⟩, fun _ _ => by omega⟩
  · by_cases hnone : (count : Int) ≤ 0
    · rw [if_neg hlong, if_pos hnone]
      exact ⟨_, _, rfl, h, fun _ => ⟨rfl, _, rfl⟩, fun _ _ => by omega⟩
    · have hnot : ¬(count = 0 ∨ l.capacity < count) := by omega
      simp only [if_neg hlong, if_neg hnone]
      by_cases hroom : s.len + count ≤ s.window
      · have hmask : ∃ mask, stepMask count (s.len + count) = .ok mask := by
          obtain ⟨held, hheld⟩ := Int.eq_ofNat_of_zero_le hlen
          exact ⟨_, by rw [hheld, ← Int.natCast_add, stepMask_eq (Nat.le_add_left count held)]⟩
        rw [if_pos hroom]
        refine ⟨_, _, rfl, ⟨hwin, by simp only; omega, hlength, h.layers⟩, fun hbad => absurd hbad hnot,
          fun _ _ => .inl ⟨⟨rfl, by simp only; omega, ?_⟩, hmask⟩⟩
        exact List.forall₂_same.mpr fun cache _ => KeyValueCache.Dropped.none (by omega)
      · obtain ⟨result, after, hevict, hsized, hfewer, hdropped⟩ :=
          evictAll_cases (s.len + count - s.window) h.layers
        have hafter : after.length = layers := hfewer.length_eq.symm.trans hlength
        simp only [if_neg hroom, hevict]
        cases result with
        | error f =>
          exact ⟨_, _, rfl, ⟨hwin, by simp only; omega, hafter, hsized⟩,
            fun hbad => absurd hbad hnot, fun _ _ => .inr ⟨⟨rfl, hfewer⟩, f, rfl⟩⟩
        | ok u =>
          have hmask : stepMask count s.window = .ok (maskOf count l.capacity) := by
            rw [hwin]
            exact stepMask_eq (by omega)
          exact ⟨_, _, rfl, ⟨hwin, by simp only; omega, hafter, hsized⟩,
            fun hbad => absurd hbad hnot,
            fun _ _ => .inl ⟨⟨rfl, by simp only; omega, hdropped rfl⟩, _, hmask⟩⟩

end LayerCacheSet
end StreamingLM
