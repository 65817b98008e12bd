import Mathlib.Data.List.DropRight
import Mathlib.Data.List.Forall2
import StreamingLM.Cache.LayerSet
import StreamingLM.Proofs.Cache.History

/-!
The window of a cache set. Preparing a step moves the cursor and evicts before the layers have
taken the step in, so the invariant speaks of positions that are still pending. Main statement:
after any run of steps and resets every layer holds the last window of what it was given.
-/
namespace StreamingLM
namespace LayerCacheSet

variable {α : Type}

abbrev AllHold (l : Layout) : List (KeyValueCache α) → List (List (Entry α)) → Prop :=
  List.Forall₂ fun cache entries => cache.Holds l entries

/-- Every layer holds `held` positions and the cursor has counted `pending` more. -/
structure Holds (s : LayerCacheSet α) (l : Layout) (held pending : Nat)
    (logs : List (List (Entry α))) : Prop where
  window_eq : s.window = l.capacity
  len_eq : s.len = (held + pending : Nat)
  room : held + pending ≤ l.capacity
  even : ∀ log ∈ logs, log.length = held
  layers : AllHold l s.layers logs

def kept (window held step : Nat) : Nat := min held (window - step)

theorem kept_add (total : Nat) {window step : Nat} (h : step ≤ window) :
    kept window (min total window) step + step = min (total + step) window := by
  unfold kept
  omega

/-- The mask of a step over the positions kept for it and the step itself. -/
def maskOf (step keys : Nat) : Option Mask :=
  if step ≤ 1 then none else some (lowerTriangle step keys)

theorem stepMask_eq {step keys : Nat} (h : step ≤ keys) :
    stepMask step keys = .ok (maskOf step keys) := by
  unfold stepMask maskOf
  by_cases h1 : step ≤ 1
  · rw [if_pos h1, if_pos (by omega)]
  · rw [if_neg h1, if_neg (by omega), causalMask, if_neg (by omega), if_neg (by omega)]
    rfl

theorem consistentFrom_holds {l : Layout} {caches : List (KeyValueCache α)}
    {logs : List (List (Entry α))} (h : AllHold l caches logs) {held : Nat}
    (even : ∀ log ∈ logs, log.length = held) (i : Nat) :
    consistentFrom held i caches = .ok () := by
  induction h generalizing i with
  | nil => rfl
  | @cons cache log caches logs hc _ ih =>
    have hlen : (cache.len : Int) = held := by rw [hc.len_eq, even log (by simp)]
    rw [consistentFrom, if_pos hlen]
    exact ih (fun log h => even log (by simp [h])) (i + 1)

theorem Holds.consistent {s : LayerCacheSet α} {l : Layout} {held : Nat}
    {logs : List (List (Entry α))} (h : s.Holds l held 0 logs) : s.ensureConsistent = .ok () := by
  rw [ensureConsistent, h.len_eq]
  exact consistentFrom_holds h.layers h.even 0

theorem Holds.reset {s : LayerCacheSet α} {l : Layout} {held pending : Nat}
    {logs : List (List (Entry α))} (h : s.Holds l held pending logs) :
    s.reset.Holds l 0 0 (logs.map fun _ => []) where
  window_eq := h.window_eq
  len_eq := rfl
  room := Nat.zero_le _
  even := by simp
  layers := by
    simp only [LayerCacheSet.reset, AllHold, List.forall₂_map_left_iff, List.forall₂_map_right_iff]
    exact h.layers.imp fun _ _ hc => hc.reset

theorem replicate_holds {l : Layout} {cache : KeyValueCache α} {log : List (Entry α)}
    (h : cache.Holds l log) (n : Nat) :
    AllHold l (List.replicate n cache) (List.replicate n log) := by
  induction n with
  | zero => exact .nil
  | succ n ih => exact .cons h ih

section Room

variable [Scalar α]

theorem evictAll_holds {l : Layout} {caches : List (KeyValueCache α)} {logs : List (List (Entry α))}
    (h : AllHold l caches logs) {n : Nat} (hn : ∀ log ∈ logs, n ≤ log.length) :
    ∃ shorter, evictAll n caches = (.ok (), shorter) ∧ AllHold l shorter (logs.map (·.drop n)) := by
  induction h with
  | nil => exact ⟨[], rfl, .nil⟩
  | @cons cache log caches logs hc _ ih =>
    obtain ⟨first, hfirst, hf⟩ := KeyValueCache.evict_holds hc (hn log (by simp))
    obtain ⟨rest, hrest, hr⟩ := ih fun log h => hn log (by simp [h])
    exact ⟨first :: rest, by simp only [evictAll, hfirst, hrest], .cons hf hr⟩

/-- A step of at most a window is prepared: the oldest positions make room, and the mask covers
what is kept and the step. -/
theorem prepare_holds {s : LayerCacheSet α} {l : Layout} {held : Nat}
    {logs : List (List (Entry α))} (h : s.Holds l held 0 logs) {step : Nat} (hpos : 1 ≤ step)
    (hstep : step ≤ l.capacity) :
    ∃ ready, s.prepare step = (.ok (maskOf step (kept l.capacity held step + step)), ready) ∧
      ready.Holds l (kept l.capacity held step) step
        (logs.map (·.drop (held - kept l.capacity held step))) := by
  have hwin := h.window_eq
  have hlen := h.len_eq
  have hroom := h.room
  rw [prepare, if_neg (by omega), if_neg (by omega)]
  by_cases hfit : held + step ≤ l.capacity
  · have hkept : kept l.capacity held step = held := by unfold kept; omega
    have hsum : s.len + step = (held + step : Nat) := by omega
    rw [hkept, hsum, if_pos (by omega), stepMask_eq (by omega)]
    refine ⟨_, rfl, hwin, rfl, hfit, ?_, ?_⟩
    · simpa using h.even
    · simpa using h.layers
  · have hkept : kept l.capacity held step + step = l.capacity := by unfold kept; omega
    have hdrop : s.len + step - s.window = (held - kept l.capacity held step : Nat) := by omega
    obtain ⟨layers, hevict, hl⟩ := evictAll_holds h.layers
      (n := held - kept l.capacity held step) (fun log hlog => by rw [h.even log hlog]; omega)
    rw [if_neg (by omega), hdrop, hevict, hwin, hkept]
    simp only
    rw [stepMask_eq hstep]
    refine ⟨_, rfl, rfl, by rw [hkept], by omega, ?_, hl⟩
    intro log hlog
    obtain ⟨old, hold, rfl⟩ := List.mem_map.mp hlog
    rw [List.length_drop, h.even old hold]
    unfold kept
    omega

theorem empty_holds {layers batch heads window dim : Int} {strategy : CacheStrategy}
    {s : LayerCacheSet α} (ok : empty layers batch heads window dim strategy = .ok s) {rows : Nat}
    (hrows : rows ≤ batch.toNat) (hw : 0 ≤ window) :
    s.Holds ⟨rows, batch.toNat, heads.toNat, dim.toNat, window.toNat, hrows⟩ 0 0
      (List.replicate layers.toNat []) := by
  have hwin : window = (window.toNat : Int) := by omega
  simp only [empty] at ok
  split at ok
  case isTrue hl =>
    cases ok
    rw [Int.toNat_of_nonpos hl]
    exact ⟨hwin, rfl, Nat.zero_le _, by simp, .nil⟩
  case isFalse hl =>
    cases hc : KeyValueCache.empty (α := α) batch heads window dim strategy with
    | error f => rw [hc] at ok; cases ok
    | ok cache =>
      rw [hc] at ok
      cases ok
      exact ⟨hwin, rfl, Nat.zero_le _, by simp,
        replicate_holds (KeyValueCache.empty_holds hc hrows) layers.toNat⟩

end Room

end LayerCacheSet
end StreamingLM
