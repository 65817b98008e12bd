import StreamingLM.Proofs.Cache.Retained
import StreamingLM.Proofs.Layer.CachedStep
import StreamingLM.Proofs.Outcome

/-!
The mask of a step, told by positions in the sequence. The cursor has been capped when the mask is
built, and what a column stands for moves with every eviction. Main statement: after any run the
mask lets a query see exactly the retained positions up to its own, and a layer that is given no
mask builds the same one from what its cache holds.
-/
namespace StreamingLM

/-- A mask lets a query see a key; where there is no mask, it sees every key. -/
def Sees (mask : Option Mask) (query key : Nat) : Prop :=
  ∀ m ∈ mask, ∃ row, m[query]? = some row ∧ row[key]? = some true

/-- A mask over queries and keys at consecutive positions, of which the first query has `before` and
the first key `first`: a query sees the keys up to its own position, and one at least. The mask is
left out exactly for a single query. -/
structure Causal (mask : Option Mask) (queries keys before first : Nat) : Prop where
  shape : ∀ m ∈ mask, m.length = queries ∧ ∀ row ∈ m, row.length = keys
  sees_iff : ∀ i < queries, ∀ j < keys, Sees mask i j ↔ first + j ≤ before + i
  sees_some : ∀ i < queries, ∃ j < keys, Sees mask i j
  none_iff : mask = none ↔ queries = 1

theorem sees_none (query key : Nat) : Sees none query key := by simp [Sees]

theorem sees_lowerTriangle {queries keys i j : Nat} (hi : i < queries) (hj : j < keys) :
    Sees (some (lowerTriangle queries keys)) i j ↔ j ≤ keys - queries + i := by
  simp [Sees, lowerTriangle, maskRow, hi, hj]

theorem shape_lowerTriangle (queries keys : Nat) :
    (lowerTriangle queries keys).length = queries ∧
      ∀ row ∈ lowerTriangle queries keys, row.length = keys := by
  simp [lowerTriangle, maskRow]

theorem causalMask_one {keys : Nat} (h : 1 ≤ keys) :
    causalMask 1 keys = .ok [List.replicate keys true] := by
  have hrow : maskRow 1 keys 0 = List.replicate keys true := by
    refine List.eq_replicate_iff.mpr ⟨by simp [maskRow], fun allowed hallowed => ?_⟩
    obtain ⟨j, hj, rfl⟩ := List.mem_map.mp hallowed
    have hkey := List.mem_range.mp hj
    exact decide_eq_true (by omega)
  rw [causalMask, if_neg (by omega), if_neg (by omega)]
  exact congrArg (fun row => Except.ok [row]) hrow

namespace LayerCacheSet

/-- The mask of a step over the last `keys` of all positions: query and key stand `keys - step`
places apart from their places in the sequence. -/
theorem sees_maskOf {step keys i j : Nat} (hi : i < step) (hj : j < keys) (h : step ≤ keys) :
    Sees (maskOf step keys) i j ↔ j ≤ keys - step + i := by
  unfold maskOf
  by_cases hone : step ≤ 1
  · rw [if_pos hone]
    exact ⟨fun _ => by omega, fun _ => sees_none i j⟩
  · rw [if_neg hone]
    exact sees_lowerTriangle hi hj

theorem maskOf_eq_none_iff {step keys : Nat} : maskOf step keys = none ↔ step ≤ 1 := by
  unfold maskOf
  split <;> simp_all

theorem shape_maskOf {step keys : Nat} :
    ∀ m ∈ maskOf step keys, m.length = step ∧ ∀ row ∈ m, row.length = keys := by
  unfold maskOf
  split
  · simp
  · rintro m ⟨rfl⟩
    exact shape_lowerTriangle step keys

theorem maskOf_causal {step keys before first : Nat} (hpos : 1 ≤ step) (h : step ≤ keys)
    (last_eq : first + keys = before + step) :
    Causal (maskOf step keys) step keys before first where
  shape := shape_maskOf
  sees_iff i hi j hj := by
    rw [sees_maskOf hi hj h]
    omega
  sees_some i hi := ⟨0, by omega, (sees_maskOf hi (by omega) h).mpr (Nat.zero_le _)⟩
  none_iff := by
    rw [maskOf_eq_none_iff]
    omega

end LayerCacheSet

variable {α : Type}

theorem SequenceBuffer.length_append {b grown : SequenceBuffer α} {x shown : Block α}
    (ok : b.append x = .ok (grown, shown)) : shown.slots.length = b.len + x.slots.length := by
  unfold append at ok
  split at ok
  · cases ok
  · split at ok
    · cases ok
    · cases ok
      simp [view]

theorem KeyValueCache.length_forward {c : KeyValueCache α} {k v keys values : Block α}
    (ok : (c.forward k v).1 = .ok (keys, values)) :
    keys.slots.length = c.len + k.slots.length := by
  unfold forward join at ok
  cases hk : c.key.append k with
  | error f =>
    rw [hk] at ok
    cases ok
  | ok grown =>
    cases hv : c.value.append v with
    | error f =>
      simp only [hk, hv] at ok
      cases ok
    | ok filled =>
      simp only [hk, hv] at ok
      obtain ⟨-, -, hboth⟩ := Outcome.map_eq_ok.mp ok
      cases hboth
      exact SequenceBuffer.length_append hk

theorem LayerCacheSet.Awaits.len_eq_of_mem {l : Layout} {s : LayerCacheSet α} {total count : Nat}
    {logs : List (List (Entry α))} (h : s.Awaits l total count logs)
    (even : ∀ log ∈ logs, log.length = total) (hcount : count ≤ l.capacity)
    {cache : KeyValueCache α} (hcache : cache ∈ s.layers) :
    cache.len + count = min (total + count) l.capacity := by
  obtain ⟨retained, hretained, hqueued⟩ := Outcome.exists_of_forall₂ h.layers hcache
  obtain ⟨log, hlog, rfl⟩ := List.mem_map.mp hretained
  have hwindow := length_of_mem_rtake even l.capacity _ (List.mem_map_of_mem hlog)
  rw [hqueued.len_eq, List.length_drop, hwindow]
  unfold LayerCacheSet.kept
  omega

section Layer

variable [Scalar α]

theorem RotaryTable.length_rotateBlockAt {t : RotaryTable α} {x y : Block α} {index : Int}
    (ok : t.rotateBlockAt x index = .ok y) : y.slots.length = x.slots.length := by
  obtain ⟨turns, hturns, hrotate⟩ := Outcome.bind_eq_ok.mp ok
  have hlength : turns.length = x.slots.length := by
    unfold rowsAt at hturns
    split at hturns
    · cases hturns
    · cases hturns
      simp only [capacity] at *
      rw [List.length_take, List.length_drop]
      omega
  unfold rotateBlock at hrotate
  split at hrotate
  · cases hrotate
  · cases hrotate
    rw [List.length_zipWith, hlength, Nat.min_self]

theorem RotaryTracker.length_applyBlock {t : RotaryTracker α} {x y : Block α}
    (ok : t.applyBlock x = .ok y) : y.slots.length = x.slots.length := by
  obtain ⟨index, -, hrotate⟩ := Outcome.bind_eq_ok.mp ok
  exact RotaryTable.length_rotateBlockAt hrotate

namespace Attention

theorem stepMask_none_eq {step keys : Nat} (h : step ≤ keys) :
    stepMask none step keys = .ok (LayerCacheSet.maskOf step keys) := by
  unfold LayerCacheSet.maskOf
  by_cases hone : step ≤ 1
  · rw [if_pos hone, stepMask, if_pos hone]
  · rw [if_neg hone, stepMask, if_neg hone, causalMask, if_neg (by omega), if_neg (by omega)]
    rfl

theorem stepCached_none (a : Attention α) (rows : Nat) (x : List (List (List α)))
    (cache : KeyValueCache α) (tracker : RotaryTracker α) :
    a.stepCached rows x cache tracker none =
      a.stepCached rows x cache tracker
        (LayerCacheSet.maskOf x.length (cache.len + x.length)) := by
  cases hq : tracker.applyBlock (project a.wq a.heads a.headDim rows x) with
  | error f => simp only [stepCached, hq]
  | ok q =>
    cases hk : tracker.applyBlock (project a.wk a.keyHeads a.headDim rows x) with
    | error f => simp only [stepCached, hq, hk]
    | ok k =>
      cases hforward : cache.forward k (project a.wv a.keyHeads a.headDim rows x) with
      | mk result after =>
        cases result with
        | error f => simp only [stepCached, hq, hk, hforward]
        | ok both =>
          have hkeys : both.1.slots.length = cache.len + x.length := by
            rw [KeyValueCache.length_forward (congrArg Prod.fst hforward),
              RotaryTracker.length_applyBlock hk, project, List.length_map]
          simp only [stepCached, hq, hk, hforward, hkeys,
            stepMask_none_eq (Nat.le_add_left _ _), stepMask_maskOf]

end Attention

namespace LayerCacheSet

/-- Behind any run of steps and resets, with `total` positions since the last reset, a step of at
most a window is prepared and consumed, and every layer then holds the positions from `first` on,
one in each column. The mask of the step is causal over these positions. Where it is left out it
would allow everything; elsewhere it is the mask that a layer makes without one from what its cache
holds, and a layer gives the same with and without it. -/
theorem prepare_causal (layers : Nat) (l : Layout) (hw : 0 < l.capacity) (strategy : CacheStrategy)
    (events : List (Event α)) (run : ∀ e ∈ events, e.Consumable layers l) (count : Nat)
    (pairs : List (Block α × Block α)) (step : (Event.step count pairs).Consumable layers l) :
    ∃ fresh before mask ready filled,
      empty layers l.batch l.heads l.capacity l.dim strategy = .ok fresh ∧
      fresh.run events = (.ok (), before) ∧ before.prepare count = (.ok mask, ready) ∧
      forwardEach pairs ready.layers = (.ok (), filled) ∧
      let total := events.foldl Event.total 0
      let keys := min (total + count) l.capacity
      let first := total + count - keys
      let logs := extend (events.foldl Event.record (List.replicate layers [])) pairs
      (∀ log ∈ logs, log.length = total + count) ∧ AllQueued l filled (logs.map (·.drop first)) ∧
      Causal mask count keys total first ∧ causalMask 1 keys = .ok [List.replicate keys true] ∧
      Attention.stepMask none count keys = .ok mask ∧
      ∀ (a : Attention α) (rows : Nat) (x : List (List (List α))) (tracker : RotaryTracker α),
        x.length = count → ∀ cache ∈ ready.layers,
          a.stepCached rows x cache tracker none = a.stepCached rows x cache tracker mask := by
  obtain ⟨hpos, hcount, hall, hbrings⟩ := step
  obtain ⟨fresh, hfresh, hempty⟩ := empty_retains (α := α) layers l hw strategy
  obtain ⟨before, hrun, hbefore, hlayers⟩ := hempty.run events run (by simp)
  obtain ⟨ready, hprepare, hready⟩ := hbefore.prepare hpos hcount
  obtain ⟨filled, hforward, hfilled⟩ :=
    hready.consume hbefore.even hcount (hall.trans hlayers.symm) hbrings
  refine ⟨fresh, before, _, ready, filled, hfresh, hrun, hprepare, hforward, hfilled.even, ?_,
    maskOf_causal hpos (by omega) (by omega), causalMask_one (by omega),
    Attention.stepMask_none_eq (by omega), fun a rows x tracker hx cache hcache => ?_⟩
  · have hdrop : ∀ log ∈ extend (events.foldl Event.record (List.replicate layers [])) pairs,
        log.rtake l.capacity = log.drop (events.foldl Event.total 0 + count -
          min (events.foldl Event.total 0 + count) l.capacity) := fun log hlog => by
      rw [List.rtake, hfilled.even log hlog]
      congr 1
      omega
    rw [← List.map_congr_left hdrop]
    exact hfilled.layers
  · rw [a.stepCached_none, hx, hready.len_eq_of_mem hbefore.even hcount hcache]

def samplePair (rows : Nat) (x y : Float) : Block Float × Block Float :=
  let block : Block Float := ⟨rows, 1, 1, [List.replicate rows [[x]], List.replicate rows [[y]]]⟩
  (block, block)

/-- A window of three: two positions in both batch rows, two in one row, and then two in both. -/
theorem samplePairs_causal :
    let past : List (Event Float) := [.step 2 [samplePair 2 1 2], .step 2 [samplePair 1 3 4]]
    ∃ (fresh before : LayerCacheSet Float) (mask : Option Mask) (ready : LayerCacheSet Float),
      empty 1 2 1 3 1 .shrink = .ok fresh ∧ fresh.run past = (.ok (), before) ∧
      before.prepare 2 = (.ok mask, ready) ∧
      mask = some [[true, true, false], [true, true, true]] := by
  intro past
  have hstep (rows : Nat) (hrows : rows ≤ 2) (x y : Float) :
      (Event.step 2 [samplePair rows x y]).Consumable 1 ⟨0, 2, 1, 1, 3, Nat.zero_le 2⟩ := by
    have hbrings : (⟨0, 2, 1, 1, 3, Nat.zero_le 2⟩ : Layout).Brings 2 (samplePair rows x y).1 :=
      ⟨⟨hrows, rfl, rfl⟩, rfl, by simp [samplePair]⟩
    exact ⟨by decide, by decide, rfl, by simpa using ⟨hbrings, hbrings⟩⟩
  have hpast : ∀ e ∈ past, e.Consumable 1 ⟨0, 2, 1, 1, 3, Nat.zero_le 2⟩ := by
    simp only [past, List.forall_mem_cons]
    exact ⟨hstep 2 (by decide) 1 2, hstep 1 (by decide) 3 4, by simp⟩
  obtain ⟨fresh, before, mask, ready, -, hfresh, hrun, hprepare, -, -, -, -, -, hmask, -⟩ :=
    prepare_causal 1 ⟨0, 2, 1, 1, 3, Nat.zero_le 2⟩ (by decide) .shrink past hpast 2
      [samplePair 2 5 6] (hstep 2 (by decide) 5 6)
  exact ⟨fresh, before, mask, ready, hfresh, hrun, hprepare, (Except.ok.inj hmask).symm⟩

end LayerCacheSet

end Layer

end StreamingLM
