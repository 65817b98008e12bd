import StreamingLM.Layer.Attention
import StreamingLM.Proofs.Cache.Window
import StreamingLM.Proofs.Rotary.Anchor

/-!
One attention step on lists. A layer that decodes against a cache does nothing but append the
entries of its step to what the cache holds and attend over the whole list; scoring without a cache
is such a step over nothing.
-/
namespace StreamingLM

variable {α : Type} [Scalar α]

theorem length_softmaxPresent (scores : List (Option α)) :
    (softmaxPresent scores).length = scores.length := by
  unfold softmaxPresent
  split <;> simp

namespace Attention

/-- What a step adds to the cache: its keys, rotated by the rows of the table, and its values. -/
def entries (a : Attention α) (turns : List (List (Turn α))) (x : List (List (List α))) :
    List (Entry α) :=
  List.zipWith (fun row rows =>
    (Turn.rotateSlot row (projectRows a.wk a.keyHeads a.headDim rows),
      projectRows a.wv a.keyHeads a.headDim rows)) turns x

def queries (a : Attention α) (turns : List (List (Turn α))) (x : List (List (List α))) :
    List (Slot α) :=
  List.zipWith Turn.rotateSlot turns (x.map (projectRows a.wq a.heads a.headDim))

def keysOf (a : Attention α) (rows : Nat) (log : List (Entry α)) : Block α :=
  ⟨rows, a.keyHeads, a.headDim, log.map (·.1)⟩

def valuesOf (a : Attention α) (rows : Nat) (log : List (Entry α)) : Block α :=
  ⟨rows, a.keyHeads, a.headDim, log.map (·.2)⟩

def stepOver (a : Attention α) (rows : Nat) (turns : List (List (Turn α))) (mask : Option Mask)
    (log : List (Entry α)) (x : List (List (List α))) : List (List (List α)) :=
  a.output (a.attend ⟨rows, a.heads, a.headDim, a.queries turns x⟩ (a.keysOf rows log)
    (a.valuesOf rows log) mask)

@[simp] theorem length_projectRows (l : Linear α) (heads dim : Nat) (rows : List (List α)) :
    List.length (projectRows l heads dim rows) = rows.length := by
  simp [projectRows]

@[simp] theorem length_entries (a : Attention α) (turns : List (List (Turn α)))
    (x : List (List (List α))) : (a.entries turns x).length = min turns.length x.length := by
  simp [entries]

theorem map_fst_entries (a : Attention α) (turns : List (List (Turn α)))
    (x : List (List (List α))) :
    (a.entries turns x).map (·.1) =
      List.zipWith Turn.rotateSlot turns (x.map (projectRows a.wk a.keyHeads a.headDim)) := by
  rw [entries, List.map_zipWith, List.zipWith_map_right]

theorem map_snd_entries (a : Attention α) {turns : List (List (Turn α))}
    {x : List (List (List α))} (h : turns.length = x.length) :
    (a.entries turns x).map (·.2) = x.map (projectRows a.wv a.keyHeads a.headDim) := by
  induction x generalizing turns with
  | nil => simp [entries]
  | cons rows x ih =>
    obtain _ | ⟨row, turns⟩ := turns
    · simp at h
    · have hrest : (a.entries turns x).map (·.2) = _ := ih (by simpa using h)
      simpa [entries] using hrest

theorem entries_full (a : Attention α) (l : Layout) (turns : List (List (Turn α)))
    {x : List (List (List α))} (full : ∀ rows ∈ x, rows.length = l.rows) :
    l.Full ((a.entries turns x).map (·.1)) ∧ l.Full ((a.entries turns x).map (·.2)) := by
  induction x generalizing turns with
  | nil => simp [entries, Layout.Full]
  | cons rows x ih =>
    obtain _ | ⟨row, turns⟩ := turns
    · simp [entries, Layout.Full]
    · have hrows := full rows (by simp)
      obtain ⟨hk, hv⟩ := ih turns fun rows h => full rows (List.mem_cons_of_mem _ h)
      constructor
      · exact List.forall_mem_cons.mpr ⟨by simpa using hrows, hk⟩
      · exact List.forall_mem_cons.mpr ⟨by simpa using hrows, hv⟩

@[simp] theorem length_stepOver (a : Attention α) (rows : Nat) (turns : List (List (Turn α)))
    (mask : Option Mask) (log : List (Entry α)) (x : List (List (List α))) :
    (a.stepOver rows turns mask log x).length = min turns.length x.length := by
  simp [stepOver, output, attend, queries]

theorem rows_stepOver (a : Attention α) (rows : Nat) (turns : List (List (Turn α)))
    (mask : Option Mask) (log : List (Entry α)) (x : List (List (List α))) :
    ∀ y ∈ a.stepOver rows turns mask log x, y.length = rows := by
  intro y hy
  simp only [stepOver, output, attend, List.mem_map] at hy
  obtain ⟨slot, ⟨query, -, rfl⟩, rfl⟩ := hy
  simp [outputRows, attendSlot]

theorem stepMask_maskOf {step keys : Nat} :
    stepMask (LayerCacheSet.maskOf step keys) step keys = .ok (LayerCacheSet.maskOf step keys) := by
  unfold LayerCacheSet.maskOf
  by_cases h : step ≤ 1
  · rw [if_pos h, stepMask, if_pos h]
  · obtain ⟨n, rfl⟩ : ∃ n, step = n + 1 := ⟨step - 1, by omega⟩
    rw [if_neg h]
    simp [stepMask, maskFits, lowerTriangle, List.range_succ_eq_map, maskRow]

structure Fits (a : Attention α) (l : Layout) : Prop where
  heads_eq : a.keyHeads = l.heads
  dim_eq : a.headDim = l.dim

omit [Scalar α] in
theorem Fits.keysOf_eq {a : Attention α} {l : Layout} (fit : a.Fits l) (log : List (Entry α)) :
    l.block (log.map (·.1)) = a.keysOf l.rows log := by
  simp only [Layout.block, keysOf, fit.heads_eq, fit.dim_eq]

omit [Scalar α] in
theorem Fits.valuesOf_eq {a : Attention α} {l : Layout} (fit : a.Fits l) (log : List (Entry α)) :
    l.block (log.map (·.2)) = a.valuesOf l.rows log := by
  simp only [Layout.block, valuesOf, fit.heads_eq, fit.dim_eq]

/-- A prepared step against a cache with room for it: the cache takes in its entries, and the
outputs are those over the whole log. -/
theorem stepCached_holds {a : Attention α} {l : Layout} (fit : a.Fits l)
    {cache : KeyValueCache α} {log : List (Entry α)} (h : cache.Holds l log)
    {tracker : RotaryTracker α} {dim capacity position : Nat} {x : List (List (List α))}
    (ready : tracker.Ready dim capacity position x.length) (dim_le : dim ≤ l.dim)
    (full : ∀ rows ∈ x, rows.length = l.rows) (room : log.length + x.length ≤ l.capacity) :
    let mask := LayerCacheSet.maskOf x.length (log.length + x.length)
    let longer := log ++ a.entries tracker.turns x
    ∃ grown, a.stepCached l.rows x cache tracker mask =
        (.ok (a.stepOver l.rows tracker.turns mask longer x), grown) ∧ grown.Holds l longer := by
  intro mask longer
  have hturns := ready.length_turns
  have hdim : dim ≤ a.headDim := dim_le.trans (le_of_eq fit.dim_eq.symm)
  have hlen : (a.entries tracker.turns x).length = x.length := by
    rw [length_entries, hturns, Nat.min_self]
  obtain ⟨hkfull, hvfull⟩ := a.entries_full l tracker.turns full
  have hq := ready.applyBlock_eq (x := project a.wq a.heads a.headDim l.rows x)
    (by simp [project]) hdim
  have hk : tracker.applyBlock (project a.wk a.keyHeads a.headDim l.rows x) =
      .ok (l.block ((a.entries tracker.turns x).map (·.1))) := by
    rw [ready.applyBlock_eq (by simp [project]) hdim, map_fst_entries]
    simp only [project, Layout.block, fit.heads_eq, fit.dim_eq]
  have hv : project a.wv a.keyHeads a.headDim l.rows x =
      l.block ((a.entries tracker.turns x).map (·.2)) := by
    rw [map_snd_entries a hturns]
    simp only [project, Layout.block, fit.heads_eq, fit.dim_eq]
  obtain ⟨grown, hforward, hg⟩ := KeyValueCache.forward_holds h hkfull hvfull (hlen ▸ room)
  refine ⟨grown, ?_, hg⟩
  simp only [stepCached, hq, hk, hv, hforward]
  have hkeys : (l.block (longer.map (·.1))).slots.length = log.length + x.length := by
    simp [Layout.block, longer, hturns]
  rw [hkeys, stepMask_maskOf, fit.keysOf_eq, fit.valuesOf_eq]
  rfl

theorem stepMask_none (n : Nat) : stepMask none n n = .ok (LayerCacheSet.maskOf n n) := by
  unfold LayerCacheSet.maskOf
  by_cases h : n ≤ 1
  · rw [if_pos h, stepMask, if_pos h]
  · rw [if_neg h, stepMask, if_neg h, causalMask, if_neg (by omega), if_neg (by omega)]
    rfl

theorem scoreSteps_eq (a : Attention α) (rows : Nat) (x : List (List (List α)))
    {table : RotaryTable α} (hdim : table.dim ≤ a.headDim) :
    let turns := table.direct 0 x.length
    a.scoreSteps rows x table =
      .ok (a.stepOver rows turns (LayerCacheSet.maskOf x.length x.length) (a.entries turns x)
        x) := by
  intro turns
  have hrotate (l : Linear α) (heads : Nat) :
      table.rotateBlockFrom (project l heads a.headDim rows x) 0 =
        .ok ⟨rows, heads, a.headDim,
          List.zipWith Turn.rotateSlot turns (x.map (projectRows l heads a.headDim))⟩ := by
    simp only [RotaryTable.rotateBlockFrom, RotaryTable.rotateBlock, project, List.length_map]
    rw [if_neg (by omega)]
  have hturns : turns.length = x.length := table.length_direct 0 x.length
  simp only [scoreSteps, hrotate, stepMask_none, bind, Except.bind]
  rw [stepOver, keysOf, valuesOf, map_fst_entries, map_snd_entries a hturns]
  rfl

end Attention
end StreamingLM
