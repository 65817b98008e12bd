import StreamingLM.Proofs.Cache.Run
import StreamingLM.Proofs.Layer.LookBack
import StreamingLM.Proofs.Model.State
import StreamingLM.Proofs.Number.Real

/-!
A layer that decodes past its window. Keys stay in the cache as they were rotated when they came,
while the table moves on and the oldest entries are dropped. Main statement: over any run of steps
every position sees the retained positions up to its own, all at their true places.
-/
namespace StreamingLM

namespace Tensor

variable {α : Type}

theorem length_steps {x : Tensor α} {rows count width : Nat} (h : x.shape = [rows, count, width]) :
    x.steps.length = count := by
  simp [steps, h]

theorem rows_steps {x : Tensor α} {rows count width : Nat} (h : x.shape = [rows, count, width]) :
    ∀ r ∈ x.steps, r.length = rows := by
  intro r hr
  simp only [steps, h, List.mem_map] at hr
  obtain ⟨i, -, rfl⟩ := hr
  simp

end Tensor

namespace Attention

variable {α : Type} [Scalar α]

/-- Steps of a layer on its own, one after the other, up to the first that fails. -/
def run (a : Attention α) (s : DecodeState α) :
    List (Tensor α) → Attempt (DecodeState α) (List (Tensor α))
  | [] => (.ok [], s)
  | x :: xs =>
    match a.step s x with
    | (.error f, s) => (.error f, s)
    | (.ok y, s) =>
      let (result, s) := a.run s xs
      (result.map (y :: ·), s)

/-- The outputs of a step behind `past`: every position looks back to where a window begins that
ends with the step. -/
def windowedStep (a : Attention α) (frequencies : List α) (rows window : Nat)
    (past : List (List (List α))) (x : Tensor α) : Tensor α :=
  let inputs := past ++ x.steps
  Tensor.ofSteps rows a.width ((List.range x.steps.length).map fun i =>
    a.lookBack frequencies rows inputs (inputs.length - window) (past.length + i))

/-- The outputs of steps behind `past`. -/
def windowed (a : Attention α) (frequencies : List α) (rows window : Nat) :
    List (List (List α)) → List (Tensor α) → List (Tensor α)
  | _, [] => []
  | past, x :: xs =>
    a.windowedStep frequencies rows window past x ::
      a.windowed frequencies rows window (past ++ x.steps) xs

/-- A step of the layer: so many positions, at least one and at most a window. -/
def IsStep (a : Attention α) (rows window : Nat) (x : Tensor α) : Prop :=
  ∃ count, x.shape = [rows, count, a.width] ∧ 1 ≤ count ∧ count ≤ window

/-- The state after a sequence of inputs: the cache holds the last window of their entries, and the
table is exact. -/
structure Tracks (a : Attention α) (s : DecodeState α) (l : Layout) (dim capacity : Nat)
    (frequencies : List α) (past : List (List (List α))) : Prop where
  holds : s.Holds l dim capacity past.length (min past.length l.capacity)
    [(a.logOf frequencies past).rtake l.capacity]
  exact : s.tracker.table.Exact
  frequencies_eq : s.tracker.table.frequencies = frequencies
  full : ∀ r ∈ past, r.length = l.rows

theorem onFirst_holds {a : Attention α} {l : Layout} (fit : a.Fits l) {ready : DecodeState α}
    {log : List (Entry α)} {held : Nat} {dim capacity position : Nat} (hdim : dim ≤ l.dim)
    {x : Tensor α} {count : Nat} (hshape : x.shape = [l.rows, count, a.width])
    (hcaches : ready.caches.Holds l held count [log])
    (hready : ready.tracker.Ready dim capacity position count) :
    let mask := LayerCacheSet.maskOf count (held + count)
    let longer := log ++ a.entries ready.tracker.turns x.steps
    ∃ grown, a.onFirst ready (some ready.tracker) x mask =
        (.ok (Tensor.ofSteps l.rows a.width
            (a.stepOver l.rows ready.tracker.turns mask longer x.steps)),
          { ready with caches := { ready.caches with layers := [grown] } }) ∧
      grown.Holds l longer := by
  intro mask longer
  obtain ⟨cache, hlayers, hcache⟩ : ∃ cache, ready.caches.layers = [cache] ∧ cache.Holds l log := by
    have hall := hcaches.layers
    cases hc : ready.caches.layers with
    | nil =>
      rw [hc] at hall
      cases hall
    | cons cache rest =>
      rw [hc] at hall
      cases hall with
      | cons hfirst hrest =>
        cases hrest
        exact ⟨cache, rfl, hfirst⟩
  have hlog : log.length = held := hcaches.even log (by simp)
  have hcount : x.steps.length = count := Tensor.length_steps hshape
  obtain ⟨grown, hstep, hg⟩ := stepCached_holds fit hcache (hcount.symm ▸ hready) hdim
    (Tensor.rows_steps hshape) (by rw [hlog, hcount]; exact hcaches.room)
  rw [hlog, hcount] at hstep
  refine ⟨grown, ?_, hg⟩
  simp only [onFirst, hlayers, List.head?_cons, forward, forwardCached, checkInput, hshape,
    if_true, mask, hstep]
  rfl

theorem logOf_rtake (a : Attention α) (t : RotaryTable α) (past : List (List (List α)))
    {x : List (List (List α))} {window : Nat} (short : x.length ≤ window) :
    let held := min past.length window
    ((a.logOf t.frequencies past).rtake window).drop
          (held - LayerCacheSet.kept window held x.length) ++
        a.entries (t.direct past.length x.length) x =
      (a.logOf t.frequencies (past ++ x)).rtake window := by
  intro held
  have hentries : (a.entries (t.direct past.length x.length) x).length = x.length := by simp
  have hlonger := LayerCacheSet.rtake_append (a.logOf t.frequencies past)
    (a.entries (t.direct past.length x.length) x) (hentries.trans_le short)
  rw [length_logOf, hentries, ← a.logOf_append t past x] at hlonger
  exact hlonger

/-- Over the last window of the log every position of a step looks back to where the window
begins. -/
theorem stepOver_rtake [MaskLaws α] (a : Attention α) (t : RotaryTable α) {rows window : Nat}
    {past x : List (List (List α))} (full : ∀ r ∈ past ++ x, r.length = rows)
    (short : x.length ≤ window) :
    a.stepOver rows (t.direct past.length x.length)
        (LayerCacheSet.maskOf x.length (min (past.length + x.length) window))
        ((a.logOf t.frequencies (past ++ x)).rtake window) x =
      (List.range x.length).map fun i =>
        a.lookBack t.frequencies rows (past ++ x) ((past ++ x).length - window)
          (past.length + i) := by
  have hretained : (past ++ x).length - window ≤ past.length := by
    rw [List.length_append]
    omega
  have hkeys : past.length - ((past ++ x).length - window) + x.length =
      min (past.length + x.length) window := by
    rw [List.length_append]
    omega
  have hsees := a.stepOver_eq_lookBack t full hretained
  rw [hkeys] at hsees
  rw [List.rtake, length_logOf]
  exact hsees

variable [TurnLaws α] [MaskLaws α]

theorem Tracks.step {a : Attention α} {s : DecodeState α} {l : Layout} {dim capacity : Nat}
    {frequencies : List α} {past : List (List (List α))} (fit : a.Fits l) (hdim : dim ≤ l.dim)
    (hcapacity : l.capacity ≤ capacity) (h : a.Tracks s l dim capacity frequencies past)
    {x : Tensor α} (hx : a.IsStep l.rows l.capacity x) :
    ∃ after, a.step s x = (.ok (a.windowedStep frequencies l.rows l.capacity past x), after) ∧
      a.Tracks after l dim capacity frequencies (past ++ x.steps) := by
  obtain ⟨count, hshape, hpos, hcount⟩ := hx
  obtain rfl : x.steps.length = count := Tensor.length_steps hshape
  obtain ⟨ready, hprepare, htracker, hcaches, hready⟩ :=
    DecodeState.prepare_holds h.holds hpos hcount hcapacity
  obtain ⟨grown, hfirst, hg⟩ := onFirst_holds fit hdim hshape hcaches hready
  -- the table stands where it should, so that the new entries are those of their true positions
  have hexact := RotaryTracker.prepare_exact htracker h.exact
  have hfrequencies := (RotaryTracker.prepare_frequencies htracker).trans h.frequencies_eq
  have hturns := hready.turns_eq hexact
  have hfull : ∀ r ∈ past ++ x.steps, r.length = l.rows :=
    List.forall_mem_append.mpr ⟨h.full, Tensor.rows_steps hshape⟩
  have hheld := LayerCacheSet.kept_add past.length hcount
  have hlog := a.logOf_rtake ready.tracker.table past hcount
  have hsees := a.stepOver_rtake ready.tracker.table hfull hcount
  rw [hfrequencies] at hlog hsees
  rw [hturns, hlog] at hfirst hg
  rw [hheld, hsees] at hfirst
  let after : DecodeState α := { ready with caches := { ready.caches with layers := [grown] } }
  have hstep : a.step s x = (.ok (a.windowedStep frequencies l.rows l.capacity past x), after) := by
    simp only [Attention.step, stepLength, hshape, hprepare, hheld, windowedStep]
    exact hfirst
  rw [← List.length_append] at hheld
  refine ⟨after, hstep, ⟨⟨hcaches.window_eq, ?_, ?_, ?_, .cons hg .nil⟩, ?_⟩, hexact,
    hfrequencies, hfull⟩
  · rw [← hheld]
    exact hcaches.len_eq
  · exact Nat.min_le_right _ _
  · intro log hmem
    rw [List.mem_singleton.mp hmem, List.rtake, List.length_drop, length_logOf]
    omega
  · rw [List.length_append]
    exact hready.anchored

theorem Tracks.run {a : Attention α} {l : Layout} {dim capacity : Nat} {frequencies : List α}
    (fit : a.Fits l) (hdim : dim ≤ l.dim) (hcapacity : l.capacity ≤ capacity)
    (xs : List (Tensor α)) (steps : ∀ x ∈ xs, a.IsStep l.rows l.capacity x) {s : DecodeState α}
    {past : List (List (List α))} (h : a.Tracks s l dim capacity frequencies past) :
    ∃ after, a.run s xs = (.ok (a.windowed frequencies l.rows l.capacity past xs), after) := by
  induction xs generalizing s past with
  | nil => exact ⟨s, rfl⟩
  | cons x xs ih =>
    obtain ⟨next, hstep, hn⟩ := h.step fit hdim hcapacity (steps x (by simp))
    obtain ⟨after, hrun⟩ := ih (fun x hx => steps x (List.mem_cons_of_mem _ hx)) hn
    exact ⟨after, by rw [Attention.run, hstep]; simp only [hrun]; rfl⟩

omit [MaskLaws α] [TurnLaws α] in
theorem tracks_empty (a : Attention α) {l : Layout} {dim capacity : Int} {rope : RotaryConfig}
    {table : RotaryTable α} (built : RotaryTable.build dim capacity rope = .ok table)
    {caches : LayerCacheSet α} (h : caches.Holds l 0 0 [[]]) :
    a.Tracks ⟨caches, { table }⟩ l dim.toNat capacity.toNat table.frequencies [] where
  holds := ⟨by simpa [logOf, List.rtake] using h, RotaryTracker.build_anchored built⟩
  exact := RotaryTable.build_exact built
  frequencies_eq := rfl
  full := by simp

/-- Over exact numbers, steps of at most a window never fail. Whatever has been evicted and however
often the table has moved, the output at a position is attention of its query over the keys and
values from where the window of its step begins up to that position, the query and every key rotated
at their own positions. -/
theorem run_looks_back (a : Attention ℝ) {rows batch window : Nat} (hrows : rows ≤ batch)
    (hw : 1 ≤ window) (strategy : CacheStrategy) {dim capacity : Int} {rope : RotaryConfig}
    {table : RotaryTable ℝ} (built : RotaryTable.build dim capacity rope = .ok table)
    (hdim : dim ≤ a.headDim) (hcapacity : window ≤ capacity) (xs : List (Tensor ℝ))
    (steps : ∀ x ∈ xs, a.IsStep rows window x) :
    ∃ caches after, LayerCacheSet.empty 1 batch a.keyHeads window a.headDim strategy = .ok caches ∧
      a.run ⟨caches, { table }⟩ xs =
        (.ok (a.windowed table.frequencies rows window [] xs), after) := by
  obtain ⟨caches, hcaches⟩ :=
    LayerCacheSet.empty_ok (α := ℝ) 1 batch a.keyHeads a.headDim hw strategy
  let l : Layout := ⟨rows, batch, a.keyHeads, a.headDim, window, hrows⟩
  have hempty : caches.Holds l 0 0 [[]] := LayerCacheSet.empty_holds hcaches hrows (by omega)
  have fit : a.Fits l := ⟨rfl, rfl⟩
  have hwidth : dim.toNat ≤ l.dim := by
    show dim.toNat ≤ a.headDim
    omega
  have hroom : l.capacity ≤ capacity.toNat := by
    show window ≤ capacity.toNat
    omega
  obtain ⟨after, hrun⟩ := (a.tracks_empty built hempty).run fit hwidth hroom xs steps
  exact ⟨caches, after, hcaches, hrun⟩

noncomputable def plainLayer : Attention ℝ :=
  let same : Linear ℝ := { rows := [[1, 0], [0, 1]] }
  ⟨2, 1, 1, 2, same, same, same, same⟩

/-- A window of two and a table of two rows, over three steps of five positions. -/
theorem plainLayer_looks_back : ∃ table caches after,
    RotaryTable.build 2 2 {} = .ok table ∧
    LayerCacheSet.empty 1 1 1 2 2 .shift = .ok caches ∧
    let xs : List (Tensor ℝ) := [⟨[1, 2, 2], #[1, 2, 3, 4]⟩, ⟨[1, 1, 2], #[5, 6]⟩,
      ⟨[1, 2, 2], #[7, 8, 9, 10]⟩]
    plainLayer.run ⟨caches, { table }⟩ xs =
      (.ok (plainLayer.windowed table.frequencies 1 2 [] xs), after) := by
  obtain ⟨table, built⟩ : ∃ table : RotaryTable ℝ, RotaryTable.build 2 2 {} = .ok table := ⟨_, rfl⟩
  have hone : 1 ≤ 1 := by decide
  have hwindow : 1 ≤ 2 := by decide
  have hcapacity : ((2 : Nat) : Int) ≤ 2 := by decide
  obtain ⟨caches, after, hcaches, hrun⟩ := plainLayer.run_looks_back hone hwindow .shift built
    (by decide) hcapacity
    [⟨[1, 2, 2], #[1, 2, 3, 4]⟩, ⟨[1, 1, 2], #[5, 6]⟩, ⟨[1, 2, 2], #[7, 8, 9, 10]⟩] (by
      simp only [List.forall_mem_cons]
      exact ⟨⟨2, rfl, by decide, by decide⟩, ⟨1, rfl, by decide, by decide⟩,
        ⟨2, rfl, by decide, by decide⟩, by simp⟩)
  exact ⟨table, caches, after, built, hcaches, hrun⟩

end Attention
end StreamingLM
