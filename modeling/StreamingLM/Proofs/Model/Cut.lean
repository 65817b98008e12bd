import StreamingLM.Proofs.Layer.LookBack
import StreamingLM.Proofs.Model.Shape
import StreamingLM.Proofs.Number.Real

/-!
Decoding in steps against scoring at once. A sequence of at most a window may be cut in any way: the
layers of each step get the same inputs, position by position, that they get when the whole sequence
is scored without caches.
-/
namespace StreamingLM

variable {α : Type} [Scalar α]

namespace DecoderBlock

/-- The output of a block for a whole sequence, every position looking back to the first. -/
def whole (b : DecoderBlock α) (frequencies : List α) (rows : Nat) (inputs : Steps α) : Steps α :=
  b.finish inputs ((List.range inputs.length).map
    (b.attention.lookBack frequencies rows (mapSteps b.attentionNorm.apply inputs) 0))

def logOf (b : DecoderBlock α) (frequencies : List α) (inputs : Steps α) : List (Entry α) :=
  b.attention.logOf frequencies (mapSteps b.attentionNorm.apply inputs)

omit [Scalar α] in
theorem mapSteps_append (f : List α → List α) (x y : Steps α) :
    mapSteps f (x ++ y) = mapSteps f x ++ mapSteps f y := List.map_append

theorem addSteps_append {x y u v : Steps α} (h : List.length x = List.length u) :
    addSteps (x ++ y) (u ++ v) = addSteps x u ++ addSteps y v := List.zipWith_append h

theorem finish_append (b : DecoderBlock α) {x y u v : Steps α} (h : List.length x = List.length u) :
    b.finish (x ++ y) (u ++ v) = b.finish x u ++ b.finish y v := by
  have hsum : List.length (addSteps x u) =
      List.length (mapSteps (fun w => b.feedForward.apply (b.feedForwardNorm.apply w))
        (addSteps x u)) := (length_mapSteps _ _).symm
  simp only [finish, addSteps_append h, mapSteps_append, addSteps_append hsum]

theorem whole_isStep (b : DecoderBlock α) (frequencies : List α) {rows count : Nat} {x : Steps α}
    (h : Transformer.IsStep rows count x) :
    Transformer.IsStep rows count (b.whole frequencies rows x) := by
  refine ⟨?_, b.rows_finish h.full ?_⟩
  · rw [whole, b.length_finish, h.length_eq]
    simp
  · intro y hy
    obtain ⟨i, -, rfl⟩ := List.mem_map.mp hy
    simp [Attention.lookBack, Attention.outputRows, Attention.attendSlot]

theorem logOf_append (b : DecoderBlock α) (t : RotaryTable α) (past x : Steps α) :
    b.logOf t.frequencies (past ++ x) =
      b.logOf t.frequencies past ++ b.entries (t.direct past.length x.length) x := by
  have hlog := b.attention.logOf_append t (mapSteps b.attentionNorm.apply past)
    (mapSteps b.attentionNorm.apply x)
  rw [length_mapSteps, length_mapSteps] at hlog
  rw [logOf, mapSteps_append, hlog, logOf, entries]

/-- What a step adds to the output of a block for what came before it. -/
theorem whole_append [MaskLaws α] (b : DecoderBlock α) (t : RotaryTable α) {rows : Nat}
    {past x : Steps α} (full : ∀ r ∈ past ++ x, r.length = rows) :
    let turns := t.direct past.length x.length
    let mask := LayerCacheSet.maskOf x.length (past.length + x.length)
    b.whole t.frequencies rows (past ++ x) = b.whole t.frequencies rows past ++
      b.stepOver rows turns mask (b.logOf t.frequencies (past ++ x)) x := by
  intro turns mask
  have hsame : mapSteps b.attentionNorm.apply (past ++ x) =
      mapSteps b.attentionNorm.apply past ++ mapSteps b.attentionNorm.apply x :=
    mapSteps_append _ past x
  have hfull : ∀ r ∈ mapSteps b.attentionNorm.apply past ++ mapSteps b.attentionNorm.apply x,
      r.length = rows := hsame ▸ rows_mapSteps b.attentionNorm.apply full
  have hstep := b.attention.stepOver_eq_lookBack t hfull (Nat.zero_le _)
  rw [length_mapSteps, length_mapSteps, List.drop_zero, Nat.sub_zero] at hstep
  have hpast : (List.range past.length).map (b.attention.lookBack t.frequencies rows
        (mapSteps b.attentionNorm.apply past ++ mapSteps b.attentionNorm.apply x) 0) =
      (List.range past.length).map (b.attention.lookBack t.frequencies rows
        (mapSteps b.attentionNorm.apply past) 0) := by
    apply List.map_congr_left
    intro i hi
    have hlen : i < List.length (mapSteps b.attentionNorm.apply past) := by
      rw [length_mapSteps]
      exact List.mem_range.mp hi
    exact b.attention.lookBack_append t rows _ _ 0 hlen
  have hsplit : (List.range (past ++ x).length).map (b.attention.lookBack t.frequencies rows
        (mapSteps b.attentionNorm.apply past ++ mapSteps b.attentionNorm.apply x) 0) =
      (List.range past.length).map (b.attention.lookBack t.frequencies rows
          (mapSteps b.attentionNorm.apply past) 0) ++
        b.attention.stepOver rows turns mask (b.logOf t.frequencies (past ++ x))
          (mapSteps b.attentionNorm.apply x) := by
    rw [logOf, hsame, hstep, List.length_append, List.range_add, List.map_append, hpast,
      List.map_map]
    rfl
  rw [whole, hsame, hsplit, b.finish_append (by simp)]
  rfl

end DecoderBlock

namespace Transformer

/-- The output of blocks for a whole sequence, and the keys and values of all layers. -/
def wholeBlocks (frequencies : List α) (rows : Nat) :
    List (DecoderBlock α) → Steps α → Steps α × List (List (Entry α))
  | [], x => (x, [])
  | b :: blocks, x =>
    let (y, logs) := wholeBlocks frequencies rows blocks (b.whole frequencies rows x)
    (y, b.logOf frequencies x :: logs)

theorem wholeBlocks_nil (frequencies : List α) (rows : Nat) (blocks : List (DecoderBlock α)) :
    wholeBlocks frequencies rows blocks [] = ([], List.replicate blocks.length []) := by
  induction blocks with
  | nil => rfl
  | cons b blocks ih =>
    have hwhole : b.whole frequencies rows [] = [] := rfl
    simp only [wholeBlocks, hwhole, ih]
    rfl

theorem length_wholeBlocks (frequencies : List α) (rows : Nat) (blocks : List (DecoderBlock α))
    (x : Steps α) : (wholeBlocks frequencies rows blocks x).2.length = blocks.length := by
  induction blocks generalizing x with
  | nil => rfl
  | cons b blocks ih => simp only [wholeBlocks, List.length_cons, ih]

/-- A step continues the whole: its outputs stand behind those of what came before it, and the logs
that it leaves are those of the longer sequence. -/
theorem stepLogs_eq_whole [MaskLaws α] (t : RotaryTable α) {rows position count : Nat}
    (blocks : List (DecoderBlock α)) {past x : Steps α} (hpast : IsStep rows position past)
    (hx : IsStep rows count x) :
    let done := wholeBlocks t.frequencies rows blocks past
    let all := wholeBlocks t.frequencies rows blocks (past ++ x)
    let next := stepLogs rows (t.direct position count)
      (LayerCacheSet.maskOf count (position + count)) blocks done.2 x
    all.1 = done.1 ++ next.1 ∧ next.2 = all.2 := by
  induction blocks generalizing past x with
  | nil => exact ⟨rfl, rfl⟩
  | cons b blocks ih =>
    have hwhole := b.whole_append t (List.forall_mem_append.mpr ⟨hpast.full, hx.full⟩)
    have hlog := b.logOf_append t past x
    rw [hpast.length_eq, hx.length_eq] at hwhole hlog
    have hrest := ih (b.whole_isStep t.frequencies hpast)
      (hx.stepOver b (t.length_direct position count)
        (LayerCacheSet.maskOf count (position + count)) (b.logOf t.frequencies (past ++ x)))
    rw [← hwhole] at hrest
    simp only [wholeBlocks, stepLogs, ← hlog]
    exact ⟨hrest.1, congrArg _ hrest.2⟩

theorem forwardMasked_eq_whole [MaskLaws α] {t : Transformer α} {l : Layout} {layers : Nat}
    (fit : t.Fits l layers) {table : RotaryTable α} (hdim : table.dim ≤ l.dim)
    {tokens : List (List Int)} {x : Steps α} (embedded : t.embed tokens = .ok x) {rows : Nat}
    (hx : IsStep rows tokens.length x) :
    t.forwardMasked table rows tokens =
      .ok (t.scores (wholeBlocks table.frequencies rows t.blocks x).1) := by
  have hnone : IsStep rows 0 ([] : Steps α) := ⟨rfl, by simp⟩
  obtain ⟨hall, -⟩ := stepLogs_eq_whole table t.blocks hnone hx
  rw [wholeBlocks_nil, fit.length_eq, List.nil_append, List.nil_append, Nat.zero_add] at hall
  rw [forwardMasked_eq fit hdim embedded hx, hall]
  rfl

/-- Steps of the stack, one after the other, up to the first that fails; the scores of all
positions are put together. -/
def run (t : Transformer α) (s : DecodeState α) (rows : Nat) :
    List (List (List Int)) → Attempt (DecodeState α) (Steps α)
  | [] => (.ok [], s)
  | tokens :: cuts =>
    match t.step s rows tokens with
    | (.error f, s) => (.error f, s)
    | (.ok scores, s) =>
      let (result, s) := t.run s rows cuts
      (result.map (scores ++ ·), s)

/-- The state after a sequence that has not overrun the window: the caches hold the keys and values
of the whole, and the table is exact. -/
structure Tracks (t : Transformer α) (s : DecodeState α) (l : Layout) (dim capacity : Nat)
    (frequencies : List α) (past : Steps α) : Prop where
  holds : s.Holds l dim capacity past.length past.length
    (wholeBlocks frequencies l.rows t.blocks past).2
  exact : s.tracker.table.Exact
  frequencies_eq : s.tracker.table.frequencies = frequencies
  full : ∀ r ∈ past, r.length = l.rows

section Run

variable {t : Transformer α} {l : Layout} {layers dim capacity : Nat} {frequencies : List α}
  (fit : t.Fits l layers) (hdim : dim ≤ l.dim) (hcapacity : l.capacity ≤ capacity)

include fit hdim hcapacity in
theorem Tracks.step [TurnLaws α] [MaskLaws α] {s : DecodeState α} {past : Steps α}
    (h : t.Tracks s l dim capacity frequencies past) {tokens : List (List Int)}
    (nonempty : tokens ≠ []) (room : past.length + tokens.length ≤ l.capacity) {x : Steps α}
    (embedded : t.embed tokens = .ok x) (hx : IsStep l.rows tokens.length x) :
    ∃ new after, t.step s l.rows tokens = (.ok (t.scores new), after) ∧
      (wholeBlocks frequencies l.rows t.blocks (past ++ x)).1 =
        (wholeBlocks frequencies l.rows t.blocks past).1 ++ new ∧
      t.Tracks after l dim capacity frequencies (past ++ x) := by
  have hlogs : (wholeBlocks frequencies l.rows t.blocks past).2.length = layers :=
    (length_wholeBlocks _ _ _ _).trans fit.length_eq
  have hpos : 1 ≤ tokens.length := List.length_pos_of_ne_nil nonempty
  have hcount : tokens.length ≤ l.capacity := by omega
  obtain ⟨after, hprepare, hready, hstep, -, hafter⟩ :=
    step_holds (hlogs.symm ▸ fit) h.holds hdim hcapacity hpos hcount embedded hx
  have hexact := RotaryTracker.prepare_exact hprepare h.exact
  have hfrequencies := (RotaryTracker.prepare_frequencies hprepare).trans h.frequencies_eq
  have hturns := hready.turns_eq hexact
  -- nothing is evicted while the sequence fits the window
  have hkept : LayerCacheSet.kept l.capacity past.length tokens.length = past.length := by
    unfold LayerCacheSet.kept
    omega
  have hsame : (wholeBlocks frequencies l.rows t.blocks past).2.map (·.drop 0) =
      (wholeBlocks frequencies l.rows t.blocks past).2 := List.map_id _
  rw [hkept, Nat.sub_self, hsame, hturns] at hstep hafter
  have hpast : IsStep l.rows past.length past := ⟨rfl, h.full⟩
  obtain ⟨hscores, hlogs⟩ := stepLogs_eq_whole after.tracker.table t.blocks hpast hx
  rw [hfrequencies] at hscores hlogs
  refine ⟨_, after, hstep, hscores, ?_, hexact, hfrequencies, ?_⟩
  · rw [hlogs] at hafter
    rw [List.length_append, hx.length_eq]
    exact hafter
  · exact List.forall_mem_append.mpr ⟨h.full, hx.full⟩

include fit hcapacity in
theorem step_unknown {s : DecodeState α} {position held : Nat} {logs : List (List (Entry α))}
    (all : logs.length = layers) (h : s.Holds l dim capacity position held logs)
    {tokens : List (List Int)} (nonempty : tokens ≠ [])
    (room : tokens.length ≤ l.capacity) {f : Failure} (unknown : t.embed tokens = .error f) :
    ∃ after, t.step s l.rows tokens = (.error f, after) := by
  have hpos : 1 ≤ tokens.length := List.length_pos_of_ne_nil nonempty
  obtain ⟨ready, hprepare, -, hcaches, -⟩ := DecodeState.prepare_holds h hpos room hcapacity
  have hlayers : ready.caches.layers.length = t.blocks.length := by
    rw [hcaches.layers.length_eq, List.length_map, all, fit.length_eq]
  exact ⟨ready, by simp only [Transformer.step, hprepare, forward, hlayers, unknown, ne_eq,
    not_true_eq_false, if_false]⟩

omit [Scalar α] in
theorem embed_append (t : Transformer α) (first rest : List (List Int)) :
    t.embed (first ++ rest) = (do return (← t.embed first) ++ (← t.embed rest)) :=
  List.mapM_append

include fit hdim hcapacity in
/-- Steps that together fit the window give the scores of the whole, in order. -/
theorem Tracks.run [TurnLaws α] [MaskLaws α] (cuts : List (List (List Int)))
    (nonempty : ∀ cut ∈ cuts, cut ≠ []) (full : ∀ cut ∈ cuts, ∀ ids ∈ cut, ids.length = l.rows)
    {s : DecodeState α} {past : Steps α} (h : t.Tracks s l dim capacity frequencies past)
    (room : past.length + cuts.flatten.length ≤ l.capacity) {x : Steps α}
    (embedded : t.embed cuts.flatten = .ok x) :
    ∃ new, (t.run s l.rows cuts).1 = .ok (t.scores new) ∧
      (wholeBlocks frequencies l.rows t.blocks (past ++ x)).1 =
        (wholeBlocks frequencies l.rows t.blocks past).1 ++ new := by
  induction cuts generalizing s past x with
  | nil =>
    cases embedded
    exact ⟨[], rfl, by simp⟩
  | cons tokens cuts ih =>
    rw [List.flatten_cons, embed_append] at embedded
    obtain ⟨first, hfirst, hmore⟩ := Outcome.bind_eq_ok.mp embedded
    obtain ⟨rest, hrest, hx⟩ := Outcome.bind_eq_ok.mp hmore
    cases hx
    rw [List.flatten_cons, List.length_append] at room
    have hisStep := embed_isStep hfirst (full tokens (by simp))
    obtain ⟨new, next, hstep, hwhole, hn⟩ := Tracks.step fit hdim hcapacity h
      (nonempty tokens (by simp)) (by omega) hfirst hisStep
    obtain ⟨more, hrun, hmore⟩ := ih (fun cut hcut => nonempty cut (List.mem_cons_of_mem _ hcut))
      (fun cut hcut => full cut (List.mem_cons_of_mem _ hcut)) hn
      (by rw [List.length_append, hisStep.length_eq]; omega) hrest
    refine ⟨new ++ more, ?_, ?_⟩
    · simp only [Transformer.run, hstep, hrun, Except.map]
      exact congrArg _ (DecoderBlock.mapSteps_append _ new more).symm
    · rw [← List.append_assoc, hmore, hwhole, List.append_assoc]

include fit hdim hcapacity in
theorem Tracks.run_unknown [TurnLaws α] [MaskLaws α] (cuts : List (List (List Int)))
    (nonempty : ∀ cut ∈ cuts, cut ≠ []) (full : ∀ cut ∈ cuts, ∀ ids ∈ cut, ids.length = l.rows)
    {s : DecodeState α} {past : Steps α} (h : t.Tracks s l dim capacity frequencies past)
    (room : past.length + cuts.flatten.length ≤ l.capacity) {f : Failure}
    (unknown : t.embed cuts.flatten = .error f) : (t.run s l.rows cuts).1 = .error f := by
  induction cuts generalizing s past with
  | nil => cases unknown
  | cons tokens cuts ih =>
    rw [List.flatten_cons, embed_append] at unknown
    rw [List.flatten_cons, List.length_append] at room
    cases hfirst : t.embed tokens with
    | error g =>
      rw [hfirst] at unknown
      cases unknown
      have hlogs : (wholeBlocks frequencies l.rows t.blocks past).2.length = layers :=
        (length_wholeBlocks _ _ _ _).trans fit.length_eq
      obtain ⟨after, hstep⟩ := step_unknown fit hcapacity hlogs h.holds
        (nonempty tokens (by simp)) (by omega) hfirst
      simp only [Transformer.run, hstep]
    | ok first =>
      have hisStep := embed_isStep hfirst (full tokens (by simp))
      obtain ⟨new, next, hstep, -, hn⟩ := Tracks.step fit hdim hcapacity h
        (nonempty tokens (by simp)) (by omega) hfirst hisStep
      have hrest : t.embed cuts.flatten = .error f := by
        cases hr : t.embed cuts.flatten with
        | error g =>
          rw [hfirst, hr] at unknown
          cases unknown
          rfl
        | ok rest =>
          rw [hfirst, hr] at unknown
          cases unknown
      have hfails := ih (fun cut hcut => nonempty cut (List.mem_cons_of_mem _ hcut))
        (fun cut hcut => full cut (List.mem_cons_of_mem _ hcut)) hn
        (by rw [List.length_append, hisStep.length_eq]; omega) hrest
      simp only [Transformer.run, hstep, hfails]
      rfl

end Run

theorem tracks_fresh {c : LlamaConfig} {p : Parameters α} {t : Transformer α}
    (filled : ofParameters c.transformer p = .ok t) {s : DecodeState α}
    (fresh : DecodeState.ofConfig c = .ok s) {rows : Nat} (h : rows ≤ c.batch.toNat) :
    t.Tracks s (c.layout rows h) c.transformer.headDim.toNat (c.window * 5).toNat
      s.tracker.table.frequencies [] := by
  obtain ⟨-, hexact, hs⟩ := DecodeState.ofConfig_holds fresh h
  have hlayers := (ofParameters_fits filled h).length_eq
  refine ⟨?_, hexact, rfl, by simp⟩
  rw [wholeBlocks_nil, hlayers]
  exact hs

/-- Over exact numbers, a sequence of at most a window of positions gives the same scores, or the
same failure, in whatever steps it is decoded from a fresh state and when it is scored at once; and
it fails only on tokens without a vector. -/
theorem run_eq_forwardMasked {c : LlamaConfig} {p : Parameters ℝ} {t : Transformer ℝ}
    (filled : ofParameters c.transformer p = .ok t) {s : DecodeState ℝ}
    (fresh : DecodeState.ofConfig c = .ok s) {rows : Nat} (hrows : (rows : Int) ≤ c.batch)
    {cuts : List (List (List Int))} (nonempty : ∀ cut ∈ cuts, cut ≠ [])
    (full : ∀ cut ∈ cuts, ∀ ids ∈ cut, ids.length = rows)
    (short : cuts.flatten.length ≤ c.window) :
    (t.run s rows cuts).1 = t.forwardMasked s.tracker.table rows cuts.flatten ∧
      ((∀ ids ∈ cuts.flatten, ∀ id ∈ ids, 0 ≤ id ∧ id < t.embeddings.length) →
        ∃ scores, (t.run s rows cuts).1 = .ok scores) := by
  have hbatch : rows ≤ c.batch.toNat := by omega
  have fit := ofParameters_fits filled hbatch
  have hfresh := tracks_fresh filled fresh hbatch
  have hwindow : (c.layout rows hbatch).capacity = c.window.toNat := rfl
  have hcapacity : (c.layout rows hbatch).capacity ≤ (c.window * 5).toNat := by omega
  have hroom : ([] : Steps ℝ).length + cuts.flatten.length ≤ (c.layout rows hbatch).capacity := by
    rw [List.length_nil, hwindow]
    omega
  have hflat : ∀ ids ∈ cuts.flatten, ids.length = rows := by
    intro ids hids
    obtain ⟨cut, hcut, hmem⟩ := List.mem_flatten.mp hids
    exact full cut hcut ids hmem
  cases hembed : t.embed cuts.flatten with
  | error f =>
    have hrun := Tracks.run_unknown fit le_rfl hcapacity cuts nonempty full hfresh hroom hembed
    have hscore : t.forwardMasked s.tracker.table rows cuts.flatten = .error f := by
      rw [forwardMasked, hembed]
      rfl
    refine ⟨hrun.trans hscore.symm, fun known => ?_⟩
    obtain ⟨x, hx⟩ := embed_ok known
    rw [hembed] at hx
    cases hx
  | ok x =>
    obtain ⟨new, hrun, hwhole⟩ :=
      Tracks.run fit le_rfl hcapacity cuts nonempty full hfresh hroom hembed
    have hscore := forwardMasked_eq_whole fit (le_of_eq hfresh.holds.tracker.dim_eq) hembed
      (embed_isStep hembed hflat)
    rw [wholeBlocks_nil, List.nil_append, List.nil_append] at hwhole
    have hrun' : (t.run s rows cuts).1 = .ok (t.scores new) := hrun
    exact ⟨by rw [hrun', hscore, ← hwhole]; rfl, fun _ => ⟨_, hrun'⟩⟩

/-- One layer of one head, with two tokens and a window of three positions. -/
def twoTokens : LlamaConfig :=
  { width := 2, hidden := 2, layers := 1, heads := 1, vocabSize := 2, window := 3 }

/-- Three tokens at once, and two of them before the third. -/
theorem twoTokens_run_eq_forwardMasked :
    ∃ (shapes : List (String × List Nat)) (t : Transformer ℝ) (s : DecodeState ℝ)
      (scores : Steps ℝ),
      twoTokens.transformer.parameters = .ok shapes ∧
      ofParameters twoTokens.transformer (Parameters.ones shapes) = .ok t ∧
      DecodeState.ofConfig twoTokens = .ok s ∧
      (t.run s 1 [[[0], [1]], [[1]]]).1 = .ok scores ∧
      t.forwardMasked s.tracker.table 1 [[0], [1], [1]] = .ok scores := by
  obtain ⟨shapes, hshapes⟩ : ∃ shapes, twoTokens.transformer.parameters = .ok shapes := ⟨_, rfl⟩
  obtain ⟨t, filled⟩ := ofParameters_ok hshapes (Parameters.ones (α := ℝ) shapes)
  obtain ⟨s, fresh⟩ : ∃ s : DecodeState ℝ, DecodeState.ofConfig twoTokens = .ok s := ⟨_, rfl⟩
  have hrows : ((1 : Nat) : Int) ≤ twoTokens.batch := by decide
  have hvocab : t.embeddings.length = 2 :=
    (ofParameters_speaks hshapes (Parameters.ones_fills shapes) filled).embeddings
  have nonempty : ∀ cut ∈ [[[(0 : Int)], [1]], [[1]]], cut ≠ [] := by decide
  obtain ⟨hsame, hok⟩ :=
    run_eq_forwardMasked filled fresh hrows nonempty (by decide) (by decide)
  obtain ⟨scores, hscores⟩ := hok (by rw [hvocab]; decide)
  exact ⟨shapes, t, s, scores, hshapes, filled, fresh, hscores, hsame.symm.trans hscores⟩

end Transformer
end StreamingLM
