import StreamingLM.Model.Transformer
import StreamingLM.Proofs.Layer.CachedStep
import StreamingLM.Proofs.Model.State
import StreamingLM.Proofs.Outcome

/-!
One step of the whole stack on lists. From a state whose layers are even and whose table is
anchored, a step of at most a window never fails, and leaves such a state; what it computes is told
by the logs of the layers alone.
-/
namespace StreamingLM

variable {α : Type}

namespace DecoderBlock

@[simp] theorem length_mapSteps (f : List α → List α) (x : Steps α) :
    List.length (mapSteps f x) = List.length x := by
  simp [mapSteps]

theorem rows_mapSteps {rows : Nat} (f : List α → List α) {x : Steps α}
    (full : ∀ r ∈ x, r.length = rows) : ∀ r ∈ mapSteps f x, r.length = rows := by
  intro r hr
  obtain ⟨old, hold, rfl⟩ := List.mem_map.mp hr
  rw [List.length_map]
  exact full old hold

variable [Scalar α]

def entries (b : DecoderBlock α) (turns : List (List (Turn α))) (x : Steps α) : List (Entry α) :=
  b.attention.entries turns (mapSteps b.attentionNorm.apply x)

def stepOver (b : DecoderBlock α) (rows : Nat) (turns : List (List (Turn α))) (mask : Option Mask)
    (log : List (Entry α)) (x : Steps α) : Steps α :=
  b.finish x (b.attention.stepOver rows turns mask log (mapSteps b.attentionNorm.apply x))

@[simp] theorem length_addSteps (x y : Steps α) :
    List.length (addSteps x y) = min (List.length x) (List.length y) := by
  simp [addSteps]

theorem rows_addSteps {rows : Nat} {x y : Steps α} (hx : ∀ r ∈ x, r.length = rows)
    (hy : ∀ r ∈ y, r.length = rows) : ∀ r ∈ addSteps x y, r.length = rows := by
  intro r hr
  obtain ⟨i, hi, rfl⟩ := List.mem_iff_getElem.mp hr
  simp only [length_addSteps] at hi
  simp only [addSteps, List.getElem_zipWith, List.length_zipWith]
  rw [hx _ (List.getElem_mem _), hy _ (List.getElem_mem _), Nat.min_self]

theorem length_finish (b : DecoderBlock α) {x attended : Steps α}
    (h : List.length attended = List.length x) :
    List.length (b.finish x attended) = List.length x := by
  simp [finish, h]

theorem rows_finish (b : DecoderBlock α) {rows : Nat} {x attended : Steps α}
    (hx : ∀ r ∈ x, r.length = rows) (ha : ∀ r ∈ attended, r.length = rows) :
    ∀ r ∈ b.finish x attended, r.length = rows :=
  rows_addSteps (rows_addSteps hx ha) (rows_mapSteps _ (rows_addSteps hx ha))

/-- A block in a prepared step, against a cache with room for it. -/
theorem step_holds {b : DecoderBlock α} {l : Layout} (fit : b.attention.Fits l)
    {cache : KeyValueCache α} {log : List (Entry α)} (h : cache.Holds l log)
    {tracker : RotaryTracker α} {dim capacity position : Nat} {x : Steps α}
    (ready : tracker.Ready dim capacity position x.length) (hdim : dim ≤ l.dim)
    (full : ∀ r ∈ x, r.length = l.rows) (room : log.length + x.length ≤ l.capacity) :
    let mask := LayerCacheSet.maskOf x.length (log.length + x.length)
    let longer := log ++ b.entries tracker.turns x
    ∃ grown, b.step l.rows x cache tracker mask =
        (.ok (b.stepOver l.rows tracker.turns mask longer x), grown) ∧ grown.Holds l longer := by
  intro mask longer
  have hlen : List.length (mapSteps b.attentionNorm.apply x) = x.length := length_mapSteps _ x
  obtain ⟨grown, hstep, hg⟩ := Attention.stepCached_holds fit h (hlen.symm ▸ ready)
    hdim (rows_mapSteps _ full) (by rw [hlen]; exact room)
  rw [hlen] at hstep
  exact ⟨grown, by rw [DecoderBlock.step, hstep]; rfl, hg⟩

theorem score_eq (b : DecoderBlock α) (rows : Nat) (x : Steps α) {table : RotaryTable α}
    (hdim : table.dim ≤ b.attention.headDim) :
    let turns := table.direct 0 (List.length x)
    let mask := LayerCacheSet.maskOf (List.length x) (List.length x)
    b.score rows x table = .ok (b.stepOver rows turns mask (b.entries turns x) x) := by
  intro turns mask
  have hscore := b.attention.scoreSteps_eq rows (mapSteps b.attentionNorm.apply x) hdim
  rw [length_mapSteps] at hscore
  rw [score, hscore]
  rfl

end DecoderBlock

variable [Scalar α]

namespace Transformer

/-- The output of blocks over the logs of their layers, and the logs that the step leaves. -/
def stepLogs (rows : Nat) (turns : List (List (Turn α))) (mask : Option Mask) :
    List (DecoderBlock α) → List (List (Entry α)) → Steps α → Steps α × List (List (Entry α))
  | b :: blocks, log :: logs, x =>
    let longer := log ++ b.entries turns x
    let (y, rest) := stepLogs rows turns mask blocks logs (b.stepOver rows turns mask longer x)
    (y, longer :: rest)
  | _, logs, x => (x, logs)

/-- The shape of a step's data: so many positions, each with all batch rows. -/
structure IsStep (rows count : Nat) (x : Steps α) : Prop where
  length_eq : List.length x = count
  full : ∀ r ∈ x, r.length = rows

theorem IsStep.stepOver {rows count : Nat} {x : Steps α} (h : IsStep rows count x)
    (b : DecoderBlock α) {turns : List (List (Turn α))} (hturns : turns.length = count)
    (mask : Option Mask) (log : List (Entry α)) :
    IsStep rows count (b.stepOver rows turns mask log x) where
  length_eq := by
    rw [DecoderBlock.stepOver, b.length_finish, h.length_eq]
    simp [h.length_eq, hturns]
  full := b.rows_finish h.full (Attention.rows_stepOver _ _ _ _ _ _)

theorem stepLogs_isStep {rows count : Nat} {turns : List (List (Turn α))}
    (hturns : turns.length = count) (mask : Option Mask) (blocks : List (DecoderBlock α))
    (logs : List (List (Entry α))) {x : Steps α} (h : IsStep rows count x) :
    IsStep rows count (stepLogs rows turns mask blocks logs x).1 := by
  induction blocks generalizing logs x with
  | nil => exact h
  | cons b blocks ih =>
    cases logs with
    | nil => exact h
    | cons log logs => exact ih logs (h.stepOver b hturns mask _)

@[simp] theorem length_stepLogs (rows : Nat) (turns : List (List (Turn α))) (mask : Option Mask)
    (blocks : List (DecoderBlock α)) (logs : List (List (Entry α))) (x : Steps α) :
    (stepLogs rows turns mask blocks logs x).2.length = logs.length := by
  induction blocks generalizing logs x with
  | nil => rfl
  | cons b blocks ih =>
    cases logs with
    | nil => rfl
    | cons log logs => simp [stepLogs, ih]

theorem length_of_mem_stepLogs {rows count held : Nat} {turns : List (List (Turn α))}
    (hturns : turns.length = count) (mask : Option Mask) (blocks : List (DecoderBlock α))
    {logs : List (List (Entry α))} {x : Steps α} (h : IsStep rows count x)
    (all : blocks.length = logs.length) (even : ∀ log ∈ logs, log.length = held) :
    ∀ log ∈ (stepLogs rows turns mask blocks logs x).2, log.length = held + count := by
  induction blocks generalizing logs x with
  | nil =>
    obtain rfl := List.length_eq_zero_iff.mp all.symm
    simp [stepLogs]
  | cons b blocks ih =>
    cases logs with
    | nil => simp at all
    | cons log logs =>
      have hfirst : (log ++ b.entries turns x).length = held + count := by
        simp [DecoderBlock.entries, h.length_eq, hturns, even log (by simp)]
      have hrest := ih (h.stepOver b hturns mask (log ++ b.entries turns x))
        (Nat.succ.inj all) fun log hlog => even log (List.mem_cons_of_mem _ hlog)
      exact List.forall_mem_cons.mpr ⟨hfirst, hrest⟩

theorem stepBlocks_holds {l : Layout} {blocks : List (DecoderBlock α)}
    (fit : ∀ b ∈ blocks, b.attention.Fits l) {caches : List (KeyValueCache α)}
    {logs : List (List (Entry α))} (h : LayerCacheSet.AllHold l caches logs)
    {held count : Nat} (even : ∀ log ∈ logs, log.length = held)
    {tracker : RotaryTracker α} {dim capacity position : Nat}
    (ready : tracker.Ready dim capacity position count) (hdim : dim ≤ l.dim) {x : Steps α}
    (hx : IsStep l.rows count x) (room : held + count ≤ l.capacity) :
    let mask := LayerCacheSet.maskOf count (held + count)
    let next := stepLogs l.rows tracker.turns mask blocks logs x
    ∃ grown, stepBlocks l.rows tracker mask blocks caches x = (.ok next.1, grown) ∧
      LayerCacheSet.AllHold l grown next.2 := by
  induction blocks generalizing caches logs x with
  | nil => exact ⟨caches, by simp [stepBlocks, stepLogs], by simpa [stepLogs] using h⟩
  | cons b blocks ih =>
    cases h with
    | nil => exact ⟨[], by simp [stepBlocks, stepLogs], by simp [stepLogs]⟩
    | @cons cache log caches logs hc hcs =>
      have hlog := even log (by simp)
      have hlen := hx.length_eq
      obtain ⟨first, hfirst, hf⟩ := DecoderBlock.step_holds (fit b (by simp)) hc
        (hlen.symm ▸ ready) hdim hx.full (by rw [hlog, hlen]; exact room)
      rw [hlog, hlen] at hfirst
      obtain ⟨rest, hrest, hr⟩ := ih (fun b hb => fit b (List.mem_cons_of_mem _ hb)) hcs
        (fun log hlog => even log (List.mem_cons_of_mem _ hlog))
        (hx.stepOver b ready.length_turns _ (log ++ b.entries tracker.turns x))
      exact ⟨first :: rest, by simp only [stepBlocks, hfirst, hrest, stepLogs], .cons hf hr⟩

theorem scoreBlocks_eq {rows count : Nat} {table : RotaryTable α} (blocks : List (DecoderBlock α))
    (hdim : ∀ b ∈ blocks, table.dim ≤ b.attention.headDim) {x : Steps α} (h : IsStep rows count x) :
    let turns := table.direct 0 count
    let mask := LayerCacheSet.maskOf count count
    scoreBlocks rows table blocks x =
      .ok (stepLogs rows turns mask blocks (List.replicate blocks.length []) x).1 := by
  intro turns mask
  induction blocks generalizing x with
  | nil => rfl
  | cons b blocks ih =>
    have hscore := b.score_eq rows x (hdim b (by simp))
    rw [h.length_eq] at hscore
    have hrest := ih (fun b hb => hdim b (List.mem_cons_of_mem _ hb))
      (h.stepOver b (table.length_direct 0 count) mask (b.entries turns x))
    simp only [scoreBlocks, hscore, bind, Except.bind]
    exact hrest

/-- The blocks of the stack are as many as the logs, and of the sizes of the caches. -/
structure Fits (t : Transformer α) (l : Layout) (layers : Nat) : Prop where
  length_eq : t.blocks.length = layers
  blocks : ∀ b ∈ t.blocks, b.attention.Fits l

omit [Scalar α] in
theorem embed_ok {t : Transformer α} {tokens : List (List Int)}
    (known : ∀ ids ∈ tokens, ∀ id ∈ ids, 0 ≤ id ∧ id < t.embeddings.length) :
    ∃ x, t.embed tokens = .ok x := by
  have hone : ∀ id : Int, 0 ≤ id ∧ id < t.embeddings.length → ∃ v, t.embedOne id = .ok v := by
    intro id hid
    have hi : id.toNat < t.embeddings.length := by omega
    refine ⟨t.embeddings[id.toNat], ?_⟩
    rw [embedOne, if_neg (by omega), List.getElem?_eq_getElem hi]
  exact Outcome.mapM_ok fun ids hids =>
    Outcome.mapM_ok fun id hid => hone id (known ids hids id hid)

omit [Scalar α] in
theorem embed_isStep {t : Transformer α} {tokens : List (List Int)} {x : Steps α}
    (ok : t.embed tokens = .ok x) {rows : Nat} (full : ∀ ids ∈ tokens, ids.length = rows) :
    IsStep rows tokens.length x := by
  have hall := Outcome.mapM_eq_ok.mp ok
  refine ⟨hall.length_eq.symm, fun r hr => ?_⟩
  obtain ⟨i, hi, rfl⟩ := List.mem_iff_getElem.mp hr
  have hrow := Outcome.mapM_eq_ok.mp (hall.get (by rw [hall.length_eq]; exact hi) hi)
  exact hrow.length_eq.symm.trans (full _ (List.get_mem _ _))

theorem forwardMasked_eq {t : Transformer α} {l : Layout} {layers : Nat} (fit : t.Fits l layers)
    {table : RotaryTable α} (hdim : table.dim ≤ l.dim) {tokens : List (List Int)} {x : Steps α}
    (embedded : t.embed tokens = .ok x) {rows : Nat} (hx : IsStep rows tokens.length x) :
    let turns := table.direct 0 tokens.length
    let mask := LayerCacheSet.maskOf tokens.length tokens.length
    t.forwardMasked table rows tokens =
      .ok (t.scores (stepLogs rows turns mask t.blocks (List.replicate layers []) x).1) := by
  intro turns mask
  have hwidth : ∀ b ∈ t.blocks, table.dim ≤ b.attention.headDim := fun b hb => by
    rw [(fit.blocks b hb).dim_eq]
    exact hdim
  have hscore := scoreBlocks_eq t.blocks hwidth hx
  rw [fit.length_eq] at hscore
  simp only [forwardMasked, embedded, hscore, bind, Except.bind]
  rfl

/-- One step of the stack: it scores all positions of the step over the logs of its layers, which
have lost what was evicted and joined the step. -/
theorem step_holds {t : Transformer α} {s : DecodeState α} {l : Layout}
    {dim capacity position held : Nat} {logs : List (List (Entry α))} (fit : t.Fits l logs.length)
    (h : s.Holds l dim capacity position held logs) (hdim : dim ≤ l.dim)
    (hcapacity : l.capacity ≤ capacity)
    {tokens : List (List Int)} (hpos : 1 ≤ tokens.length) (hcount : tokens.length ≤ l.capacity)
    {x : Steps α} (embedded : t.embed tokens = .ok x) (hx : IsStep l.rows tokens.length x) :
    let kept := LayerCacheSet.kept l.capacity held tokens.length
    let mask := LayerCacheSet.maskOf tokens.length (kept + tokens.length)
    ∃ after : DecodeState α, s.tracker.prepare tokens.length = .ok after.tracker ∧
      after.tracker.Ready dim capacity position tokens.length ∧
      let next := stepLogs l.rows after.tracker.turns mask t.blocks
        (logs.map (·.drop (held - kept))) x
      t.step s l.rows tokens = (.ok (t.scores next.1), after) ∧
      IsStep l.rows tokens.length next.1 ∧
      after.Holds l dim capacity (position + tokens.length) (kept + tokens.length) next.2 := by
  intro kept mask
  obtain ⟨ready, hprepare, htracker, hc, ht⟩ := DecodeState.prepare_holds h hpos hcount hcapacity
  obtain ⟨grown, hblocks, hg⟩ := stepBlocks_holds fit.blocks hc.layers hc.even ht hdim hx hc.room
  have hlayers : ready.caches.layers.length = t.blocks.length := by
    rw [hc.layers.length_eq, List.length_map, fit.length_eq]
  have heven := length_of_mem_stepLogs ht.length_turns mask t.blocks hx
    (by rw [List.length_map, fit.length_eq]) hc.even
  have hafter : LayerCacheSet.Holds { ready.caches with layers := grown } l
      (kept + tokens.length) 0 (stepLogs l.rows ready.tracker.turns mask t.blocks
        (logs.map (·.drop (held - kept))) x).2 :=
    ⟨hc.window_eq, hc.len_eq, hc.room, heven, hg⟩
  refine ⟨{ ready with caches := { ready.caches with layers := grown } }, htracker, ht, ?_,
    stepLogs_isStep ht.length_turns mask t.blocks _ hx, hafter, ht.anchored⟩
  simp only [step, hprepare, forward, hlayers, embedded, hblocks, ne_eq, not_true_eq_false,
    if_false, hafter.consistent]
  rfl

end Transformer
end StreamingLM
