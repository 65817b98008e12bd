import StreamingLM.Proofs.Cache.Window

/-!
Runs of a cache set: steps, each prepared and then fed to every layer with keys and values of its
own, and resets between them. Main statement: whatever the steps, no call fails, and every layer
holds the last window of what it was given since the last reset.
-/
namespace StreamingLM

namespace Layout

variable {α : Type}

/-- A block of `count` positions that fills all rows in use. -/
structure IsStep (l : Layout) (count : Nat) (x : Block α) : Prop where
  batch_eq : x.batch = l.rows
  heads_eq : x.heads = l.heads
  dim_eq : x.dim = l.dim
  length_eq : x.slots.length = count
  full : l.Full x.slots

theorem IsStep.block_eq {l : Layout} {count : Nat} {x : Block α} (h : l.IsStep count x) :
    l.block x.slots = x := by
  simp only [Layout.block, ← h.batch_eq, ← h.heads_eq, ← h.dim_eq]

end Layout

namespace LayerCacheSet

variable {α : Type}

/-- What happens to a cache set: a step with the keys and values of each layer, or a reset. -/
inductive Event (α : Type) where
  | step (count : Nat) (pairs : List (Block α × Block α))
  | reset

/-- Feed each layer its own keys and values, up to the first that refuses. -/
def forwardEach : List (Block α × Block α) → List (KeyValueCache α) →
    Attempt (List (KeyValueCache α)) Unit
  | (k, v) :: pairs, cache :: caches =>
    match cache.forward k v with
    | (.error f, cache) => (.error f, cache :: caches)
    | (.ok _, cache) =>
      let (result, caches) := forwardEach pairs caches
      (result, cache :: caches)
  | _, caches => (.ok (), caches)

def entriesOf (pair : Block α × Block α) : List (Entry α) := pair.1.slots.zip pair.2.slots

def extend (logs : List (List (Entry α))) (pairs : List (Block α × Block α)) :
    List (List (Entry α)) :=
  List.zipWith (fun log pair => log ++ entriesOf pair) logs pairs

namespace Event

/-- A step fits when it is not longer than the window and brings every layer blocks of its size. -/
def Fits (layers : Nat) (l : Layout) : Event α → Prop
  | .step count pairs => 1 ≤ count ∧ count ≤ l.capacity ∧ pairs.length = layers ∧
      ∀ pair ∈ pairs, l.IsStep count pair.1 ∧ l.IsStep count pair.2
  | .reset => True

/-- The positions since the last reset. -/
def total (before : Nat) : Event α → Nat
  | .step count _ => before + count
  | .reset => 0

/-- What each layer was given since the last reset. -/
def record (logs : List (List (Entry α))) : Event α → List (List (Entry α))
  | .step _ pairs => extend logs pairs
  | .reset => logs.map fun _ => []

end Event

section Run

variable [Scalar α]

def apply (s : LayerCacheSet α) : Event α → Attempt (LayerCacheSet α) Unit
  | .step count pairs =>
    match s.prepare count with
    | (.error f, s) => (.error f, s)
    | (.ok _, s) =>
      let (result, layers) := forwardEach pairs s.layers
      (result, { s with layers })
  | .reset => (.ok (), s.reset)

/-- Events one after the other, up to the first that fails. -/
def run (s : LayerCacheSet α) : List (Event α) → Attempt (LayerCacheSet α) Unit
  | [] => (.ok (), s)
  | e :: events =>
    match s.apply e with
    | (.error f, s) => (.error f, s)
    | (.ok (), s) => s.run events

end Run

theorem length_entriesOf {l : Layout} {count : Nat} {pair : Block α × Block α}
    (hk : l.IsStep count pair.1) (hv : l.IsStep count pair.2) :
    (entriesOf pair).length = count := by
  rw [entriesOf, List.length_zip, hk.length_eq, hv.length_eq, Nat.min_self]

theorem forwardEach_holds {l : Layout} {caches : List (KeyValueCache α)}
    {logs : List (List (Entry α))} (h : AllHold l caches logs) {held count : Nat}
    (even : ∀ log ∈ logs, log.length = held) (room : held + count ≤ l.capacity)
    {pairs : List (Block α × Block α)}
    (fit : ∀ pair ∈ pairs, l.IsStep count pair.1 ∧ l.IsStep count pair.2)
    (all : pairs.length = logs.length) :
    ∃ filled, forwardEach pairs caches = (.ok (), filled) ∧
      AllHold l filled (extend logs pairs) := by
  induction h generalizing pairs with
  | nil => exact ⟨[], by cases pairs <;> rfl, by simp [extend]⟩
  | @cons cache log caches logs hc _ ih =>
    obtain _ | ⟨pair, pairs⟩ := pairs
    · simp at all
    · obtain ⟨hk, hv⟩ := fit pair (by simp)
      have hlen : pair.1.slots.length = pair.2.slots.length := hk.length_eq.trans hv.length_eq.symm
      have hkeys : (entriesOf pair).map (·.1) = pair.1.slots := List.map_fst_zip (by omega)
      have hvalues : (entriesOf pair).map (·.2) = pair.2.slots := List.map_snd_zip (by omega)
      have hroom : log.length + (entriesOf pair).length ≤ l.capacity := by
        rw [even log (by simp), length_entriesOf hk hv]
        exact room
      obtain ⟨first, hfirst, hf⟩ := KeyValueCache.forward_holds hc
        (hkeys.symm ▸ hk.full) (hvalues.symm ▸ hv.full) hroom
      rw [hkeys, hvalues, hk.block_eq, hv.block_eq] at hfirst
      obtain ⟨rest, hrest, hr⟩ := ih (fun log h => even log (by simp [h]))
        (fun pair h => fit pair (List.mem_cons_of_mem _ h)) (by simpa using all)
      exact ⟨first :: rest, by simp only [forwardEach, hfirst, hrest], .cons hf hr⟩

/-- Every layer holds the last window of its log, and all logs have the same length. -/
structure Windowed (s : LayerCacheSet α) (l : Layout) (total : Nat)
    (logs : List (List (Entry α))) : Prop where
  even : ∀ log ∈ logs, log.length = total
  holds : s.Holds l (min total l.capacity) 0 (logs.map (·.rtake l.capacity))

/-- Making room and then appending keeps exactly the last window of the longer list. -/
theorem rtake_append {β : Type} {window : Nat} (log new : List β) (h : new.length ≤ window) :
    (log.rtake window).drop
        (min log.length window - kept window (min log.length window) new.length) ++ new =
      (log ++ new).rtake window := by
  have hcut : log.length - window +
      (min log.length window - kept window (min log.length window) new.length) =
        log.length + new.length - window := by
    unfold kept
    omega
  rw [List.rtake, List.rtake, List.drop_drop, hcut, List.length_append,
    List.drop_append_of_le_length (by omega)]

theorem extend_rtake {window total count : Nat} {logs : List (List (Entry α))}
    {pairs : List (Block α × Block α)} (hcount : count ≤ window)
    (even : ∀ log ∈ logs, log.length = total)
    (new : ∀ pair ∈ pairs, (entriesOf pair).length = count) :
    extend ((logs.map (·.rtake window)).map
        (·.drop (min total window - kept window (min total window) count))) pairs =
      (extend logs pairs).map (·.rtake window) := by
  induction logs generalizing pairs with
  | nil => simp [extend]
  | cons log logs ih =>
    obtain _ | ⟨pair, pairs⟩ := pairs
    · simp [extend]
    · have hlog := even log (by simp)
      have hpair := new pair (by simp)
      have hroom : (entriesOf pair).length ≤ window := by omega
      have hfirst := rtake_append log (entriesOf pair) hroom
      have hrest := ih (fun log h => even log (List.mem_cons_of_mem _ h))
        (fun pair h => new pair (List.mem_cons_of_mem _ h))
      rw [hlog, hpair] at hfirst
      exact congrArg₂ List.cons hfirst hrest

theorem length_of_mem_extend {total count : Nat} {logs : List (List (Entry α))}
    {pairs : List (Block α × Block α)} (even : ∀ log ∈ logs, log.length = total)
    (new : ∀ pair ∈ pairs, (entriesOf pair).length = count) :
    ∀ log ∈ extend logs pairs, log.length = total + count := by
  induction logs generalizing pairs with
  | nil => simp [extend]
  | cons log logs ih =>
    obtain _ | ⟨pair, pairs⟩ := pairs
    · simp [extend]
    · have hrest : ∀ log ∈ extend logs pairs, log.length = total + count :=
        ih (fun log h => even log (List.mem_cons_of_mem _ h))
          (fun pair h => new pair (List.mem_cons_of_mem _ h))
      intro longer h
      rcases List.mem_cons.mp h with rfl | h
      · rw [List.length_append, even log (by simp), new pair (by simp)]
      · exact hrest longer h

theorem Windowed.apply [Scalar α] {s : LayerCacheSet α} {l : Layout} {total : Nat}
    {logs : List (List (Entry α))} (h : s.Windowed l total logs) {e : Event α}
    (fits : e.Fits logs.length l) :
    ∃ after, s.apply e = (.ok (), after) ∧ after.Windowed l (e.total total) (e.record logs) := by
  cases e with
  | reset =>
    refine ⟨s.reset, rfl, by simp [Event.record, Event.total], ?_⟩
    simpa [Event.record, Event.total, Function.comp_def] using h.holds.reset
  | step count pairs =>
    obtain ⟨hpos, hcount, hall, hfit⟩ := fits
    have hnew : ∀ pair ∈ pairs, (entriesOf pair).length = count := fun pair hp =>
      length_entriesOf (hfit pair hp).1 (hfit pair hp).2
    obtain ⟨ready, hprepare, hr⟩ := prepare_holds h.holds hpos hcount
    obtain ⟨filled, hforward, hf⟩ := forwardEach_holds hr.layers hr.even hr.room hfit
      (by simpa using hall)
    rw [extend_rtake hcount h.even hnew] at hf
    refine ⟨{ ready with layers := filled }, ?_, length_of_mem_extend h.even hnew, ?_⟩
    · simp only [LayerCacheSet.apply, hprepare, hforward]
    · refine ⟨hr.window_eq, ?_, Nat.min_le_right _ _, ?_, hf⟩
      · rw [hr.len_eq, kept_add total hcount]
        rfl
      · intro log hlog
        obtain ⟨long, hlong, rfl⟩ := List.mem_map.mp hlog
        have hlen := length_of_mem_extend h.even hnew long hlong
        simp only [Event.total, List.rtake, List.length_drop]
        omega

theorem length_record {layers : Nat} {l : Layout} {logs : List (List (Entry α))} {e : Event α}
    (all : logs.length = layers) (fits : e.Fits layers l) : (e.record logs).length = layers := by
  cases e with
  | reset => simpa [Event.record] using all
  | step count pairs =>
    obtain ⟨-, -, hall, -⟩ := fits
    simp [Event.record, extend, all, hall]

theorem Windowed.run [Scalar α] {layers : Nat} {l : Layout} (events : List (Event α))
    (fits : ∀ e ∈ events, e.Fits layers l) {s : LayerCacheSet α} {total : Nat}
    {logs : List (List (Entry α))} (all : logs.length = layers) (h : s.Windowed l total logs) :
    ∃ after, s.run events = (.ok (), after) ∧
      after.Windowed l (events.foldl Event.total total) (events.foldl Event.record logs) := by
  induction events generalizing s total logs with
  | nil => exact ⟨s, rfl, h⟩
  | cons e events ih =>
    have he := fits e (by simp)
    obtain ⟨next, hnext, hn⟩ := h.apply (all.symm ▸ he)
    obtain ⟨after, hafter, ha⟩ := ih (fun e h => fits e (List.mem_cons_of_mem _ h))
      (length_record all he) hn
    exact ⟨after, by simp only [LayerCacheSet.run, hnext, hafter], ha⟩

theorem empty_ok [Scalar α] (layers batch heads dim : Nat) {window : Nat} (hw : 0 < window)
    (strategy : CacheStrategy) :
    ∃ s : LayerCacheSet α, empty layers batch heads window dim strategy = .ok s := by
  obtain ⟨b, hb⟩ := SequenceBuffer.empty_ok (α := α) batch heads dim hw strategy
  by_cases hl : (layers : Int) ≤ 0
  · exact ⟨_, by rw [empty, if_pos hl]; rfl⟩
  · refine ⟨⟨window, 0, List.replicate layers ⟨b, b⟩⟩, ?_⟩
    rw [empty, if_neg hl, KeyValueCache.empty, hb]
    rfl

def wholeBatch (batch heads dim window : Nat) : Layout := ⟨batch, batch, heads, dim, window, le_rfl⟩

/-- From an empty cache set, steps of at most a window and resets never fail. The cursor counts the
positions since the last reset up to the window, and every layer holds exactly the last window of
the keys and values that it was given since then, in order. Every beginning of a run is a run, so
that this holds after each of its steps. -/
theorem run_holds_last_window [Scalar α] (layers batch heads dim : Nat) {window : Nat}
    (strategy : CacheStrategy) (hw : 1 ≤ window) (events : List (Event α))
    (fits : ∀ e ∈ events, e.Fits layers (wholeBatch batch heads dim window)) :
    ∃ fresh after : LayerCacheSet α,
      empty layers batch heads window dim strategy = .ok fresh ∧
      fresh.run events = (.ok (), after) ∧
      after.len = min (events.foldl Event.total 0) window ∧
      after.ensureConsistent = .ok () ∧
      List.Forall₂ (fun cache log =>
          cache.key.get = ⟨batch, heads, dim, (log.rtake window).map (·.1)⟩ ∧
          cache.value.get = ⟨batch, heads, dim, (log.rtake window).map (·.2)⟩)
        after.layers (events.foldl Event.record (List.replicate layers [])) := by
  obtain ⟨fresh, hfresh⟩ := empty_ok (α := α) layers batch heads dim hw strategy
  have hempty : fresh.Holds (wholeBatch batch heads dim window) 0 0 (List.replicate layers []) :=
    empty_holds hfresh le_rfl (by omega)
  have hstart : fresh.Windowed (wholeBatch batch heads dim window) 0 (List.replicate layers []) :=
    ⟨by simp, by simpa [List.rtake] using hempty⟩
  obtain ⟨after, hrun, ha⟩ := hstart.run events fits (by simp)
  refine ⟨fresh, after, hfresh, hrun, ?_, ha.holds.consistent, ?_⟩
  · simpa [wholeBatch] using ha.holds.len_eq
  · have hlayers := ha.holds.layers
    rw [AllHold, List.forall₂_map_right_iff] at hlayers
    exact hlayers.imp fun cache log hc => ⟨hc.key.get_eq rfl, hc.value.get_eq rfl⟩

/-- A window of two is filled, pushed out and reset, in one layer of one head of width one. -/
def sampleEvents : List (Event Float) :=
  let slot (x : Float) : Slot Float := [[[x]]]
  let block (xs : List Float) : Block Float := ⟨1, 1, 1, xs.map slot⟩
  [.step 2 [(block [1, 2], block [5, 6])], .step 1 [(block [3], block [7])], .reset,
    .step 1 [(block [4], block [8])]]

theorem sampleEvents_fits : ∀ e ∈ sampleEvents, e.Fits 1 (wholeBatch 1 1 1 2) := by
  have hstep (xs : List Float) : (wholeBatch 1 1 1 2).IsStep xs.length
      ⟨1, 1, 1, xs.map fun x => [[[x]]]⟩ :=
    ⟨rfl, rfl, rfl, by simp, by simp [Layout.Full, wholeBatch]⟩
  simp only [sampleEvents, List.forall_mem_cons, Event.Fits]
  refine ⟨?_, ?_, trivial, ?_, by simp⟩
  · exact ⟨by decide, by decide, rfl, ⟨hstep [1, 2], hstep [5, 6]⟩, by simp⟩
  · exact ⟨by decide, by decide, rfl, ⟨hstep [3], hstep [7]⟩, by simp⟩
  · exact ⟨by decide, by decide, rfl, ⟨hstep [4], hstep [8]⟩, by simp⟩

theorem sampleEvents_holds_last_window :
    (1 ≤ 2 ∧ ∀ e ∈ sampleEvents, e.Fits 1 (wholeBatch 1 1 1 2)) ∧
    ∃ fresh after : LayerCacheSet Float,
      empty 1 1 1 2 1 .shift = .ok fresh ∧ fresh.run sampleEvents = (.ok (), after) ∧
      after.len = 1 ∧ after.ensureConsistent = .ok () ∧
      List.Forall₂ (fun cache log =>
          cache.key.get = ⟨1, 1, 1, (log.rtake 2).map (·.1)⟩ ∧
          cache.value.get = ⟨1, 1, 1, (log.rtake 2).map (·.2)⟩)
        after.layers [[([[[4]]], [[[8]]])]] :=
  ⟨⟨by decide, sampleEvents_fits⟩,
    run_holds_last_window 1 1 1 1 .shift (by decide) sampleEvents sampleEvents_fits⟩

end LayerCacheSet
end StreamingLM
