import StreamingLM.Proofs.Server.TooLong

/-!
The life of a server from one call to the next. Building a model may fail at every load, by what is
in the files or by a mishap from outside. Main statement: after any calls a server is loaded exactly
when a load succeeded since it was last unloaded, and otherwise as it was when new; loads, replies
and the clearing of the state tell which of the two it was.
-/
namespace StreamingLM

namespace Completion

variable {c : Completion} {n : Nat}

theorem stats_entries (h : c.account = .tokens n) (t : Timing) :
    (c.stats t).entries =
      [.duration .inferenceDuration t.inference, .tokens n, .rate n t.inference]
        ++ (if c.loaded then [.duration .loadingDuration t.loading] else [])
        ++ [.duration .totalDuration (if c.loaded then t.inference + t.loading else t.inference)] := by
  simp only [stats, h]
  cases c.loaded <;> rfl

theorem stats_loading (h : c.account = .tokens n) (t : Timing) :
    (∃ e ∈ (c.stats t).entries, e.kind = .loadingDuration) ↔ c.loaded = true := by
  rw [stats_entries h]
  cases c.loaded <;> simp [StatEntry.duration, StatEntry.tokens, StatEntry.rate]

theorem stats_durations (h : c.account = .tokens n) (t : Timing) :
    (c.stats t).duration .inferenceDuration = .real t.inference ∧
      (c.stats t).duration .loadingDuration = (if c.loaded then .real t.loading else .null) ∧
      (c.stats t).duration .totalDuration =
        .real (if c.loaded then t.inference + t.loading else t.inference) := by
  simp only [Stats.duration, stats_entries h]
  cases c.loaded <;> exact ⟨rfl, rfl, rfl⟩

end Completion

/-- What is around a server during a call, and what befalls the building of a model from outside. -/
structure Circumstances (α : Type) extends Surroundings α where
  mishap : Option Failure := none

namespace LlamaServer

variable {σ α : Type} [Scalar α]

/-- What building a model comes to: none is built when there is a mishap on the way. -/
def built (w : Circumstances α) (c : LlamaServerConfig) : Except Failure (Llama α) :=
  match w.mishap with
  | some f => .error f
  | none => buildModel w.fresh w.files c

theorem built_eq_ok {w : Circumstances α} {c : LlamaServerConfig} {m : Llama α} :
    built w c = .ok m ↔ w.mishap = none ∧ buildModel w.fresh w.files c = .ok m := by
  unfold built
  cases w.mishap <;> simp

theorem built_eq_error {w : Circumstances α} {c : LlamaServerConfig} {f : Failure} :
    built w c = .error f ↔
      w.mishap = some f ∨ w.mishap = none ∧ buildModel w.fresh w.files c = .error f := by
  unfold built
  cases w.mishap <;> simp

/-- Load in given circumstances; only a load that builds a model can meet with a mishap. -/
def loadIn (w : Circumstances α) (s : LlamaServer α) : Attempt (LlamaServer α) Bool :=
  match w.mishap, s.model with
  | some f, none => (.error f, s)
  | _, _ => s.load w.fresh w.files

def runPromptIn (w : Circumstances α) (pace : Nat → Pace) (s : LlamaServer α) (prompt : String)
    (l : Listener σ) (audience : σ) : Attempt (LlamaServer α × σ) Completion :=
  match w.mishap, s.model with
  | some f, none => (.error f, (s, audience))
  | _, _ => s.runPromptPaced pace w.fresh w.seed w.files prompt l audience

section Load

variable {s : LlamaServer α} (w : Circumstances α)

omit [Scalar α] in
@[simp] theorem isLoaded_some (c : LlamaServerConfig) (m : Llama α) : isLoaded ⟨c, some m⟩ := rfl

omit [Scalar α] in
@[simp] theorem not_isLoaded_none (c : LlamaServerConfig) : ¬isLoaded (α := α) ⟨c, none⟩ :=
  Bool.false_ne_true

omit [Scalar α] in
theorem isLoaded_iff : s.isLoaded ↔ ∃ m, s.model = some m := Option.isSome_iff_exists

omit [Scalar α] in
theorem not_isLoaded_iff : ¬s.isLoaded ↔ s.model = none := Option.not_isSome_iff_eq_none

theorem loadIn_loaded (loaded : s.isLoaded) : s.loadIn w = (.ok false, s) := by
  obtain ⟨m, hm⟩ := isLoaded_iff.mp loaded
  cases hw : w.mishap <;> simp only [loadIn, load, hw, hm]

theorem loadIn_built (unloaded : ¬s.isLoaded) {m : Llama α} (h : built w s.config = .ok m) :
    s.loadIn w = (.ok true, { s with model := some m }) := by
  have hnone := not_isLoaded_iff.mp unloaded
  obtain ⟨hw, hbuild⟩ := built_eq_ok.mp h
  simp only [loadIn, load, hw, hnone, hbuild]

theorem loadIn_failed (unloaded : ¬s.isLoaded) {f : Failure} (h : built w s.config = .error f) :
    s.loadIn w = (.error f, s) := by
  have hnone := not_isLoaded_iff.mp unloaded
  obtain hw | ⟨hw, hbuild⟩ := built_eq_error.mp h
  · simp only [loadIn, hw, hnone]
  · simp only [loadIn, load, hw, hnone, hbuild]

theorem loadIn_cases :
    (∃ f, ¬s.isLoaded ∧ built w s.config = .error f ∧ s.loadIn w = (.error f, s)) ∨
      ∃ worked m, s.loadIn w = (.ok worked, { s with model := some m }) ∧
        (worked = true ↔ ¬s.isLoaded) := by
  by_cases loaded : s.isLoaded
  · obtain ⟨m, hm⟩ := isLoaded_iff.mp loaded
    refine .inr ⟨false, m, ?_, by simp [loaded]⟩
    rw [loadIn_loaded w loaded, ← hm]
  · cases hbuilt : built w s.config with
    | error f => exact .inl ⟨f, loaded, rfl, loadIn_failed w loaded hbuilt⟩
    | ok m => exact .inr ⟨true, m, loadIn_built w loaded hbuilt, by simp [loaded]⟩

theorem loadIn_worked {worked : Bool} (h : (s.loadIn w).1 = .ok worked) :
    worked = true ↔ ¬s.isLoaded := by
  obtain ⟨f, -, -, hfailed⟩ | ⟨worked', m, hloaded, hworked⟩ := loadIn_cases (s := s) w
  · rw [hfailed] at h
    cases h
  · rw [hloaded] at h
    cases h
    exact hworked

end Load

section Prompt

variable {s after : LlamaServer α} {fresh : Filling α} {d : Directory α} (pace : Nat → Pace)
  (seed : Int) (prompt : String) (l : Listener σ) (audience : σ)

theorem runPromptPaced_refused {f : Failure} (h : s.load fresh d = (.error f, after)) :
    s.runPromptPaced pace fresh seed d prompt l audience = (.error f, after, audience) := by
  simp only [runPromptPaced, h]

/-- Behind a load, a prompt leaves a model and the settings, and its completion tells of the load. -/
theorem runPromptPaced_accepted {worked : Bool} {m : Llama α}
    (h : s.load fresh d = (.ok worked, { s with model := some m })) :
    let call := s.runPromptPaced pace fresh seed d prompt l audience
    (∃ m', call.2.1 = { s with model := some m' }) ∧
      ∀ reply, call.1 = .ok reply → reply.loaded = worked ∧ ∃ n, reply.account = .tokens n := by
  simp only [runPromptPaced, h]
  cases Sampler.ofSettings (.real s.config.temperature) (.real s.config.topP) s.config.seed seed with
  | error f => exact ⟨⟨m, rfl⟩, by rintro reply ⟨⟩⟩
  | ok sampler =>
    refine ⟨⟨_, rfl⟩, fun reply hreply => ?_⟩
    obtain ⟨⟨text, n⟩, -, rfl⟩ := Outcome.map_eq_ok.mp hreply
    exact ⟨rfl, n, rfl⟩

theorem runPromptIn_cases (w : Circumstances α) :
    (∃ f, ¬s.isLoaded ∧ built w s.config = .error f ∧
        s.runPromptIn w pace prompt l audience = (.error f, s, audience)) ∨
      ∃ worked, (s.loadIn w).1 = .ok worked ∧
        let call := s.runPromptIn w pace prompt l audience
        (∃ m, call.2.1 = { s with model := some m }) ∧
          ∀ reply, call.1 = .ok reply → reply.loaded = worked ∧ ∃ n, reply.account = .tokens n := by
  -- unless a model is still to be built, a mishap changes nothing
  by_cases struck : ∃ f, w.mishap = some f ∧ s.model = none
  · obtain ⟨f, hmishap, hnone⟩ := struck
    refine .inl ⟨f, not_isLoaded_iff.mpr hnone, ?_, ?_⟩
    · simp only [built, hmishap]
    · simp only [runPromptIn, hmishap, hnone]
  · have hload : s.loadIn w = s.load w.fresh w.files := by
      unfold loadIn
      split
      · exact absurd ⟨_, ‹_›, ‹_›⟩ struck
      · rfl
    have hprompt : s.runPromptIn w pace prompt l audience =
        s.runPromptPaced pace w.fresh w.seed w.files prompt l audience := by
      unfold runPromptIn
      split
      · exact absurd ⟨_, ‹_›, ‹_›⟩ struck
      · rfl
    obtain ⟨f, unloaded, hbuilt, hfailed⟩ | ⟨worked, m, hloaded, -⟩ := loadIn_cases (s := s) w
    · rw [hload] at hfailed
      exact .inl ⟨f, unloaded, hbuilt,
        hprompt ▸ runPromptPaced_refused pace w.seed prompt l audience hfailed⟩
    · refine .inr ⟨worked, by rw [hloaded], ?_⟩
      rw [hload] at hloaded
      rw [hprompt]
      exact runPromptPaced_accepted pace w.seed prompt l audience hloaded

end Prompt

/-- A call to a server, in circumstances of its own. -/
inductive Errand (α : Type) : Type 1 where
  | load (w : Circumstances α)
  | unload
  | prompt {σ : Type} (w : Circumstances α) (pace : Nat → Pace) (text : String)
      (listener : Listener σ) (audience : σ)
  | clear

namespace Errand

def after (s : LlamaServer α) : Errand α → LlamaServer α
  | load w => (s.loadIn w).2
  | unload => s.unload
  | prompt w pace text l audience => (s.runPromptIn w pace text l audience).2.1
  | clear => s.clearState.2

def loading? : Errand α → Option (Circumstances α)
  | load w | prompt w .. => some w
  | unload | clear => none

/-- A load that the call makes succeeds, in that it builds a model. -/
def Loads (s : LlamaServer α) (e : Errand α) : Prop :=
  ∃ w, e.loading? = some w ∧ (s.loadIn w).1 = .ok true

variable {s : LlamaServer α} (w : Circumstances α)

@[simp] theorem loads_load : (load w).Loads s ↔ (s.loadIn w).1 = .ok true := by
  simp [Loads, loading?]

@[simp] theorem loads_prompt (pace : Nat → Pace) (text : String) (l : Listener σ) (audience : σ) :
    (prompt w pace text l audience).Loads s ↔ (s.loadIn w).1 = .ok true := by
  simp [Loads, loading?]

@[simp] theorem not_loads_unload : ¬unload.Loads s := by
  simp [Loads, loading?]

@[simp] theorem not_loads_clear : ¬clear.Loads s := by
  simp [Loads, loading?]

end Errand

def afterAll (s : LlamaServer α) (es : List (Errand α)) : LlamaServer α := es.foldl Errand.after s

/-- Since the server was last unloaded a load has succeeded. -/
def LoadedSince (s : LlamaServer α) (es : List (Errand α)) : Prop :=
  ∃ before e later, es = before ++ e :: later ∧ e.Loads (s.afterAll before) ∧
    ∀ e' ∈ later, e' ≠ .unload

section Calls

variable {s : LlamaServer α}

theorem afterAll_concat (es : List (Errand α)) (e : Errand α) :
    s.afterAll (es ++ [e]) = e.after (s.afterAll es) := by
  rw [afterAll, List.foldl_append]
  rfl

theorem loadedSince_concat {es : List (Errand α)} {e : Errand α} :
    s.LoadedSince (es ++ [e]) ↔ e.Loads (s.afterAll es) ∨ s.LoadedSince es ∧ e ≠ .unload := by
  constructor
  · rintro ⟨before, x, later, heq, loads, kept⟩
    obtain rfl | ⟨later, y, rfl⟩ := later.eq_nil_or_concat
    · obtain ⟨rfl, hx⟩ := List.append_inj' heq rfl
      cases hx
      exact .inl loads
    · rw [List.concat_eq_append, ← List.cons_append, ← List.append_assoc] at heq
      obtain ⟨rfl, hy⟩ := List.append_inj' heq rfl
      cases hy
      exact .inr ⟨⟨before, x, later, rfl, loads, fun e' he' => kept e' (by simp [he'])⟩,
        kept e (by simp)⟩
  · rintro (loads | ⟨⟨before, x, later, rfl, loads, kept⟩, hunload⟩)
    · exact ⟨es, e, [], rfl, loads, by simp⟩
    · refine ⟨before, x, later ++ [e], by simp, loads, fun e' he' => ?_⟩
      rcases List.mem_append.mp he' with he' | he'
      · exact kept e' he'
      · rw [List.mem_singleton.mp he']
        exact hunload

theorem clearState_cases :
    (¬s.isLoaded ∧ s.clearState = (.error .modelNotLoaded, s)) ∨
      s.isLoaded ∧ ∃ m, s.clearState = (.ok (), { s with model := some m }) := by
  cases hm : s.model with
  | none => exact .inl ⟨not_isLoaded_iff.mpr hm, by simp only [clearState, hm]⟩
  | some m => exact .inr ⟨isLoaded_iff.mpr ⟨m, hm⟩, m.reset, by simp only [clearState, hm]⟩

theorem after_isLoaded (e : Errand α) :
    (e.after s).isLoaded ↔ e.Loads s ∨ s.isLoaded ∧ e ≠ .unload := by
  cases e with
  | load w =>
    obtain ⟨f, unloaded, -, hfailed⟩ | ⟨worked, m, hloaded, hworked⟩ := loadIn_cases (s := s) w
    · simp [Errand.after, hfailed, unloaded]
    · simp [Errand.after, hloaded, hworked]
  | unload => simp [Errand.after, unload]
  | prompt w pace text l audience =>
    obtain ⟨f, unloaded, hbuilt, hfailed⟩ | ⟨worked, hloaded, ⟨m, hm⟩, -⟩ :=
      runPromptIn_cases (s := s) pace text l audience w
    · simp [Errand.after, hfailed, loadIn_failed w unloaded hbuilt, unloaded]
    · simp [Errand.after, hloaded, hm, loadIn_worked w hloaded]
  | clear =>
    obtain ⟨unloaded, hclear⟩ | ⟨loaded, m, hclear⟩ := clearState_cases (s := s)
    · simp [Errand.after, hclear, unloaded]
    · simp [Errand.after, hclear, loaded]

theorem after_config (e : Errand α) : (e.after s).config = s.config := by
  cases e with
  | load w =>
    obtain ⟨f, -, -, hfailed⟩ | ⟨worked, m, hloaded, -⟩ := loadIn_cases (s := s) w
    · rw [Errand.after, hfailed]
    · rw [Errand.after, hloaded]
  | unload => rfl
  | prompt w pace text l audience =>
    obtain ⟨f, -, -, hfailed⟩ | ⟨worked, -, ⟨m, hm⟩, -⟩ :=
      runPromptIn_cases (s := s) pace text l audience w
    · rw [Errand.after, hfailed]
    · rw [Errand.after, hm]
  | clear =>
    obtain ⟨-, hclear⟩ | ⟨-, m, hclear⟩ := clearState_cases (s := s)
    · rw [Errand.after, hclear]
    · rw [Errand.after, hclear]

theorem afterAll_config (es : List (Errand α)) : (s.afterAll es).config = s.config := by
  induction es using List.reverseRecOn with
  | nil => rfl
  | append_singleton es e ih => rw [afterAll_concat, after_config, ih]

theorem afterAll_isLoaded (unloaded : ¬s.isLoaded) (es : List (Errand α)) :
    (s.afterAll es).isLoaded ↔ s.LoadedSince es := by
  induction es using List.reverseRecOn with
  | nil => simp [afterAll, LoadedSince, unloaded]
  | append_singleton es e ih => rw [afterAll_concat, after_isLoaded, loadedSince_concat, ih]

end Calls

/-- What a load returns: its statistics if it built a model. -/
def loadStatsIn (w : Circumstances α) (seconds : Float) (s : LlamaServer α) :
    Except Failure (Option Stats) :=
  (s.loadIn w).1.map fun worked => if worked then some (loadStats seconds) else none

/-- A load does its work once. On a loaded server it does nothing and has no statistics; otherwise
it builds a model and has some, or it fails and leaves the server as it was. -/
structure LoadsOnce (s : LlamaServer α) (w : Circumstances α) (seconds : Float) : Prop where
  again : s.isLoaded → s.loadStatsIn w seconds = .ok none ∧ (s.loadIn w).2 = s
  works : ¬s.isLoaded → ∀ m, built w s.config = .ok m →
    s.loadStatsIn w seconds = .ok (some (loadStats seconds)) ∧
      (s.loadIn w).2 = { s with model := some m }
  fails : ¬s.isLoaded → ∀ f, built w s.config = .error f →
    s.loadStatsIn w seconds = .error f ∧ (s.loadIn w).2 = s

/-- The statistics of a completion have an entry for the load exactly when its own call built the
model, and the total is made up of what the call did. -/
structure TellsLoad (s : LlamaServer α) (w : Circumstances α) (t : Timing) (stats : Stats) : Prop where
  entry : (∃ e ∈ stats.entries, e.kind = .loadingDuration) ↔ (s.loadIn w).1 = .ok true
  work : (s.loadIn w).1 = .ok true ↔ ¬s.isLoaded
  inference : stats.duration .inferenceDuration = .real t.inference
  loading : ¬s.isLoaded → stats.duration .loadingDuration = .real t.loading
  total : stats.duration .totalDuration =
    .real (if s.isLoaded then t.inference else t.inference + t.loading)

section Told

variable {s : LlamaServer α} (w : Circumstances α)

theorem loadsOnce (seconds : Float) : s.LoadsOnce w seconds where
  again loaded := by
    rw [loadStatsIn, loadIn_loaded w loaded]
    exact ⟨rfl, rfl⟩
  works unloaded m hm := by
    rw [loadStatsIn, loadIn_built w unloaded hm]
    exact ⟨rfl, rfl⟩
  fails unloaded f hf := by
    rw [loadStatsIn, loadIn_failed w unloaded hf]
    exact ⟨rfl, rfl⟩

theorem tellsLoad {pace : Nat → Pace} {prompt : String} {l : Listener σ} {audience : σ}
    {reply : Completion} (ran : (s.runPromptIn w pace prompt l audience).1 = .ok reply)
    (t : Timing) : s.TellsLoad w t (reply.stats t) := by
  obtain ⟨f, -, -, hfailed⟩ | ⟨worked, hload, -, hreply⟩ :=
    runPromptIn_cases (s := s) pace prompt l audience w
  · rw [hfailed] at ran
    cases ran
  · obtain ⟨rfl, n, htokens⟩ := hreply reply ran
    have hworked := loadIn_worked w hload
    obtain ⟨hinference, hloading, htotal⟩ := Completion.stats_durations htokens t
    refine ⟨?_, ?_, hinference, fun unloaded => ?_, ?_⟩
    · rw [Completion.stats_loading htokens, hload, Except.ok.injEq]
    · rw [hload, Except.ok.injEq, hworked]
    · rw [hloading, if_pos (hworked.mpr unloaded)]
    · rw [htotal]
      by_cases loaded : s.isLoaded
      · rw [if_pos loaded, if_neg fun h => hworked.mp h loaded]
      · rw [if_neg loaded, if_pos (hworked.mpr loaded)]

end Told

/-- Whatever the calls, and wherever building a model failed among them: the server is loaded
exactly when a load succeeded since it was last unloaded, and otherwise it is as when it was new. -/
theorem life_cycle (c : LlamaServerConfig) (es : List (Errand α)) :
    let s : LlamaServer α := afterAll ⟨c, none⟩ es
    (s.isLoaded ↔ LoadedSince ⟨c, none⟩ es) ∧ (¬s.isLoaded → s = ⟨c, none⟩) ∧
      (∀ w seconds, s.LoadsOnce w seconds) ∧
      (∀ {σ : Type} (w : Circumstances α) (pace : Nat → Pace) (prompt : String) (l : Listener σ)
        (audience : σ),
        (¬s.isLoaded → ∀ f, built w s.config = .error f →
          s.runPromptIn w pace prompt l audience = (.error f, s, audience)) ∧
        ∀ reply, (s.runPromptIn w pace prompt l audience).1 = .ok reply →
          ∀ t, s.TellsLoad w t (reply.stats t)) ∧
      (s.clearState.1 = .error .modelNotLoaded ↔ ¬s.isLoaded) ∧
      (s.isLoaded → s.clearState.1 = .ok ()) := by
  intro s
  refine ⟨afterAll_isLoaded (not_isLoaded_none c) es, fun unloaded => ?_, fun w => loadsOnce w,
    fun w pace prompt l audience => ⟨fun unloaded f hf => ?_, fun reply ran t => tellsLoad w ran t⟩,
    ?_, ?_⟩
  · have hconfig : s.config = c := afterAll_config es
    rw [← hconfig, ← not_isLoaded_iff.mp unloaded]
  · obtain ⟨g, -, hg, hfailed⟩ | ⟨worked, hload, -⟩ :=
      runPromptIn_cases (s := s) pace prompt l audience w
    · rw [hf] at hg
      cases hg
      exact hfailed
    · rw [loadIn_failed w unloaded hf] at hload
      cases hload
  · obtain ⟨unloaded, hclear⟩ | ⟨loaded, m, hclear⟩ := clearState_cases (s := s)
    · simp [hclear, unloaded]
    · simp [hclear, loaded]
  · intro loaded
    obtain ⟨unloaded, -⟩ | ⟨-, m, hclear⟩ := clearState_cases (s := s)
    · exact absurd loaded unloaded
    · rw [hclear]

/-- A trial without files, and one in which memory gives out while a model is built. -/
def calm : Circumstances Float := { bare 1 with }

def rough : Circumstances Float := { bare 1 with mishap := some (.fault .runtime "out of memory") }

theorem built_twoPositions : ∃ m, built calm twoPositions = .ok m := by
  obtain ⟨m, hm, -⟩ := twoPositions_loads
  exact ⟨m, hm⟩

/-- With a weight file that is not there, the model is built and then given up. -/
def weightless : LlamaServerConfig := { twoPositions with weights := some "w.pt" }

theorem built_weightless : ∃ f, built calm weightless = .error f := by
  obtain ⟨config, hconfig, m, hm, f, hf⟩ : ∃ config, weightless.model = .ok config ∧
      ∃ m : Llama Float, Llama.build Parameters.ones .empty config = .ok m ∧
        ∃ f, (m.loadWeights .empty "w.pt").1 = .error f := ⟨_, rfl, _, rfl, _, rfl⟩
  have hdevice : checkDevice weightless.device = .ok () := checkDevice_cpu
  have hbuild : buildModel Parameters.ones .empty weightless =
      (m.loadWeights .empty "w.pt").1.map fun _ => (m.loadWeights .empty "w.pt").2 := by
    simp only [buildModel, hconfig, hdevice, hm, bind, Except.bind]
    rfl
  exact ⟨f, by rw [built, calm, bare, hbuild, hf]; rfl⟩

/-- A load in which memory gives out leaves nothing to clear; the next one has statistics, and lasts
until the server is unloaded. Without its weight file a server is never loaded, and a prompt fails
as a load does. -/
theorem twoPositions_life :
    let first : List (Errand Float) := [.load rough]
    let second := first ++ [.load calm, .clear]
    let new : LlamaServer Float := ⟨twoPositions, none⟩
    let broken := afterAll ⟨weightless, none⟩ [Errand.load calm]
    (¬(new.afterAll first).isLoaded ∧
      (new.afterAll first).clearState.1 = .error .modelNotLoaded ∧
      (new.afterAll first).loadStatsIn calm 0.5 = .ok (some (loadStats 0.5))) ∧
    ((new.afterAll second).isLoaded ∧ (new.afterAll second).loadStatsIn calm 0.5 = .ok none) ∧
    ¬(new.afterAll (second ++ [.unload])).isLoaded ∧
    ¬broken.isLoaded ∧ ∃ f, broken.loadStatsIn calm 0.5 = .error f ∧
      broken.runPromptIn calm (fun _ => .lockStep) "hi" .collecting {} = (.error f, broken, {}) := by
  intro first second new broken
  obtain ⟨m, hm⟩ := built_twoPositions
  obtain ⟨f, hf⟩ := built_weightless
  have hfirst : ¬(new.afterAll first).isLoaded := not_isLoaded_none twoPositions
  obtain ⟨-, -, hload, -, hclear, -⟩ := life_cycle twoPositions first
  obtain ⟨hloaded, -, hagain, -⟩ := life_cycle twoPositions second
  have hsecond : (new.afterAll second).isLoaded :=
    hloaded.mpr ⟨first, .load calm, [.clear], rfl,
      ⟨calm, rfl, congrArg Prod.fst (loadIn_built calm hfirst hm)⟩, by simp⟩
  have hthird : ¬(new.afterAll (second ++ [.unload])).isLoaded := by
    rw [afterAll_concat]
    exact not_isLoaded_none _
  have hbroken : broken = ⟨weightless, none⟩ :=
    congrArg Prod.snd (loadIn_failed calm (not_isLoaded_none weightless) hf)
  have hempty : ¬broken.isLoaded := hbroken ▸ not_isLoaded_none weightless
  have hstill : built calm broken.config = .error f := by rw [hbroken, hf]
  obtain ⟨-, -, hretry, hprompt, -⟩ := life_cycle weightless [Errand.load calm]
  exact ⟨⟨hfirst, hclear.mpr hfirst, ((hload calm 0.5).works hfirst m hm).1⟩,
    ⟨hsecond, ((hagain calm 0.5).again hsecond).1⟩, hthird, hempty, f,
    ((hretry calm 0.5).fails hempty f hstill).1,
    (hprompt calm (fun _ => .lockStep) "hi" .collecting {}).1 hempty f hstill⟩

end LlamaServer
end StreamingLM
