import StreamingLM.Proofs.Config.Server
import StreamingLM.Proofs.Model.Engine
import StreamingLM.Proofs.Model.InLength
import StreamingLM.Proofs.Server.Surfacing
import StreamingLM.Server.Basic

/-!
Prompts that are too long for a server. Main statement: whatever earlier calls have left, a server
with a model reports the length of the context exactly for the prompts with more tokens than the
window has positions, and such a prompt leaves no trace in the server or in any later call.
-/
namespace StreamingLM

open Outcome

variable {σ α : Type} [Scalar α]

namespace Llama

/-- A model whose caches have a given window, and of which there is a stack. -/
structure Windowed (m : Llama α) (window : Int) : Prop where
  window_eq : m.state.caches.window = window
  window_pos : 0 < window
  shapes : ∃ shapes, m.config.transformer.parameters = .ok shapes

theorem build_windowed {fresh : Filling α} {d : Directory α} {c : LlamaConfig} {m : Llama α}
    (ok : build fresh d c = .ok m) : m.Windowed c.window := by
  obtain ⟨hconfig, hstate⟩ := build_fresh ok
  obtain ⟨shapes, hshapes, -⟩ := bind_eq_ok.mp ok
  obtain ⟨hpos, -, hholds⟩ := DecodeState.ofConfig_holds hstate (Nat.zero_le _)
  have hwindow : m.state.caches.window = c.window.toNat := hholds.caches.window_eq
  exact ⟨by omega, hpos, shapes, hconfig ▸ hshapes⟩

variable {m : Llama α} {window : Int}

theorem Windowed.stack (h : m.Windowed window) : ∃ t, m.transformer = .ok t := by
  obtain ⟨shapes, hshapes⟩ := h.shapes
  exact Transformer.ofParameters_ok hshapes m.weights

omit [Scalar α] in
theorem Windowed.loadWeights (h : m.Windowed window) (d : Directory α) (path : String) :
    (m.loadWeights d path).2.Windowed window := by
  unfold Llama.loadWeights
  split <;> exact ⟨h.window_eq, h.window_pos, h.shapes⟩

theorem Windowed.answer (h : m.Windowed window) (r : Request α) :
    (r.answer m).2.Windowed window := by
  have hstep : ∀ t, m.transformer = .ok t → ∀ (ids : List Int) (s : DecodeState α),
      s.caches.window = window → (t.step s 1 (ids.map fun id => [id])).2.caches.window = window :=
    fun t _ ids s hs => (t.step_window s 1 _).trans hs
  obtain ⟨hmodel, hwindow⟩ := answer_keeps hstep (fun _ hs => hs) r h.window_eq
  rw [hmodel]
  exact ⟨hwindow, h.window_pos, h.shapes⟩

end Llama

namespace LlamaServerConfig

/-- The chooser of a call; `fresh` is its seed where the settings ask for a fresh one. -/
def sampler (c : LlamaServerConfig) (fresh : Int) : Except Failure Sampler :=
  Sampler.ofSettings (.real c.temperature) (.real c.topP) c.seed fresh

/-- Settings with which every call chooses alike: they are greedy, or they name a seed and a chooser
comes of them. -/
def Settled (c : LlamaServerConfig) : Prop :=
  (∃ fresh, c.sampler fresh = .ok .greedy) ∨ c.seed ≠ 0 ∧ ∃ fresh s, c.sampler fresh = .ok s

theorem sampler_seeded {c : LlamaServerConfig} (h : c.seed ≠ 0) (fresh fresh' : Int) :
    c.sampler fresh = c.sampler fresh' := by
  simp only [sampler, Sampler.ofSettings, if_neg h]

theorem sampler_greedy {c : LlamaServerConfig} {fresh : Int} (h : c.sampler fresh = .ok .greedy)
    (fresh' : Int) : c.sampler fresh' = .ok .greedy := by
  have hmass : ∀ p seed, Sampler.ofMass p seed ≠ .ok .greedy := by
    intro p seed hgreedy
    obtain ⟨mass, -, hrest⟩ := bind_eq_ok.mp hgreedy
    split at hrest
    · split at hrest <;> cases hrest
    · cases hrest
  obtain ⟨order, horder, hchosen⟩ := bind_eq_ok.mp h
  refine bind_eq_ok.mpr ⟨order, horder, ?_⟩
  by_cases habove : order = some .gt
  · rw [if_pos habove] at hchosen
    exact absurd hchosen (hmass _ _)
  · rw [if_neg habove]
    rfl

theorem Settled.sampler {c : LlamaServerConfig} (h : c.Settled) :
    ∃ s, ∀ fresh, c.sampler fresh = .ok s := by
  obtain ⟨fresh, hgreedy⟩ | ⟨hseed, fresh, s, hs⟩ := h
  · exact ⟨.greedy, fun fresh' => sampler_greedy hgreedy fresh'⟩
  · exact ⟨s, fun fresh' => (sampler_seeded hseed fresh' fresh).trans hs⟩

end LlamaServerConfig

namespace LlamaServer

theorem contextFailure_inLength {β : Type} {x : Except Failure β} (h : InLength x) :
    InLength (x.mapError contextFailure) := by
  cases x with
  | ok b => trivial
  | error f =>
    show (contextFailure f).forLength = false
    unfold contextFailure
    split
    · cases h
    · exact h

section

variable (pace : Nat → Pace) (fresh : Filling α) (seed : Int) (d : Directory α)
  {s : LlamaServer α} {m : Llama α} (prompt : String) (l : Listener σ) (audience : σ)

/-- With a model at hand there is nothing to load, and nothing is taken from around the server but
the seed. -/
theorem runPromptPaced_loaded (loaded : s.model = some m) {sampler : Sampler}
    (settled : s.config.sampler seed = .ok sampler) :
    s.runPromptPaced pace fresh seed d prompt l audience =
      let (result, m, audience) := runLoaded pace s.config sampler m prompt l audience
      (result.map fun reply => { text := reply.1, loaded := false, account := .tokens reply.2 },
        ({ s with model := some m }, audience)) := by
  have hload : s.load fresh d = (.ok false, s) := by rw [load, loaded]
  rw [LlamaServerConfig.sampler] at settled
  unfold runPromptPaced
  rw [hload]
  dsimp only
  rw [settled, loaded]

variable (c : LlamaServerConfig) (sampler : Sampler)

theorem runLoaded_model : ∃ r : Llama.Request α,
    (runLoaded pace c sampler m prompt l audience).2.1 = (r.answer m).2 := by
  unfold runLoaded
  cases l.collector? with
  | some view =>
    exact ⟨.generate pace prompt c.sampleLength c.temperature sampler l audience, rfl⟩
  | none =>
    exact ⟨.generate pace prompt c.sampleLength c.temperature sampler l.tee ({}, audience), rfl⟩

variable {prompt c} {ids : List Int}

/-- A prompt longer than the window is reported as the length of the context and changes nothing. -/
theorem runLoaded_tooLong (h : m.Windowed c.window) (sampled : 0 < c.sampleLength)
    (tokenized : m.tokenize prompt = .ok ids) (long : c.window < ids.length) :
    runLoaded pace c sampler m prompt l audience =
      (.error (.contextTooLong ids.length c.window true), (m, (l.onComplete audience).2)) := by
  obtain ⟨t, stack⟩ := h.stack
  have hroom : 0 < m.state.caches.window := h.window_eq ▸ h.window_pos
  have hover : m.state.caches.window < ids.length := h.window_eq ▸ long
  have hrefused : ∀ {τ : Type} (l : Listener τ) (audience : τ) (view : τ → Collector),
      generatePaced pace c sampler m prompt l view audience =
        (.error (.contextTooLong ids.length c.window true), (m, (l.onComplete audience).2)) := by
    intro τ l audience view
    have hcall := Llama.generate_tooLong stack hroom tokenized sampled hover pace c.temperature
      sampler l audience
    rw [h.window_eq] at hcall
    simp only [generatePaced, hcall]
    rfl
  unfold runLoaded
  cases l.collector? with
  | some view => exact hrefused l audience view
  | none =>
    simp only [hrefused]
    rfl

theorem runLoaded_inLength (h : m.Windowed c.window) (tokenized : m.tokenize prompt = .ok ids)
    (short : ids.length ≤ c.window) :
    InLength (runLoaded pace c sampler m prompt l audience).1 := by
  obtain ⟨t, stack⟩ := h.stack
  have hroom : 0 < m.state.caches.window := h.window_eq ▸ h.window_pos
  have hfits : ids.length ≤ m.state.caches.window := h.window_eq ▸ short
  have hgenerate : ∀ {τ : Type} (l : Listener τ) (audience : τ) (view : τ → Collector),
      InLength (generatePaced pace c sampler m prompt l view audience).1 := by
    intro τ l audience view
    have hcall := Llama.generatePaced_inLength Sampler.inLength stack tokenized hroom hfits pace
      c.sampleLength c.temperature sampler l audience
    have htext : ∀ collected : Collector, InLength collected.text := by
      intro collected
      unfold Collector.text
      split
      · trivial
      · rfl
    exact (contextFailure_inLength hcall).bind fun tokens _ => (htext _).bind fun text _ => trivial
  unfold runLoaded
  cases l.collector? with
  | some view => exact hgenerate l audience view
  | none => exact hgenerate l.tee ({}, audience) (·.1)

end

/-- The servers that calls lead to, from a new one with its settings: whatever becomes of the calls,
and whatever is asked of the model directly. -/
inductive Reachable (c : LlamaServerConfig) : LlamaServer α → Prop where
  | new : Reachable c ⟨c, none⟩
  | loaded {s : LlamaServer α} (before : Reachable c s) (around : Surroundings α) :
      Reachable c (s.load around.fresh around.files).2
  | unloaded {s : LlamaServer α} (before : Reachable c s) : Reachable c s.unload
  | prompted {σ : Type} {s : LlamaServer α} (before : Reachable c s) (around : Surroundings α)
      (pace : Nat → Pace) (prompt : String) (l : Listener σ) (audience : σ) :
      Reachable c
        (s.runPromptPaced pace around.fresh around.seed around.files prompt l audience).2.1
  | cleared {s : LlamaServer α} (before : Reachable c s) : Reachable c s.clearState.2
  | asked {s : LlamaServer α} {m : Llama α} (before : Reachable c s) (loaded : s.model = some m)
      (r : Llama.Request α) : Reachable c { s with model := some (r.answer m).2 }

/-- A server with its settings, and with the configured window in a model that is loaded. -/
structure Windowed (s : LlamaServer α) (c : LlamaServerConfig) : Prop where
  config_eq : s.config = c
  model : ∀ m, s.model = some m → m.Windowed c.window

section Windowed

variable {s : LlamaServer α} {c : LlamaServerConfig} {v : Value}

theorem Windowed.asked {m : Llama α} (h : s.Windowed c) (loaded : s.model = some m)
    (r : Llama.Request α) : Windowed { s with model := some (r.answer m).2 } c where
  config_eq := h.config_eq
  model := by
    rintro _ ⟨⟩
    exact (h.model m loaded).answer r

theorem Windowed.load (accepted : LlamaServerConfig.reader v = .valid c) (h : s.Windowed c)
    (fresh : Filling α) (d : Directory α) : (s.load fresh d).2.Windowed c := by
  unfold LlamaServer.load
  split
  · exact h
  · split
    · rename_i m hbuild
      refine ⟨h.config_eq, ?_⟩
      rintro _ ⟨⟩
      obtain ⟨config, hconfig, hrest⟩ := bind_eq_ok.mp (h.config_eq ▸ hbuild)
      obtain ⟨-, -, hrest⟩ := bind_eq_ok.mp hrest
      obtain ⟨built, hbuilt, hrest⟩ := bind_eq_ok.mp hrest
      have hwindow := Llama.build_windowed hbuilt
      rw [LlamaServerConfig.window_of_model accepted hconfig] at hwindow
      split at hrest
      · cases hrest
        exact hwindow
      · rename_i path _
        obtain ⟨-, -, rfl⟩ := map_eq_ok.mp hrest
        exact hwindow.loadWeights d path
    · exact h

theorem Windowed.prompted (accepted : LlamaServerConfig.reader v = .valid c) (h : s.Windowed c)
    (pace : Nat → Pace) (fresh : Filling α) (seed : Int) (d : Directory α) (prompt : String)
    (l : Listener σ) (audience : σ) :
    (s.runPromptPaced pace fresh seed d prompt l audience).2.1.Windowed c := by
  have hload := h.load accepted fresh d
  obtain ⟨f, hrun⟩ | ⟨sampler, m, loaded, hmodel, hrun⟩ :=
    runPromptPaced_cases pace prompt fresh seed d s
  · rw [hrun]
    exact hload
  · obtain ⟨r, hr⟩ :=
      runLoaded_model pace prompt l audience (s.load fresh d).2.config sampler (m := m)
    have hasked := hload.asked hmodel r
    rw [← hr] at hasked
    rw [hrun]
    exact hasked

theorem Reachable.windowed (accepted : LlamaServerConfig.reader v = .valid c)
    (h : Reachable c s) : s.Windowed c := by
  induction h with
  | new => exact ⟨rfl, by rintro _ ⟨⟩⟩
  | loaded before around ih => exact ih.load accepted around.fresh around.files
  | unloaded before ih => exact ⟨ih.config_eq, by rintro _ ⟨⟩⟩
  | prompted before around pace prompt l audience ih =>
    exact ih.prompted accepted pace around.fresh around.seed around.files prompt l audience
  | @cleared s before ih =>
    cases hmodel : s.model with
    | none =>
      rw [clearState, hmodel]
      exact ih
    | some m =>
      rw [clearState, hmodel]
      exact ih.asked hmodel .reset
  | asked before loaded r ih => exact ih.asked loaded r

end Windowed

/-- A later call: a prompt, at some pace of the worker and with a listener of its own, or forgetting
the sequence so far. -/
inductive Call : Type 1 where
  | prompt {σ : Type} (pace : Nat → Pace) (text : String) (listener : Listener σ) (audience : σ)
  | clear

/-- What comes of a call: its result, and for a prompt also what the listener has made of the
text. -/
inductive Reply : Type 1 where
  | ran {σ : Type} (result : Except Failure Completion) (audience : σ)
  | cleared (result : Except Failure Unit)

def Call.answer (around : Surroundings α) : Call → LlamaServer α → Reply × LlamaServer α
  | prompt pace text l audience, s =>
    let (result, after, heard) :=
      s.runPromptPaced pace around.fresh around.seed around.files text l audience
    (.ran result heard, after)
  | clear, s =>
    let (result, after) := s.clearState
    (.cleared result, after)

/-- The replies to calls that are made one after the other, each in surroundings of its own. -/
def replies : List (Surroundings α × Call) → LlamaServer α → List Reply
  | [], _ => []
  | (around, call) :: rest, s => (call.answer around s).1 :: replies rest (call.answer around s).2

section Later

variable {s : LlamaServer α} {m : Llama α}

theorem Call.answer_loaded (loaded : s.model = some m) (settled : s.config.Settled) (call : Call)
    (around : Surroundings α) :
    ∃ after, (call.answer around s).2 = { s with model := some after } := by
  obtain ⟨sampler, hsampler⟩ := settled.sampler
  cases call with
  | prompt pace text l audience =>
    rw [answer, runPromptPaced_loaded pace around.fresh around.seed around.files text l audience
      loaded (hsampler _)]
    exact ⟨_, rfl⟩
  | clear =>
    rw [answer, clearState, loaded]
    exact ⟨_, rfl⟩

theorem Call.answer_around (loaded : s.model = some m) (settled : s.config.Settled) (call : Call)
    (around around' : Surroundings α) : call.answer around s = call.answer around' s := by
  obtain ⟨sampler, hsampler⟩ := settled.sampler
  cases call with
  | prompt pace text l audience =>
    rw [answer, answer,
      runPromptPaced_loaded pace around.fresh around.seed around.files text l audience loaded
        (hsampler _),
      runPromptPaced_loaded pace around'.fresh around'.seed around'.files text l audience loaded
        (hsampler _)]
  | clear => rfl

/-- Later calls are answered alike, whatever surrounds them. -/
theorem replies_around (loaded : s.model = some m) (settled : s.config.Settled)
    (later later' : List (Surroundings α × Call)) (same : later.map Prod.snd = later'.map Prod.snd) :
    replies later s = replies later' s := by
  -- each call leaves the server loaded under the same settings, as the next one needs it
  induction later generalizing later' s m with
  | nil =>
    rw [List.map_nil, eq_comm, List.map_eq_nil_iff] at same
    rw [same]
  | cons first rest ih =>
    obtain ⟨around, call⟩ := first
    cases later' with
    | nil => cases same
    | cons first' rest' =>
      obtain ⟨around', call'⟩ := first'
      simp only [List.map_cons, List.cons.injEq] at same
      obtain ⟨rfl, hrest⟩ := same
      have hanswer := call.answer_around loaded settled around around'
      obtain ⟨after, hafter⟩ := call.answer_loaded loaded settled around'
      have hstill := ih (s := { s with model := some after }) rfl settled rest' hrest
      rw [replies, replies, hanswer, hafter, hstill]

end Later

/-- In whatever state earlier calls have left a server with a model, a prompt is refused for the
length of the context exactly if it has more tokens than the window has positions. The failure then
tells both lengths, the server with its caches and its position is as it was, and every later call is
answered as it would have been without the prompt. -/
theorem Reachable.tooLong_leaves_no_trace {v : Value} {c : LlamaServerConfig}
    (accepted : LlamaServerConfig.reader v = .valid c) (settled : c.Settled) {s : LlamaServer α}
    (h : Reachable c s) {m : Llama α} (loaded : s.model = some m) {prompt : String}
    {ids : List Int} (tokenized : m.tokenize prompt = .ok ids) (pace : Nat → Pace)
    (around : Surroundings α) (l : Listener σ) (audience : σ) :
    let (result, after, _) :=
      s.runPromptPaced pace around.fresh around.seed around.files prompt l audience
    ((∃ f, result = .error f ∧ f.family = .contextLength) ↔ c.window < ids.length) ∧
    (c.window < ids.length →
      result = .error (.contextTooLong ids.length c.window true) ∧ after = s ∧
      ∀ later later' : List (Surroundings α × Call), later.map Prod.snd = later'.map Prod.snd →
        replies later after = replies later' s) := by
  obtain ⟨hconfig, hmodel⟩ := h.windowed accepted
  have hwindowed := hmodel m loaded
  obtain ⟨sampler, hsampler⟩ := settled.sampler
  subst hconfig
  rw [runPromptPaced_loaded pace around.fresh around.seed around.files prompt l audience loaded
    (hsampler _)]
  by_cases hlong : s.config.window < ids.length
  · have hrefused := runLoaded_tooLong pace l audience sampler hwindowed
      (LlamaServerConfig.sampleLength_pos accepted) tokenized hlong
    have hsame : ({ s with model := some m } : LlamaServer α) = s := by rw [← loaded]
    rw [hrefused]
    refine ⟨⟨fun _ => hlong, fun _ => ⟨_, rfl, rfl⟩⟩, fun _ => ⟨rfl, hsame, ?_⟩⟩
    intro later later' same
    rw [hsame]
    exact replies_around loaded settled later later' same
  · have hfits := runLoaded_inLength pace l audience sampler hwindowed tokenized
      (Int.not_lt.mp hlong)
    refine ⟨⟨?_, fun longer => absurd longer hlong⟩, fun longer => absurd longer hlong⟩
    rintro ⟨f, hresult, hfamily⟩
    have hnot := (hfits.map _).of_error hresult
    rw [Failure.forLength, hfamily] at hnot
    cases hnot

/-- A window of two positions for the tiny preset, and a seed of its own. -/
def twoPositions : LlamaServerConfig := { window := 2, temperature := 0.8, topP := 0.5, seed := 3 }

theorem twoPositions_accepted :
    LlamaServerConfig.reader (.dict [(.text "max_seq_len", .int 2),
      (.text "temperature", .real 0.8), (.text "top_p", .real 0.5), (.text "seed", .int 3)]) =
    .valid twoPositions := rfl

theorem twoPositions_settled : twoPositions.Settled :=
  .inr ⟨by decide, 0, Sampler.ofSettings_ok 0.8 (by decide) (by decide) (by decide) (by decide) 0⟩

theorem checkDevice_cpu : checkDevice "cpu" = .ok () := by
  rw [checkDevice, String.splitOn, String.splitOnAux, String.splitOnAux, String.splitOnAux,
    String.splitOnAux]
  rfl

theorem twoPositions_loads : ∃ m : Llama Float,
    buildModel Parameters.ones .empty twoPositions = .ok m ∧ m.tokenizer = .bytes := by
  obtain ⟨config, hconfig, m, hm, hbytes⟩ : ∃ config, twoPositions.model = .ok config ∧
      ∃ m : Llama Float, Llama.build Parameters.ones .empty config = .ok m ∧
        m.tokenizer = .bytes := ⟨_, rfl, _, rfl, rfl⟩
  have hdevice : checkDevice twoPositions.device = .ok () := checkDevice_cpu
  refine ⟨m, ?_, hbytes⟩
  simp only [buildModel, hconfig, hdevice, hm, bind, Except.bind]
  rfl

/-- What is around a server for trials: no files, and parameters filled with ones. -/
def bare (seed : Int) : Surroundings Float := { fresh := Parameters.ones, seed }

/-- Behind a prompt of two bytes, one of three is refused, and one more is answered as it would have
been without that, also with another fresh seed at hand. -/
theorem threeBytes_leave_no_trace : ∃ s : LlamaServer Float, Reachable twoPositions s ∧
    let (result, after, _) :=
      s.runPromptPaced (fun _ => .lockStep) Parameters.ones 1 .empty "hey" .collecting {}
    result = .error (.contextTooLong 3 2 true) ∧ after = s ∧
    replies [(bare 1, .prompt (fun _ => .lockStep) "a" .collecting {})] after =
      replies [(bare 2, .prompt (fun _ => .lockStep) "a" .collecting {})] s := by
  obtain ⟨m, hm, hbytes⟩ := twoPositions_loads
  obtain ⟨sampler, hsampler⟩ := twoPositions_settled.sampler
  let loaded : LlamaServer Float := ⟨twoPositions, some m⟩
  have hloaded : Reachable twoPositions loaded := by
    have hload : (⟨twoPositions, none⟩ : LlamaServer Float).load Parameters.ones .empty =
        (.ok true, loaded) := by simp only [load, hm, loaded]
    have hnew := Reachable.new.loaded (c := twoPositions) (bare 1)
    rwa [bare, hload] at hnew
  have hused := hloaded.prompted (bare 1) (fun _ => .lockStep) "hi" .collecting {}
  have hran := runPromptPaced_loaded (s := loaded) (fun _ => .lockStep) (bare 1).fresh 1 .empty "hi"
    .collecting {} rfl (hsampler 1)
  have hmodel : (loaded.runPromptPaced (fun _ => .lockStep) (bare 1).fresh 1 .empty "hi"
      .collecting {}).2.1.model =
      some (m.generatePaced (fun _ => .lockStep) "hi" 128 0.8 sampler .collecting {}).2.model := by
    rw [hran]
    rfl
  have hthree : Llama.tokenize (m.generatePaced (fun _ => .lockStep) "hi" 128 0.8 sampler
      Listener.collecting {}).2.model "hey" = .ok [104, 101, 121] := by
    rw [Llama.tokenize, Llama.tokenizer_generate, hbytes]
    rfl
  have hrefused := hused.tooLong_leaves_no_trace twoPositions_accepted twoPositions_settled hmodel
    hthree (fun _ => .lockStep) (bare 1) .collecting {}
  obtain ⟨-, hlong⟩ := hrefused
  obtain ⟨hresult, hafter, hlater⟩ := hlong (by decide)
  exact ⟨_, hused, hresult, hafter, hlater _ _ rfl⟩

end LlamaServer
end StreamingLM
