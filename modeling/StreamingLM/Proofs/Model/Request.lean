import StreamingLM.Model.Generation
import StreamingLM.Proofs.Outcome

/-!
What a model is asked and what can be seen of its answers: results, text, choices, and every pass of
tokens through the stack with its scores. A generation acts on the state of decoding by its passes
alone.
-/
namespace StreamingLM

open Outcome

/-- Tokens that went through the stack in one step, and the scores that came of it. -/
structure Pass (α : Type) where
  tokens : List Int
  scores : Except Failure (Steps α)

def Pass.column {α : Type} (p : Pass α) : List (List Int) := p.tokens.map fun id => [id]

variable {σ ρ α : Type} [Scalar α]

namespace Transformer

/-- The state that steps leave behind, each for so many batch rows, and each made whatever became of
those before it. -/
def after (t : Transformer α) (s : DecodeState α) (steps : List (Nat × List (List Int))) :
    DecodeState α := steps.foldl (fun s step => (t.step s step.1 step.2).2) s

theorem after_keeps {t : Transformer α} {keeps : DecodeState α → Prop}
    {steps : List (Nat × List (List Int))}
    (each : ∀ step ∈ steps, ∀ s, keeps s → keeps (t.step s step.1 step.2).2) {s : DecodeState α}
    (h : keeps s) : keeps (t.after s steps) := by
  induction steps generalizing s with
  | nil => exact h
  | cons step steps ih =>
    exact ih (fun later hlater => each later (List.mem_cons_of_mem _ hlater))
      (each step (by simp) s h)

end Transformer

namespace Generation

variable [Sampling ρ α]

/-- The passes that a run makes through the stack, in order. -/
def passes (t : Transformer α) (d : Detokenizer) (l : Listener σ) (temperature : Float)
    (pace : Nat → Pace) : Nat → Generation σ ρ α → List Int → List (Pass α)
  | 0, _, _ => []
  | n + 1, g, tokens =>
    if g.session.stopped then []
    else
      ⟨tokens, (t.step g.state 1 (tokens.map fun id => [id])).1⟩ ::
        match step t d l temperature (pace n) g tokens with
        | (.error _, _) => []
        | (.ok token, g) => passes t d l temperature pace n g [token]

omit [Scalar α] in
theorem state_choose (d : Detokenizer) (l : Listener σ) (pace : Pace) (g : Generation σ ρ α)
    (scores : List α) : (choose d l pace g scores).2.state = g.state := by
  unfold choose
  split <;> rfl

theorem state_step (t : Transformer α) (d : Detokenizer) (l : Listener σ) (temperature : Float)
    (pace : Pace) (g : Generation σ ρ α) (tokens : List Int) :
    (step t d l temperature pace g tokens).2.state =
      (t.step g.state 1 (tokens.map fun id => [id])).2 := by
  unfold step
  split
  · simp_all
  · rw [state_choose]
    simp_all

theorem state_run (t : Transformer α) (d : Detokenizer) (l : Listener σ) (temperature : Float)
    (pace : Nat → Pace) (n : Nat) (g : Generation σ ρ α) (tokens : List Int) :
    (run t d l temperature pace n g tokens).2.state =
      t.after g.state ((passes t d l temperature pace n g tokens).map fun p => (1, p.column)) := by
  induction n generalizing g tokens with
  | zero => rfl
  | succ n ih =>
    unfold run passes
    by_cases hstop : g.session.stopped
    · rw [if_pos hstop, if_pos hstop]
      rfl
    · have hstate := state_step t d l temperature (pace n) g tokens
      rw [if_neg hstop, if_neg hstop]
      cases hstep : step t d l temperature (pace n) g tokens with
      | mk result next =>
        rw [hstep] at hstate
        cases result with
        | error f => exact hstate
        | ok token =>
          have hnext : next.state = (t.step g.state 1 (tokens.map fun id => [id])).2 := hstate
          simp only [ih next [token], hnext]
          rfl

section Success

variable {t : Transformer α} {d : Detokenizer} {l : Listener σ}

omit [Scalar α] in
theorem choose_eq_ok {pace : Pace} {g after : Generation σ ρ α} {scores : List α} {token : Int}
    (ok : choose d l pace g scores = (.ok token, after)) :
    ∃ session, (g.session.works d l pace.before).update [token] = (.ok (), session) ∧
      after.session = session.works d l pace.after ∧
      after.draws = g.draws ++ [⟨scores, token⟩] := by
  unfold choose at ok
  split at ok
  · cases ok
  · rename_i token' sampler hsample
    cases hupdate : (g.session.works d l pace.before).update [token'] with
    | mk result session =>
      rw [hupdate] at ok
      obtain ⟨hresult, rfl⟩ := Prod.mk.inj ok
      obtain ⟨u, rfl, rfl⟩ := map_eq_ok.mp hresult
      exact ⟨session, hupdate, rfl, rfl⟩

theorem step_eq_ok {temperature : Float} {pace : Pace} {g after : Generation σ ρ α}
    {tokens : List Int} {token : Int}
    (ok : step t d l temperature pace g tokens = (.ok token, after)) :
    ∃ steps session,
      t.step g.state 1 (tokens.map fun id => [id]) = (.ok steps, after.state) ∧
      (g.session.works d l pace.before).update [token] = (.ok (), session) ∧
      after.session = session.works d l pace.after ∧
      after.draws = g.draws ++ [⟨lastScores temperature steps, token⟩] := by
  unfold step at ok
  split at ok
  · cases ok
  · rename_i steps state hstep
    obtain ⟨session, hupdate, hsession, hdraws⟩ := choose_eq_ok ok
    have hstate := state_choose d l pace { g with state } (lastScores temperature steps)
    rw [ok] at hstate
    exact ⟨steps, session, hstep.trans (by rw [hstate]), hupdate, hsession, hdraws⟩

theorem complete_eq_ok {temperature : Float} {pace : Nat → Pace} {n : Nat}
    {g after : Generation σ ρ α} {prompt : List Int}
    (ok : complete t d l temperature pace n g prompt = (.ok (), after)) :
    ∃ session ran, g.session.prompt prompt = .ok session ∧
      run t d l temperature pace n { g with session } prompt = (.ok (), ran) ∧
      after.state = ran.state := by
  unfold complete at ok
  cases hprompt : g.session.prompt prompt with
  | error f =>
    simp only [hprompt] at ok
    obtain ⟨hresult, -⟩ := Prod.mk.inj ok
    split at hresult <;> cases hresult
  | ok session =>
    cases hrun : run t d l temperature pace n { g with session } prompt with
    | mk result ran =>
      simp only [hprompt, hrun] at ok
      obtain ⟨hresult, rfl⟩ := Prod.mk.inj ok
      split at hresult
      · cases hresult
      · exact ⟨session, ran, rfl, hrun.trans (by rw [hresult]), rfl⟩

end Success

end Generation

namespace Llama

theorem build_fresh {fresh : Filling α} {d : Directory α} {c : LlamaConfig} {m : Llama α}
    (ok : build fresh d c = .ok m) : m.config = c ∧ DecodeState.ofConfig c = .ok m.state := by
  obtain ⟨shapes, -, hrest⟩ := bind_eq_ok.mp ok
  obtain ⟨tokenizer, -, hrest⟩ := bind_eq_ok.mp hrest
  obtain ⟨state, hstate, hm⟩ := bind_eq_ok.mp hrest
  cases hm
  exact ⟨rfl, hstate⟩

variable [Sampling ρ α]

/-- The passes that a generation makes through the stack; a call that is refused makes none. -/
def passes (m : Llama α) (pace : Nat → Pace) (prompt : String) (sampleLength : Int)
    (temperature : Float) (sampler : ρ) (l : Listener σ) (audience : σ) : List (Pass α) :=
  match m.generationStart prompt sampleLength audience with
  | .error _ => []
  | .ok (tokens, t, session) =>
    match session.prompt tokens with
    | .error _ => []
    | .ok session => Generation.passes t m.tokenizer.detokenizer l temperature pace
        sampleLength.toNat { state := m.state, session, sampler } tokens

/-- The transcript that a generation leaves; a call that is refused has none. -/
def transcript (m : Llama α) (pace : Nat → Pace) (prompt : String) (sampleLength : Int)
    (temperature : Float) (sampler : ρ) (l : Listener σ) (audience : σ) : List Int :=
  match m.generationStart prompt sampleLength audience with
  | .error _ => []
  | .ok (tokens, t, session) =>
    (Generation.complete t m.tokenizer.detokenizer l temperature pace sampleLength.toNat
      { state := m.state, session, sampler } tokens).2.session.transcript.tokens

omit [Sampling ρ α] in
theorem of_generationStart {m : Llama α} {prompt : String} {n : Int} {audience : σ}
    {tokens : List Int} {t : Transformer α} {session : Session σ}
    (ok : m.generationStart prompt n audience = .ok (tokens, t, session)) :
    m.transformer = .ok t ∧ Session.start (tokens.length + n) audience = .ok session := by
  unfold generationStart at ok
  split at ok
  · cases ok
  · obtain ⟨ids, -, hrest⟩ := bind_eq_ok.mp ok
    split at hrest
    · cases hrest
    · obtain ⟨started, hstarted, hrest⟩ := bind_eq_ok.mp hrest
      obtain ⟨stack, hstack, htriple⟩ := bind_eq_ok.mp hrest
      cases htriple
      exact ⟨hstack, hstarted⟩

/-- A generation changes nothing of the model but its state, and that by its passes. -/
theorem model_generate (m : Llama α) (pace : Nat → Pace) (prompt : String) (n : Int)
    (temperature : Float) (sampler : ρ) (l : Listener σ) (audience : σ) :
    let passes := m.passes pace prompt n temperature sampler l audience
    let after := (m.generatePaced pace prompt n temperature sampler l audience).2.model
    after = m ∨ ∃ t, m.transformer = .ok t ∧
      after = { m with state := t.after m.state (passes.map fun p => (1, p.column)) } := by
  intro passes after
  cases hstart : m.generationStart prompt n audience with
  | error f => exact .inl (by simp only [after, generatePaced, hstart])
  | ok start =>
    obtain ⟨tokens, t, session⟩ := start
    refine .inr ⟨t, (of_generationStart hstart).1, ?_⟩
    simp only [after, passes, generatePaced, Llama.passes, hstart, Generation.complete]
    cases session.prompt tokens with
    | error f => rfl
    | ok session => simp only [Generation.state_run]

/-- The pass that scoring a text makes through the stack, all at once and without caches; a text that
is refused makes none. -/
def scorePasses (m : Llama α) (text : String) : List (Pass α) :=
  match m.tokenize text, m.transformer with
  | .ok tokens, .ok t =>
    if tokens.length < 2 ∨ m.state.caches.window < tokens.length then []
    else [⟨tokens, t.forwardMasked m.state.tracker.table 1 (tokens.map fun id => [id])⟩]
  | _, _ => []

/-- What can be asked of a model: to generate, at some pace of the worker and with some chooser and
listener, to score a text, or to forget the sequence so far. -/
inductive Request (α : Type) : Type 1 where
  | generate {σ ρ : Type} [Sampling ρ α] (pace : Nat → Pace) (prompt : String)
      (sampleLength : Int) (temperature : Float) (sampler : ρ) (listener : Listener σ) (audience : σ)
  | score (text : String)
  | reset

/-- What can be seen of an answer: its result and the passes through the stack, and for a generation
also what the listener has made of the text, and the choices with the scores they were made from. -/
inductive Answer (α : Type) : Type 1 where
  | generated {σ : Type} (result : Except Failure Nat) (audience : σ) (draws : List (Draw α))
      (passes : List (Pass α))
  | scored (result : Except Failure α) (passes : List (Pass α))
  | done

def Request.answer : Request α → Llama α → Answer α × Llama α
  | generate pace prompt n temperature sampler l audience, m =>
    let (result, after) := m.generatePaced pace prompt n temperature sampler l audience
    (.generated result after.audience after.draws
      (m.passes pace prompt n temperature sampler l audience), after.model)
  | score text, m => (.scored (m.score text) (m.scorePasses text), m)
  | reset, m => (.done, m.reset)

/-- The answers to requests that are made one after the other, whatever becomes of them. -/
def replies : List (Request α) → Llama α → List (Answer α)
  | [], _ => []
  | r :: rest, m => (r.answer m).1 :: replies rest (r.answer m).2

def serve (requests : List (Request α)) (m : Llama α) : Llama α :=
  requests.foldl (fun m r => (r.answer m).2) m

section Keeps

variable {keeps : DecodeState α → Prop} {m : Llama α}
  (stepped : ∀ t, m.transformer = .ok t → ∀ (ids : List Int) s, keeps s →
    keeps (t.step s 1 (ids.map fun id => [id])).2)
  (reset : ∀ s : DecodeState α, keeps s → keeps s.reset)

include stepped reset

/-- A request changes nothing of a model but its state, and keeps of it what steps and resets keep. -/
theorem answer_keeps (r : Request α) (h : keeps m.state) :
    (r.answer m).2 = { m with state := (r.answer m).2.state } ∧ keeps (r.answer m).2.state := by
  cases r with
  | generate pace prompt n temperature sampler l audience =>
    have hmodel : (Request.answer (.generate pace prompt n temperature sampler l audience) m).2 =
      (m.generatePaced pace prompt n temperature sampler l audience).2.model := rfl
    rw [hmodel]
    obtain hsame | ⟨t, ht, hafter⟩ := m.model_generate pace prompt n temperature sampler l audience
    · rw [hsame]
      exact ⟨rfl, h⟩
    · rw [hafter]
      refine ⟨rfl, Transformer.after_keeps (fun step hstep s hs => ?_) h⟩
      obtain ⟨p, -, rfl⟩ := List.mem_map.mp hstep
      exact stepped t ht p.tokens s hs
  | score text => exact ⟨rfl, h⟩
  | reset => exact ⟨rfl, reset m.state h⟩

theorem serve_keeps (requests : List (Request α)) (h : keeps m.state) :
    serve requests m = { m with state := (serve requests m).state } ∧
      keeps (serve requests m).state := by
  induction requests generalizing m with
  | nil => exact ⟨rfl, h⟩
  | cons r rest ih =>
    obtain ⟨hmodel, hstate⟩ := answer_keeps stepped reset r h
    have hserve : serve (r :: rest) m = serve rest (r.answer m).2 := rfl
    have htransformer : (r.answer m).2.transformer = m.transformer := by rw [hmodel]; rfl
    obtain ⟨hrest, hkeeps⟩ := ih (htransformer ▸ stepped) hstate
    rw [hserve]
    exact ⟨hrest.trans (by rw [hmodel]), hkeeps⟩

end Keeps

end Llama
end StreamingLM
