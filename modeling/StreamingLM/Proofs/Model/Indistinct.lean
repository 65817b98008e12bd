import StreamingLM.Proofs.Model.Alike
import StreamingLM.Proofs.Model.Engine
import StreamingLM.Proofs.Model.Request

/-!
Models that no request can tell apart. Two models with one tokenizer and one stack, whose states
cannot be told apart in the batch row that generation uses, give the same answers to any requests.
-/
namespace StreamingLM

open Outcome

variable {σ ρ α : Type} [Scalar α]

namespace Generation

/-- Generations that differ in nothing but states that cannot be told apart. -/
def Alike (g g' : Generation σ ρ α) : Prop := ∃ s, g' = { g with state := s } ∧ g.state.Alike 1 s

variable [Sampling ρ α] {t : Transformer α} {d : Detokenizer} {l : Listener σ}
  {temperature : Float} {g g' : Generation σ ρ α}

omit [Scalar α] in
theorem choose_with_state (pace : Pace) (g : Generation σ ρ α) (s : DecodeState α)
    (scores : List α) : choose d l pace { g with state := s } scores =
      ((choose d l pace g scores).1, { (choose d l pace g scores).2 with state := s }) := by
  simp only [choose]
  cases Sampling.sample g.sampler scores <;> rfl

omit [Scalar α] in
theorem choose_alike (h : g.Alike g') (pace : Pace) (scores : List α) :
    Agree Alike (choose d l pace g scores) (choose d l pace g' scores) := by
  obtain ⟨s, rfl, hs⟩ := h
  have hstate := state_choose d l pace g scores
  exact ⟨(choose d l pace g scores).1, (choose d l pace g scores).2, _, rfl,
    choose_with_state pace g s scores, s, rfl, hstate.symm ▸ hs⟩

theorem step_alike (h : g.Alike g') (pace : Pace) (tokens : List Int) :
    Agree Alike (step t d l temperature pace g tokens) (step t d l temperature pace g' tokens) := by
  obtain ⟨s, rfl, hs⟩ := h
  have hfull : ∀ ids ∈ tokens.map fun id => [id], ids.length = 1 := by simp
  obtain ⟨result, after, after', hstep, hstep', ha⟩ := t.step_alike hs hfull
  simp only [step, hstep, hstep']
  cases result with
  | error f => exact ⟨_, _, _, rfl, rfl, after', rfl, ha⟩
  | ok steps =>
    have hnext : Alike { g with state := after } { g with state := after' } := ⟨after', rfl, ha⟩
    exact choose_alike hnext pace
      (lastScores temperature steps)

theorem run_alike (h : g.Alike g') (pace : Nat → Pace) (n : Nat) (tokens : List Int) :
    Agree Alike (run t d l temperature pace n g tokens) (run t d l temperature pace n g' tokens) ∧
      passes t d l temperature pace n g tokens = passes t d l temperature pace n g' tokens := by
  induction n generalizing g g' tokens with
  | zero => exact ⟨⟨_, _, _, rfl, rfl, h⟩, rfl⟩
  | succ n ih =>
    have hstep : Agree Alike (step t d l temperature (pace n) g tokens)
        (step t d l temperature (pace n) g' tokens) := step_alike h (pace n) tokens
    obtain ⟨s, rfl, hs⟩ := h
    have hfull : ∀ ids ∈ tokens.map fun id => [id], ids.length = 1 := by simp
    have hscores := (t.step_alike hs hfull).result_eq
    unfold run passes
    by_cases hstop : g.session.stopped
    · exact ⟨⟨_, _, _, if_pos hstop, if_pos hstop, s, rfl, hs⟩, by rw [if_pos hstop, if_pos hstop]⟩
    · obtain ⟨result, next, next', hnext, hnext', hn⟩ := hstep
      simp only [if_neg hstop, hnext, hnext', hscores]
      cases result with
      | error f => exact ⟨⟨_, _, _, rfl, rfl, hn⟩, rfl⟩
      | ok token =>
        obtain ⟨hrun, hpasses⟩ := ih hn [token]
        exact ⟨hrun, congrArg _ hpasses⟩

theorem complete_alike (h : g.Alike g') (pace : Nat → Pace) (n : Nat) (prompt : List Int) :
    Agree Alike (complete t d l temperature pace n g prompt)
      (complete t d l temperature pace n g' prompt) := by
  obtain ⟨s, rfl, hs⟩ := h
  simp only [complete]
  cases g.session.prompt prompt with
  | error f => exact ⟨_, _, _, rfl, rfl, s, rfl, hs⟩
  | ok session =>
    have hstart : Alike { g with session } { g with session, state := s } := ⟨s, rfl, hs⟩
    have hran : Agree Alike (run t d l temperature pace n { g with session } prompt)
        (run t d l temperature pace n { g with session, state := s } prompt) :=
      (run_alike hstart pace n prompt).1
    obtain ⟨result, after, after', hrun, hrun', s', rfl, ha⟩ := hran
    simp only [hrun, hrun']
    exact ⟨_, _, _, rfl, rfl, s', rfl, ha⟩

end Generation

namespace Llama

/-- Models with one tokenizer and one stack, and states that cannot be told apart in the batch row
that generation uses. -/
structure Alike (m m' : Llama α) : Prop where
  tokenizer_eq : m.tokenizer = m'.tokenizer
  transformer_eq : m.transformer = m'.transformer
  state : m.state.Alike 1 m'.state

namespace Alike

variable {m m' : Llama α}

theorem reset (h : m.Alike m') : m.reset.Alike m'.reset :=
  ⟨h.tokenizer_eq, h.transformer_eq, h.state.reset⟩

theorem generationStart_eq (h : m.Alike m') (prompt : String) (n : Int) (audience : σ) :
    m.generationStart prompt n audience = m'.generationStart prompt n audience := by
  simp only [generationStart, tokenize, h.tokenizer_eq, h.transformer_eq]

theorem score_eq (h : m.Alike m') (text : String) :
    m.score text = m'.score text ∧ m.scorePasses text = m'.scorePasses text := by
  have hwindow := h.state.caches.window_eq
  have htracker := h.state.tracker_eq
  constructor
  · simp only [score, tokenize, h.tokenizer_eq, h.transformer_eq, hwindow, htracker]
  · simp only [scorePasses, tokenize, h.tokenizer_eq, h.transformer_eq, hwindow, htracker]

theorem generate [Sampling ρ α] (h : m.Alike m') (pace : Nat → Pace) (prompt : String) (n : Int)
    (temperature : Float) (sampler : ρ) (l : Listener σ) (audience : σ) :
    (∃ result after model', m.generatePaced pace prompt n temperature sampler l audience =
        (result, after) ∧
      m'.generatePaced pace prompt n temperature sampler l audience =
        (result, { after with model := model' }) ∧ after.model.Alike model') ∧
    m.passes pace prompt n temperature sampler l audience =
      m'.passes pace prompt n temperature sampler l audience := by
  simp only [generatePaced, passes, h.generationStart_eq, h.tokenizer_eq]
  cases m'.generationStart prompt n audience with
  | error f => exact ⟨⟨_, _, _, rfl, rfl, h⟩, rfl⟩
  | ok start =>
    obtain ⟨tokens, t, session⟩ := start
    have hstart : ∀ session : Session σ, Generation.Alike ⟨m.state, session, sampler, []⟩
        ⟨m'.state, session, sampler, []⟩ := fun session => ⟨m'.state, rfl, h.state⟩
    have hcompleted : Agree Generation.Alike
        (Generation.complete t m'.tokenizer.detokenizer l temperature pace n.toNat
          ⟨m.state, session, sampler, []⟩ tokens)
        (Generation.complete t m'.tokenizer.detokenizer l temperature pace n.toNat
          ⟨m'.state, session, sampler, []⟩ tokens) :=
      Generation.complete_alike (hstart session) pace n.toNat tokens
    obtain ⟨result, after, after', hcomplete, hcomplete', s, rfl, ha⟩ := hcompleted
    simp only [hcomplete, hcomplete']
    refine ⟨⟨_, _, _, rfl, rfl, rfl, h.transformer_eq, ha⟩, ?_⟩
    cases session.prompt tokens with
    | error f => rfl
    | ok session => exact (Generation.run_alike (hstart session) pace n.toNat tokens).2

/-- A request is answered alike, and leaves models that no request can tell apart. -/
theorem answer (h : m.Alike m') (r : Request α) :
    (r.answer m).1 = (r.answer m').1 ∧ (r.answer m).2.Alike (r.answer m').2 := by
  cases r with
  | generate pace prompt n temperature sampler l audience =>
    obtain ⟨⟨result, after, model', hcall, hcall', ha⟩, hpasses⟩ :=
      h.generate pace prompt n temperature sampler l audience
    simp only [Request.answer, hcall, hcall', hpasses]
    exact ⟨trivial, ha⟩
  | score text =>
    obtain ⟨hscore, hpasses⟩ := h.score_eq text
    exact ⟨congrArg₂ Answer.scored hscore hpasses, h⟩
  | reset => exact ⟨rfl, h.reset⟩

theorem replies_eq (h : m.Alike m') (requests : List (Request α)) :
    replies requests m = replies requests m' := by
  induction requests generalizing m m' with
  | nil => rfl
  | cons r rest ih =>
    obtain ⟨hanswer, hafter⟩ := h.answer r
    rw [replies, replies, hanswer, ih hafter]

end Alike

/-- A new model and the one that differs from it in the strategy of its caches alone answer all
requests alike. -/
theorem strategy_unobservable {m : Llama α} (fresh : DecodeState.ofConfig m.config = .ok m.state)
    (strategy : CacheStrategy) :
    ∃ state, DecodeState.ofConfig { m.config with cache := ⟨strategy⟩ } = .ok state ∧
      ∀ requests, replies requests { m with config := { m.config with cache := ⟨strategy⟩ }, state } =
        replies requests m := by
  obtain ⟨state, hstate, halike⟩ := DecodeState.ofConfig_alike fresh strategy 1
  refine ⟨state, hstate, fun requests => Alike.replies_eq ?_ requests⟩
  exact ⟨rfl, rfl, halike⟩

def pairConfig : LlamaConfig := { tinyConfig with batch := 2 }

def pairRequests : List (Request Float) :=
  [.generate (fun _ => .lockStep) "hi" 9 0 Sampler.greedy Listener.collecting {}, .score "hi",
    .reset, .generate (fun _ => {}) "a" 5 0 Sampler.greedy Listener.collecting {}]

theorem pair_strategy_unobservable : ∃ (m : Llama Float) (state : DecodeState Float),
    build Parameters.ones .empty pairConfig = .ok m ∧
    DecodeState.ofConfig { m.config with cache := ⟨.shrink⟩ } = .ok state ∧
    replies pairRequests { m with config := { m.config with cache := ⟨.shrink⟩ }, state } =
      replies pairRequests m := by
  obtain ⟨m, hm⟩ : ∃ m : Llama Float, build Parameters.ones .empty pairConfig = .ok m := ⟨_, rfl⟩
  obtain ⟨hconfig, hfresh⟩ := build_fresh hm
  obtain ⟨state, hstate, hsame⟩ := strategy_unobservable (hconfig ▸ hfresh) .shrink
  exact ⟨m, state, hm, hstate, hsame pairRequests⟩

end Llama
end StreamingLM
