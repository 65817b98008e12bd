import StreamingLM.Proofs.Model.Request
import StreamingLM.Proofs.Session.Report

/-!
Generations and what their listeners do. Listeners that are alike, seen through a map of their
states, make alike generations. A failure that a listener has on its record is the one that the call
reports.
-/
namespace StreamingLM

variable {σ τ ρ α : Type} [Scalar α] [Sampling ρ α]

namespace Generation

omit [Scalar α] [Sampling ρ α] in
def through (view : τ → σ) (g : Generation τ ρ α) : Generation σ ρ α :=
  { g with session := g.session.through view }

section Through

variable {l : Listener σ} {l' : Listener τ} {view : τ → σ} (h : l'.Over l view) (d : Detokenizer)

include h

omit [Scalar α] in
theorem choose_through (pace : Pace) (g : Generation τ ρ α) (scores : List α) :
    choose d l pace (g.through view) scores =
      ((choose d l' pace g scores).1, (choose d l' pace g scores).2.through view) := by
  have hsame : (g.through view).sampler = g.sampler ∧
      (g.through view).session = g.session.through view := ⟨rfl, rfl⟩
  rw [choose, hsame.1, choose]
  cases Sampling.sample g.sampler scores with
  | error f => rfl
  | ok choice =>
    simp only [hsame.2, Session.works_through h, Session.update_through]
    rfl

variable (t : Transformer α) (temperature : Float)

theorem step_through (pace : Pace) (g : Generation τ ρ α) (tokens : List Int) :
    step t d l temperature pace (g.through view) tokens =
      ((step t d l' temperature pace g tokens).1,
        (step t d l' temperature pace g tokens).2.through view) := by
  have hsame : (g.through view).state = g.state := rfl
  rw [step, hsame, step]
  rcases t.step g.state 1 (tokens.map fun id => [id]) with ⟨f | steps, state⟩
  · rfl
  · exact choose_through h d pace { g with state } (lastScores temperature steps)

theorem run_through (pace : Nat → Pace) (n : Nat) (g : Generation τ ρ α) (tokens : List Int) :
    run t d l temperature pace n (g.through view) tokens =
      ((run t d l' temperature pace n g tokens).1,
        (run t d l' temperature pace n g tokens).2.through view) := by
  induction n generalizing g tokens with
  | zero => rfl
  | succ n ih =>
    have hsame : (g.through view).session.stopped = g.session.stopped := rfl
    rw [run, hsame, step_through h, run]
    by_cases hstop : g.session.stopped
    · rw [if_pos hstop, if_pos hstop]
    · rw [if_neg hstop, if_neg hstop]
      rcases step t d l' temperature (pace n) g tokens with ⟨f | token, next⟩
      · rfl
      · exact ih next [token]

theorem complete_through (pace : Nat → Pace) (n : Nat) (g : Generation τ ρ α) (prompt : List Int) :
    complete t d l temperature pace n (g.through view) prompt =
      ((complete t d l' temperature pace n g prompt).1,
        (complete t d l' temperature pace n g prompt).2.through view) := by
  have hsame : (g.through view).session = g.session.through view := rfl
  simp only [complete, hsame, Session.prompt_through]
  cases g.session.prompt prompt with
  | error f =>
    simp only [Except.map, hsame, Session.close_through h]
    rfl
  | ok session =>
    have hrun := run_through h d t temperature pace n { g with session } prompt
    simp only [through] at hrun
    simp only [Except.map, through, hrun, Session.close_through h]

end Through

section Keeps

variable {l : Listener τ} {d : Detokenizer} {P : Session τ → Prop} (kept : Session.Keeps d l P)
  {g : Generation τ ρ α}

include kept

omit [Scalar α] in
theorem choose_keeps (h : P g.session) (pace : Pace) (scores : List α) :
    P (choose d l pace g scores).2.session := by
  rw [choose]
  split
  · exact h
  · rename_i token sampler hsample
    have hupdated := kept.make (.update [token]) (kept.works pace.before h)
    exact kept.works pace.after hupdated

variable {t : Transformer α} {temperature : Float}

theorem step_keeps (h : P g.session) (pace : Pace) (tokens : List Int) :
    P (step t d l temperature pace g tokens).2.session := by
  rw [step]
  rcases t.step g.state 1 (tokens.map fun id => [id]) with ⟨f | steps, state⟩
  · exact h
  · have hnext : P { g with state }.session := h
    exact choose_keeps kept hnext pace _

theorem run_keeps (pace : Nat → Pace) (n : Nat) (h : P g.session) (tokens : List Int) :
    P (run t d l temperature pace n g tokens).2.session := by
  induction n generalizing g tokens with
  | zero => exact h
  | succ n ih =>
    have hstep : P (step t d l temperature (pace n) g tokens).2.session :=
      step_keeps kept h (pace n) tokens
    rw [run]
    by_cases hstop : g.session.stopped
    · rw [if_pos hstop]
      exact h
    · rw [if_neg hstop]
      generalize step t d l temperature (pace n) g tokens = x at hstep ⊢
      obtain ⟨f | token, next⟩ := x
      · exact hstep
      · exact ih hstep [token]

variable (t temperature) in
/-- A generation closes a session that has been led there by calls and rounds. What closing reports
is reported. -/
theorem complete_closes (pace : Nat → Pace) (n : Nat) (h : P g.session) (prompt : List Int) :
    ∃ s, P s ∧ (complete t d l temperature pace n g prompt).2.session = (s.close d l).2 ∧
      ∀ f, (s.close d l).1 = .error f →
        (complete t d l temperature pace n g prompt).1 = .error f := by
  unfold complete
  cases hprompt : g.session.prompt prompt with
  | error e =>
    refine ⟨g.session, h, rfl, fun f hf => ?_⟩
    simp only [hf]
  | ok session =>
    have hprompted := kept.make (.prompt prompt) h
    rw [Session.make, hprompt] at hprompted
    refine ⟨_, run_keeps kept pace n (g := { g with session }) hprompted prompt, rfl, fun f hf => ?_⟩
    simp only [hf]

end Keeps

section Report

variable {l : Listener τ} {record : τ → List Deed} {d : Detokenizer} {g : Generation τ ρ α}
  {t : Transformer α} {temperature : Float}

theorem complete_report (h : l.Records record) (honest : g.session.Honest record)
    (pace : Nat → Pace) (n : Nat) (prompt : List Int) {f : Failure}
    (failed :
      (complete t d l temperature pace n g prompt).2.session.worker.onRecord record = some f) :
    (complete t d l temperature pace n g prompt).1 = .error (.workerFailed f) := by
  obtain ⟨s, hs, hsession, hclosed⟩ :=
    complete_closes (Session.honest_keeps (d := d) h) t temperature pace n honest prompt
  rw [hsession] at failed
  exact hclosed _ (Session.close_report h hs failed)

end Report

end Generation

omit [Scalar α] [Sampling ρ α] in
/-- What a call leaves behind, with the listener's state seen through a map. -/
def Generated.through (view : τ → σ) (g : Generated τ α) : Generated σ α :=
  { g with audience := view g.audience }

namespace Llama

variable (m : Llama α) (pace : Nat → Pace) (prompt : String) (n : Int) (temperature : Float)
  (sampler : ρ)

omit [Sampling ρ α] in
theorem generationStart_through (view : τ → σ) (audience : τ) :
    m.generationStart prompt n (view audience) =
      (m.generationStart prompt n audience).map fun (tokens, t, session) =>
        (tokens, t, session.through view) := by
  simp only [generationStart, Session.start_through, bind, Except.bind]
  split
  · rfl
  · cases m.tokenize prompt with
    | error f => rfl
    | ok tokens =>
      simp only
      split
      · rfl
      · cases Session.start (tokens.length + n) audience with
        | error f => rfl
        | ok session =>
          cases m.transformer <;> rfl

theorem generatePaced_through {l : Listener σ} {l' : Listener τ} {view : τ → σ} (h : l'.Over l view)
    (audience : τ) :
    m.generatePaced pace prompt n temperature sampler l (view audience) =
      ((m.generatePaced pace prompt n temperature sampler l' audience).1,
        (m.generatePaced pace prompt n temperature sampler l' audience).2.through view) := by
  rw [generatePaced, generationStart_through, generatePaced]
  rcases m.generationStart prompt n audience with f | ⟨tokens, t, session⟩
  · rfl
  · have hcomplete := Generation.complete_through h m.tokenizer.detokenizer t temperature pace
      n.toNat { state := m.state, session, sampler } tokens
    simp only [Generation.through] at hcomplete
    simp only [Except.map, hcomplete]
    rfl

theorem generatePaced_report {l : Listener τ} {record : τ → List Deed} (h : l.Records record)
    (audience : τ) (fresh : (record audience).findSome? Deed.failure? = none) :
    let (result, after) := m.generatePaced pace prompt n temperature sampler l audience
    result = Deed.report (record after.audience) result := by
  simp only [Deed.eq_report_iff]
  intro f failed
  unfold generatePaced at failed ⊢
  cases hstart : m.generationStart prompt n audience with
  | error e =>
    rw [hstart] at failed
    cases fresh.symm.trans failed
  | ok start =>
    obtain ⟨tokens, t, session⟩ := start
    obtain ⟨-, hsession⟩ := of_generationStart hstart
    have honest := Session.start_honest hsession fresh
    simp only [hstart] at failed ⊢
    rw [Generation.complete_report h honest pace n.toNat tokens failed]
    rfl

end Llama
end StreamingLM
