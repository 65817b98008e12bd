import StreamingLM.Session.Basic

/-!
Listeners whose states are seen through a map. Where one listener does what another one does, seen
that way, so does everything that a worker or a session does with them. What a listener raises at
the end does not matter for that.
-/
namespace StreamingLM

variable {σ τ : Type} {l : Listener σ} {l' : Listener τ} {view : τ → σ}

/-- Seen through a map, `l'` does with every text what `l` does, and it hears of the end as `l`
does, whatever either raises then. -/
structure Listener.Over (l' : Listener τ) (l : Listener σ) (view : τ → σ) : Prop where
  onText : ∀ a text, l.onText (view a) text = ((l'.onText a text).1, view (l'.onText a text).2)
  onComplete : ∀ a, (l.onComplete (view a)).2 = view (l'.onComplete a).2

theorem Listener.Over.tee (h : l'.Over l view) : l'.tee.Over l.tee (Prod.map id view) where
  onText a text := by simp [Listener.tee, h.onText]
  onComplete a := by simp [Listener.tee, h.onComplete]

def Listener.patient (l : Listener σ) : Listener σ :=
  { l with onComplete := fun a => (.ok (), (l.onComplete a).2) }

theorem Listener.patient_over (l : Listener σ) : l.Over l.patient id :=
  ⟨fun _ _ => rfl, fun _ => rfl⟩

namespace Worker

def through (view : τ → σ) (w : Worker τ) : Worker σ := { w with audience := view w.audience }

variable (h : l'.Over l view) (d : Detokenizer) (w : Worker τ)

include h

theorem emit_through (text : Option String) : emit l (w.through view) text =
    ((emit l' w text).1, (emit l' w text).2.through view) := by
  cases text with
  | none => rfl
  | some text =>
    simp only [emit, through, h.onText]
    split <;> rfl

theorem deliver_through (step : Attempt TextStream (Option String)) :
    deliver l (w.through view) step =
      ((deliver l' w step).1, (deliver l' w step).2.through view) := by
  obtain ⟨result, stream⟩ := step
  cases result with
  | error f => rfl
  | ok text => exact emit_through h { w with stream } text

theorem process_through (tokens : List Int) : process d l (w.through view) tokens =
    ((process d l' w tokens).1, (process d l' w tokens).2.through view) := by
  unfold process
  by_cases hempty : tokens.isEmpty
  · rw [if_pos hempty, if_pos hempty]
  · rw [if_neg hempty, if_neg hempty]
    exact deliver_through h { w with generated := w.generated + tokens.length } _

theorem exit_through : exit l (w.through view) = (exit l' w).through view := by
  simp only [exit, through, h.onComplete]

theorem fail_through (f : Failure) : fail l (w.through view) f = (fail l' w f).through view :=
  exit_through h { w with failure := some f, stopped := true }

theorem conclude_through : conclude d l (w.through view) = (conclude d l' w).through view := by
  have hstream : (w.through view).stream = w.stream := rfl
  rw [conclude, hstream, deliver_through h, conclude]
  rcases deliver l' w (w.stream.flush d) with ⟨f | u, after⟩
  · exact fail_through h after f
  · exact exit_through h after

theorem round_through (items : List ChannelItem) :
    round d l (w.through view) items = (round d l' w items).through view := by
  have hsame : (w.through view).alive = w.alive ∧ (w.through view).stopped = w.stopped := ⟨rfl, rfl⟩
  rw [round, hsame.1, hsame.2, round]
  by_cases halive : w.alive
  · rw [if_pos halive, if_pos halive]
    obtain ⟨tokens, stopped, ended⟩ := intake d.stopIds w.stopped items
    have hprocess := process_through h d { w with stopped } tokens
    simp only [through] at hprocess ⊢
    rw [hprocess]
    rcases process d l' { w with stopped } tokens with ⟨f | u, after⟩
    · exact fail_through h after f
    · cases ended with
      | true => exact conclude_through h d after
      | false => rfl
  · rw [if_neg halive, if_neg halive]

end Worker

namespace Session

def through (view : τ → σ) (s : Session τ) : Session σ := { s with worker := s.worker.through view }

theorem start_through (view : τ → σ) (length : Int) (audience : τ) :
    start length (view audience) = (start length audience).map (through view) := by
  rw [start, start]
  cases Transcript.allocate length <;> rfl

theorem prompt_through (view : τ → σ) (s : Session τ) (tokens : List Int) :
    (s.through view).prompt tokens = (s.prompt tokens).map (through view) := by
  have hsame : (s.through view).transcript = s.transcript := rfl
  rw [prompt, hsame, prompt]
  cases s.transcript.append tokens <;> rfl

theorem update_through (view : τ → σ) (s : Session τ) (tokens : List Int) :
    (s.through view).update tokens = ((s.update tokens).1, (s.update tokens).2.through view) := by
  rw [update, prompt_through, update]
  cases s.prompt tokens with
  | error f => rfl
  | ok s =>
    have hsame : (s.through view).stopped = s.stopped ∧
        (s.through view).worker.alive = s.worker.alive := ⟨rfl, rfl⟩
    simp only [Except.map, send, hsame]
    by_cases hstopped : s.stopped
    · simp only [if_pos hstopped]
    · by_cases halive : s.worker.alive
      · simp only [if_neg hstopped, if_pos halive]
        rfl
      · simp only [if_neg hstopped, if_neg halive]
        rfl

theorem shut_through (view : τ → σ) (s : Session τ) :
    (s.through view).shut = s.shut.through view := by
  by_cases hclosed : s.closed
  · simp [shut, through, hclosed]
  · by_cases halive : s.worker.alive <;> simp [shut, through, Worker.through, hclosed, halive]

variable (h : l'.Over l view) (d : Detokenizer) (s : Session τ)

include h

theorem work_through (n : Nat) : (s.through view).work d l n = (s.work d l' n).through view := by
  have hsame : (s.through view).worker = s.worker.through view ∧
      (s.through view).worker.alive = s.worker.alive := ⟨rfl, rfl⟩
  rw [work, hsame.2, work]
  by_cases halive : s.worker.alive
  · rw [if_pos halive, if_pos halive, hsame.1, Worker.round_through h]
    rfl
  · rw [if_neg halive, if_neg halive]

theorem works_through (rounds : List Nat) :
    (s.through view).works d l rounds = (s.works d l' rounds).through view := by
  induction rounds generalizing s with
  | nil => rfl
  | cons n rounds ih =>
    rw [works, List.foldl_cons, work_through h]
    exact ih (s.work d l' n)

theorem close_through :
    (s.through view).close d l = ((s.close d l').1, (s.close d l').2.through view) := by
  have hsame : (s.through view).closed = s.closed := rfl
  rw [close, hsame, close]
  by_cases hclosed : s.closed
  · rw [if_pos hclosed, if_pos hclosed]
  · rw [if_neg hclosed, if_neg hclosed]
    simp only [drain, shut_through]
    rw [work_through h]
    rfl

end Session
end StreamingLM
