import StreamingLM.Proofs.Session.Interleaving
import StreamingLM.Tokenizer.Decoder

/-!
A session that is closed. Driver and worker never wait for each other in vain, every step leaves less
to do, and where nothing is left the accounts are settled.
-/
namespace StreamingLM
namespace Exchange

variable {σ : Type} {d : Detokenizer} {l : Listener σ} {size : Nat}

/-- As long as closing has not returned, one of the two parties can go on. -/
theorem progress {audience : σ} {made : List Call} {e : Exchange σ} (room : 1 ≤ size)
    (course : e.Course) (ledger : Ledger d l audience made e) (h : ¬ e.Closed) :
    ∃ e', Step d l size e e' := by
  by_cases hhand : e.hand = []
  · cases hwaiting : e.waiting with
    | some item =>
      have halive := course.alive_of_flow (by simp [flow, hwaiting])
      cases hchannel : e.session.channel with
      | nil =>
        have hsend : e.session.send item = .ok _ := if_pos halive
        exact ⟨_, .put hwaiting (by rw [hchannel]; exact room) hsend⟩
      | cons first rest => exact ⟨_, .take halive hchannel⟩
    | none =>
      cases hcalls : e.calls with
      | cons call calls =>
        have hroom := ledger.room
        rw [hcalls, List.flatMap_cons, List.length_append] at hroom
        have hfits : e.session.transcript.tokens.length + call.tokens.length ≤
            e.session.transcript.capacity := by omega
        obtain ⟨t, hprompt, -⟩ := Session.prompt_ok hfits
        cases call with
        | prompt ids => exact ⟨_, .prompt hwaiting hcalls hprompt⟩
        | update ids => exact ⟨_, .update hwaiting hcalls hprompt⟩
      | nil =>
        cases hclosed : e.session.closed with
        | false => exact ⟨_, .close hwaiting hcalls hclosed⟩
        | true =>
          have halive : e.session.worker.alive = true := by
            by_contra hdead
            exact h ⟨hcalls, hclosed, eq_false_of_ne_true hdead⟩
          obtain ⟨before, -, hflow⟩ := course.marked hclosed halive
          cases hchannel : e.session.channel with
          | nil => simp [flow, hhand, hwaiting, hchannel] at hflow
          | cons first rest => exact ⟨_, .take halive hchannel⟩
  · exact ⟨_, .turn hhand⟩

theorem Step.quiet {e e' : Exchange σ} (h : Step d l size e e')
    (quiet : e'.session.worker.failure = none) : e.session.worker.failure = none := by
  cases h with
  | prompt hwaiting hcalls hprompt =>
    obtain ⟨t, rfl, -⟩ := prompt_eq hprompt
    exact quiet
  | update hwaiting hcalls hprompt =>
    obtain ⟨t, rfl, -⟩ := prompt_eq hprompt
    exact quiet
  | close hwaiting hcalls hopen => exact quiet
  | put hwaiting hroom hsend =>
    rw [send_eq hsend] at quiet
    exact quiet
  | take halive hchannel => exact quiet
  | turn hhand => exact Worker.quiet_of_round quiet

theorem Run.keeps {n : Nat} {e e' : Exchange σ} (h : Run d l size n e e') {audience : σ}
    (course : e.Course) {made : List Call} (ledger : Ledger d l audience made e)
    (quiet : e'.session.worker.failure = none) :
    e'.Course ∧ ∃ made', made' ++ e'.calls = made ++ e.calls ∧ Ledger d l audience made' e' := by
  induction h with
  | nil => exact ⟨course, made, rfl, ledger⟩
  | step _ hstep ih =>
    obtain ⟨hcourse, made', hmade, hledger⟩ := ih course ledger (hstep.quiet quiet)
    obtain ⟨made'', hmade', hledger'⟩ := hledger.step hcourse hstep quiet
    exact ⟨hcourse.step hstep quiet, made'', hmade'.trans hmade, hledger'⟩

/-- The accounts of a session that was closed after some calls. -/
structure Settled (d : Detokenizer) (l : Listener σ) (audience : σ) (calls : List Call)
    (e : Exchange σ) : Prop where
  outcome_eq : e.session.outcome = .ok ()
  transcript_eq : e.session.transcript.tokens = calls.flatMap Call.tokens
  stopped_iff : e.session.stopped = true ↔ ∃ id ∈ calls.flatMap Call.sampled, id ∈ d.stopIds
  generated_eq : e.session.generated = (d.beforeStop (calls.flatMap Call.sampled)).length
  handed_eq : e.handed.flatten = d.beforeStop (calls.flatMap Call.sampled)
  worker_eq : e.session.worker =
    Worker.conclude d l ((Worker.fed d l audience e.handed).flag e.session.stopped)

theorem Ledger.settled {audience : σ} {calls : List Call} {e : Exchange σ}
    (h : Ledger d l audience calls e) (course : e.Course) (closed : e.Closed)
    (quiet : e.session.worker.failure = none) : Settled d l audience calls e := by
  have hflow := course.ended closed.alive_eq
  have hworker := h.ended_eq closed.alive_eq
  have hhanded : e.handed.flatten = d.beforeStop (calls.flatMap Call.sampled) ∧
      (calls.flatMap Call.sampled).any d.stops = e.session.stopped := by
    cases hstopped : e.session.stopped with
    | true => exact h.stopped hstopped
    | false =>
      obtain ⟨heq, hnone⟩ := h.running hstopped
      rw [hflow, List.flatMap_nil, List.append_nil] at heq
      rw [heq, Detokenizer.beforeStop_eq_self hnone]
      exact ⟨rfl, hnone⟩
  have hgenerated : e.session.generated = e.handed.flatten.length := by
    have hquiet := hworker ▸ quiet
    rw [Session.generated, hworker, (Worker.conclude_keeps hquiet).2.2.1, Worker.generated_flag,
      (Worker.fed_keeps audience e.handed).2.2]
  refine ⟨by rw [Session.outcome, quiet], h.transcript_eq, ?_, hhanded.1 ▸ hgenerated, hhanded.1,
    hworker⟩
  rw [← hhanded.2, List.any_eq_true]
  simp only [Detokenizer.stops, List.contains_iff_mem]

theorem Run.trans {n m : Nat} {e e' e'' : Exchange σ} (h : Run d l size n e e')
    (more : Run d l size m e' e'') : Run d l size (n + m) e e'' := by
  induction more with
  | nil => exact h
  | step _ hstep ih => exact .step (ih h) hstep

theorem run_update {e : Exchange σ} {ids : List Int} {rest : List Call} {s : Session σ}
    (waiting : e.waiting = none) (calls : e.calls = .update ids :: rest)
    (room : e.session.channel.length < size) (h : e.session.update ids = (.ok (), s)) :
    ∃ n, Run d l size n e { e with session := s, calls := rest } := by
  cases hprompt : e.session.prompt ids with
  | error f => simp [Session.update, hprompt] at h
  | ok recorded =>
    have hcall : Step d l size e _ := .update waiting calls hprompt
    obtain ⟨t, rfl, -⟩ := prompt_eq hprompt
    simp only [Session.update, hprompt] at h
    by_cases hstopped : Session.stopped { e.session with transcript := t }
    · rw [if_pos hstopped] at h
      rw [toSend, if_pos hstopped] at hcall
      cases h
      exact ⟨1, by simpa [waiting] using Run.step .nil hcall⟩
    · rw [if_neg hstopped] at h
      rw [toSend, if_neg hstopped] at hcall
      cases hsend : Session.send { e.session with transcript := t } (.batch ids) with
      | error f => simp [hsend] at h
      | ok sent =>
        rw [hsend] at h
        cases h
        exact ⟨2, by simpa [waiting] using (Run.step .nil hcall).step (.put rfl room hsend)⟩

theorem run_takes {items rest : List ChannelItem} {e : Exchange σ}
    (alive : e.session.worker.alive) (channel : e.session.channel = items ++ rest) :
    Run d l size items.length e
      { e with session := { e.session with channel := rest }, hand := e.hand ++ items } := by
  induction items generalizing e with
  | nil =>
    obtain ⟨session, _, _, _, _⟩ := e
    obtain ⟨_, _, _, _⟩ := session
    cases channel
    simpa using Run.nil
  | cons item items ih =>
    have hfirst : Step d l size e _ := .take alive channel
    have hrest := ih
      (e := { e with
        session := { e.session with channel := items ++ rest }, hand := e.hand ++ [item] }) alive rfl
    have hrun := (Run.step .nil hfirst).trans hrest
    rw [List.length_cons, Nat.add_comm]
    simpa using hrun

theorem run_work {e : Exchange σ} (alive : e.session.worker.alive) (hand : e.hand = []) (n : Nat) :
    ∃ m handed, Run d l size m e { e with session := e.session.work d l n, handed } := by
  have htakes : Run d l size _ e _ :=
    run_takes alive (List.take_append_drop n e.session.channel).symm
  rw [hand, List.nil_append] at htakes
  rw [Session.work, if_pos alive]
  by_cases hnone : e.session.channel.take n = []
  · have hidle : e.session.worker.round d l [] = e.session.worker := by
      simp only [Worker.round, if_pos alive]
      rfl
    rw [hnone] at htakes ⊢
    rw [hidle]
    obtain ⟨session, calls, waiting, held, handed⟩ := e
    cases hand
    exact ⟨_, handed, htakes⟩
  · have hrun := htakes.step (.turn hnone)
    refine ⟨(e.session.channel.take n).length + 1, Worker.logged e.handed
      (Worker.intake d.stopIds e.session.stopped (e.session.channel.take n)).1, ?_⟩
    simpa only [turned, hand, Session.stopped] using hrun

/-- Closing at one go: the end mark is sent, and one round takes all there is. -/
theorem run_close {e : Exchange σ} (waiting : e.waiting = none) (calls : e.calls = [])
    (hand : e.hand = []) (open_ : e.session.closed = false) (alive : e.session.worker.alive)
    (room : e.session.channel.length < size) :
    ∃ m handed, Run d l size m e { e with session := (e.session.close d l).2, handed } := by
  have hcall : Step d l size e _ := .close waiting calls open_
  rw [toFinish, if_pos alive] at hcall
  have hsend : Session.send { e.session with closed := true } .finish = .ok _ := if_pos alive
  have hput := (Run.step .nil hcall).step (.put rfl room hsend)
  have hshut : { e with session := e.session.shut, waiting := none }.session.worker.alive := by
    simp [Session.shut, open_, alive]
  obtain ⟨m, handed, hwork⟩ : ∃ m handed, Run d l size m _ _ :=
    run_work hshut hand e.session.shut.channel.length
  have hrun : Run d l size 2 e { e with session := e.session.shut, waiting := none } := by
    simpa [Session.shut, open_, alive] using hput
  refine ⟨2 + m, handed, ?_⟩
  simpa [Session.close, Session.drain, open_, waiting] using hrun.trans hwork

/-- Tokens that are code points, among which zero ends a text. -/
def letters : Detokenizer := { decode := Detokenizer.characters, stopIds := [0] }

end Exchange
end StreamingLM
