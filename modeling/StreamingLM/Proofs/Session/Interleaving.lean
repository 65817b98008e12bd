import StreamingLM.Proofs.Session.Round
import StreamingLM.Proofs.Session.Sound

/-!
A session with its driver and its worker side by side. The driver records tokens, looks at the stop
flag and puts batches on a bounded channel; the worker takes them off one by one and, whenever it
likes, makes a round over what it has taken. Every order of these steps comes to an end, and to the
same accounts: the transcript, the tokens before the first stop token, and their number.
-/
namespace StreamingLM

inductive Call where
  | prompt (tokens : List Int)
  | update (tokens : List Int)
  deriving DecidableEq, Repr

namespace Call

def tokens : Call → List Int
  | prompt ids => ids
  | update ids => ids

def sampled : Call → List Int
  | prompt _ => []
  | update ids => ids

end Call

/-- A session between two parties: the calls that the driver has still to make before it closes the
session, the item that it waits to put on the channel, the items that the worker has taken for its
next round, and the lists of tokens that were handed to the decoder. -/
structure Exchange (σ : Type) where
  session : Session σ
  calls : List Call
  waiting : Option ChannelItem := none
  hand : List ChannelItem := []
  handed : List (List Int) := []

namespace Exchange

variable {σ : Type} {d : Detokenizer} {l : Listener σ} {size : Nat}

/-- A batch is sent on unless the stop flag is up. -/
def toSend (s : Session σ) (ids : List Int) : Option ChannelItem :=
  if s.stopped then none else some (.batch ids)

/-- The end mark is sent to a worker that is running. -/
def toFinish (s : Session σ) : Option ChannelItem := if s.worker.alive then some .finish else none

def turned (d : Detokenizer) (l : Listener σ) (e : Exchange σ) : Exchange σ :=
  { e with
    session := { e.session with worker := e.session.worker.round d l e.hand }
    hand := []
    handed := Worker.logged e.handed (Worker.intake d.stopIds e.session.stopped e.hand).1 }

/-- A step of the driver or of the worker, over a channel for `size` items. -/
inductive Step (d : Detokenizer) (l : Listener σ) (size : Nat) : Exchange σ → Exchange σ → Prop
  | prompt {e : Exchange σ} {ids rest s} : e.waiting = none → e.calls = .prompt ids :: rest →
      e.session.prompt ids = .ok s → Step d l size e { e with session := s, calls := rest }
  | update {e : Exchange σ} {ids rest s} : e.waiting = none → e.calls = .update ids :: rest →
      e.session.prompt ids = .ok s →
      Step d l size e { e with session := s, calls := rest, waiting := toSend s ids }
  | close {e : Exchange σ} : e.waiting = none → e.calls = [] → e.session.closed = false →
      Step d l size e
        { e with session := { e.session with closed := true }, waiting := toFinish e.session }
  | put {e : Exchange σ} {item s} : e.waiting = some item → e.session.channel.length < size →
      e.session.send item = .ok s → Step d l size e { e with session := s, waiting := none }
  | take {e : Exchange σ} {item rest} : e.session.worker.alive →
      e.session.channel = item :: rest →
      Step d l size e
        { e with session := { e.session with channel := rest }, hand := e.hand ++ [item] }
  | turn {e : Exchange σ} : e.hand ≠ [] → Step d l size e (e.turned d l)

inductive Run (d : Detokenizer) (l : Listener σ) (size : Nat) :
    Nat → Exchange σ → Exchange σ → Prop
  | nil {e : Exchange σ} : Run d l size 0 e e
  | step {n : Nat} {e e' e'' : Exchange σ} :
      Run d l size n e e' → Step d l size e' e'' → Run d l size (n + 1) e e''

/-- Closing has returned: all calls are made and the worker has ended. -/
structure Closed (e : Exchange σ) : Prop where
  calls_eq : e.calls = []
  closed_eq : e.session.closed = true
  alive_eq : e.session.worker.alive = false

/-- What is under way from the driver to the worker. -/
def flow (e : Exchange σ) : List ChannelItem := e.hand ++ (e.session.channel ++ e.waiting.toList)

theorem prompt_eq {s s' : Session σ} {ids : List Int} (h : s.prompt ids = .ok s') :
    ∃ t, s' = { s with transcript := t } ∧ t.tokens = s.transcript.tokens ++ ids ∧
      t.capacity = s.transcript.capacity := by
  simp only [Session.prompt, bind, Except.bind, pure, Except.pure] at h
  split at h
  · cases h
  · rename_i t ht
    cases h
    exact ⟨t, rfl, Transcript.tokens_append ht⟩

theorem send_eq {s s' : Session σ} {item : ChannelItem} (h : s.send item = .ok s') :
    s' = { s with channel := s.channel ++ [item] } := by
  unfold Session.send at h
  split at h
  · cases h
    rfl
  · cases h

/-- Where the end mark is: it comes last, once the session is closed and until the worker has
ended. -/
structure Course (e : Exchange σ) : Prop where
  calls_eq : e.session.closed = true → e.calls = []
  running : e.session.closed = false → e.session.worker.alive = true ∧ .finish ∉ e.flow
  marked : e.session.closed = true → e.session.worker.alive = true →
    ∃ before, .finish ∉ before ∧ e.flow = before ++ [.finish]
  ended : e.session.worker.alive = false → e.flow = []

namespace Course

variable {e e' : Exchange σ}

theorem alive_of_flow (h : e.Course) (some_ : e.flow ≠ []) : e.session.worker.alive = true := by
  cases halive : e.session.worker.alive with
  | true => rfl
  | false => exact absurd (h.ended halive) some_

theorem hand_eq (h : e.Course) (some_ : e.hand ≠ []) :
    ∃ items rest, e.hand = items ++ rest ∧ .finish ∉ items ∧
      (rest = [] ∧ (e.session.closed = true →
          ∃ before, .finish ∉ before ∧
            e.session.channel ++ e.waiting.toList = before ++ [.finish]) ∨
        rest = [.finish] ∧ e.session.closed = true ∧ e.session.channel ++ e.waiting.toList = []) := by
  have hflow : e.flow ≠ [] := by simp [flow, some_]
  cases hclosed : e.session.closed with
  | false =>
    refine ⟨e.hand, [], by simp, ?_, .inl ⟨rfl, by simp⟩⟩
    exact fun hmem => (h.running hclosed).2 (List.mem_append_left _ hmem)
  | true =>
    obtain ⟨before, hbefore, heq⟩ := h.marked hclosed (h.alive_of_flow hflow)
    obtain hnone | ⟨more, last, hmore⟩ :=
      (e.session.channel ++ e.waiting.toList).eq_nil_or_concat
    · refine ⟨before, [.finish], ?_, hbefore, .inr ⟨rfl, rfl, hnone⟩⟩
      rw [← heq, flow, hnone, List.append_nil]
    · rw [List.concat_eq_append] at hmore
      rw [flow, hmore, ← List.append_assoc] at heq
      obtain ⟨hhand, hlast⟩ := List.append_inj' heq rfl
      refine ⟨e.hand, [], by simp, ?_, .inl ⟨rfl, fun _ => ⟨more, ?_, hlast ▸ hmore⟩⟩⟩
      · exact fun hmem => hbefore (hhand ▸ List.mem_append_left _ hmem)
      · exact fun hmem => hbefore (hhand ▸ List.mem_append_right _ hmem)

/-- A step that neither closes the session nor takes part in a round keeps the order, when it adds
at most a batch to what is under way. -/
theorem of_flow (h : e.Course) (more : List ChannelItem) (unmarked : .finish ∉ more)
    (opened : more ≠ [] → e.session.closed = false) (flow_eq : e'.flow = e.flow ++ more)
    (closed_eq : e'.session.closed = e.session.closed)
    (alive_eq : e'.session.worker.alive = e.session.worker.alive)
    (calls : e'.session.closed = true → e'.calls = []) : e'.Course := by
  refine ⟨calls, ?_, ?_, ?_⟩
  · intro hopen
    obtain ⟨halive, hflow⟩ := h.running (closed_eq ▸ hopen)
    exact ⟨alive_eq.trans halive, by rw [flow_eq]; simp [hflow, unmarked]⟩
  · intro hclosed halive
    have hnone : more = [] := by
      by_contra hsome
      exact absurd (closed_eq ▸ hclosed) (by simp [opened hsome])
    rw [flow_eq, hnone, List.append_nil]
    exact h.marked (closed_eq ▸ hclosed) (alive_eq ▸ halive)
  · intro hdead
    have hopen : e.session.closed ≠ false := fun hopen => by
      have := (h.running hopen).1
      simp [← alive_eq, hdead] at this
    have hnone : more = [] := by
      by_contra hsome
      exact hopen (opened hsome)
    rw [flow_eq, hnone, List.append_nil]
    exact h.ended (alive_eq ▸ hdead)

theorem step (h : e.Course) (hstep : Step d l size e e')
    (quiet : e'.session.worker.failure = none) : e'.Course := by
  cases hstep with
  | prompt hwaiting hcalls hprompt =>
    obtain ⟨t, rfl, -⟩ := prompt_eq hprompt
    have hopen : e.session.closed ≠ true := fun hclosed => by simp [h.calls_eq hclosed] at hcalls
    exact h.of_flow [] (by simp) (by simp) (by simp [flow]) rfl rfl
      fun hclosed => absurd hclosed hopen
  | @update ids rest s hwaiting hcalls hprompt =>
    obtain ⟨t, rfl, -⟩ := prompt_eq hprompt
    have hopen : e.session.closed ≠ true := fun hclosed => by simp [h.calls_eq hclosed] at hcalls
    have hunmarked : ChannelItem.finish ∉ (toSend { e.session with transcript := t } ids).toList := by
      unfold toSend
      split <;> simp
    exact h.of_flow _ hunmarked (fun _ => by simpa using hopen) (by simp [flow, hwaiting]) rfl rfl
      fun hclosed => absurd hclosed hopen
  | close hwaiting hcalls hopen =>
    obtain ⟨halive, hflow⟩ := h.running hopen
    refine ⟨fun _ => hcalls, by simp, fun _ _ => ⟨e.flow, hflow, ?_⟩, by simp [halive]⟩
    simp [flow, hwaiting, toFinish, halive]
  | put hwaiting hroom hsend =>
    rw [send_eq hsend]
    exact h.of_flow [] (by simp) (by simp) (by simp [flow, hwaiting]) rfl rfl h.calls_eq
  | take halive hchannel =>
    exact h.of_flow [] (by simp) (by simp) (by simp [flow, hchannel]) rfl rfl h.calls_eq
  | turn hhand =>
    have hflow : e.flow ≠ [] := by simp [flow, hhand]
    obtain ⟨-, -, hround⟩ := Worker.round_keeps (h.alive_of_flow hflow) quiet
    obtain ⟨items, rest, heq, hitems, hrest⟩ := h.hand_eq hhand
    have hended := Worker.intake_ended d.stopIds hitems e.session.worker.stopped rest
      (hrest.imp And.left And.left)
    have halive : (e.turned d l).session.worker.alive = rest.isEmpty := by
      rw [← Bool.not_not rest.isEmpty, ← hended, ← heq]
      exact hround
    have hcalls : (e.turned d l).session.closed = true → (e.turned d l).calls = [] := h.calls_eq
    obtain ⟨rfl, hmarked⟩ | ⟨rfl, hclosed, hnone⟩ := hrest
    · refine ⟨hcalls, fun hopen => ⟨halive, ?_⟩, fun hclosed _ => ?_, ?_⟩
      · exact fun hmem => (h.running hopen).2 (List.mem_append_right _ hmem)
      · exact hmarked hclosed
      · exact fun hdead => absurd (halive.symm.trans hdead) (by simp)
    · refine ⟨hcalls, fun hopen => ?_, fun _ hrunning => ?_, fun _ => hnone⟩
      · exact absurd (hclosed.symm.trans hopen) (by simp)
      · exact absurd (halive.symm.trans hrunning) (by simp)

end Course

/-- The accounts of a session while it runs: what the calls made so far have recorded, where the
tokens that they sampled are, and what the worker has been handed. -/
structure Ledger (d : Detokenizer) (l : Listener σ) (audience : σ) (made : List Call)
    (e : Exchange σ) : Prop where
  transcript_eq : e.session.transcript.tokens = made.flatMap Call.tokens
  room : e.session.transcript.tokens.length + (e.calls.flatMap Call.tokens).length ≤
    e.session.transcript.capacity
  running : e.session.stopped = false →
    made.flatMap Call.sampled = e.handed.flatten ++ e.flow.flatMap ChannelItem.tokens ∧
      e.handed.flatten.any d.stops = false
  stopped : e.session.stopped = true →
    e.handed.flatten = d.beforeStop (made.flatMap Call.sampled) ∧
      (made.flatMap Call.sampled).any d.stops = true
  worker_eq : e.session.worker.alive = true →
    e.session.worker = (Worker.fed d l audience e.handed).flag e.session.stopped
  ended_eq : e.session.worker.alive = false →
    e.session.worker =
      Worker.conclude d l ((Worker.fed d l audience e.handed).flag e.session.stopped)

namespace Ledger

variable {audience : σ} {made made' : List Call} {e e' : Exchange σ}

theorem of_flow (h : Ledger d l audience made e)
    (transcript_eq : e'.session.transcript.tokens = made'.flatMap Call.tokens)
    (room : e'.session.transcript.tokens.length + (e'.calls.flatMap Call.tokens).length ≤
      e'.session.transcript.capacity)
    (sampled_eq : made'.flatMap Call.sampled = made.flatMap Call.sampled)
    (flow_eq : e'.flow.flatMap ChannelItem.tokens = e.flow.flatMap ChannelItem.tokens)
    (worker_eq : e'.session.worker = e.session.worker) (handed_eq : e'.handed = e.handed) :
    Ledger d l audience made' e' := by
  have hstopped : e'.session.stopped = e.session.stopped := congrArg Worker.stopped worker_eq
  refine ⟨transcript_eq, room, ?_, ?_, ?_, ?_⟩ <;>
    rw [handed_eq, hstopped]
  · rw [sampled_eq, flow_eq]
    exact h.running
  · rw [sampled_eq]
    exact h.stopped
  · rw [worker_eq]
    exact h.worker_eq
  · rw [worker_eq]
    exact h.ended_eq

theorem update (h : Ledger d l audience made e) {ids : List Int} {rest : List Call}
    {t : Transcript} (waiting : e.waiting = none) (calls : e.calls = .update ids :: rest)
    (tokens_eq : t.tokens = e.session.transcript.tokens ++ ids)
    (capacity_eq : t.capacity = e.session.transcript.capacity) :
    Ledger d l audience (made ++ [.update ids])
      { e with
        session := { e.session with transcript := t }, calls := rest
        waiting := toSend { e.session with transcript := t } ids } := by
  have hsampled : (made ++ [Call.update ids]).flatMap Call.sampled =
      made.flatMap Call.sampled ++ ids := by simp [Call.sampled]
  have hroom := h.room
  rw [calls] at hroom
  refine ⟨?_, ?_, fun hrunning => ?_, fun hstopped => ?_, h.worker_eq, h.ended_eq⟩
  · simp [tokens_eq, h.transcript_eq, Call.tokens]
  · simp only [tokens_eq, capacity_eq, List.flatMap_cons, Call.tokens, List.length_append] at hroom ⊢
    omega
  · obtain ⟨heq, hnone⟩ := h.running hrunning
    have hsend : toSend { e.session with transcript := t } ids = some (.batch ids) := by
      rw [toSend, if_neg (by rw [hrunning]; simp)]
    refine ⟨?_, hnone⟩
    rw [hsampled, heq, flow, flow, hsend, waiting]
    simp [ChannelItem.tokens]
  · obtain ⟨heq, hany⟩ := h.stopped hstopped
    rw [hsampled, Detokenizer.beforeStop_append, if_pos hany, List.any_append, hany]
    exact ⟨heq, rfl⟩

theorem turn (h : Ledger d l audience made e) (course : e.Course) (hand : e.hand ≠ [])
    (quiet : (e.turned d l).session.worker.failure = none) :
    Ledger d l audience made (e.turned d l) := by
  have hflow : e.flow ≠ [] := by simp [flow, hand]
  have halive := course.alive_of_flow hflow
  obtain ⟨-, hflag, -⟩ := Worker.round_keeps halive quiet
  obtain ⟨hgo, hend⟩ := Worker.round_fed (h.worker_eq halive) halive quiet
  obtain ⟨items, rest, heq, hitems, hrest⟩ := course.hand_eq hand
  have hlast : rest = [] ∨ rest = [.finish] := hrest.imp And.left And.left
  have hmark : rest.flatMap ChannelItem.tokens = [] := by
    obtain rfl | rfl := hlast <;> rfl
  have htokens : e.flow.flatMap ChannelItem.tokens =
      items.flatMap ChannelItem.tokens ++ (e.turned d l).flow.flatMap ChannelItem.tokens := by
    simp [flow, heq, hmark, turned]
  have hhanded : (e.turned d l).handed.flatten =
      e.handed.flatten ++ (Worker.intake d.stopIds e.session.stopped e.hand).1 :=
    Worker.flatten_logged _ _
  have hnext : (e.turned d l).session.stopped =
      (Worker.intake d.stopIds e.session.stopped e.hand).2.1 := hflag
  rw [heq] at hhanded hnext
  refine ⟨h.transcript_eq, h.room, fun hrunning => ?_, fun hraised => ?_, hgo, hend⟩
  · have hstopped : e.session.stopped = false := by
      by_contra hraised
      rw [hnext, eq_true_of_ne_false hraised] at hrunning
      exact absurd ((Worker.intake_stopped _ _).2.symm.trans hrunning) (by simp)
    obtain ⟨htaken, hflagged⟩ := Worker.intake_running d hitems rest hlast
    obtain ⟨hsampled, hnone⟩ := h.running hstopped
    rw [hstopped, hflagged] at hnext
    rw [hnext] at hrunning
    rw [hhanded, hstopped, htaken, Detokenizer.beforeStop_eq_self hrunning]
    exact ⟨by rw [hsampled, htokens, List.append_assoc], by rw [List.any_append, hnone, hrunning]; rfl⟩
  · cases hstopped : e.session.stopped with
    | true =>
      rw [hhanded, hstopped, (Worker.intake_stopped _ _).1, List.append_nil]
      exact h.stopped hstopped
    | false =>
      obtain ⟨htaken, hflagged⟩ := Worker.intake_running d hitems rest hlast
      obtain ⟨hsampled, hnone⟩ := h.running hstopped
      rw [hstopped, hflagged] at hnext
      rw [hnext] at hraised
      rw [hhanded, hstopped, htaken, hsampled, htokens, Detokenizer.beforeStop_append, hnone,
        if_neg Bool.false_ne_true, Detokenizer.beforeStop_append, if_pos hraised]
      exact ⟨rfl, by simp [hraised]⟩

theorem step (h : Ledger d l audience made e) (course : e.Course) (hstep : Step d l size e e')
    (quiet : e'.session.worker.failure = none) :
    ∃ made', made' ++ e'.calls = made ++ e.calls ∧ Ledger d l audience made' e' := by
  cases hstep with
  | @prompt ids rest s hwaiting hcalls hprompt =>
    obtain ⟨t, rfl, htokens, hcapacity⟩ := prompt_eq hprompt
    have hroom := h.room
    rw [hcalls] at hroom
    refine ⟨made ++ [.prompt ids], by simp [hcalls], h.of_flow ?_ ?_ ?_ rfl rfl rfl⟩
    · simp [htokens, h.transcript_eq, Call.tokens]
    · simp only [htokens, hcapacity, List.flatMap_cons, Call.tokens, List.length_append] at hroom ⊢
      omega
    · simp [Call.sampled]
  | @update ids rest s hwaiting hcalls hprompt =>
    obtain ⟨t, rfl, htokens, hcapacity⟩ := prompt_eq hprompt
    exact ⟨made ++ [.update ids], by simp [hcalls], h.update hwaiting hcalls htokens hcapacity⟩
  | close hwaiting hcalls hopen =>
    refine ⟨made, rfl, h.of_flow h.transcript_eq h.room rfl ?_ rfl rfl⟩
    simp only [flow, hwaiting, toFinish]
    split <;> simp [ChannelItem.tokens]
  | put hwaiting hroom hsend =>
    rw [send_eq hsend]
    exact ⟨made, rfl, h.of_flow h.transcript_eq h.room rfl (by simp [flow, hwaiting]) rfl rfl⟩
  | take halive hchannel =>
    exact ⟨made, rfl, h.of_flow h.transcript_eq h.room rfl (by simp [flow, hchannel]) rfl rfl⟩
  | turn hhand => exact ⟨made, rfl, h.turn course hhand quiet⟩

end Ledger

end Exchange
end StreamingLM
