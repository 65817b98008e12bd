import StreamingLM.Proofs.Server.Ledger

/-!
An actor behind any run. Every request that it accepted is executed once, in its turn, unless it was
cancelled before; and the call that ends the actor finds all of them done.
-/
namespace StreamingLM

variable {σ ρ : Type}

def Actor.Idle (a : Actor σ ρ) : Prop := ∀ e a', ¬ a.Turn e a'

/-- Turns that the thread has left for what it is doing. -/
def Duty.left : Duty σ ρ → Nat
  | waiting | ended => 0
  | holding _ => 3
  | running _ | draining => 2
  | replying _ _ => 1

def Actor.left (a : Actor σ ρ) : Nat := 4 * a.queue.length + a.duty.left

/-- Steps that the ending call has left, and the turns that it makes for the thread. -/
def Exit.left : Exit → Nat
  | before => 9
  | locked => 8
  | barred => 7
  | marked => 2
  | joining => 1
  | returned => 0

theorem Actor.Turn.left_lt {a a' : Actor σ ρ} {e : Event σ ρ} (h : a.Turn e a') :
    a'.left < a.left := by
  cases h with
  | fetch duty queue => simp [Actor.left, duty, queue, Duty.left]; omega
  | halt duty => simp [Actor.left, duty, Duty.left]
  | begin duty reply => simp [Actor.left, duty, Duty.left]
  | skip duty reply => simp [Actor.left, duty, Duty.left]
  | execute duty => simp [Actor.left, duty, Actor.execute, Duty.left]
  | answer duty => simp [Actor.left, duty, Actor.answer, Duty.left]
  | discard duty queue =>
    obtain ⟨replies, hdrain⟩ := Actor.drain_cons queue
    simp [Actor.left, hdrain, queue]
  | finish duty queue => simp [Actor.left, duty, queue, Duty.left]

namespace Reception

variable {unload : σ → σ} {first : σ} {es : List (Event σ ρ)} {f f' : Reception σ ρ}
  {e : Event σ ρ}

def left (f : Reception σ ρ) : Nat := f.actor.left + f.exit.left

/-- A turn of the thread and a step of the ending call leave less to do; only a new request leaves
more. -/
theorem Step.left_add (h : Step unload f e f') :
    (if e.byThread || e.byExit then 1 else 0) + f'.left ≤ f.left + 4 * e.accepted?.toList.length := by
  cases h with
  | turn turn =>
    have hlt := turn.left_lt
    simp only [turn.byThread, Bool.true_or, if_true, left]
    omega
  | cancel ticket reply =>
    rw [Actor.cancel_pending reply]
    exact Nat.le_of_eq (Nat.zero_add _)
  | enter | pass | refuse | leave => exact Nat.le_of_eq (Nat.zero_add _)
  | @accept action holder =>
    change 0 + ((f.actor.accept action).left + f.exit.left) ≤ f.left + 4 * 1
    simp only [left, Actor.accept, Actor.left, List.length_append, List.length_singleton]
    omega
  | lock free exit =>
    change 1 + (f.actor.left + Exit.locked.left) ≤ f.left + 4 * 0
    simp only [left, exit, Exit.left]
    omega
  | bar exit unbarred =>
    change 1 + (f.actor.left + Exit.barred.left) ≤ f.left + 4 * 0
    simp only [left, exit, Exit.left]
    omega
  | mark exit =>
    change 1 + (f.actor.mark.left + Exit.marked.left) ≤ f.left + 4 * 0
    simp only [left, exit, Exit.left, Actor.mark, Actor.left, List.length_append,
      List.length_singleton]
    omega
  | unlock exit =>
    change 1 + (f.actor.left + Exit.joining.left) ≤ f.left + 4 * 0
    simp only [left, exit, Exit.left]
    omega
  | release exit duty =>
    change 1 + (f.actor.left + Exit.returned.left) ≤ f.left + 4 * 0
    simp only [left, exit, Exit.left]
    omega

theorem Run.left_add (h : Run unload es f f') :
    es.countP (fun e => e.byThread || e.byExit) + f'.left ≤ f.left + 4 * (accepted es).length := by
  induction h with
  | nil => simp
  | step run next ih =>
    have hstep := next.left_add
    simp only [List.countP_append, List.countP_singleton, accepted_concat, List.length_append]
    omega

/-- What every run keeps. The ending call releases the server as the last request has left it. -/
structure Kept (unload : σ → σ) (first : σ) (es : List (Event σ ρ)) (f : Reception σ ρ) : Prop where
  guarded : f.Guarded
  ledger : ∃ past last, Ledger first es f.actor past last ∧
    (f.exit ≠ .returned → last = f.actor.server) ∧
    (f.exit = .returned → f.actor.server = unload last)

theorem Kept.step (h : Kept unload first es f) (next : Step unload f e f') :
    Kept unload first (es ++ [e]) f' := by
  refine ⟨h.guarded.step next, ?_⟩
  obtain ⟨past, last, hledger, hopen, hreturned⟩ := h.ledger
  cases next with
  | enter | pass | refuse | leave =>
    exact ⟨past, last, hledger.silent rfl rfl rfl rfl (by simp) rfl rfl ⟨rfl, rfl, rfl⟩, hopen,
      hreturned⟩
  | @accept action holder => exact ⟨past, last, hledger.accept action, hopen, hreturned⟩
  | cancel ticket reply =>
    have hserver := congrArg Actor.server (Actor.cancel_pending reply)
    exact ⟨past, last, hledger.cancel reply, fun hexit => (hopen hexit).trans hserver.symm,
      fun hexit => hserver.trans (hreturned hexit)⟩
  | turn turn =>
    have hexit : f.exit ≠ .returned := fun hexit => turn.not_ended (h.guarded.returned hexit)
    obtain ⟨past', hledger'⟩ := hledger.turn (hopen hexit) turn fun hdraining =>
      h.guarded.queue_nil (by rw [hdraining]; rfl)
    exact ⟨past', _, hledger', fun _ => rfl, fun h => absurd h hexit⟩
  | lock _ exit | bar exit _ | unlock exit =>
    exact ⟨past, last, hledger.silent rfl rfl rfl rfl (by simp) rfl rfl ⟨rfl, rfl, rfl⟩,
      fun _ => hopen (by simp [exit]), by simp⟩
  | mark exit =>
    have hflow : f.actor.mark.flow.reduceOption = f.actor.flow.reduceOption := by
      simp [Actor.flow, Actor.mark, List.reduceOption_append]
    exact ⟨past, last, hledger.silent rfl rfl rfl rfl (by simp) hflow rfl ⟨rfl, rfl, rfl⟩,
      fun _ => hopen (by simp [exit]), by simp⟩
  | release exit duty =>
    exact ⟨past, last, hledger.silent rfl rfl rfl rfl (by simp) rfl rfl ⟨rfl, rfl, rfl⟩, by simp,
      fun _ => by rw [Actor.release, hopen (by simp [exit])]⟩

theorem Kept.run (h : Kept unload first es f) {es' : List (Event σ ρ)} (run : Run unload es' f f') :
    Kept unload first (es ++ es') f' := by
  induction run with
  | nil => simpa using h
  | step run next ih =>
    rw [← List.append_assoc]
    exact (ih h).step next

theorem Run.kept {server : σ} (h : Run unload es ⟨{ server }, none, .before⟩ f) :
    Kept unload server es f :=
  have hfresh : Kept unload server [] (⟨{ server }, none, .before⟩ : Reception σ ρ) :=
    ⟨Guarded.init server, [], server, Ledger.init server, fun _ => rfl, by simp⟩
  hfresh.run h

theorem Kept.duty_of_idle (h : Kept unload first es f) (idle : f.actor.Idle) :
    f.actor.duty = .waiting ∧ f.actor.queue = [] ∨ f.actor.duty = .ended := by
  obtain ⟨past, last, hledger, -⟩ := h.ledger
  cases hduty : f.actor.duty with
  | waiting =>
    cases hqueue : f.actor.queue with
    | nil => exact .inl ⟨rfl, rfl⟩
    | cons item rest => exact absurd (.fetch hduty hqueue) (idle _ _)
  | holding item =>
    cases item with
    | none => exact absurd (.halt hduty) (idle _ _)
    | some r =>
      obtain hpending | hcancelled := hledger.reply_of_holding hduty
      · exact absurd (.begin hduty hpending) (idle _ _)
      · exact absurd (.skip hduty hcancelled) (idle _ _)
  | running r => exact absurd (.execute hduty) (idle _ _)
  | replying r result => exact absurd (.answer hduty) (idle _ _)
  | draining =>
    cases hqueue : f.actor.queue with
    | nil => exact absurd (.finish hduty hqueue) (idle _ _)
    | cons item rest => exact absurd (.discard hduty hqueue) (idle _ _)
  | ended => exact .inr rfl

theorem Kept.ended_of_idle (h : Kept unload first es f) (marked : f.exit.sealed = true)
    (idle : f.actor.Idle) : f.actor.duty = .ended := by
  obtain ⟨hwaiting, hqueue⟩ | hended := h.duty_of_idle idle
  · obtain ⟨rs, hrs⟩ := h.guarded.marked marked
    simp [Actor.flow, hwaiting, hqueue] at hrs
  · exact hended

theorem Kept.progress (h : Kept unload first es f) (begun : f.exit ≠ .before)
    (unreturned : f.exit ≠ .returned) :
    ∃ e f', Step unload f e f' ∧ (e.byThread || e.byExit) = true := by
  cases hexit : f.exit with
  | before => exact absurd hexit begun
  | locked => exact ⟨_, _, .bar hexit (by rw [h.guarded.closed_eq, hexit]; rfl), rfl⟩
  | barred => exact ⟨_, _, .mark hexit, rfl⟩
  | marked => exact ⟨_, _, .unlock hexit, rfl⟩
  | joining =>
    by_cases hidle : f.actor.Idle
    · exact ⟨_, _, .release hexit (h.ended_of_idle (by rw [hexit]; rfl) hidle), rfl⟩
    · simp only [Actor.Idle, not_forall, not_not] at hidle
      obtain ⟨e, a, hturn⟩ := hidle
      exact ⟨e, _, .turn hturn, by rw [hturn.byThread]; rfl⟩
  | returned => exact absurd hexit unreturned

theorem Kept.flow_of_idle (h : Kept unload first es f) (idle : f.actor.Idle) :
    f.actor.flow.reduceOption = [] := by
  obtain ⟨hwaiting, hqueue⟩ | hended := h.duty_of_idle idle
  · simp [Actor.flow, hwaiting, hqueue]
  · have hqueue := h.guarded.queue_nil (by rw [hended]; rfl)
    simp [Actor.flow, hended, hqueue]

theorem Kept.done_of_idle (h : Kept unload first es f) (idle : f.actor.Idle) :
    ∀ reply ∈ f.actor.replies, reply.isDone = true := by
  obtain ⟨past, last, hledger, -⟩ := h.ledger
  have haccepted := hledger.accepted_eq
  rw [h.flow_of_idle idle, List.append_nil] at haccepted
  intro reply hreply
  obtain ⟨i, hi, rfl⟩ := List.getElem_of_mem hreply
  have hmem : i ∈ past.map (·.ticket) := by
    rw [← haccepted, hledger.tickets]
    exact List.mem_range.mpr hi
  obtain ⟨r, hr, rfl⟩ := List.mem_map.mp hmem
  obtain hcancelled | ⟨x, hx⟩ := hledger.done_past hr
  · rw [(List.getElem?_eq_some_iff.mp hcancelled).2]
    rfl
  · rw [(List.getElem?_eq_some_iff.mp hx).2]
    rfl

theorem Kept.step_of_idle (h : Kept unload first es f) (idle : f.actor.Idle) :
    f.actor.step = f.actor := by
  obtain ⟨hwaiting, hqueue⟩ | hended := h.duty_of_idle idle
  · simp only [Actor.step, hwaiting, Actor.fetch, hqueue]
  · simp only [Actor.step, hended]

theorem Kept.steps (h : Kept unload first es f) (n : Nat) :
    ∃ es', Run unload es' f { f with actor := Actor.steps n f.actor } ∧
      (f.actor.left ≤ n → (Actor.steps n f.actor).Idle) := by
  induction n generalizing es f with
  | zero =>
    refine ⟨[], .nil, fun hleft e a hturn => ?_⟩
    have hlt := hturn.left_lt
    simp only [Actor.steps] at hlt
    omega
  | succ n ih =>
    by_cases hidle : f.actor.Idle
    · obtain ⟨es', hrun, -⟩ := ih h
      have hstays : ∀ m, Actor.steps m f.actor = f.actor := fun m => by
        induction m with
        | zero => rfl
        | succ m ih => rw [Actor.steps, h.step_of_idle hidle, ih]
      rw [hstays] at hrun ⊢
      exact ⟨es', hrun, fun _ => hidle⟩
    · simp only [Actor.Idle, not_forall, not_not] at hidle
      obtain ⟨e, a, hturn⟩ := hidle
      have hnext : Step unload f e { f with actor := a } := .turn hturn
      obtain ⟨es', hrun, hidle⟩ := ih (h.step hnext)
      rw [Actor.steps, hturn.step_eq]
      have hlt := hturn.left_lt
      exact ⟨[e] ++ es', (Run.nil.step hnext).trans hrun, fun hleft => hidle (by simp only; omega)⟩

theorem Kept.settle (h : Kept unload first es f) :
    ∃ es', Run unload es' f { f with actor := f.actor.settle } ∧ f.actor.settle.Idle := by
  obtain ⟨es', hrun, hidle⟩ := h.steps (4 * f.actor.queue.length + 4)
  refine ⟨es', hrun, hidle ?_⟩
  have hduty : f.actor.duty.left ≤ 3 := by cases f.actor.duty <;> simp [Duty.left]
  rw [Actor.left]
  omega

/-- Behind any run, the ending call alone returns. -/
theorem Kept.shut (h : Kept unload first es f) (free : f.lock = none) (before : f.exit = .before) :
    ∃ es', Run unload es' f ⟨f.actor.shut unload, none, .returned⟩ := by
  obtain ⟨actor, lock, exit⟩ := f
  obtain rfl : lock = none := free
  obtain rfl : exit = .before := before
  have hopen : actor.closed = false := h.guarded.closed_eq
  have hmarked : Run unload [.lock, .bar, .mark, .unlock] ⟨actor, none, .before⟩
      ⟨actor.bar.mark, none, .joining⟩ :=
    (((Run.nil.step (.lock rfl rfl)).step (.bar rfl hopen)).step (.mark rfl)).step (.unlock rfl)
  obtain ⟨es', hsettled, hidle⟩ := (h.run hmarked).settle
  have hended : actor.bar.mark.settle.duty = .ended :=
    ((h.run hmarked).run hsettled).ended_of_idle rfl hidle
  have hshut : actor.shut unload = actor.bar.mark.settle.release unload := by
    simp only [Actor.shut, hopen, Bool.false_eq_true, if_false, hended]
  rw [hshut]
  exact ⟨_, (hmarked.trans hsettled).step (.release rfl hended)⟩

structure Served (unload : σ → σ) (first : σ) (es : List (Event σ ρ)) (f : Reception σ ρ) :
    Prop where
  /-- Tickets are given out in the order of submission, each to one request. -/
  tickets : (accepted es).map (·.ticket) = List.range f.actor.replies.length
  /-- Requests are executed one after the other in that order, whatever each of them comes to; only
  those are left out that were cancelled, and none once the thread has nothing to do. The ending call
  releases the server as the last of them has left it. -/
  runs : ∃ done left last,
    (accepted es).filter (stands es) = done ++ left ∧
    Actor.serve first done = (executed es, last) ∧
    (f.actor.Idle → left = []) ∧
    (f.exit ≠ .returned → f.actor.server = last) ∧
    (f.exit = .returned → f.actor.server = unload last)
  /-- Each execution has its own ticket, and no request is cancelled that has begun. -/
  once : ((executed es).map (·.1)).Nodup
  unbegun : ∀ t ∈ cancelled es, .begin t ∉ es
  /-- Executions are answered in turn with what they came to. Then, or when it is cancelled, a request
  is done. -/
  answers : answered es <+: executed es
  resolved_iff : ∀ t x, f.actor.replies[t]? = some (.resolved x) ↔ (t, x) ∈ answered es
  cancelled_iff : ∀ t, f.actor.replies[t]? = some .cancelled ↔ t ∈ cancelled es
  done : f.actor.Idle → ∀ reply ∈ f.actor.replies, reply.isDone = true
  behind : ∀ before after, f.actor.flow = before ++ none :: after → after = []
  /-- Behind the lock of the ending call, nothing is accepted, and every submission is told so. -/
  refused : ∀ before after, es = before ++ .lock :: after →
    accepted after = [] ∧ ∀ result ∈ told after, result = .error .actorClosed
  /-- When the ending call returns, the thread has nothing to do, and has done nothing since the
  server was released. -/
  returned : f.exit = .returned → f.actor.Idle
  released : ∀ before after, es = before ++ .release :: after → ∀ e ∈ after, e.byThread = false
  /-- Until then it gets the lock behind the submission that has it, and from there on it or the thread
  can go on, and not forever. -/
  admits : f.exit = .before → ∃ e f', Step unload f e f' ∧ (e = .lock ∨ e.bySubmission = true)
  progress : f.exit ≠ .before → f.exit ≠ .returned →
    ∃ e f', Step unload f e f' ∧ (e.byThread || e.byExit) = true
  bounded : es.countP (fun e => e.byThread || e.byExit) ≤ 4 * (accepted es).length + 9

/-- Any interleaving of submissions, cancelling callers, the thread and one ending call. -/
theorem serves {server : σ} (run : Run unload es { actor := { server } } f) :
    Served unload server es f := by
  have hkept := run.kept
  obtain ⟨past, last, hledger, hserver, hunloaded⟩ := hkept.ledger
  obtain ⟨rest, hfilter, hrest⟩ := hledger.filter_stands
  refine
    { tickets := hledger.tickets
      runs := ⟨past.filter (stands es) ++ f.actor.duty.executed, rest, last, hfilter, hledger.served,
        fun hidle => hrest (hkept.flow_of_idle hidle), fun hexit => (hserver hexit).symm, hunloaded⟩
      once := ?_
      unbegun := fun t hcancelled hbegun => ?_
      answers := ⟨_, hledger.answered_eq⟩
      resolved_iff := hledger.standing.resolved_iff
      cancelled_iff := hledger.standing.cancelled_iff
      done := hkept.done_of_idle
      behind := fun before after hflow => hkept.guarded.behind hflow
      refused := fun before after heq => ?_
      returned := fun hexit e a hturn => hturn.not_ended (hkept.guarded.returned hexit)
      released := fun before after heq => ?_
      admits := hkept.guarded.admits
      progress := hkept.progress
      bounded := ?_ }
  · have htickets := Actor.serve_tickets server (past.filter (stands es) ++ f.actor.duty.executed)
    rw [hledger.served] at htickets
    rw [htickets]
    have hsub : (past.filter (stands es) ++ f.actor.duty.executed).Sublist (accepted es) :=
      (List.sublist_append_left _ rest).trans (hfilter ▸ List.filter_sublist)
    exact (hsub.map _).nodup hledger.nodup
  · have hreply := (hledger.standing.cancelled_iff t).mpr hcancelled
    obtain hrunning | hanswered := hledger.begun t hbegun
    · simp [(hledger.standing.running_iff t).mpr hrunning] at hreply
    · obtain ⟨⟨t, x⟩, hx, rfl⟩ := List.mem_map.mp hanswered
      simp [(hledger.standing.resolved_iff t x).mpr hx] at hreply
  · subst heq
    obtain ⟨g, g', hbefore, hlock, hafter⟩ := run.around
    have hrefusing : g'.Refusing := by
      cases hlock with
      | lock free exit => exact ⟨by simp, by simp, by simp⟩
      | turn turn => cases turn
    exact (hrefusing.run (hbefore.kept.guarded.step hlock) hafter).2
  · subst heq
    obtain ⟨g, g', hbefore, hrelease, hafter⟩ := run.around
    have hexit : g'.exit = .returned := by
      cases hrelease with
      | release exit duty => rfl
      | turn turn => cases turn
    exact ((hbefore.kept.guarded.step hrelease).released hexit hafter).2
  · have hbound := run.left_add
    simp only [left, Actor.left, Exit.left, Duty.left, List.length_nil] at hbound
    omega

def stumble : Nat → Attempt Nat Nat := fun n => (.error (.fault .value "no"), n + 1)

def count : Nat → Attempt Nat Nat := fun n => (.ok n, n + 1)

/-- Of three requests the second one is cancelled, while the first one runs and fails. A fourth one
comes behind the lock of the ending call. -/
theorem counter_serves :
    ∃ es f, Run (fun _ => 0) es { actor := { server := 5 } } f ∧
      Served (fun _ => 0) 5 es f ∧
      executed es = [(0, .error (.fault .value "no")), (2, .ok 6)] ∧ cancelled es = [1] ∧
      told es = [.ok 0, .ok 1, .ok 2, .error .actorClosed] ∧ f.exit = .returned ∧
      f.actor.server = 0 := by
  let unload : Nat → Nat := fun _ => 0
  have hfirst := submission_run unload { actor := { server := 5 } } rfl stumble
  have hsecond := hfirst.trans (submission_run unload _ rfl count)
  have hbegun := (hsecond.step (.turn (.fetch rfl rfl))).step (.turn (.begin rfl rfl))
  have hcancelled := hbegun.step (.cancel 1 rfl)
  have hthird := hcancelled.trans (submission_run unload _ rfl count)
  have hfailed := (hthird.step (.turn (.execute rfl))).step (.turn (.answer rfl))
  have hskipped := (hfailed.step (.turn (.fetch rfl rfl))).step (.turn (.skip rfl rfl))
  have hlocked := (hskipped.step (.lock rfl rfl)).step (.bar rfl rfl)
  have hmarked := (hlocked.step (.mark rfl)).step (.unlock rfl)
  have hrefused := hmarked.trans (submission_run unload _ rfl count)
  have hlast := (((hrefused.step (.turn (.fetch rfl rfl))).step (.turn (.begin rfl rfl))).step
    (.turn (.execute rfl))).step (.turn (.answer rfl))
  have hended := ((hlast.step (.turn (.fetch rfl rfl))).step (.turn (.halt rfl))).step
    (.turn (.finish rfl rfl))
  have hrun := hended.step (.release rfl rfl)
  exact ⟨_, _, hrun, serves hrun, rfl, rfl, rfl, rfl, rfl⟩

end Reception
end StreamingLM
