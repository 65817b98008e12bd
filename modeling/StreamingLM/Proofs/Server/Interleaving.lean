import Mathlib.Data.List.Basic
import StreamingLM.Server.Actor

/-!
The calls that the users of an actor make, and the turns of its thread, interleaved in any order. A
lock is held from the look at the flag until the queue has been added to, so that no request comes
behind the mark.
-/
namespace StreamingLM

variable {σ ρ : Type}

inductive Holder (σ ρ : Type) where
  /-- A submission that has yet to look at the flag. -/
  | entering (action : σ → Attempt σ ρ)
  /-- A submission that has seen the flag down. -/
  | admitted (action : σ → Attempt σ ρ)
  | leaving (result : Except Failure Nat)
  | unloading

/-- How far the call has come that ends an actor. -/
inductive Exit where
  | before
  | locked
  | barred
  | marked
  | joining
  | returned
  deriving DecidableEq, Repr

namespace Exit

def inside : Exit → Bool
  | locked | barred | marked => true
  | _ => false

def shut : Exit → Bool
  | before | locked => false
  | _ => true

def sealed : Exit → Bool
  | marked | joining | returned => true
  | _ => false

theorem sealed_of_shut {x : Exit} (h : x.shut = false) : x.sealed = false := by
  cases x <;> first | rfl | cases h

end Exit

/-- An actor with its lock, and with the one call that ends it. -/
structure Reception (σ ρ : Type) where
  actor : Actor σ ρ
  lock : Option (Holder σ ρ) := none
  exit : Exit := .before

inductive Event (σ ρ : Type) where
  | enter
  | pass
  | refuse
  | accept (r : Request σ ρ)
  | leave (result : Except Failure Nat)
  | cancel (ticket : Nat)
  | lock
  | bar
  | mark
  | unlock
  | release
  | fetch
  | halt
  | begin (ticket : Nat)
  | skip (ticket : Nat)
  | execute (ticket : Nat) (result : Except Failure ρ)
  | answer (ticket : Nat) (result : Except Failure ρ)
  | discard
  | finish

namespace Event

def bySubmission : Event σ ρ → Bool
  | pass | refuse | accept _ | leave _ => true
  | _ => false

def byThread : Event σ ρ → Bool
  | fetch | halt | begin _ | skip _ | execute _ _ | answer _ _ | discard | finish => true
  | _ => false

def byExit : Event σ ρ → Bool
  | lock | bar | mark | unlock | release => true
  | _ => false

@[simp] def told? : Event σ ρ → Option (Except Failure Nat)
  | leave result => some result
  | _ => none

@[simp] def accepted? : Event σ ρ → Option (Request σ ρ)
  | accept r => some r
  | _ => none

@[simp] def cancelled? : Event σ ρ → Option Nat
  | cancel ticket => some ticket
  | _ => none

@[simp] def executed? : Event σ ρ → Option (Nat × Except Failure ρ)
  | execute ticket result => some (ticket, result)
  | _ => none

@[simp] def answered? : Event σ ρ → Option (Nat × Except Failure ρ)
  | answer ticket result => some (ticket, result)
  | _ => none

end Event

/-- A turn of the thread, with what it needs. At the queue the thread waits for something to take, and
nothing but a request that is pending or cancelled can be started. -/
inductive Actor.Turn (a : Actor σ ρ) : Event σ ρ → Actor σ ρ → Prop
  | fetch {item : Option (Request σ ρ)} {rest : List (Option (Request σ ρ))}
      (duty : a.duty = .waiting) (queue : a.queue = item :: rest) :
      Turn a .fetch { a with queue := rest, duty := .holding item }
  | halt (duty : a.duty = .holding none) : Turn a .halt { a with duty := .draining }
  | begin {r : Request σ ρ} (duty : a.duty = .holding (some r))
      (reply : a.replies[r.ticket]? = some .pending) :
      Turn a (.begin r.ticket)
        { a with replies := a.replies.set r.ticket .running, duty := .running r }
  | skip {r : Request σ ρ} (duty : a.duty = .holding (some r))
      (reply : a.replies[r.ticket]? = some .cancelled) :
      Turn a (.skip r.ticket) { a with duty := .waiting }
  | execute {r : Request σ ρ} (duty : a.duty = .running r) :
      Turn a (.execute r.ticket (r.action a.server).1) (a.execute r)
  | answer {r : Request σ ρ} {result : Except Failure ρ} (duty : a.duty = .replying r result) :
      Turn a (.answer r.ticket result) (a.answer r result)
  | discard {item : Option (Request σ ρ)} {rest : List (Option (Request σ ρ))}
      (duty : a.duty = .draining) (queue : a.queue = item :: rest) : Turn a .discard a.drain
  | finish (duty : a.duty = .draining) (queue : a.queue = []) :
      Turn a .finish { a with duty := .ended }

theorem Actor.Turn.step_eq {a a' : Actor σ ρ} {e : Event σ ρ} (h : a.Turn e a') : a.step = a' := by
  cases h with
  | fetch duty queue => simp [step, duty, Actor.fetch, queue]
  | halt duty => simp [step, duty]
  | begin duty reply => simp [step, duty, start, reply]
  | skip duty reply => simp [step, duty, start, reply]
  | execute duty => simp [step, duty]
  | answer duty => simp [step, duty]
  | discard duty queue => simp [step, duty]
  | finish duty queue => simp [step, duty, drain, queue]

theorem Actor.cancel_pending {a : Actor σ ρ} {ticket : Nat}
    (h : a.replies[ticket]? = some .pending) :
    (a.cancel ticket).2 = { a with replies := a.replies.set ticket .cancelled } := by
  rw [cancel, h]

theorem Actor.cancel_eq (a : Actor σ ρ) (ticket : Nat) :
    ∃ replies, (a.cancel ticket).2 = { a with replies } := by
  unfold cancel
  split
  · exact ⟨a.replies.set ticket .cancelled, rfl⟩
  · exact ⟨a.replies, rfl⟩
  · exact ⟨a.replies, rfl⟩

theorem Actor.drain_cons {a : Actor σ ρ} {item : Option (Request σ ρ)}
    {rest : List (Option (Request σ ρ))} (h : a.queue = item :: rest) :
    ∃ replies, a.drain = { a with queue := rest, replies } := by
  cases item with
  | none => exact ⟨a.replies, by simp only [drain, h]⟩
  | some r =>
    obtain ⟨replies, hcancel⟩ := a.cancel_eq r.ticket
    exact ⟨replies, by simp only [drain, h, hcancel]⟩

theorem Actor.Turn.closed {a a' : Actor σ ρ} {e : Event σ ρ} (h : a.Turn e a') :
    a'.closed = a.closed := by
  cases h with
  | discard duty queue =>
    obtain ⟨replies, hdrain⟩ := drain_cons queue
    rw [hdrain]
  | _ => rfl

theorem Actor.Turn.not_ended {a a' : Actor σ ρ} {e : Event σ ρ} (h : a.Turn e a') :
    a.duty ≠ .ended := by
  cases h <;> simp_all

theorem Actor.Turn.byThread {a a' : Actor σ ρ} {e : Event σ ρ} (h : a.Turn e a') :
    e.byThread = true := by
  cases h <;> rfl

namespace Reception

/-- One step: of a submission, a cancelling caller, the thread, or the call that ends the actor. Only
who holds the lock looks at the flag or adds to the queue. The ending call waits for the thread. -/
inductive Step (unload : σ → σ) (f : Reception σ ρ) : Event σ ρ → Reception σ ρ → Prop
  | enter (action : σ → Attempt σ ρ) (free : f.lock = none) :
      Step unload f .enter { f with lock := some (.entering action) }
  | pass {action : σ → Attempt σ ρ} (holder : f.lock = some (.entering action))
      (unbarred : f.actor.closed = false) :
      Step unload f .pass { f with lock := some (.admitted action) }
  | refuse {action : σ → Attempt σ ρ} (holder : f.lock = some (.entering action))
      (barred : f.actor.closed = true) :
      Step unload f .refuse { f with lock := some (.leaving (.error .actorClosed)) }
  | accept {action : σ → Attempt σ ρ} (holder : f.lock = some (.admitted action)) :
      Step unload f (.accept ⟨f.actor.replies.length, action⟩)
        { f with
          actor := f.actor.accept action, lock := some (.leaving (.ok f.actor.replies.length)) }
  | leave {result : Except Failure Nat} (holder : f.lock = some (.leaving result)) :
      Step unload f (.leave result) { f with lock := none }
  | cancel (ticket : Nat) (reply : f.actor.replies[ticket]? = some .pending) :
      Step unload f (.cancel ticket) { f with actor := (f.actor.cancel ticket).2 }
  | turn {e : Event σ ρ} {actor : Actor σ ρ} (turn : f.actor.Turn e actor) :
      Step unload f e { f with actor }
  | lock (free : f.lock = none) (exit : f.exit = .before) :
      Step unload f .lock { f with lock := some .unloading, exit := .locked }
  | bar (exit : f.exit = .locked) (unbarred : f.actor.closed = false) :
      Step unload f .bar { f with actor := f.actor.bar, exit := .barred }
  | mark (exit : f.exit = .barred) :
      Step unload f .mark { f with actor := f.actor.mark, exit := .marked }
  | unlock (exit : f.exit = .marked) :
      Step unload f .unlock { f with lock := none, exit := .joining }
  | release (exit : f.exit = .joining) (duty : f.actor.duty = .ended) :
      Step unload f .release { f with actor := f.actor.release unload, exit := .returned }

/-- Steps one after the other, with what happened in them. -/
inductive Run (unload : σ → σ) : List (Event σ ρ) → Reception σ ρ → Reception σ ρ → Prop
  | nil {f : Reception σ ρ} : Run unload [] f f
  | step {es : List (Event σ ρ)} {e : Event σ ρ} {f f' f'' : Reception σ ρ}
      (run : Run unload es f f') (next : Step unload f' e f'') : Run unload (es ++ [e]) f f''

variable {unload : σ → σ}

theorem Run.trans {es es' : List (Event σ ρ)} {f f' f'' : Reception σ ρ} (h : Run unload es f f')
    (h' : Run unload es' f' f'') : Run unload (es ++ es') f f'' := by
  induction h' with
  | nil => simpa using h
  | step run next ih =>
    rw [← List.append_assoc]
    exact (ih h).step next

theorem Run.split {es es' : List (Event σ ρ)} {f f'' : Reception σ ρ}
    (h : Run unload (es ++ es') f f'') : ∃ f', Run unload es f f' ∧ Run unload es' f' f'' := by
  generalize heq : es ++ es' = all at h
  induction h generalizing es' with
  | nil =>
    obtain ⟨rfl, rfl⟩ := List.append_eq_nil_iff.mp heq
    exact ⟨_, .nil, .nil⟩
  | @step before e f g f'' run next ih =>
    obtain rfl | ⟨init, last, rfl⟩ := es'.eq_nil_or_concat
    · rw [List.append_nil] at heq
      exact ⟨f'', heq ▸ run.step next, .nil⟩
    · rw [List.concat_eq_append, ← List.append_assoc] at heq
      obtain ⟨hinit, hlast⟩ := List.append_inj' heq rfl
      obtain ⟨f', hfirst, hrest⟩ := ih hinit
      rw [List.concat_eq_append, List.singleton_inj.mp hlast]
      exact ⟨f', hfirst, hrest.step next⟩

theorem Run.around {es es' : List (Event σ ρ)} {e : Event σ ρ} {f f' : Reception σ ρ}
    (h : Run unload (es ++ e :: es') f f') :
    ∃ g g', Run unload es f g ∧ Step unload g e g' ∧ Run unload es' g' f' := by
  rw [← List.singleton_append, ← List.append_assoc] at h
  obtain ⟨g', hbefore, hbehind⟩ := h.split
  generalize heq : es ++ [e] = before at hbefore
  cases hbefore with
  | nil => simp at heq
  | step run next =>
    obtain ⟨rfl, hlast⟩ := List.append_inj' heq rfl
    obtain rfl := List.singleton_inj.mp hlast
    exact ⟨_, g', run, next, hbehind⟩

def submission (a : Actor σ ρ) (action : σ → Attempt σ ρ) : List (Event σ ρ) :=
  (if a.closed then [.enter, .refuse] else [.enter, .pass, .accept ⟨a.replies.length, action⟩]) ++
    [.leave (a.submit action).1]

theorem submission_run (unload : σ → σ) (f : Reception σ ρ) (free : f.lock = none)
    (action : σ → Attempt σ ρ) :
    Run unload (submission f.actor action) f { f with actor := (f.actor.submit action).2 } := by
  have hentered : Run unload [.enter] f { f with lock := some (.entering action) } :=
    Run.nil.step (.enter action free)
  obtain ⟨actor, lock, exit⟩ := f
  obtain rfl : lock = none := free
  by_cases hclosed : actor.closed = true
  · rw [submission, Actor.submit, if_pos hclosed, if_pos hclosed]
    exact (hentered.step (.refuse rfl hclosed)).step (.leave rfl)
  · rw [submission, Actor.submit, if_neg hclosed, if_neg hclosed]
    exact ((hentered.step (.pass rfl (eq_false_of_ne_true hclosed))).step (.accept rfl)).step
      (.leave rfl)

def told (es : List (Event σ ρ)) : List (Except Failure Nat) := es.filterMap Event.told?

def accepted (es : List (Event σ ρ)) : List (Request σ ρ) := es.filterMap Event.accepted?

def cancelled (es : List (Event σ ρ)) : List Nat := es.filterMap Event.cancelled?

def executed (es : List (Event σ ρ)) : List (Nat × Except Failure ρ) :=
  es.filterMap Event.executed?

def answered (es : List (Event σ ρ)) : List (Nat × Except Failure ρ) :=
  es.filterMap Event.answered?

@[simp] theorem told_concat (es : List (Event σ ρ)) (e : Event σ ρ) :
    told (es ++ [e]) = told es ++ e.told?.toList := by
  rw [told, List.filterMap_append]
  cases e <;> rfl

@[simp] theorem accepted_concat (es : List (Event σ ρ)) (e : Event σ ρ) :
    accepted (es ++ [e]) = accepted es ++ e.accepted?.toList := by
  rw [accepted, List.filterMap_append]
  cases e <;> rfl

@[simp] theorem cancelled_concat (es : List (Event σ ρ)) (e : Event σ ρ) :
    cancelled (es ++ [e]) = cancelled es ++ e.cancelled?.toList := by
  rw [cancelled, List.filterMap_append]
  cases e <;> rfl

@[simp] theorem executed_concat (es : List (Event σ ρ)) (e : Event σ ρ) :
    executed (es ++ [e]) = executed es ++ e.executed?.toList := by
  rw [executed, List.filterMap_append]
  cases e <;> rfl

@[simp] theorem answered_concat (es : List (Event σ ρ)) (e : Event σ ρ) :
    answered (es ++ [e]) = answered es ++ e.answered?.toList := by
  rw [answered, List.filterMap_append]
  cases e <;> rfl

end Reception
end StreamingLM
