import StreamingLM.Failure

/-!
An actor owns a server and runs requests on it one after the other, in the order in which they were
submitted. Callers hold tickets, under which the replies are found. Callers and the actor's own
thread act in turns, and any order of turns may happen.
-/
namespace StreamingLM

inductive Reply (ρ : Type) where
  | pending
  | running
  | cancelled
  | resolved (result : Except Failure ρ)

def Reply.isDone {ρ : Type} : Reply ρ → Bool
  | cancelled | resolved _ => true
  | _ => false

structure Request (σ ρ : Type) where
  ticket : Nat
  action : σ → Attempt σ ρ

/-- What the thread of an actor is doing. -/
inductive Duty (σ ρ : Type) where
  | waiting
  | holding (item : Option (Request σ ρ))
  | running (r : Request σ ρ)
  | replying (r : Request σ ρ) (result : Except Failure ρ)
  | draining
  | ended

structure Actor (σ ρ : Type) where
  server : σ
  /-- Requests that wait, and the mark behind which none is accepted. -/
  queue : List (Option (Request σ ρ)) := []
  replies : List (Reply ρ) := []
  duty : Duty σ ρ := .waiting
  closed : Bool := false

namespace Actor

variable {σ ρ : Type}

def accept (a : Actor σ ρ) (action : σ → Attempt σ ρ) : Actor σ ρ :=
  { a with
    queue := a.queue ++ [some ⟨a.replies.length, action⟩], replies := a.replies ++ [.pending] }

/-- Put a request into the queue, unless no more are accepted; the result is its ticket. -/
def submit (a : Actor σ ρ) (action : σ → Attempt σ ρ) : Attempt (Actor σ ρ) Nat :=
  if a.closed then (.error .actorClosed, a) else (.ok a.replies.length, a.accept action)

/-- Cancel a request that has not started; the result tells whether it is cancelled. -/
def cancel (a : Actor σ ρ) (ticket : Nat) : Bool × Actor σ ρ :=
  match a.replies[ticket]? with
  | some .pending => (true, { a with replies := a.replies.set ticket .cancelled })
  | some .cancelled => (true, a)
  | _ => (false, a)

/-- Accept no more requests. -/
def bar (a : Actor σ ρ) : Actor σ ρ := { a with closed := true }

/-- Put the mark behind the requests that wait. -/
def mark (a : Actor σ ρ) : Actor σ ρ := { a with queue := a.queue ++ [none] }

def release (unload : σ → σ) (a : Actor σ ρ) : Actor σ ρ := { a with server := unload a.server }

def fetch (a : Actor σ ρ) : Actor σ ρ :=
  match a.queue with
  | [] => a
  | item :: rest => { a with queue := rest, duty := .holding item }

def start (a : Actor σ ρ) (r : Request σ ρ) : Actor σ ρ :=
  match a.replies[r.ticket]? with
  | some .pending => { a with replies := a.replies.set r.ticket .running, duty := .running r }
  | _ => { a with duty := .waiting }

def execute (a : Actor σ ρ) (r : Request σ ρ) : Actor σ ρ :=
  let (result, server) := r.action a.server
  { a with server, duty := .replying r result }

def answer (a : Actor σ ρ) (r : Request σ ρ) (result : Except Failure ρ) : Actor σ ρ :=
  { a with replies := a.replies.set r.ticket (.resolved result), duty := .waiting }

/-- Cancel the first request that is left in the queue. Once there is none, the thread ends. -/
def drain (a : Actor σ ρ) : Actor σ ρ :=
  match a.queue with
  | [] => { a with duty := .ended }
  | none :: rest => { a with queue := rest }
  | some r :: rest => { (a.cancel r.ticket).2 with queue := rest }

def step (a : Actor σ ρ) : Actor σ ρ :=
  match a.duty with
  | .waiting => a.fetch
  | .holding none => { a with duty := .draining }
  | .holding (some r) => a.start r
  | .running r => a.execute r
  | .replying r result => a.answer r result
  | .draining => a.drain
  | .ended => a

def steps : Nat → Actor σ ρ → Actor σ ρ
  | 0, a => a
  | n + 1, a => steps n a.step

/-- Let the thread act until nothing is left to do. -/
def settle (a : Actor σ ρ) : Actor σ ρ := steps (4 * a.queue.length + 4) a

/-- Accept no more requests, wait for the thread to end, and release the server. -/
def shut (unload : σ → σ) (a : Actor σ ρ) : Actor σ ρ :=
  if a.closed then a
  else
    let a := a.bar.mark.settle
    match a.duty with
    | .ended => a.release unload
    | _ => a

end Actor
end StreamingLM
