import StreamingLM.Session.Transcript
import StreamingLM.Session.Worker

/-!
A generation session: the transcript, and the channel over which each token goes to the decode
worker. The driver writes to the transcript and the channel; the worker takes batches off the
channel in rounds, whenever it comes to them.
-/
namespace StreamingLM

structure Session (σ : Type) where
  transcript : Transcript
  worker : Worker σ
  channel : List ChannelItem := []
  closed : Bool := false

namespace Session

variable {σ : Type}

def start (length : Int) (audience : σ) : Except Failure (Session σ) := do
  return { transcript := ← Transcript.allocate length, worker := { audience } }

def stopped (s : Session σ) : Bool := s.worker.stopped

def generated (s : Session σ) : Nat := s.worker.generated

def send (s : Session σ) (item : ChannelItem) : Except Failure (Session σ) :=
  if s.worker.alive then .ok { s with channel := s.channel ++ [item] }
  else .error (.workerStopped s.worker.failure)

def work (d : Detokenizer) (l : Listener σ) (s : Session σ) (n : Nat) : Session σ :=
  if s.worker.alive then
    { s with worker := s.worker.round d l (s.channel.take n), channel := s.channel.drop n }
  else s

def works (d : Detokenizer) (l : Listener σ) (s : Session σ) (rounds : List Nat) : Session σ :=
  rounds.foldl (work d l) s

def drain (d : Detokenizer) (l : Listener σ) (s : Session σ) : Session σ :=
  s.work d l s.channel.length

/-- Tokens of the prompt are recorded and not sent. -/
def prompt (s : Session σ) (tokens : List Int) : Except Failure (Session σ) := do
  return { s with transcript := ← s.transcript.append tokens }

def update (s : Session σ) (tokens : List Int) : Attempt (Session σ) Unit :=
  match s.prompt tokens with
  | .error f => (.error f, s)
  | .ok s =>
    if s.stopped then (.ok (), s)
    else
      match s.send (.batch tokens) with
      | .ok s => (.ok (), s)
      | .error f => (.error f, s)

def outcome (s : Session σ) : Except Failure Unit :=
  match s.worker.failure with
  | some f => .error (.workerFailed f)
  | none => .ok ()

def shut (s : Session σ) : Session σ :=
  if s.closed then s
  else if s.worker.alive then { s with closed := true, channel := s.channel ++ [.finish] }
  else { s with closed := true }

/-- End the session and wait for the worker. A session that was closed before reports nothing. -/
def close (d : Detokenizer) (l : Listener σ) (s : Session σ) : Attempt (Session σ) Unit :=
  if s.closed then (.ok (), s)
  else
    let s := s.shut.drain d l
    (s.outcome, s)

end Session
end StreamingLM
