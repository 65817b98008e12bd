import StreamingLM.Session.Listener
import StreamingLM.Session.TextStream

/-!
The decode worker of a session. It takes batches of tokens off a channel, several in one round,
keeps those before the first stop token, decodes them, and hands the text to the listener. A failure
ends it, as does the end mark; either way the listener hears of the end.
-/
namespace StreamingLM

/-- A batch of tokens, or the mark that no more will come. -/
inductive ChannelItem where
  | batch (tokens : List Int)
  | finish
  deriving DecidableEq, Repr

structure Worker (σ : Type) where
  audience : σ
  stream : TextStream := {}
  stopped : Bool := false
  generated : Nat := 0
  failure : Option Failure := none
  alive : Bool := true

namespace Worker

variable {σ : Type}

/-- The tokens of a batch before the first stop token, and whether one was seen. -/
def untilStop (stopIds : List Int) : List Int → List Int × Bool
  | [] => ([], false)
  | t :: rest =>
    if stopIds.contains t then ([], true)
    else
      let (kept, seen) := untilStop stopIds rest
      (t :: kept, seen)

/-- What a round takes in: the accepted tokens, whether the stop flag is up, and whether the end
mark was reached. Behind the end mark nothing is read. -/
def intake (stopIds : List Int) : Bool → List ChannelItem → List Int × Bool × Bool
  | stopped, [] => ([], stopped, false)
  | stopped, .finish :: _ => ([], stopped, true)
  | true, .batch _ :: rest => intake stopIds true rest
  | false, .batch tokens :: rest =>
    let (kept, seen) := untilStop stopIds tokens
    let (more, stopped, ended) := intake stopIds seen rest
    (kept ++ more, stopped, ended)

def emit (l : Listener σ) (w : Worker σ) : Option String → Attempt (Worker σ) Unit
  | none => (.ok (), w)
  | some text =>
    if text = "" then (.ok (), w)
    else
      let (r, audience) := l.onText w.audience text
      (r, { w with audience })

def deliver (l : Listener σ) (w : Worker σ) (step : Attempt TextStream (Option String)) :
    Attempt (Worker σ) Unit :=
  let w := { w with stream := step.2 }
  match step.1 with
  | .ok text => emit l w text
  | .error f => (.error f, w)

/-- The end of the worker: the listener hears of it, and what it raises then goes unnoticed. -/
def exit (l : Listener σ) (w : Worker σ) : Worker σ :=
  { w with audience := (l.onComplete w.audience).2, alive := false }

/-- A failure is kept, raises the stop flag and ends the worker. -/
def fail (l : Listener σ) (w : Worker σ) (f : Failure) : Worker σ :=
  exit l { w with failure := some f, stopped := true }

def process (d : Detokenizer) (l : Listener σ) (w : Worker σ) (tokens : List Int) :
    Attempt (Worker σ) Unit :=
  if tokens.isEmpty then (.ok (), w)
  else deliver l { w with generated := w.generated + tokens.length } (w.stream.push d tokens)

/-- Hand on what is still held back, then end. -/
def conclude (d : Detokenizer) (l : Listener σ) (w : Worker σ) : Worker σ :=
  match deliver l w (w.stream.flush d) with
  | (.ok (), w) => exit l w
  | (.error f, w) => fail l w f

/-- One round over the items taken off the channel. -/
def round (d : Detokenizer) (l : Listener σ) (w : Worker σ) (items : List ChannelItem) : Worker σ :=
  if w.alive then
    let (tokens, stopped, ended) := intake d.stopIds w.stopped items
    match process d l { w with stopped } tokens with
    | (.error f, w) => fail l w f
    | (.ok (), w) => if ended then conclude d l w else w
  else w

end Worker
end StreamingLM
