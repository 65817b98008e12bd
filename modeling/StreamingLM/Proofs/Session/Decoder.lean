import StreamingLM.Session.Basic

/-!
Decoders with a state, as listeners have one, which may fail at any call. A session makes the same
rounds over such a decoder; over one that has no state, they are the rounds of the session itself.
-/
namespace StreamingLM

/-- A decoder that works on a state of its own. -/
structure Decoder (σ : Type) where
  decode : σ → List Int → Attempt σ String
  stopIds : List Int := []
  context : Nat := 0

variable {σ : Type}

/-- A decoder that leaves every state as it is. -/
def Detokenizer.decoder (d : Detokenizer) : Decoder σ where
  decode a ids := (d.decode ids, a)
  stopIds := d.stopIds
  context := d.context

/-- What the whole text adds to the known one; without any, nothing is emitted. -/
def TextStream.added (s : TextStream) (whole known : String) : Option String × TextStream :=
  let fresh := whole.toList.drop known.toList.length
  if fresh.isEmpty then (none, s)
  else (some (String.ofList fresh), { s with emitted := s.tokens.length })

namespace Decoder

/-- What is done with a result in the state that it left, unless it is a failure. -/
def andThen {α β : Type} (x : Attempt σ α) (f : σ → α → Attempt σ β) : Attempt σ β :=
  match x with
  | (.error f, a) => (.error f, a)
  | (.ok v, a) => f a v

/-- Decode the tokens behind the emitted ones together with the overlap, then the overlap alone. -/
def pending (d : Decoder σ) (a : σ) (s : TextStream) : Attempt σ (Option String × TextStream) :=
  let start := s.emitted - TextStream.overlap
  andThen (d.decode a (s.tokens.drop start)) fun a whole =>
    andThen (d.decode a ((s.tokens.take s.emitted).drop start)) fun a known =>
      (.ok (s.added whole known), a)

def settle (s : TextStream) :
    Attempt σ (Option String × TextStream) → σ × Attempt TextStream (Option String)
  | (.ok (text, s), a) => (a, (.ok text, s))
  | (.error f, a) => (a, (.error f, s))

def push (d : Decoder σ) (a : σ) (s : TextStream) (tokens : List Int) :
    σ × Attempt TextStream (Option String) :=
  if d.context = 0 then ((d.decode a tokens).2, ((d.decode a tokens).1.map some, s))
  else
    let s := s.extend tokens
    if s.tokens.length - s.emitted < d.context then (a, (.ok none, s)) else settle s (d.pending a s)

def flush (d : Decoder σ) (a : σ) (s : TextStream) : σ × Attempt TextStream (Option String) :=
  if d.context = 0 ∨ s.tokens.length ≤ s.emitted then (a, (.ok none, s))
  else settle s (d.pending a s)

end Decoder

namespace Worker

def processWith (d : Decoder σ) (l : Listener σ) (w : Worker σ) (tokens : List Int) :
    Attempt (Worker σ) Unit :=
  if tokens.isEmpty then (.ok (), w)
  else
    let (audience, step) := d.push w.audience w.stream tokens
    deliver l { w with generated := w.generated + tokens.length, audience } step

def endBy (l : Listener σ) : Attempt (Worker σ) Unit → Worker σ
  | (.error f, w) => fail l w f
  | (.ok (), w) => exit l w

def concludeWith (d : Decoder σ) (l : Listener σ) (w : Worker σ) : Worker σ :=
  let (audience, step) := d.flush w.audience w.stream
  endBy l (deliver l { w with audience } step)

def goOn (d : Decoder σ) (l : Listener σ) (ended : Bool) : Attempt (Worker σ) Unit → Worker σ
  | (.error f, w) => fail l w f
  | (.ok (), w) => if ended then concludeWith d l w else w

def roundWith (d : Decoder σ) (l : Listener σ) (w : Worker σ) (items : List ChannelItem) :
    Worker σ :=
  if w.alive then
    let (tokens, stopped, ended) := intake d.stopIds w.stopped items
    goOn d l ended (processWith d l { w with stopped } tokens)
  else w

end Worker

namespace Session

def workWith (d : Decoder σ) (l : Listener σ) (s : Session σ) (n : Nat) : Session σ :=
  if s.worker.alive then
    { s with
      worker := s.worker.roundWith d l (s.channel.take n), channel := s.channel.drop n }
  else s

def worksWith (d : Decoder σ) (l : Listener σ) (s : Session σ) (rounds : List Nat) : Session σ :=
  rounds.foldl (workWith d l) s

def closeWith (d : Decoder σ) (l : Listener σ) (rounds : List Nat) (s : Session σ) :
    Attempt (Session σ) Unit :=
  if s.closed then (.ok (), s)
  else
    let s := s.shut.worksWith d l rounds
    (s.outcome, s)

end Session

namespace Decoder

variable (d : Detokenizer) (a : σ) (s : TextStream)

theorem settle_pending_decoder : settle s (d.decoder.pending a s) =
    (a, match TextStream.decodePending d s with
      | .ok (text, s) => (.ok text, s)
      | .error f => (.error f, s)) := by
  simp only [pending, andThen, Detokenizer.decoder, TextStream.decodePending, bind, Except.bind]
  cases d.decode (s.tokens.drop (s.emitted - TextStream.overlap)) with
  | error f => rfl
  | ok whole =>
    cases d.decode ((s.tokens.take s.emitted).drop (s.emitted - TextStream.overlap)) with
    | error f => rfl
    | ok known =>
      simp only [TextStream.added]
      split <;> rfl

theorem push_decoder (tokens : List Int) : d.decoder.push a s tokens = (a, s.push d tokens) := by
  have hsettle := settle_pending_decoder d a (s.extend tokens)
  have hcontext : (d.decoder : Decoder σ).context = d.context := rfl
  unfold push TextStream.push
  rw [hcontext]
  by_cases hnone : d.context = 0
  · rw [if_pos hnone, if_pos hnone]
    rfl
  · rw [if_neg hnone, if_neg hnone]
    simp only [hsettle]
    split <;> rfl

theorem flush_decoder : d.decoder.flush a s = (a, s.flush d) := by
  have hcontext : (d.decoder : Decoder σ).context = d.context := rfl
  unfold flush TextStream.flush
  rw [settle_pending_decoder, hcontext]
  by_cases hnone : d.context = 0 ∨ s.tokens.length ≤ s.emitted
  · rw [if_pos hnone, if_pos hnone]
  · rw [if_neg hnone]
    exact congrArg (Prod.mk a) (if_neg hnone).symm

end Decoder

namespace Worker

variable (d : Detokenizer) (l : Listener σ) (w : Worker σ)

theorem processWith_decoder (tokens : List Int) :
    processWith d.decoder l w tokens = process d l w tokens := by
  simp only [processWith, process, Decoder.push_decoder]

theorem concludeWith_decoder : concludeWith d.decoder l w = conclude d l w := by
  simp only [concludeWith, conclude, Decoder.flush_decoder]
  obtain ⟨result, w⟩ := deliver l w (w.stream.flush d)
  cases result <;> rfl

theorem roundWith_decoder (items : List ChannelItem) :
    roundWith d.decoder l w items = round d l w items := by
  have hids : (d.decoder : Decoder σ).stopIds = d.stopIds := rfl
  simp only [roundWith, round, processWith_decoder, hids]
  obtain ⟨result, w⟩ := process d l
    { w with stopped := (intake d.stopIds w.stopped items).2.1 } (intake d.stopIds w.stopped items).1
  cases result with
  | error f => rfl
  | ok u => simp only [goOn, concludeWith_decoder]

end Worker

namespace Session

variable (d : Detokenizer) (l : Listener σ) (s : Session σ)

theorem worksWith_decoder (rounds : List Nat) :
    s.worksWith d.decoder l rounds = s.works d l rounds := by
  have hround : workWith d.decoder l = work d l := by
    funext s n
    rw [workWith, work, Worker.roundWith_decoder]
  rw [worksWith, works, hround]

theorem closeWith_decoder : s.closeWith d.decoder l [s.shut.channel.length] = s.close d l := by
  rw [closeWith, close, worksWith_decoder]
  rfl

end Session
end StreamingLM
