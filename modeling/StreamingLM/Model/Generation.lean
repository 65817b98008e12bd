import StreamingLM.Model.Llama
import StreamingLM.Sampling
import StreamingLM.Session.Basic

/-!
Generation: the prompt goes through the model in one step and every sampled token in a step of its
own, until a stop token is seen or enough tokens have been sampled. The tokens go to a session,
whose worker hands their text to a listener, at a pace of its own.
-/
namespace StreamingLM

/-- One choice of a token, with the scores it was made from. -/
structure Draw (α : Type) where
  scores : List α
  token : Int

/-- The rounds that the worker makes in one step of a generation, before the chosen token is recorded
and after that; each takes so many items off the channel. -/
structure Pace where
  before : List Nat := []
  after : List Nat := []

def Pace.lockStep : Pace := { after := [1] }

structure Generation (σ ρ α : Type) where
  state : DecodeState α
  session : Session σ
  sampler : ρ
  draws : List (Draw α) := []

/-- What a call leaves behind: the model, the listener's state and the choices made. -/
structure Generated (σ α : Type) where
  model : Llama α
  audience : σ
  draws : List (Draw α) := []

namespace Generation

variable {σ ρ α : Type} [Scalar α]

/-- A row of scores, as probabilities above temperature zero. -/
def tempered (temperature : Float) (row : List α) : List α :=
  if 0.0 < temperature then softmaxAt (Scalar.ofFloat temperature) row else row

def lastScores (temperature : Float) (steps : Steps α) : List α :=
  tempered temperature (Tensor.rowAt (steps.getLast?.getD []) 0)

variable [Sampling ρ α]

def choose (d : Detokenizer) (l : Listener σ) (pace : Pace) (g : Generation σ ρ α)
    (scores : List α) : Attempt (Generation σ ρ α) Int :=
  match Sampling.sample g.sampler scores with
  | .error f => (.error f, g)
  | .ok (token, sampler) =>
    let (result, session) := (g.session.works d l pace.before).update [token]
    (result.map fun _ => token,
      { g with
        sampler, session := session.works d l pace.after, draws := g.draws ++ [⟨scores, token⟩] })

/-- One step of the model over some tokens, and the choice of the next one. -/
def step (t : Transformer α) (d : Detokenizer) (l : Listener σ) (temperature : Float) (pace : Pace)
    (g : Generation σ ρ α) (tokens : List Int) : Attempt (Generation σ ρ α) Int :=
  match t.step g.state 1 (tokens.map fun id => [id]) with
  | (.error f, state) => (.error f, { g with state })
  | (.ok steps, state) => choose d l pace { g with state } (lastScores temperature steps)

/-- Up to `n` steps, the first over `tokens` and each further one over the last choice; `pace` tells
the rounds of a step by the number of steps that may follow it. -/
def run (t : Transformer α) (d : Detokenizer) (l : Listener σ) (temperature : Float)
    (pace : Nat → Pace) : Nat → Generation σ ρ α → List Int → Attempt (Generation σ ρ α) Unit
  | 0, g, _ => (.ok (), g)
  | n + 1, g, tokens =>
    if g.session.stopped then (.ok (), g)
    else
      match step t d l temperature (pace n) g tokens with
      | (.error f, g) => (.error f, g)
      | (.ok token, g) => run t d l temperature pace n g [token]

/-- Record the prompt and run; the session is closed in any case, and a failure of its worker comes
before any other. -/
def complete (t : Transformer α) (d : Detokenizer) (l : Listener σ) (temperature : Float)
    (pace : Nat → Pace) (n : Nat) (g : Generation σ ρ α) (prompt : List Int) :
    Attempt (Generation σ ρ α) Unit :=
  let started : Attempt (Generation σ ρ α) Unit :=
    match g.session.prompt prompt with
    | .error f => (.error f, g)
    | .ok session => run t d l temperature pace n { g with session } prompt
  let (result, g) := started
  let (closed, session) := g.session.close d l
  (match closed with
    | .error f => .error f
    | .ok () => result, { g with session })

end Generation

namespace Llama

variable {σ α : Type} [Scalar α]

/-- Whether a call can start: how many tokens to sample, the prompt's tokens, and the stack. -/
def generationStart (m : Llama α) (prompt : String) (sampleLength : Int) (audience : σ) :
    Except Failure (List Int × Transformer α × Session σ) := do
  if sampleLength ≤ 0 then .error (.badSampleLength sampleLength)
  else
    let tokens ← m.tokenize prompt
    if tokens.isEmpty then .error .emptyPrompt
    else
      let session ← Session.start (tokens.length + sampleLength) audience
      return (tokens, ← m.transformer, session)

/-- Generate up to `sampleLength` tokens after a prompt, at a given pace of the worker; the result
counts those before the first stop token. -/
def generatePaced {ρ : Type} [Sampling ρ α] (m : Llama α) (pace : Nat → Pace) (prompt : String)
    (sampleLength : Int) (temperature : Float) (sampler : ρ) (l : Listener σ) (audience : σ) :
    Attempt (Generated σ α) Nat :=
  match m.generationStart prompt sampleLength audience with
  | .error f => (.error f, { model := m, audience })
  | .ok (tokens, t, session) =>
    let (result, g) := Generation.complete t m.tokenizer.detokenizer l temperature pace
      sampleLength.toNat { state := m.state, session, sampler } tokens
    (result.map fun _ => g.session.generated,
      { model := { m with state := g.state }, audience := g.session.worker.audience,
        draws := g.draws })

/-- Generate with a worker that takes each token at once. -/
def generate {ρ : Type} [Sampling ρ α] (m : Llama α) (prompt : String) (sampleLength : Int)
    (temperature : Float) (sampler : ρ) (l : Listener σ) (audience : σ) :
    Attempt (Generated σ α) Nat :=
  m.generatePaced (fun _ => .lockStep) prompt sampleLength temperature sampler l audience

end Llama

def tokensPerSecond (tokens : Nat) (seconds : Float) : Float :=
  if 0.0 < seconds then Float.ofNat tokens / seconds else 0.0

end StreamingLM
