import StreamingLM.Config.Server
import StreamingLM.Model.Generation
import StreamingLM.Server.Completion

/-!
The server of a language model. The model is built on first use from the configured preset, with the
configured weights, and kept until it is unloaded; a load that fails leaves nothing behind.
-/
namespace StreamingLM

structure LlamaServer (α : Type) where
  config : LlamaServerConfig
  model : Option (Llama α) := none

namespace LlamaServer

variable {σ α : Type} [Scalar α]

def isLoaded (s : LlamaServer α) : Bool := s.model.isSome

def checkDevice (name : String) : Except Failure Unit :=
  match name.splitOn ":" with
  | ["cpu"] => .ok ()
  | ["cpu", number] =>
    if !number.isEmpty && number.toList.all Char.isDigit then .ok ()
    else .error (.fault .runtime "device")
  | _ => .error (.fault .runtime "device")

/-- A new model with its weights. Without a weight file it keeps fresh ones. -/
def buildModel (fresh : Filling α) (d : Directory α) (c : LlamaServerConfig) :
    Except Failure (Llama α) := do
  let config ← c.model
  checkDevice c.device
  let m ← Llama.build fresh d config
  match c.weights with
  | none => return m
  | some path =>
    let (result, m) := m.loadWeights d path
    result.map fun _ => m

/-- Load the model, unless there is one; the result tells whether it was loaded now. -/
def load (fresh : Filling α) (d : Directory α) (s : LlamaServer α) : Attempt (LlamaServer α) Bool :=
  match s.model with
  | some _ => (.ok false, s)
  | none =>
    match buildModel fresh d s.config with
    | .ok m => (.ok true, { s with model := some m })
    | .error f => (.error f, s)

def unload (s : LlamaServer α) : LlamaServer α := { s with model := none }

def clearState (s : LlamaServer α) : Attempt (LlamaServer α) Unit :=
  match s.model with
  | some m => (.ok (), { s with model := some m.reset })
  | none => (.error .modelNotLoaded, s)

def render (s : LlamaServer α) (messages : List Message) : Except Failure String := do
  (← s.config.chatTemplate).render messages

def contextFailure : Failure → Failure
  | .stepTooLong actual limit => .contextTooLong actual limit true
  | f => f

/-- Generate with the configured settings at a given pace of the worker, `view` being where the text is
collected. -/
def generatePaced (pace : Nat → Pace) (c : LlamaServerConfig) (sampler : Sampler) (m : Llama α)
    (prompt : String) (l : Listener σ) (view : σ → Collector) (audience : σ) :
    Attempt (Llama α × σ) (String × Nat) :=
  let (result, g) := m.generatePaced pace prompt c.sampleLength c.temperature sampler l audience
  (do
    let tokens ← result.mapError contextFailure
    return (← (view g.audience).text, tokens), (g.model, g.audience))

/-- Run a prompt on a model. The text is the listener's own where it collects text, and is otherwise
collected beside it. -/
def runLoaded (pace : Nat → Pace) (c : LlamaServerConfig) (sampler : Sampler) (m : Llama α)
    (prompt : String) (l : Listener σ) (audience : σ) : Attempt (Llama α × σ) (String × Nat) :=
  match l.collector? with
  | some view => generatePaced pace c sampler m prompt l view audience
  | none =>
    let (result, m, both) := generatePaced pace c sampler m prompt l.tee (·.1) ({}, audience)
    (result, m, both.2)

/-- Load if needed and run a prompt; `seed` is used where the settings ask for a fresh one. -/
def runPromptPaced (pace : Nat → Pace) (fresh : Filling α) (seed : Int) (d : Directory α)
    (s : LlamaServer α) (prompt : String) (l : Listener σ) (audience : σ) :
    Attempt (LlamaServer α × σ) Completion :=
  match s.load fresh d with
  | (.error f, s) => (.error f, (s, audience))
  | (.ok loaded, s) =>
    let c := s.config
    match Sampler.ofSettings (.real c.temperature) (.real c.topP) c.seed seed, s.model with
    | .error f, _ => (.error f, (s, audience))
    | .ok _, none => (.error .modelNotLoaded, (s, audience))
    | .ok sampler, some m =>
      let (result, m, audience) := runLoaded pace c sampler m prompt l audience
      (result.map fun (text, tokens) => { text, loaded, account := .tokens tokens },
        ({ s with model := some m }, audience))

/-- Run a prompt with a worker that takes each token at once. -/
def runPrompt (fresh : Filling α) (seed : Int) (d : Directory α) (s : LlamaServer α)
    (prompt : String) (l : Listener σ) (audience : σ) : Attempt (LlamaServer α × σ) Completion :=
  s.runPromptPaced (fun _ => .lockStep) fresh seed d prompt l audience

end LlamaServer
end StreamingLM
