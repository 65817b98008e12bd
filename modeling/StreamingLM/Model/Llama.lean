import StreamingLM.Checkpoint.File
import StreamingLM.Checkpoint.Install
import StreamingLM.Model.Transformer
import StreamingLM.Tokenizer.Basic

/-!
A model that can be run: the stack with its parameters, its tokenizer, and the state of decoding.
One model serves one sequence at a time.
-/
namespace StreamingLM

structure Llama (α : Type) where
  config : LlamaConfig
  tokenizer : Tokenizer
  weights : Parameters α
  state : DecodeState α

/-- How fresh parameters are filled, from their names and shapes. -/
abbrev Filling (α : Type) := List (String × List Nat) → Parameters α

namespace Llama

variable {α : Type} [Scalar α]

def build (fresh : Filling α) (d : Directory α) (c : LlamaConfig) : Except Failure (Llama α) := do
  let shapes ← c.transformer.parameters
  let tokenizer ← Tokenizer.ofConfig d c.tokenizer
  return { config := c, tokenizer, weights := fresh shapes, state := ← DecodeState.ofConfig c }

def transformer (m : Llama α) : Except Failure (Transformer α) :=
  Transformer.ofParameters m.config.transformer m.weights

def loadWeights (m : Llama α) (d : Directory α) (path : String) : Attempt (Llama α) Unit :=
  match Checkpoint.read d path with
  | .error f => (.error f, m)
  | .ok state =>
    let (result, weights) :=
      if Checkpoint.has state Checkpoint.embeddingName then
        Checkpoint.loadNamed m.weights (Checkpoint.tie state)
          (some (Checkpoint.publishedNames m.config.layers.toNat))
      else Checkpoint.load m.weights state
    (result, { m with weights })

def tokenize (m : Llama α) (text : String) : Except Failure (List Int) := m.tokenizer.encode text

/-- The negative logarithm of the probability that a row of scores gives to a token. -/
def surprise (scores : List α) (token : Nat) : α :=
  let peak := scores.foldl larger (scores.headD Scalar.zero)
  let sum := total (scores.map fun x => Scalar.exp (x - peak))
  Scalar.log sum - ((scores[token]?).getD Scalar.zero - peak)

/-- The mean over the positions of a text of how much each next token surprises. -/
def meanSurprise (rows : List (List α)) (next : List Int) : α :=
  let terms := List.zipWith (fun row (token : Int) => surprise row token.toNat) rows next
  total terms / Scalar.ofInt terms.length

/-- Score a text of at least two tokens, without touching the state of decoding. -/
def score (m : Llama α) (text : String) : Except Failure α := do
  let tokens ← m.tokenize text
  if tokens.length < 2 then .error .scoreTooShort
  else if m.state.caches.window < tokens.length then
    .error (.stepTooLong tokens.length m.state.caches.window)
  else
    let t ← m.transformer
    let steps ← t.forwardMasked m.state.tracker.table 1 (tokens.map fun id => [id])
    return meanSurprise (steps.map fun rows => Tensor.rowAt rows 0) (tokens.drop 1)

def reset (m : Llama α) : Llama α := { m with state := m.state.reset }

end Llama
end StreamingLM
