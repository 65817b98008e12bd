import StreamingLM.Tokenizer.Basic

/-!
Decoding a stream of tokens. Tokens are held back until enough have come, then decoded together with
the last two that were decoded before; what they add to the text of those two is new.
-/
namespace StreamingLM

/-- The tokens of a stream so far and how many of them have been turned into text. -/
structure TextStream where
  tokens : List Int := []
  emitted : Nat := 0

namespace TextStream

/-- The number of tokens that are decoded once more. -/
def overlap : Nat := 2

/-- The text that the tokens behind the emitted ones add; without any, nothing is emitted. -/
def decodePending (d : Detokenizer) (s : TextStream) :
    Except Failure (Option String × TextStream) := do
  let start := s.emitted - overlap
  let whole ← d.decode (s.tokens.drop start)
  let known ← d.decode ((s.tokens.take s.emitted).drop start)
  let fresh := whole.toList.drop known.toList.length
  if fresh.isEmpty then return (none, s)
  else return (some (String.ofList fresh), { s with emitted := s.tokens.length })

def extend (s : TextStream) (tokens : List Int) : TextStream :=
  { s with tokens := s.tokens ++ tokens }

/-- Take in tokens. Without context they are decoded on their own and not kept. -/
def push (d : Detokenizer) (s : TextStream) (tokens : List Int) :
    Attempt TextStream (Option String) :=
  if d.context = 0 then ((d.decode tokens).map some, s)
  else
    let s := s.extend tokens
    if s.tokens.length - s.emitted < d.context then (.ok none, s)
    else
      match decodePending d s with
      | .ok (text, s) => (.ok text, s)
      | .error f => (.error f, s)

def flush (d : Detokenizer) (s : TextStream) : Attempt TextStream (Option String) :=
  if d.context = 0 ∨ s.tokens.length ≤ s.emitted then (.ok none, s)
  else
    match decodePending d s with
    | .ok (text, s) => (.ok text, s)
    | .error f => (.error f, s)

end TextStream
end StreamingLM
