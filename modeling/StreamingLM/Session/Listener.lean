import StreamingLM.Failure

/-!
Listeners: who receives the text of a generation, piece by piece, and its end. A listener works on a
state of its own and may fail.
-/
namespace StreamingLM

/-- The text received so far, and the whole of it as it stood at the first end. -/
structure Collector where
  chunks : List String := []
  result : Option String := none

namespace Collector

def receive (c : Collector) (text : String) : Collector := { c with chunks := c.chunks ++ [text] }

/-- A later end changes nothing. -/
def complete (c : Collector) : Collector :=
  match c.result with
  | some _ => c
  | none => { c with result := some (String.join c.chunks) }

def isDone (c : Collector) : Bool := c.result.isSome

/-- The whole text; before the end there is none to wait for. -/
def text (c : Collector) : Except Failure String :=
  match c.result with
  | some s => .ok s
  | none => .error (.fault .timeout "not complete")

end Collector

/-- What happens to the state `σ` on a piece of text and at the end. A listener that collects the
text itself says where. -/
structure Listener (σ : Type) where
  onText : σ → String → Attempt σ Unit
  onComplete : σ → Attempt σ Unit
  collector? : Option (σ → Collector) := none

namespace Listener

variable {σ : Type}

def collecting : Listener Collector where
  onText c text := (.ok (), c.receive text)
  onComplete c := (.ok (), c.complete)
  collector? := some id

def tee (l : Listener σ) : Listener (Collector × σ) where
  onText s text :=
    let (r, inner) := l.onText s.2 text
    (r, (s.1.receive text, inner))
  onComplete s :=
    let (r, inner) := l.onComplete s.2
    (r, (s.1.complete, inner))
  collector? := some (·.1)

end Listener
end StreamingLM
