import StreamingLM.Server.Completion
import StreamingLM.Session.Listener

/-!
The server that echoes the prompt. It has no model and nothing to configure.
-/
namespace StreamingLM

structure ParrotServer where
  loaded : Bool := false

namespace ParrotServer

variable {σ : Type}

def load (s : ParrotServer) : Bool × ParrotServer := (!s.loaded, { s with loaded := true })

def unload (s : ParrotServer) : ParrotServer := { s with loaded := false }

/-- Pass the prompt on. The listener is told of the end also when it has failed before. -/
def runPrompt (s : ParrotServer) (prompt : String) (l : Listener σ) (audience : σ) :
    Attempt (ParrotServer × σ) Completion :=
  let (loaded, s) := s.load
  let (heard, audience) := l.onText audience prompt
  let (ended, audience) := l.onComplete audience
  (do
    let _ ← ended
    let _ ← heard
    return { text := prompt, loaded, account := .words (words prompt).length },
    (s, audience))

end ParrotServer

end StreamingLM
