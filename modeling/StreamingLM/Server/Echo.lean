import StreamingLM.Server.Completion
import StreamingLM.Session.Listener
import StreamingLM.Text.UpperCase

/-!
A server from outside the library. Anyone may register servers of their own, and this one stands for
them: it needs no loading, shouts the prompt, refuses one, and notes the calls that reach it in order.
-/
namespace StreamingLM

structure EchoServer where
  log : List String := []

namespace EchoServer

variable {σ : Type}

def note (s : EchoServer) (call : String) : EchoServer := ⟨s.log ++ [call]⟩

def runPrompt (s : EchoServer) (prompt : String) (l : Listener σ) (audience : σ) :
    Attempt (EchoServer × σ) Completion :=
  let s := s.note "run"
  if prompt = "boom" then (.error (.fault .runtime "kaput"), (s, audience))
  else
    let text := upperCase prompt
    match l.onText audience text with
    | (.error f, audience) => (.error f, (s, audience))
    | (.ok (), audience) =>
      let (ended, audience) := l.onComplete audience
      (ended.map fun _ => { text }, (s, audience))

end EchoServer

end StreamingLM
