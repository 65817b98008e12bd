import StreamingLM.Session.Listener

/-!
A listener that keeps what it hears, for trials; it may be told to fail.
-/
namespace StreamingLM

structure Recorder where
  chunks : List String := []
  completed : Nat := 0

/-- Refuse the text that comes after `failText` others; fail at the end after counting it. -/
def Listener.recording (failText : Option Nat) (failComplete : Bool) : Listener Recorder where
  onText r text :=
    if failText = some r.chunks.length then (.error (.fault .os "told to fail"), r)
    else (.ok (), { r with chunks := r.chunks ++ [text] })
  onComplete r :=
    (if failComplete then .error (.fault .os "told to fail") else .ok (),
      { r with completed := r.completed + 1 })

end StreamingLM
