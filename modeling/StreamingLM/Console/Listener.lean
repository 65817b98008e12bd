import StreamingLM.Console.Basic
import StreamingLM.Session.Listener

/-!
A listener that writes a completion to a console while collecting it. The end of the text ends the
line.
-/
namespace StreamingLM

structure Console.Transcription where
  collector : Collector := {}
  written : String := ""

namespace Console

def write (text : String) (t : Transcription) : Transcription :=
  { t with written := t.written ++ text }

def listener (c : Console) : Listener Transcription where
  onText t text := (.ok (), write (c.stream text) { t with collector := t.collector.receive text })
  onComplete t :=
    let t := write (c.stream "\n") t
    (.ok (), { t with collector := t.collector.complete })
  collector? := some (·.collector)

end Console
end StreamingLM
