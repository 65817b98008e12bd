import StreamingLM.Report
import StreamingLM.Server.Stats

/-!
What a server gives back: the text of a reply and what the statistics need to know about the run.
Time is measured by whoever runs a server, so statistics are a function of the run and of the
measured times.
-/
namespace StreamingLM

structure Timing where
  loading : Float
  inference : Float
  total : Float

/-- What was counted: nothing, the words of the prompt, or the sampled tokens. -/
inductive Account where
  | silent
  | words (n : Nat)
  | tokens (n : Nat)
  deriving DecidableEq, Repr

structure Completion where
  text : String
  loaded : Bool := false
  account : Account := .silent

def loadStats (seconds : Float) : Stats := .ofList [.duration .loadingDuration seconds]

namespace Completion

/-- The statistics of a run. Where words are counted, loading takes no time of its own. -/
def stats (t : Timing) (c : Completion) : Stats :=
  match c.account with
  | .silent => {}
  | .words n =>
    (Stats.extend {} (if c.loaded then some (loadStats 0.0) else none)).add
      [.duration .totalDuration t.total, .tokens n]
  | .tokens n =>
    let run := Stats.ofList [.duration .inferenceDuration t.inference, .tokens n, .rate n t.inference]
    if c.loaded then
      (run.extend (some (loadStats t.loading))).add
        [.duration .totalDuration (t.inference + t.loading)]
    else run.add [.duration .totalDuration t.inference]

end Completion

def Stats.report (s : Stats) : Except Failure Value :=
  s.rows.map fun rows => .list (rows.map fun (label, value) => textList [label, value])

def Completion.report (t : Timing) (c : Completion) : Except Failure Value := do
  return .record [("text", .text c.text), ("rows", ← (c.stats t).report)]

end StreamingLM
