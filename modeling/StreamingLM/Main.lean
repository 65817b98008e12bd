import StreamingLM.Checkpoint.TensorFile
import StreamingLM.CommandLine.Files
import StreamingLM.Layer.Filling

/-!
The program: it fetches the files that its command line leads to, runs the command on a console of
eighty columns, and takes the time of loading and of generation.
-/
namespace StreamingLM
namespace Program

def fetch (path : String) : IO (Option (FileContent Float)) := do
  try
    let bytes ← IO.FS.readBinFile path
    return some (.ofBytes path (bytes.toList.map UInt8.toNat))
  catch
    | .noFileOrDirectory .. => return none
    | _ => return some .folder

/-- Fetch what the arguments lead to. Settings lead to weights and an index leads to more of them, so
three rounds find everything. -/
def gather (arguments : List String) : Nat → List (String × FileContent Float) →
    IO (List (String × FileContent Float))
  | 0, known => return known
  | rounds + 1, known => do
    let mut known := known
    for path in paths .bundled (.ofEntries known) arguments do
      if (known.lookup path).isNone then
        if let some content ← fetch path then known := known ++ [(path, content)]
    gather arguments rounds known

def freshWeights (seed : Nat) : Filling Float := Parameters.fill 0.02 (.ofSeed seed)

def seconds (start stop : Nat) : Float := Float.ofNat (stop - start) / 1.0e9

def report (f : Failure) : IO Nat := do
  IO.eprint (failureText f)
  return 1

def runModel (c : Console) (around : Surroundings Float) (run : RunCommand) : IO Nat := do
  match start c .bundled around.files run with
  | .error f => report f
  | .ok (server, settings) =>
    IO.print settings
    let begun ← IO.monoNanosNow
    match server.load around with
    | (.error f, _) =>
      IO.print c.spinner
      report f
    | (.ok loaded, server) =>
      let ready ← IO.monoNanosNow
      IO.print c.spinner
      match introText c run with
      | .error f => report f
      | .ok intro =>
        IO.print intro
        let (result, _, heard) := server.runCompletion around run.messages c.listener {}
        IO.print heard.written
        let finished ← IO.monoNanosNow
        let time := seconds ready finished
        let t : Timing := ⟨seconds begun ready, time, time⟩
        let loading := if loaded then some (server.loadStats t) else none
        match result.bind (statsText c t loading) with
        | .error f => report f
        | .ok stats =>
          IO.print stats
          return 0

def runCommand (c : Console) (around : Surroundings Float) (arguments : List String) : IO Nat := do
  match Command.ofArguments .bundled around.files arguments with
  | .error (.halt h) =>
    IO.print h.output
    IO.eprint h.errors
    return h.code
  | .error (.failure f) => report f
  | .ok .models =>
    match modelsText c .bundled with
    | .error f => report f
    | .ok text =>
      IO.print text
      return 0
  | .ok (.run run) => runModel c around run

def execute (arguments : List String) : IO UInt32 := do
  let files ← gather arguments 3 []
  let seed ← IO.rand 1 (Nat.pow 2 31 - 1)
  let around : Surroundings Float :=
    { files := .ofEntries files, fresh := freshWeights seed, seed := seed }
  return (← runCommand {} around arguments).toUInt32

end Program
end StreamingLM

def main (arguments : List String) : IO UInt32 := StreamingLM.Program.execute arguments
