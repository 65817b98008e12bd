import StreamingLM.CommandLine.Command
import StreamingLM.Console.Listener

/-!
Running commands on a console, and what the program leaves behind: the text on the console and the
standard streams, and the exit code. A run has stages, so that whoever runs it can take the time in
between.
-/
namespace StreamingLM

/-- What a program has written, and the code with which it ends. -/
structure Program.Outcome where
  console : String := ""
  output : String := ""
  errors : String := ""
  exit : Nat := 0
  deriving DecidableEq, Repr

namespace Program

open CommandLine

def failureText (f : Failure) : String :=
  if f.family.isValue then s!"error: {f.message}\ndetails: {f.inspected}\n"
  else if f.family.isRuntime then s!"runtime error while running cadence.\ndetails: {f.inspected}\n"
  else s!"unexpected error: {f.family.name}: {f.message}\n"

def Outcome.halted (h : Halt) : Outcome := { output := h.output, errors := h.errors, exit := h.code }

def Outcome.failed (console : String) (f : Failure) : Outcome :=
  { console, errors := failureText f, exit := 1 }

def modelsText (c : Console) (r : Registry) : Except Failure String := do
  return (← c.info s!"{r.names.length} models registered")
    ++ (← c.table "Models" [.text "Name", .text "Description"]
      (r.entries.map fun e => [.text e.name, .text e.description]))

def settingsText (c : Console) (run : RunCommand) : Except Failure String :=
  let settings := run.config.dump.entries.filter fun (_, v) => match v with
    | .null => false
    | _ => true
  if settings.isEmpty then .ok "" else c.pairs settings run.model

def introText (c : Console) (run : RunCommand) : Except Failure String := do
  return (← c.success (run.model ++ " ready")) ++ c.header "Completion" run.model
    ++ c.stream run.prompt

def statsText (c : Console) (t : Timing) (loading : Option Stats) (completion : Completion) :
    Except Failure String := do
  let rows ← ((completion.stats t).extend loading).rows
  c.stats (rows.map fun (label, value) => [.text label, .text value])

variable {α : Type} [Scalar α]

def start (c : Console) (registry : Registry) (d : Directory α) (run : RunCommand) :
    Except Failure (Server α × String) := do
  let (_, server) ← registry.create d run.model (.settings run.config)
  return (server, ← settingsText c run)

/-- Run a command behind the settings: load the model, write the completion as it comes, and then the
statistics. The text that is written stands also when a later stage fails. -/
def complete (c : Console) (around : Surroundings α) (t : Timing) (run : RunCommand)
    (server : Server α) : Except Failure Unit × String :=
  match server.load around with
  | (.error f, _) => (.error f, c.spinner)
  | (.ok loaded, server) =>
    match introText c run with
    | .error f => (.error f, c.spinner)
    | .ok intro =>
      let (result, _, heard) := server.runCompletion around run.messages c.listener {}
      let written := c.spinner ++ intro ++ heard.written
      let loading := if loaded then some (server.loadStats t) else none
      match result.bind (statsText c t loading) with
      | .error f => (.error f, written)
      | .ok stats => (.ok (), written ++ stats)

def perform (c : Console) (registry : Registry) (around : Surroundings α) (t : Timing) :
    Command → Outcome
  | .models =>
    match modelsText c registry with
    | .ok console => { console }
    | .error f => .failed "" f
  | .run run =>
    match start c registry around.files run with
    | .error f => .failed "" f
    | .ok (server, settings) =>
      match complete c around t run server with
      | (.ok (), written) => { console := settings ++ written }
      | (.error f, written) => .failed (settings ++ written) f

def outcome (c : Console) (registry : Registry) (around : Surroundings α) (t : Timing)
    (arguments : List String) : Outcome :=
  match Command.ofArguments registry around.files arguments with
  | .error (.halt h) => .halted h
  | .error (.failure f) => .failed "" f
  | .ok command => perform c registry around t command

end Program
end StreamingLM
