import StreamingLM.CommandLine.Reading
import StreamingLM.Report
import StreamingLM.Server.Registry

/-!
The commands of the program and their command lines. Options that name settings of a server take
precedence over the file of settings.
-/
namespace StreamingLM

/-- The request to answer one message of a user with a registered model. -/
structure RunCommand where
  model : String
  prompt : String
  config : ServerConfig
  system : Option String := none

def RunCommand.messages (c : RunCommand) : List Message :=
  (c.system.map (Message.mk .system · none)).toList ++ [.mk .user c.prompt none]

inductive Command where
  | run (c : RunCommand)
  | models

/-- Why there is no command: the command line ends the program, or the settings fail. -/
inductive Command.Refusal where
  | halt (h : CommandLine.Halt)
  | failure (f : Failure)

namespace Command

open CommandLine

def versionOption : Opt :=
  { names := ["--version"], effect := .version, help := "Show the version and exit." }

def overrideOptions : List Opt :=
  [{ names := ["--sample-len"], effect := .set .int
     help := "Maximum number of tokens to generate." },
    { names := ["--temperature"], effect := .set .real
      help := "Sampling temperature; 0 selects greedy decoding." },
    { names := ["--top-p"], effect := .set .real, help := "Nucleus sampling probability mass." },
    { names := ["--seed"], effect := .set .int, help := "Sampling seed; 0 picks a random one." },
    { names := ["--max-seq-len"], effect := .set .int
      help := "Attention window size in tokens." }]

def runGrammar : Grammar where
  program := "cadence run"
  operand := some (.argument "model" "Registered model name (see \x60cadence models\x60).")
  options := [helpOption,
    { names := ["--prompt"], effect := .set .text, required := true
      help := "User message to answer." },
    { names := ["--system"], effect := .set .text
      help := "System message sent ahead of the prompt." },
    { names := ["--config"], effect := .set .text
      help := "Server config path (.json, .yml, or .yaml)." }] ++ overrideOptions

def modelsGrammar : Grammar where
  program := "cadence models"
  options := [helpOption]

def grammar : Grammar where
  program := "cadence"
  description := "cadence - streaming LLM inference with bounded KV caches."
  version := "cadence 0.1.0"
  options := [helpOption, versionOption]
  operand := some (.command "command"
    [("run", "Complete a prompt with a registered model."),
      ("models", "List the registered models.")])

/-- The settings that a command line overrides, in the order of the options. -/
def overrides (r : Reading) : List (String × Value) :=
  overrideOptions.filterMap fun o => (r.value? o.key).map fun v => (o.key, v)

def flag (key : String) : String :=
  "--" ++ String.ofList (key.toList.map fun c => if c = '_' then '-' else c)

def overridden (model : String) (kind : ServerKind) (config : ServerConfig)
    (changes : List (String × Value)) : Except Failure ServerConfig :=
  let unknown := (changes.map (·.1)).filter fun key => !kind.fields.contains key
  if unknown ≠ [] then
    .error (.flagsRefused model ((unknown.mergeSort fun a b => a ≤ b).map flag))
  else if changes.isEmpty then .ok config
  else
    kind.config (.dict (changes.foldl (fun entries (key, v) =>
      Value.insertEntry (.text key) v entries) config.dump.entries))

/-- The settings of a model: those of a file or the default ones, with the overrides. -/
def serverConfig {α : Type} (registry : Registry) (d : Directory α) (model : String)
    (path : Option String) (changes : List (String × Value)) : Except Failure ServerConfig := do
  let entry ← registry.get model
  let config ← match path with
    | some path => entry.kind.configAt d path
    | none => pure entry.kind.defaultConfig
  overridden model entry.kind config changes

def textOf (r : Reading) (key : String) : Option String :=
  match r.value? key with
  | some (.text s) => some s
  | _ => none

def ofReading {α : Type} (registry : Registry) (d : Directory α) (r : Reading) :
    Except Failure Command :=
  match r.operand, textOf r "prompt" with
  | some (model :: _), some prompt => do
    let config ← serverConfig registry d model (textOf r "config") (overrides r)
    return .run { model, prompt, config, system := textOf r "system" }
  | _, _ => .error .promptNeeded

def noExtras (extras : List String) : Except Halt Unit :=
  if extras.isEmpty then .ok ()
  else
    let list := String.intercalate " " extras
    .error (.refused grammar s!"unrecognized arguments: {list}")

/-- Read the command line: the chosen command, if any, and what its own command line says. -/
def readLine (arguments : List String) : Except Halt (Option (String × Reading)) := do
  let outer ← grammar.read arguments
  match outer.operand with
  | some (name :: rest) =>
    let inner ← (if name = "run" then runGrammar else modelsGrammar).read rest
    noExtras (outer.extras ++ inner.extras)
    return some (name, inner)
  | _ =>
    noExtras outer.extras
    return none

/-- The command that a command line asks for; one without a command shows the help text. -/
def ofArguments {α : Type} (registry : Registry) (d : Directory α) (arguments : List String) :
    Except Refusal Command :=
  match readLine arguments with
  | .error h => .error (.halt h)
  | .ok none => .error (.halt (.shown grammar.helpText 2))
  | .ok (some ("run", r)) => (ofReading registry d r).mapError .failure
  | .ok (some _) => .ok .models

end Command
end StreamingLM
