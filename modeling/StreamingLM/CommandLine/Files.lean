import StreamingLM.CommandLine.Program

/-!
The files that a command line leads to: the file of settings, the tokenizer and the weights that the
settings name, and the files that an index of weights lists.
-/
namespace StreamingLM

def Directory.ofEntries {α : Type} (entries : List (String × FileContent α)) : Directory α :=
  fun path => entries.lookup path

namespace Program

open CommandLine

def settingPaths : ServerConfig → List String
  | .parrot => []
  | .llama c => c.tokenizerPath.toList ++ c.weights.toList

def shardPaths {α : Type} (d : Directory α) (path : String) : List String :=
  match Checkpoint.isIndex path, d.find path with
  | true, some (.bytes contents) =>
    match Checkpoint.readJson contents >>= Checkpoint.shards path with
    | .ok names => names.map (Path.beside path)
    | .error _ => []
  | _, _ => []

/-- The paths that a command line is known to lead to when these files are at hand. -/
def paths {α : Type} (registry : Registry) (d : Directory α) (arguments : List String) :
    List String :=
  let settings := match Command.readLine arguments with
    | .ok (some (_, r)) => (Command.textOf r "config").toList
    | _ => []
  let named := match Command.ofArguments registry d arguments with
    | .ok (.run c) => settingPaths c.config
    | _ => []
  (settings ++ named ++ named.flatMap (shardPaths d)).map Path.clean

end Program
end StreamingLM
