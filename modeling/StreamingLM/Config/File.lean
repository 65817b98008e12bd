import StreamingLM.Config.Server
import StreamingLM.Directory
import StreamingLM.Json.Reader
import StreamingLM.Yaml.Document

/-!
Settings in files: a JSON or a YAML document, told apart by the ending of the file's name. An empty
document selects all defaults.
-/
namespace StreamingLM

def uniformBreaks : List Char → List Char
  | '\r' :: '\n' :: rest => '\n' :: uniformBreaks rest
  | c :: rest => (if c = '\r' then '\n' else c) :: uniformBreaks rest
  | [] => []

def Directory.readText {α : Type} (d : Directory α) (path : String) : Except Failure String :=
  match d.find path with
  | none => .error (.fault .missingFile s!"[Errno 2] No such file or directory: {quoted (Path.clean path)}")
  | some .folder => .error (.fault .directory s!"[Errno 21] Is a directory: {quoted (Path.clean path)}")
  | some (.tensors _) => .error (.fault .badUtf8 path)
  | some (.bytes contents) =>
    match Utf8.decodeStrict contents with
    | .error place => .error (.illFormed contents place)
    | .ok text => .ok (String.ofList (uniformBreaks text.toList))

namespace ServerKind

/-- The document in a text, whose format the ending of its file's name tells. -/
def document (ending text : String) : Except Failure Value :=
  let format := String.ofList (ending.toList.map Char.toLower)
  if format = ".json" then
    (Json.read text).mapError (·.failure)
  else if format = ".yml" ∨ format = ".yaml" then (Yaml.read text).mapError (·.failure)
  else .error (.formatUnsupported format)

def configAt {α : Type} (d : Directory α) (kind : ServerKind) (path : String) :
    Except Failure ServerConfig := do
  match ← document (Path.ending path) (← d.readText path) with
  | .null => kind.config (.dict [])
  | .dict entries => kind.config (.dict entries)
  | other => .error (.payloadKind other.className)

end ServerKind
end StreamingLM
