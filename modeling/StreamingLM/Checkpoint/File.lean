import StreamingLM.Directory
import StreamingLM.Json.Reader
import StreamingLM.Layer.Feature
import StreamingLM.Text.Utf8

/-!
Checkpoint files: single files of tensors in one of two formats, told apart by their ending, and
index files, which list the files over which the tensors of a model are spread.
-/
namespace StreamingLM
namespace Checkpoint

variable {α : Type}

def readJson (contents : List Nat) : Except Failure Value :=
  match Utf8.decodeStrict contents with
  | .error place => .error (.illFormed contents place)
  | .ok text =>
    match Json.read text with
    | .ok v => .ok v
    | .error fault => .error fault.failure

def isIndex (path : String) : Bool := (Path.name path).endsWith ".index.json"

def sorted (entries : Parameters α) : Parameters α :=
  entries.mergeSort fun a b => a.1 ≤ b.1

/-- Read a file of tensors. One format lists them by name, the other in the order in which they
were stored. -/
def readTensors (path : String) : FileContent α → Except Failure (Parameters α)
  | .tensors entries => .ok (if Path.ending path = ".safetensors" then sorted entries else entries)
  | .folder => .error (.fault .directory path)
  | .bytes contents =>
    if Path.ending path = ".safetensors" then .error (.fault .tensorFile path)
    else if contents.isEmpty then .error (.fault .endOfFile "Ran out of input")
    else .error (.fault .pickle path)

def readOne (d : Directory α) (path : String) : Except Failure (Parameters α) :=
  match d.find path with
  | none => .error (.checkpointMissing (Path.clean path))
  | some content => readTensors path content

/-- The files that an index lists, each once and in order of their names. -/
def shards (path : String) (index : Value) : Except Failure (List String) :=
  match index with
  | .dict _ =>
    match index.get? "weight_map" with
    | some (.dict entries) => do
      let names ← entries.mapM fun entry =>
        match entry.2 with
        | .text s => .ok s
        | _ => .error (.fault .type "file name")
      return (names.eraseDups).mergeSort fun a b => a ≤ b
    | _ => .error (.badShardIndex (Path.clean path))
  | _ => .error (.fault .field "weight_map")

/-- Add the tensors of one file to those read so far; no name may occur twice. -/
def merge (state more : Parameters α) : Except Failure (Parameters α) :=
  more.foldlM (fun state (name, t) =>
    if (state.lookup name).isSome then .error (.duplicateTensor name)
    else .ok (state ++ [(name, t)])) state

def addShard (d : Directory α) (path : String) (state : Parameters α) (shard : String) :
    Except Failure (Parameters α) := do
  let place := Path.beside path shard
  if isIndex place then .error (.nestedShardIndex shard)
  else merge state (← readOne d place)

def readIndex (d : Directory α) (path : String) (content : FileContent α) :
    Except Failure (Parameters α) := do
  let index ← match content with
    | .bytes contents => readJson contents
    | .folder => .error (.fault .directory path)
    | .tensors _ => .error (.fault .badUtf8 path)
  (← shards path index).foldlM (addShard d path) []

/-- Read a checkpoint, through its index if that is what the path names. -/
def read (d : Directory α) (path : String) : Except Failure (Parameters α) :=
  match d.find path with
  | none => .error (.checkpointMissing (Path.clean path))
  | some content => if isIndex path then readIndex d path content else readTensors path content

end Checkpoint
end StreamingLM
