import StreamingLM.Checkpoint.Install
import StreamingLM.Checkpoint.TensorFile
import StreamingLM.Config.Model
import StreamingLM.Directory
import StreamingLM.Document.Tensor
import StreamingLM.Json.Writer
import StreamingLM.Model.Transformer
import StreamingLM.Text.Base64
import StreamingLM.Tokenizer.PieceTable
import StreamingLM.Tokenizer.RankTable

/-!
Directories as documents: under each path the text or the bytes of a file, the vocabulary that it
holds, or the tensors of a model.
-/
namespace StreamingLM
namespace Document

def presetConfig (v : Value) : Except Failure LlamaConfig := do
  match Preset.ofName? (text v "preset") with
  | none => .error (.fault .key "preset")
  | some p =>
    if p.needsTokenizer = (given v "path").isNone then .error (.fault .type "arguments")
    else p.config (text v "path") (field v "overrides").entries

def modelConfig (v : Value) : Except Failure LlamaConfig :=
  match v.get? "preset" with
  | some _ => presetConfig v
  | none => (LlamaConfig.reader v).toExcept "LlamaConfig"

/-- The tensors of a whole model, under own or published names, some left out and some added. -/
def modelTensors (spec : Value) : Except Failure (Parameters Float) := do
  let c ← modelConfig (field spec "model")
  let own := filling (field spec "weights") (← c.transformer.parameters)
  let all := if text spec "names" = "hf" then
      (Checkpoint.publishedNames c.layers.toNat).map fun (n, m) => (n, own.tensor m)
    else own
  let left := strings (field spec "drop")
  return (stateOf (field spec "add")).foldl (fun done (n, t) => Checkpoint.set n t done)
    (all.filter fun entry => !left.contains entry.1)

def fileOf (path : String) (spec : Value) : FileContent Float :=
  let is (name : String) := (spec.get? name).isSome
  let names (name : String) := strings (field spec name)
  if is "text" then .bytes (Utf8.encode (text spec "text"))
  else if is "b64" then .ofBytes path ((Base64.decode (text spec "b64").toList).getD [])
  else if is "ranks" then .bytes (RankTable.file (RankTable.bytesAnd (names "ranks")))
  else if is "words" then .bytes (Utf8.encode (Json.write (PieceTable.wordDocument (names "words"))))
  else if is "bpe" then
    let merges := (listOf (field spec "merges")).filterMap fun m =>
      match strings m with
      | [a, b] => some (a, b)
      | _ => none
    .bytes (Utf8.encode (Json.write
      (PieceTable.mergingDocument (names "bpe") merges (flag spec "byte_fallback" true))))
  else if is "tensors" then .tensors (stateOf (field spec "tensors"))
  else .tensors ((modelTensors spec).toOption.getD [])

def directoryOf (v : Value) : Directory Float :=
  .ofFiles (v.entries.map fun (name, spec) => (strOf name, fileOf (strOf name) spec))

end Document
end StreamingLM
