import StreamingLM.Config.Tokenizer
import StreamingLM.Directory
import StreamingLM.Tokenizer.PieceTable
import StreamingLM.Tokenizer.RankTable

/-!
Tokenizers: from text to token ids and back, with the ids that frame a text or end it and the number
of tokens that a stream holds back before it decodes them.
-/
namespace StreamingLM

/-- What a stream needs of a tokenizer: its decoding, the tokens that end a text, and how many
tokens are held back. -/
structure Detokenizer where
  decode : List Int → Except Failure String
  stopIds : List Int := []
  context : Nat := 0

inductive Tokenizer where
  | bytes
  | ranks (table : RankTable)
  | pieces (table : PieceTable) (beginId endId : Int)

namespace Tokenizer

def byteIds (text : String) : List Int := (Utf8.encode text).map fun (b : Nat) => (b : Int)

def encode (t : Tokenizer) (text : String) : Except Failure (List Int) :=
  match t with
  | bytes => .ok (byteIds text)
  | ranks table => table.encode text
  | pieces table _ _ => table.encode text

/-- Byte tokens are not decoded but listed. -/
def decode (t : Tokenizer) (ids : List Int) : Except Failure String :=
  match t with
  | bytes => .ok (Value.list (ids.map .int)).shown
  | ranks table => table.decode ids
  | pieces table _ _ => .ok (table.decode ids)

def beginId : Tokenizer → Int
  | bytes => 0
  | ranks table => table.beginId
  | pieces _ b _ => b

def endId : Tokenizer → Int
  | bytes => 1
  | ranks table => table.endId
  | pieces _ _ e => e

def opening : Tokenizer → List Int
  | bytes => byteIds "[bos]"
  | t => [t.beginId]

def closing : Tokenizer → List Int
  | bytes => byteIds "[end]"
  | t => [t.endId]

def encodeFramed (t : Tokenizer) (opened closed : Bool) (text : String) :
    Except Failure (List Int) := do
  let ids ← t.encode text
  return (if opened then t.opening else []) ++ ids ++ (if closed then t.closing else [])

def stopIds : Tokenizer → List Int
  | bytes => [2]
  | ranks table => [table.endId, table.turnId]
  | pieces _ _ e => [e]

def context : Tokenizer → Nat
  | pieces .. => 4
  | _ => 0

def detokenizer (t : Tokenizer) : Detokenizer :=
  { decode := t.decode, stopIds := t.stopIds, context := t.context }

variable {α : Type}

def ofRankFile (d : Directory α) (path : String) : Except Failure Tokenizer :=
  match d.find path with
  | none => .error (.tokenizerMissing (Path.clean path))
  | some .folder => .error (.fault .directory path)
  | some (.tensors _) => .error RankTable.badLine
  | some (.bytes contents) => (RankTable.ofFile contents).map ranks

def ofPieceFile (d : Directory α) (c : PieceConfig) : Except Failure Tokenizer :=
  match d.find c.path with
  | none => .error (.tokenizerMissing (Path.clean c.path))
  | some (.bytes contents) => (PieceTable.ofFile contents).map fun t => pieces t c.beginId c.endId
  | some _ => .error PieceTable.unreadable

/-- The tokenizer that settings describe. Published encodings are not at hand. -/
def ofConfig (d : Directory α) : TokenizerConfig → Except Failure Tokenizer
  | .byte => .ok bytes
  | .ranks { path := some path, .. } => ofRankFile d path
  | .ranks { path := none, .. } => .error (.fault .value "no such encoding")
  | .pieces c => ofPieceFile d c

/-- Without settings there is no tokenizer. -/
def ofConfig? (d : Directory α) : Option TokenizerConfig → Except Failure Tokenizer
  | some c => ofConfig d c
  | none => .error (.tokenizerUnsupported Value.null.className)

end Tokenizer
end StreamingLM
