import StreamingLM.Config.Layer

/-!
Settings of the tokenizers, and the choice between them by tag.
-/
namespace StreamingLM

/-- Where a table of byte-pair ranks comes from: the name of a published encoding or the path of a
rank file. Exactly one of the two is given. -/
structure RankConfig where
  encoding : Option String := none
  path : Option String := none

/-- A tokenizer file with word-piece or byte-pair vocabulary, and the ids that frame a text. -/
structure PieceConfig where
  path : String
  beginId : Int := 1
  endId : Int := 2

inductive TokenizerConfig where
  | byte
  | ranks (c : RankConfig)
  | pieces (c : PieceConfig)

namespace RankConfig

def oneSource (c : RankConfig) : Option Violation :=
  if c.encoding.isNone = c.path.isNone then some .tokenizerSource else none

def reader : Reader RankConfig := .model fun entries =>
  ((fun _ => mk) <$> Reader.withDefault (.literal "tiktoken") () "type" entries
    <*> Reader.withDefault (.optional .text) none "encoding" entries
    <*> Reader.withDefault (.optional .text) none "path" entries).keeping oneSource

def dump (c : RankConfig) : Value := .dict
  [(.text "type", .text "tiktoken"), (.text "encoding", Value.ofText? c.encoding),
    (.text "path", Value.ofText? c.path)]

end RankConfig

namespace PieceConfig

def reader : Reader PieceConfig := .model fun entries =>
  (fun _ => mk) <$> Reader.withDefault (.literal "huggingface") () "type" entries
    <*> Reader.required .text "path" entries
    <*> Reader.withDefault .int 1 "bos_id" entries
    <*> Reader.withDefault .int 2 "eos_id" entries

def dump (c : PieceConfig) : Value := .dict
  [(.text "type", .text "huggingface"), (.text "path", .text c.path),
    (.text "bos_id", .int c.beginId), (.text "eos_id", .int c.endId)]

end PieceConfig

namespace TokenizerConfig

def byteReader : Reader Unit := .model fun entries =>
  Reader.withDefault (.literal "byte") () "type" entries

def byteDump : Value := .dict [(.text "type", .text "byte")]

def reader : Reader TokenizerConfig := .tagged
  [("byte", fun v => (byteReader v).map fun _ => byte),
    ("tiktoken", fun v => (RankConfig.reader v).map ranks),
    ("huggingface", fun v => (PieceConfig.reader v).map pieces)]

def dump : TokenizerConfig → Value
  | byte => byteDump
  | ranks c => c.dump
  | pieces c => c.dump

end TokenizerConfig
end StreamingLM
