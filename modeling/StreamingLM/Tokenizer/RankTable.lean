import Std.Data.HashMap
import StreamingLM.Failure
import StreamingLM.Text.Base64
import StreamingLM.Text.Span
import StreamingLM.Text.Utf8
import StreamingLM.Tokenizer.Lexeme
import StreamingLM.Tokenizer.Merge

/-!
Byte-level tokenizers over a table of ranks: each piece of a text is merged from its bytes, the pair
of lowest rank first, and the rank of what is left is its token. Behind the ranks follow the ids of
256 special tokens, which are recognised wherever their texts occur.
-/
namespace StreamingLM

structure RankTable where
  rank : Std.HashMap (List Nat) Nat := {}
  bytes : Std.HashMap Nat (List Nat) := {}

namespace RankTable

/-- Give a byte sequence its rank; a rank that it had before is free again. -/
def insert (t : RankTable) (bytes : List Nat) (rank : Nat) : RankTable :=
  let freed := match t.rank[bytes]? with
    | some old => t.bytes.erase old
    | none => t.bytes
  { rank := t.rank.insert bytes rank, bytes := freed.insert rank bytes }

/-- The number of byte sequences, which is the id of the first special token. -/
def size (t : RankTable) : Nat := t.rank.size

def linesFrom : List Char → List Char → List (List Char)
  | held, [] => if held.isEmpty then [] else [held.reverse]
  | held, '\r' :: '\n' :: rest => held.reverse :: linesFrom [] rest
  | held, c :: rest =>
    if c = '\n' ∨ c = '\r' then held.reverse :: linesFrom [] rest else linesFrom (c :: held) rest

def badLine : Failure := .fault .value "rank line"

def readEntry (line : List Char) : Except Failure (List Nat × Nat) :=
  match wordsFrom [] line with
  | [piece, rank] =>
    match Base64.decode piece, (String.ofList rank).toNat? with
    | some bytes, some n => .ok (bytes, n)
    | _, _ => .error badLine
  | _ => .error badLine

def entriesOf (contents : List Nat) : Except Failure (List (List Nat × Nat)) :=
  ((linesFrom [] (contents.map Char.ofNat)).filter (!·.isEmpty)).mapM readEntry

def ofEntries (entries : List (List Nat × Nat)) : RankTable :=
  entries.foldl (fun t e => t.insert e.1 e.2) {}

def ofFile (contents : List Nat) : Except Failure RankTable := (entriesOf contents).map ofEntries

def file (pieces : List (List Nat)) : List Nat :=
  Utf8.encode (String.join (pieces.zipIdx.map fun (bytes, rank) =>
    String.ofList (Base64.encode bytes) ++ " " ++ toString rank ++ "\n"))

/-- The single bytes, which every rank file lists first, and further pieces behind them. -/
def bytesAnd (pieces : List String) : List (List Nat) :=
  (List.range 256).map (fun b => [b]) ++ pieces.map Utf8.encode

def namedSpecials : List String :=
  ["<|begin_of_text|>", "<|end_of_text|>", "<|reserved_special_token_0|>",
    "<|reserved_special_token_1|>", "<|finetune_right_pad_id|>", "<|step_id|>",
    "<|start_header_id|>", "<|end_header_id|>", "<|eom_id|>", "<|eot_id|>", "<|python_tag|>"]

/-- The texts of the special tokens: eleven names, then reserved ones up to 256 in all. -/
def specials : List String :=
  namedSpecials ++ (List.range (256 - namedSpecials.length)).map fun i =>
    s!"<|reserved_special_token_{i + 2}|>"

theorem specials_length : specials.length = 256 := by simp [specials, namedSpecials]

def specialId (t : RankTable) (i : Nat) : Int := t.size + i

def beginId (t : RankTable) : Int := t.specialId 0

def endId (t : RankTable) : Int := t.specialId 1

def turnId (t : RankTable) : Int := t.specialId 9

def markers (t : RankTable) : List (List Char × Int) :=
  specials.zipIdx.map fun (name, i) => (name.toList, t.specialId i)

/-- Two neighbours merge when the table knows their bytes together. -/
def merge? (t : RankTable) (a b : List Nat) : Option (Nat × List Nat) :=
  t.rank[a ++ b]?.map fun r => (r, a ++ b)

def idOf (t : RankTable) (bytes : List Nat) : Except Failure Int :=
  match t.rank[bytes]? with
  | some r => .ok r
  | none => .error (.fault .key "unknown bytes")

/-- The tokens of one piece: its own rank, or the ranks of its merged bytes. -/
def encodeBytes (t : RankTable) (bytes : List Nat) : Except Failure (List Int) :=
  match t.rank[bytes]? with
  | some r => .ok [(r : Int)]
  | none => (Merge.all t.merge? (bytes.map fun b => [b])).mapM t.idOf

def encodeSpan (t : RankTable) : Span → Except Failure (List Int)
  | .marker id => .ok [id]
  | .text cs => do
    let pieces ← (Lexeme.cut cs).mapM fun piece => t.encodeBytes (Utf8.encode (String.ofList piece))
    return pieces.flatten

def encode (t : RankTable) (text : String) : Except Failure (List Int) := do
  let spans ← (Span.cut t.markers text.toList).mapM t.encodeSpan
  return spans.flatten

def specialText? (t : RankTable) (id : Nat) : Option String :=
  if t.size ≤ id then specials[id - t.size]? else none

def bytes? (t : RankTable) (id : Nat) : Option (List Nat) :=
  match t.bytes[id]? with
  | some bytes => some bytes
  | none => (t.specialText? id).map Utf8.encode

/-- What is wrong with an id of no token; ids are 32-bit words. -/
def unknownId (id : Int) : Failure :=
  if id < 0 ∨ (Nat.pow 2 32 : Int) ≤ id then .fault .overflow "token id"
  else .fault .key "unknown token"

def bytesOf (t : RankTable) (id : Int) : Except Failure (List Nat) :=
  match id.toNat?.bind t.bytes? with
  | some bytes => .ok bytes
  | none => .error (unknownId id)

/-- The bytes of all tokens, read as one text in which ill-formed bytes are replaced. -/
def decode (t : RankTable) (ids : List Int) : Except Failure String := do
  let bytes ← ids.mapM t.bytesOf
  return Utf8.decodeLenient bytes.flatten

end RankTable
end StreamingLM
