import Std.Data.HashMap
import StreamingLM.Failure
import StreamingLM.Json.Reader
import StreamingLM.Text.Span
import StreamingLM.Text.Utf8
import StreamingLM.Tokenizer.Merge

/-!
Tokenizers with a vocabulary of text pieces, of two kinds. Word tables look up whole words. Merging
tables mark the start of words by a low bar, merge pieces pair by pair, and fall back to the bytes
of a character that the vocabulary lacks.
-/
namespace StreamingLM

structure Vocabulary where
  ids : Std.HashMap String Int := {}
  pieces : Std.HashMap Int String := {}

namespace Vocabulary

def insert (v : Vocabulary) (piece : String) (id : Int) : Vocabulary :=
  { ids := v.ids.insert piece id, pieces := v.pieces.insert id piece }

def ofEntries (entries : List (String × Int)) : Vocabulary :=
  entries.foldl (fun v (piece, id) => v.insert piece id) {}

def piecesOf (v : Vocabulary) (ids : List Int) : List String := ids.filterMap fun id => v.pieces[id]?

end Vocabulary

inductive PieceTable where
  | words (vocabulary : Vocabulary) (unknown : String)
  | merging (vocabulary : Vocabulary) (merges : Std.HashMap (Int × Int) (Nat × Int))
      (byteFallback : Bool) (unknown : Option Int) (markers : List (List Char × Int))

namespace PieceTable

/-- Words are runs of word characters and runs of other signs; white space only separates them. -/
inductive WordClass where
  | word
  | sign
  | space
  deriving DecidableEq, Repr

def classOf (c : Char) : WordClass :=
  if Property.word.contains c then .word else if Property.isWhite c then .space else .sign

def cutWordsFrom : List Char → List Char → List (List Char)
  | held, [] => if held.isEmpty then [] else [held.reverse]
  | [], c :: rest => if classOf c = .space then cutWordsFrom [] rest else cutWordsFrom [c] rest
  | h :: held, c :: rest =>
    if classOf c = classOf h then cutWordsFrom (c :: h :: held) rest
    else (h :: held).reverse ::
      (if classOf c = .space then cutWordsFrom [] rest else cutWordsFrom [c] rest)

def cutWords (text : String) : List String := (cutWordsFrom [] text.toList).map String.ofList

/-- The mark at the start of a word. -/
def bar : Char := '▁'

/-- Put a bar in front of a text that is not empty, and bars in place of its spaces. -/
def barred : List Char → List Char
  | [] => []
  | cs => bar :: cs.map fun c => if c = ' ' then bar else c

def hexDigit (n : Nat) : Char := ((Nat.toDigits 16 n).headD '0').toUpper

def bytePiece (b : Nat) : String := s!"<0x{hexDigit (b / 16)}{hexDigit (b % 16)}>"

def hexValue? (c : Char) : Option Nat :=
  if '0' ≤ c ∧ c ≤ '9' then some (c.toNat - '0'.toNat)
  else if 'A' ≤ c ∧ c ≤ 'F' then some (c.toNat - 'A'.toNat + 10)
  else if 'a' ≤ c ∧ c ≤ 'f' then some (c.toNat - 'a'.toNat + 10)
  else none

def byteOf? : List Char → Option Nat
  | ['<', '0', 'x', a, b, '>'] =>
    match hexValue? a, hexValue? b with
    | some m, some n => some (16 * m + n)
    | _, _ => none
  | _ => none

def symbols? (v : Vocabulary) (byteFallback : Bool) (c : Char) : Option (List Int) :=
  match v.ids[c.toString]? with
  | some id => some [id]
  | none =>
    if byteFallback then (Utf8.encodePoint c.toNat).mapM fun b => v.ids[bytePiece b]? else none

/-- The ids of a text before merging; neighbouring unknown characters share one id. -/
def symbols (v : Vocabulary) (byteFallback : Bool) (unknown : Option Int) :
    Bool → List Char → List Int
  | _, [] => []
  | afterUnknown, c :: rest =>
    match symbols? v byteFallback c with
    | some ids => ids ++ symbols v byteFallback unknown false rest
    | none =>
      (if afterUnknown then [] else unknown.toList) ++ symbols v byteFallback unknown true rest

def wordId (v : Vocabulary) (unknown word : String) : Except Failure Int :=
  match v.ids[word]?, v.ids[unknown]? with
  | some id, _ => .ok id
  | none, some id => .ok id
  | none, none => .error (.fault .general "unknown word")

def encode (t : PieceTable) (text : String) : Except Failure (List Int) :=
  match t with
  | words v unknown => (cutWords text).mapM (wordId v unknown)
  | merging v merges byteFallback unknown markers =>
    .ok ((Span.cut markers text.toList).flatMap fun span =>
      match span with
      | .marker id => [id]
      | .text cs => Merge.all (fun a b => merges[(a, b)]?)
          (symbols v byteFallback unknown false (barred cs)))

/-- The text of a run of bytes; an ill-formed run gives one replacement character for each byte. -/
def byteText (bytes : List Nat) : List Char :=
  match Utf8.decodeStrict bytes with
  | .ok s => s.toList
  | .error _ => List.replicate bytes.length '\uFFFD'

/-- The text of pieces, with the bytes read so far of an open run, in reverse. -/
def joinFrom : List Nat → List (List Char) → List Char
  | held, [] => byteText held.reverse
  | held, piece :: rest =>
    match byteOf? piece with
    | some b => joinFrom (b :: held) rest
    | none =>
      byteText held.reverse ++ (piece.map fun c => if c = bar then ' ' else c) ++ joinFrom [] rest

def dropSpace : List Char → List Char
  | ' ' :: rest => rest
  | cs => cs

def decode (t : PieceTable) (ids : List Int) : String :=
  match t with
  | words v _ => String.intercalate " " (v.piecesOf ids)
  | merging v _ _ _ _ =>
    String.ofList (dropSpace (joinFrom [] ((v.piecesOf ids).map String.toList)))

def vocabularyDocument (pieces : List String) : Value :=
  .record (pieces.zipIdx.map fun (piece, id) => (piece, .int id))

/-- The tokenizer file of a list of words, the first of which stands for unknown ones. -/
def wordDocument (words : List String) : Value := .record
  [("model", .record [("type", .text "WordLevel"), ("vocab", vocabularyDocument words),
    ("unk_token", .text (words.headD ""))])]

def specials : List String := ["<unk>", "<s>", "</s>"]

/-- The tokenizer file of pieces behind the special ones and, for the fallback, the bytes. -/
def mergingDocument (pieces : List String) (merges : List (String × String)) (byteFallback : Bool) :
    Value :=
  let bytes := if byteFallback then (List.range 256).map bytePiece else []
  .record
    [("added_tokens", .list (specials.zipIdx.map fun (piece, id) =>
        .record [("id", .int id), ("content", .text piece)])),
      ("model", .record [("type", .text "BPE"),
        ("vocab", vocabularyDocument (specials ++ bytes ++ pieces)),
        ("merges", .list (merges.map fun (a, b) => .list [.text a, .text b])),
        ("byte_fallback", .bool byteFallback), ("unk_token", .text "<unk>")])]

def unreadable : Failure := .fault .general "tokenizer file"

def vocabularyOf (model : Value) : Except Failure Vocabulary := do
  let some (.dict entries) := model.get? "vocab" | .error unreadable
  let pairs ← entries.mapM fun entry =>
    match entry with
    | (.text piece, .int id) => .ok (piece, id)
    | _ => .error unreadable
  return .ofEntries pairs

def textField? (v : Value) (name : String) : Option String :=
  match v.get? name with
  | some (.text s) => some s
  | _ => none

/-- A pair to merge, as a list of two pieces or as one text with a space between them. -/
def pairOf : Value → Except Failure (String × String)
  | .list [.text a, .text b] => .ok (a, b)
  | .text s =>
    match s.splitOn " " with
    | [a, b] => .ok (a, b)
    | _ => .error unreadable
  | _ => .error unreadable

/-- The ids of a pair and of the piece that it merges into; all three belong to the vocabulary. -/
def mergeOf (v : Vocabulary) (pair : String × String) : Except Failure ((Int × Int) × Int) :=
  match v.ids[pair.1]?, v.ids[pair.2]?, v.ids[pair.1 ++ pair.2]? with
  | some a, some b, some ab => .ok ((a, b), ab)
  | _, _, _ => .error unreadable

def markersOf (file : Value) : Except Failure (List (List Char × Int)) :=
  match file.get? "added_tokens" with
  | none => .ok []
  | some (.list tokens) => tokens.mapM fun token =>
      match token.get? "content", token.get? "id" with
      | some (.text s), some (.int id) => .ok (s.toList, id)
      | _, _ => .error unreadable
  | some _ => .error unreadable

def mergingOf (file model : Value) : Except Failure PieceTable := do
  let v ← vocabularyOf model
  let pairs ← match model.get? "merges" with
    | some (.list pairs) => pairs.mapM pairOf
    | _ => .error unreadable
  let merges ← pairs.mapM (mergeOf v)
  let ranked := merges.zipIdx.foldl (fun m ((pair, id), rank) => m.insert pair (rank, id)) {}
  let byteFallback := match model.get? "byte_fallback" with
    | some (.bool b) => b
    | _ => false
  let unknown := (textField? model "unk_token").bind fun s => v.ids[s]?
  return merging v ranked byteFallback unknown (← markersOf file)

def ofDocument (file : Value) : Except Failure PieceTable := do
  let some model := file.get? "model" | .error unreadable
  match textField? model "type" with
  | some "WordLevel" => do
    let v ← vocabularyOf model
    return words v ((textField? model "unk_token").getD "<unk>")
  | some "BPE" => mergingOf file model
  | _ => .error unreadable

def ofFile (contents : List Nat) : Except Failure PieceTable :=
  match Utf8.decodeStrict contents with
  | .error _ => .error unreadable
  | .ok text =>
    match Json.read text with
    | .ok file => ofDocument file
    | .error _ => .error unreadable

end PieceTable
end StreamingLM
