import StreamingLM.Tokenizer.Basic

/-!
Decoders without an encoder: tokens that are code points, bytes or places in a list of pieces.
-/
namespace StreamingLM
namespace Detokenizer

def characters (ids : List Int) : Except Failure String := do
  let cs ← ids.mapM fun id =>
    if 0 ≤ id ∧ id < 0x110000 then .ok (Char.ofNat id.toNat)
    else .error (.fault .value "no code point")
  return String.ofList cs

def bytes (ids : List Int) : Except Failure String := do
  let bytes ← ids.mapM fun id =>
    if 0 ≤ id ∧ id < 256 then .ok id.toNat else .error (.fault .value "no byte")
  return Utf8.decodeLenient bytes

/-- Tokens as places in a list of pieces, whose bars become spaces; those at the front may be
stripped. -/
def pieces (all : List String) (strip : Bool) (ids : List Int) : Except Failure String := do
  let texts ← ids.mapM fun id => do return (all[← place? all.length id]?).getD ""
  let cs := (String.join texts).toList.map fun c => if c = PieceTable.bar then ' ' else c
  return String.ofList (if strip then cs.dropWhile (· = ' ') else cs)

end Detokenizer
end StreamingLM
