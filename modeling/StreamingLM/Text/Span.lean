/-!
A text cut at markers, fixed texts that stand for something of their own wherever they occur.
-/
namespace StreamingLM

/-- A part of a text: plain characters or a marker, known by its number. -/
inductive Span where
  | text (cs : List Char)
  | marker (id : Int)
  deriving DecidableEq, Repr

namespace Span

def close (held : List Char) (rest : List Span) : List Span :=
  if held.isEmpty then rest else text held.reverse :: rest

/-- Cut from here on; `skip` counts the characters of the last marker still to pass. -/
def cutFrom (markers : List (List Char × Int)) : Nat → List Char → List Char → List Span
  | _, held, [] => close held []
  | skip + 1, held, _ :: rest => cutFrom markers skip held rest
  | 0, held, c :: rest =>
    match markers.find? fun m => m.1.isPrefixOf (c :: rest) with
    | some m => close held (marker m.2 :: cutFrom markers (m.1.length - 1) [] rest)
    | none => cutFrom markers 0 (c :: held) rest

def cut (markers : List (List Char × Int)) (cs : List Char) : List Span := cutFrom markers 0 [] cs

end Span
end StreamingLM
