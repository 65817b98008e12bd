import StreamingLM.Text.Utf8
import StreamingLM.Yaml.Scalar

/-!
The tokens of a YAML text that are read off in one go: directives, names and tags.
-/
namespace StreamingLM
namespace Yaml

/-- An instruction to the reader at the start of a document. -/
inductive Directive where
  | version (major minor : Nat)
  | handle (name stem : String)
  | other
  deriving DecidableEq, Repr

inductive Token where
  | streamEnd
  | directive (d : Directive)
  | documentStart
  | documentEnd
  | blockSequenceStart
  | blockMappingStart
  | blockEnd
  | flowSequenceStart
  | flowMappingStart
  | flowSequenceEnd
  | flowMappingEnd
  | key
  | value
  | blockEntry
  | flowEntry
  | mention (name : String)
  | anchor (name : String)
  | tag (handle : Option String) (suffix : String)
  | scalar (text : String) (plain : Bool)
  deriving DecidableEq, Repr

def Token.noun : Token → String
  | streamEnd => "<stream end>"
  | directive _ => "<directive>"
  | documentStart => "<document start>"
  | documentEnd => "<document end>"
  | blockSequenceStart => "<block sequence start>"
  | blockMappingStart => "<block mapping start>"
  | blockEnd => "<block end>"
  | flowSequenceStart => "["
  | flowMappingStart => "\x7b"
  | flowSequenceEnd => "]"
  | flowMappingEnd => "\x7d"
  | key => "?"
  | value => ":"
  | blockEntry => "-"
  | flowEntry => ","
  | mention _ => "<alias>"
  | anchor _ => "<anchor>"
  | tag .. => "<tag>"
  | scalar .. => "<scalar>"

namespace Cursor

def anchorName (noun : String) (c : Cursor) : Except Problem (String × Cursor) := do
  let (name, c) ← c.next.name (.badName noun)
  if isGap c.head || "?:,]\x7d%@\x60".toList.contains c.head then return (name, c)
  else throw (.badName noun)

/-- A handle, one exclamation mark or a name between two; a blank ends the first kind. -/
def tagHandle (problem : Problem) (c : Cursor) : Except Problem (String × Cursor) :=
  if c.head ≠ '!' then .error problem
  else if c.peek 1 == ' ' then .ok ("!", c.next)
  else
    let (name, after) := c.next.span isNameChar
    if after.head == '!' then .ok (String.ofList ('!' :: name ++ ['!']), after.next)
    else .error problem

def isUriChar (c : Char) : Bool :=
  isNameChar c || ";/?:@&=+$,.!~*'()[]".toList.contains c

/-- The bytes of a run of escapes, each a percent sign and two hexadecimal digits. -/
def uriBytes (problem : Problem) : Nat → Cursor → Except Problem (List Nat × Cursor)
  | 0, c => .ok ([], c)
  | fuel + 1, c =>
    if c.head ≠ '%' then .ok ([], c)
    else
      let digits := [c.peek 1, c.peek 2]
      if !digits.all Json.isHex then .error problem
      else (uriBytes problem fuel (c.skip 3)).map fun (bytes, c) => (CharSet.hexValue digits :: bytes, c)

/-- The address that names a tag, up to the first character that belongs to none. -/
def tagUriFrom (problem : Problem) : Nat → List Char → Cursor → Except Problem (List Char × Cursor)
  | 0, done, c => .ok (done, c)
  | fuel + 1, done, c =>
    if c.head == '%' then do
      let (bytes, c) ← uriBytes problem (c.rest.length + 1) c
      match Utf8.decodeStrict bytes with
      | .ok text => tagUriFrom problem fuel (done ++ text.toList) c
      | .error _ => throw problem
    else
      let (taken, after) := c.span isUriChar
      if taken.isEmpty then .ok (done, c) else tagUriFrom problem fuel (done ++ taken) after

def tagUri (problem : Problem) (c : Cursor) : Except Problem (String × Cursor) := do
  let (cs, after) ← tagUriFrom problem (c.rest.length + 1) [] c
  if cs.isEmpty then throw problem else return (String.ofList cs, after)

def hasHandle (c : Cursor) : Bool := (c.next.rest.takeWhile (!isSpaceOrEnd ·)).contains '!'

def tag (c : Cursor) : Except Problem (Token × Cursor) := do
  let (token, c) ← (if c.peek 1 == '<' then do
      let (uri, c) ← (c.skip 2).tagUri .badTag
      if c.head ≠ '>' then throw .openTag
      else pure (Token.tag none uri, c.next)
    else if isGap (c.peek 1) then pure (Token.tag none "!", c.next)
    else do
      let (handle, c) ← if c.hasHandle then c.tagHandle .badTag else pure ("!", c.next)
      let (suffix, c) ← c.tagUri .badTag
      pure (Token.tag (some handle) suffix, c) : Except Problem (Token × Cursor))
  if isSpaceOrEnd c.head then return (token, c) else throw .badTag

def isDigit (c : Char) : Bool := '0' ≤ c && c ≤ '9'

def number (c : Cursor) : Except Problem (Nat × Cursor) :=
  match c.span isDigit with
  | ([], _) => .error .badDirective
  | (digits, c) => .ok (CharSet.decimalValue digits, c)

def version (c : Cursor) : Except Problem (Directive × Cursor) := do
  let (major, c) ← c.skipSpaces.number
  if c.head ≠ '.' then throw .badDirective
  let (minor, c) ← c.next.number
  if isSpaceOrEnd c.head then return (.version major minor, c) else throw .badDirective

def handleMeaning (c : Cursor) : Except Problem (Directive × Cursor) := do
  let (handle, c) ← c.skipSpaces.tagHandle .badDirective
  if c.head ≠ ' ' then throw .badDirective
  let (stem, c) ← c.skipSpaces.tagUri .badDirective
  if isSpaceOrEnd c.head then return (.handle handle stem, c) else throw .badDirective

def directive (c : Cursor) : Except Problem (Token × Cursor) := do
  let (name, c) ← c.next.name .badDirective
  if !isSpaceOrEnd c.head then throw .badDirective
  let (d, c) ← (match name with
    | "YAML" => c.version
    | "TAG" => c.handleMeaning
    | _ => pure (.other, c.skipWhile (!isEnd ·)) : Except Problem (Directive × Cursor))
  return (.directive d, ← c.restOfLine .badDirective)

end Cursor
end Yaml
end StreamingLM
