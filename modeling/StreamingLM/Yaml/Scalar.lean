import StreamingLM.Json.Reader
import StreamingLM.Yaml.Cursor

/-!
Texts in the five styles of YAML: plain, in single or double quotes, and as a literal or folded
block. Where a text runs over several lines, a single line break becomes a space, and of more than
one the first is dropped.
-/
namespace StreamingLM
namespace Yaml
namespace Cursor

def foldBreaks (first : List Char) (more : List Char) : List Char :=
  if first ≠ ['\n'] then first ++ more
  else if more.isEmpty then [' ']
  else more

def isFlowMark (c : Char) : Bool :=
  c == ',' || c == '[' || c == ']' || c == '\x7b' || c == '\x7d'

def endsPlain (flow : Bool) (c after : Char) : Bool :=
  isGap c || (c == ':' && (isGap after || (flow && isFlowMark after)))
    || (flow && (c == '?' || isFlowMark c))

def plainLength (flow : Bool) : List Char → Nat
  | [] => 0
  | c :: rest => if endsPlain flow c (rest.headD '\x00') then 0 else plainLength flow rest + 1

/-- Empty lines within a plain text; `none` before a separator of documents. -/
def plainBreaks : Nat → List Char → Cursor → Option (List Char) × Cursor
  | 0, done, c => (some done, c)
  | fuel + 1, done, c =>
    if c.head == ' ' then plainBreaks fuel done c.next
    else if isBreak c.head then
      let (br, c) := c.lineBreak
      if c.atSeparator then (none, c) else plainBreaks fuel (done ++ br) c
    else (some done, c)

/-- The blanks behind a stretch of a plain text: what they count as, and whether a line ended. -/
def plainSpaces (c : Cursor) : List Char × Bool × Cursor :=
  let (blanks, c) := c.span (· == ' ')
  if isBreak c.head then
    let (br, c) := c.lineBreak
    if c.atSeparator then ([], true, c)
    else
      match plainBreaks (c.rest.length + 1) [] c with
      | (some more, c) => (foldBreaks br more, true, c)
      | (none, c) => ([], true, c)
  else (blanks, false, c)

/-- Read a plain text on; `spaces` are the blanks before this place and `crossed` tells whether a
line ended in them. -/
def plainFrom (flow : Bool) (indent : Int) : Nat → List Char → List Char → Bool → Cursor →
    String × Bool × Cursor
  | 0, done, _, crossed, c => (String.ofList done, crossed, c)
  | fuel + 1, done, spaces, crossed, c =>
    let n := if c.head == '#' then 0 else plainLength flow c.rest
    if n = 0 then (String.ofList done, crossed, c)
    else
      let done := done ++ spaces ++ c.rest.take n
      let (spaces, crossed, c) := (c.skip n).plainSpaces
      if spaces.isEmpty || c.head == '#' || (!flow && (c.column : Int) < indent) then
        (String.ofList done, crossed, c)
      else plainFrom flow indent fuel done spaces crossed c

def plain (flow : Bool) (indent : Int) (c : Cursor) : String × Bool × Cursor :=
  plainFrom flow indent (c.rest.length + 1) [] [] false c

def quotedBreaks : Nat → List Char → Cursor → Except Problem (List Char × Cursor)
  | 0, done, c => .ok (done, c)
  | fuel + 1, done, c =>
    if c.atSeparator then .error .openQuote
    else
      let c := c.skipWhile fun ch => ch == ' ' || ch == '\t'
      if isBreak c.head then
        let (br, c) := c.lineBreak
        quotedBreaks fuel (done ++ br) c
      else .ok (done, c)

def quotedSpaces (c : Cursor) : Except Problem (List Char × Cursor) := do
  let (blanks, c) := c.span fun ch => ch == ' ' || ch == '\t'
  if c.atEnd then throw .openQuote
  else if isBreak c.head then
    let (br, c) := c.lineBreak
    let (more, c) ← quotedBreaks (c.rest.length + 1) [] c
    return (foldBreaks br more, c)
  else return (blanks, c)

def escaped? : Char → Option Char
  | '0' => some '\x00'
  | 'a' => some '\x07'
  | 'b' => some '\x08'
  | 't' | '\t' => some '\t'
  | 'n' => some '\n'
  | 'v' => some '\x0b'
  | 'f' => some '\x0c'
  | 'r' => some '\r'
  | 'e' => some '\x1b'
  | ' ' => some ' '
  | '"' => some '"'
  | '\\' => some '\\'
  | '/' => some '/'
  | 'N' => some '\x85'
  | '_' => some '\xa0'
  | 'L' => some '\u2028'
  | 'P' => some '\u2029'
  | _ => none

def escapeWidth? : Char → Option Nat
  | 'x' => some 2
  | 'u' => some 4
  | 'U' => some 8
  | _ => none

/-- The character of a code point; a surrogate, which is none, counts as a replacement. -/
def pointChar (n : Nat) : Except Problem Char :=
  if Nat.pow 2 31 ≤ n then .error .pointOverflow
  else if 0x110000 ≤ n then .error .pointOutOfRange
  else if 0xd800 ≤ n ∧ n < 0xe000 then .ok '\uFFFD'
  else .ok (Char.ofNat n)

def escape (c : Cursor) : Except Problem (List Char × Cursor) := do
  match escaped? c.head, escapeWidth? c.head with
  | some ch, _ => return ([ch], c.next)
  | none, some width =>
    let digits := c.next.rest.take width
    if digits.length < width || !digits.all Json.isHex then throw .badEscape
    else return ([← pointChar (CharSet.hexValue digits)], c.skip (width + 1))
  | none, none =>
    if isBreak c.head then quotedBreaks (c.rest.length + 1) [] c.lineBreak.2
    else throw .badEscape

def isQuotedChar (c : Char) : Bool := !(c == '\'' || c == '"' || c == '\\' || isGap c)

def quotedFrom (double : Bool) : Nat → List Char → Cursor → Except Problem (String × Cursor)
  | 0, _, _ => .error .openQuote
  | fuel + 1, done, c => do
    let ch := c.head
    if c.atEnd || isGap ch then
      let (blanks, c) ← c.quotedSpaces
      quotedFrom double fuel (done ++ blanks) c
    else if !double && ch == '\'' then
      if c.peek 1 == '\'' then quotedFrom double fuel (done ++ ['\'']) (c.skip 2)
      else return (String.ofList done, c.next)
    else if double && ch == '"' then return (String.ofList done, c.next)
    else if double && ch == '\\' then
      let (chars, c) ← c.next.escape
      quotedFrom double fuel (done ++ chars) c
    else
      let (taken, after) := c.span isQuotedChar
      if taken.isEmpty then quotedFrom double fuel (done ++ [ch]) c.next
      else quotedFrom double fuel (done ++ taken) after

def quoted (double : Bool) (c : Cursor) : Except Problem (String × Cursor) :=
  quotedFrom double (c.rest.length + 1) [] c.next

/-- What becomes of the line breaks at the end of a block. -/
inductive Chomping where
  | clip
  | strip
  | keep
  deriving DecidableEq, Repr

def chomping? : Char → Option Chomping
  | '+' => some .keep
  | '-' => some .strip
  | _ => none

def increment? (c : Cursor) : Except Problem (Option Nat × Cursor) :=
  if c.head == '0' then .error .badBlockText
  else if '1' ≤ c.head ∧ c.head ≤ '9' then .ok (some (c.head.toNat - '0'.toNat), c.next)
  else .ok (none, c)

def blockIndicators (c : Cursor) : Except Problem (Chomping × Option Nat × Cursor) := do
  let (chomping, increment, c) ← match chomping? c.head with
    | some chomping => do
      let (increment, c) ← c.next.increment?
      pure (chomping, increment, c)
    | none => do
      let (increment, c) ← c.increment?
      match increment, chomping? c.head with
      | some _, some chomping => pure (chomping, increment, c.next)
      | _, _ => pure (Chomping.clip, increment, c)
  if isSpaceOrEnd c.head then return (chomping, increment, c) else throw .badBlockText

/-- The empty lines at the start of a block, and the deepest column among their blanks. -/
def blockIndentation : Nat → List Char → Nat → Cursor → List Char × Nat × Cursor
  | 0, done, deepest, c => (done, deepest, c)
  | fuel + 1, done, deepest, c =>
    if c.head == ' ' then blockIndentation fuel done (max deepest c.next.column) c.next
    else if isBreak c.head then
      let (br, c) := c.lineBreak
      blockIndentation fuel (done ++ br) deepest c
    else (done, deepest, c)

def skipIndent (indent : Nat) (c : Cursor) : Cursor :=
  c.skip (min (indent - c.column) (c.rest.takeWhile (· == ' ')).length)

def blockBreaks (indent : Nat) : Nat → List Char → Cursor → List Char × Cursor
  | 0, done, c => (done, c)
  | fuel + 1, done, c =>
    let c := c.skipIndent indent
    if isBreak c.head then
      let (br, c) := c.lineBreak
      blockBreaks indent fuel (done ++ br) c
    else (done, c)

def isBlank (c : Char) : Bool := c == ' ' || c == '\t'

/-- The lines of a block: the text before the last line break, that break, and the empty lines
behind it. -/
def blockLines (folded : Bool) (indent : Nat) : Nat → List Char → List Char → List Char → Cursor →
    List Char × List Char × List Char × Cursor
  | 0, done, br, breaks, c => (done, br, breaks, c)
  | fuel + 1, done, br, breaks, c =>
    if c.column ≠ indent ∨ c.atEnd then (done, br, breaks, c)
    else
      let solid := !isBlank c.head
      let (line, c) := c.span (!isEnd ·)
      let done := done ++ breaks ++ line
      let (br, c) := c.lineBreak
      let (breaks, c) := blockBreaks indent (c.rest.length + 1) [] c
      if c.column = indent ∧ !c.atEnd then
        let joined := if folded && br == ['\n'] && solid && !isBlank c.head then
            if breaks.isEmpty then [' '] else []
          else br
        blockLines folded indent fuel (done ++ joined) br breaks c
      else (done, br, breaks, c)

/-- A block text, from its indicator on; `parent` is the column of the collection around it. -/
def blockText (folded : Bool) (parent : Int) (c : Cursor) : Except Problem (String × Cursor) := do
  let (chomping, increment, c) ← c.next.blockIndicators
  let c ← c.restOfLine .badBlockText
  let least := max 1 (parent + 1).toNat
  let (indent, breaks, c) := match increment with
    | none =>
      let (breaks, deepest, c) := blockIndentation (c.rest.length + 1) [] 0 c
      (max least deepest, breaks, c)
    | some n =>
      let indent := least + n - 1
      let (breaks, c) := blockBreaks indent (c.rest.length + 1) [] c
      (indent, breaks, c)
  let (done, br, breaks, c) := blockLines folded indent (c.rest.length + 1) [] [] breaks c
  return (String.ofList (match chomping with
    | .strip => done
    | .clip => done ++ br
    | .keep => done ++ br ++ breaks), c)

end Cursor
end Yaml
end StreamingLM
