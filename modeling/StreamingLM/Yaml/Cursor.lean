import StreamingLM.Yaml.Problem

/-!
A place in a YAML text: what follows it, and its line and column. The end of the text reads as a NUL
character, which no text contains.
-/
namespace StreamingLM
namespace Yaml

def isBreak (c : Char) : Bool :=
  c == '\r' || c == '\n' || c == '\x85' || c == '\u2028' || c == '\u2029'

def isEnd (c : Char) : Bool := c == '\x00' || isBreak c

def isSpaceOrEnd (c : Char) : Bool := c == ' ' || isEnd c

def isGap (c : Char) : Bool := c == '\t' || isSpaceOrEnd c

def isNameChar (c : Char) : Bool :=
  ('0' ≤ c && c ≤ '9') || ('A' ≤ c && c ≤ 'Z') || ('a' ≤ c && c ≤ 'z') || c == '-' || c == '_'

def isPrintable (c : Char) : Bool :=
  let n := c.toNat
  n == 9 || n == 10 || n == 13 || (0x20 ≤ n && n ≤ 0x7e) || n == 0x85 || (0xa0 ≤ n && n ≤ 0xd7ff)
    || (0xe000 ≤ n && n ≤ 0xfffd) || 0x10000 ≤ n

structure Cursor where
  rest : List Char
  index : Nat := 0
  line : Nat := 0
  column : Nat := 0

namespace Cursor

def peek (c : Cursor) (n : Nat) : Char := (c.rest[n]?).getD '\x00'

def head (c : Cursor) : Char := c.rest.headD '\x00'

def atEnd (c : Cursor) : Bool := c.rest.isEmpty

/-- Pass one character. A line ends behind its break, and a byte order mark has no width. -/
def next (c : Cursor) : Cursor :=
  match c.rest with
  | [] => c
  | ch :: rest =>
    if isBreak ch && !(ch == '\r' && rest.head? == some '\n') then ⟨rest, c.index + 1, c.line + 1, 0⟩
    else ⟨rest, c.index + 1, c.line, if ch == '\uFEFF' then c.column else c.column + 1⟩

def skip (c : Cursor) : Nat → Cursor
  | 0 => c
  | n + 1 => c.next.skip n

/-- The characters up to the first without a property, and the place behind them. -/
def span (c : Cursor) (p : Char → Bool) : List Char × Cursor :=
  let taken := c.rest.takeWhile p
  (taken, c.skip taken.length)

def skipWhile (c : Cursor) (p : Char → Bool) : Cursor := (c.span p).2

def skipSpaces (c : Cursor) : Cursor := c.skipWhile (· == ' ')

def skipComment (c : Cursor) : Cursor := if c.head == '#' then c.skipWhile (!isEnd ·) else c

/-- Pass a line break: what it counts as, which is nothing where there is none. -/
def lineBreak (c : Cursor) : List Char × Cursor :=
  match c.rest with
  | '\r' :: '\n' :: _ => (['\n'], c.skip 2)
  | ch :: _ =>
    if ch == '\u2028' || ch == '\u2029' then ([ch], c.next)
    else if isBreak ch then (['\n'], c.next)
    else ([], c)
  | [] => ([], c)

/-- A separator of documents, three hyphens or three dots, stands here as a word. -/
def atMark (c : Cursor) (mark : Char) : Bool :=
  c.head == mark && c.peek 1 == mark && c.peek 2 == mark && isGap (c.peek 3)

def atSeparator (c : Cursor) : Bool := c.atMark '-' || c.atMark '.'

def restOfLine (c : Cursor) (problem : Problem) : Except Problem Cursor :=
  let c := c.skipSpaces.skipComment
  if isEnd c.head then .ok c.lineBreak.2 else .error problem

def name (c : Cursor) (problem : Problem) : Except Problem (String × Cursor) :=
  match c.span isNameChar with
  | ([], _) => .error problem
  | (cs, c) => .ok (String.ofList cs, c)

end Cursor
end Yaml
end StreamingLM
