import StreamingLM.Yaml.Token

/-!
The tokens of a YAML text in order. Blocks are told by their indentation, and a text is known to be a
key only once the colon behind it is seen; until then its token waits, so that the token that
announces a key can still be put in front of it.
-/
namespace StreamingLM
namespace Yaml

/-- A place where a key may have started: the number of its token, and whether it must turn out to
be one. -/
structure KeyPlace where
  token : Nat
  required : Bool
  index : Nat
  line : Nat
  column : Nat

structure TokenStream where
  cursor : Cursor
  finished : Bool := false
  /-- The depth of brackets; a superfluous closing one takes it below zero. -/
  depth : Int := 0
  tokens : List Token := []
  taken : Nat := 0
  indent : Int := -1
  outer : List Int := []
  keyAllowed : Bool := true
  keys : List (Int × KeyPlace) := []

namespace TokenStream

def ofText (text : String) : TokenStream := { cursor := ⟨text.toList, 0, 0, 0⟩ }

def inBrackets (s : TokenStream) : Bool := s.depth != 0

def push (s : TokenStream) (t : Token) : TokenStream := { s with tokens := s.tokens ++ [t] }

def pushAt (s : TokenStream) (number : Nat) (t : Token) : TokenStream :=
  let (before, after) := s.tokens.splitAt (number - s.taken)
  { s with tokens := before ++ t :: after }

def column (s : TokenStream) : Int := s.cursor.column

def isStale (s : TokenStream) (k : KeyPlace) : Bool :=
  k.line != s.cursor.line || 1024 < s.cursor.index - k.index

def dropStale (s : TokenStream) : Except Problem TokenStream :=
  if s.keys.any fun k => s.isStale k.2 && k.2.required then .error .keyWithoutColon
  else .ok { s with keys := s.keys.filter fun k => !s.isStale k.2 }

def dropKey (s : TokenStream) : Except Problem TokenStream :=
  match s.keys.lookup s.depth with
  | none => .ok s
  | some k =>
    if k.required then .error .keyWithoutColon
    else .ok { s with keys := s.keys.filter (·.1 != s.depth) }

def markKey (s : TokenStream) : Except Problem TokenStream :=
  if !s.keyAllowed then .ok s
  else do
    let s ← s.dropKey
    let place : KeyPlace :=
      { token := s.taken + s.tokens.length, required := !s.inBrackets && s.indent == s.column
        index := s.cursor.index, line := s.cursor.line, column := s.cursor.column }
    return { s with keys := s.keys ++ [(s.depth, place)] }

def firstIsOpen (s : TokenStream) : Bool := s.keys.any fun k => k.2.token == s.taken

/-- Close the blocks that stand to the right of a column, `outer` being those around the
innermost. -/
def closeBlocks (column : Int) : List Int → TokenStream → TokenStream
  | [], s => s
  | around :: outer, s =>
    if s.indent > column then closeBlocks column outer { s.push .blockEnd with indent := around, outer }
    else s

def unwind (column : Int) (s : TokenStream) : TokenStream :=
  if s.inBrackets then s else closeBlocks column s.outer s

/-- Open a block at a column, unless the innermost stands there already; its first token gets the
given number. -/
def openBlock (s : TokenStream) (column : Int) (number : Nat) (t : Token) : TokenStream :=
  if s.indent < column then
    { s.pushAt number t with indent := column, outer := s.indent :: s.outer }
  else s

def count (s : TokenStream) : Nat := s.taken + s.tokens.length

/-- Pass blanks, comments and line breaks; behind a line break outside brackets a key may start. -/
def passGaps : Nat → TokenStream → TokenStream
  | 0, s => s
  | fuel + 1, s =>
    let c := s.cursor.skipSpaces.skipComment
    if isBreak c.head then
      passGaps fuel { s with cursor := c.lineBreak.2, keyAllowed := s.keyAllowed || !s.inBrackets }
    else { s with cursor := c }

/-- Move to the next token. A byte order mark at the very start is passed over. -/
def toNext (s : TokenStream) : TokenStream :=
  let s := if s.cursor.index = 0 ∧ s.cursor.head = '\uFEFF' then { s with cursor := s.cursor.next }
    else s
  passGaps (s.cursor.rest.length + 1) s

def mark (s : TokenStream) (n : Nat) (t : Token) : TokenStream :=
  { s.push t with cursor := s.cursor.skip n }

def endStream (s : TokenStream) : Except Problem TokenStream := do
  let s ← (s.unwind (-1)).dropKey
  return { s.push .streamEnd with keyAllowed := false, keys := [], finished := true }

def leaveBlocks (s : TokenStream) : Except Problem TokenStream := do
  return { ← (s.unwind (-1)).dropKey with keyAllowed := false }

def openBracket (s : TokenStream) (t : Token) : Except Problem TokenStream := do
  let s ← s.markKey
  return { s.mark 1 t with depth := s.depth + 1, keyAllowed := true }

def closeBracket (s : TokenStream) (t : Token) : Except Problem TokenStream := do
  let s ← s.dropKey
  return { s.mark 1 t with depth := s.depth - 1, keyAllowed := false }

def comma (s : TokenStream) : Except Problem TokenStream := do
  let s ← s.dropKey
  return { s.mark 1 .flowEntry with keyAllowed := true }

def entry (s : TokenStream) : Except Problem TokenStream := do
  if !s.inBrackets && !s.keyAllowed then throw .entryNotAllowed
  let s := if s.inBrackets then s else s.openBlock s.column s.count .blockSequenceStart
  let s ← s.dropKey
  return { s.mark 1 .blockEntry with keyAllowed := true }

def explicitKey (s : TokenStream) : Except Problem TokenStream := do
  if !s.inBrackets && !s.keyAllowed then throw .keyNotAllowed
  let s := if s.inBrackets then s else s.openBlock s.column s.count .blockMappingStart
  let s ← s.dropKey
  return { s.mark 1 .key with keyAllowed := !s.inBrackets }

/-- A colon: what stands at the present depth as a possible key is one, or else the key is empty or
was announced. -/
def colon (s : TokenStream) : Except Problem TokenStream := do
  match s.keys.lookup s.depth with
  | some k =>
    let s := { s with keys := s.keys.filter (·.1 != s.depth) }.pushAt k.token .key
    let s := if s.inBrackets then s else s.openBlock k.column k.token .blockMappingStart
    return { s.mark 1 .value with keyAllowed := false }
  | none =>
    if !s.inBrackets && !s.keyAllowed then throw .valueNotAllowed
    let s := if s.inBrackets then s else s.openBlock s.column s.count .blockMappingStart
    let s ← s.dropKey
    return { s.mark 1 .value with keyAllowed := !s.inBrackets }

def named (s : TokenStream) (read : Cursor → Except Problem (Token × Cursor)) :
    Except Problem TokenStream := do
  let s ← s.markKey
  let (t, cursor) ← read s.cursor
  return { s.push t with cursor, keyAllowed := false }

def block (s : TokenStream) (folded : Bool) : Except Problem TokenStream := do
  let s ← s.dropKey
  let (text, cursor) ← s.cursor.blockText folded s.indent
  return { s.push (.scalar text false) with cursor, keyAllowed := true }

def plain (s : TokenStream) : Except Problem TokenStream := do
  let s ← s.markKey
  let (text, crossed, cursor) := s.cursor.plain s.inBrackets (s.indent + 1)
  return { s.push (.scalar text true) with cursor, keyAllowed := crossed }

def isIndicator (c : Char) : Bool := "-?:,[]\x7b\x7d#&*!|>'\"%@\x60".toList.contains c

def startsPlain (s : TokenStream) : Bool :=
  let c := s.cursor.head
  !(isGap c || isIndicator c)
    || (!isGap (s.cursor.peek 1) && (c == '-' || (!s.inBrackets && (c == '?' || c == ':'))))

def fetch (s : TokenStream) : Except Problem TokenStream := do
  let s ← s.toNext.dropStale
  let s := s.unwind s.column
  let c := s.cursor
  let ch := c.head
  let alone := isGap (c.peek 1)
  if c.atEnd then s.endStream
  else if ch == '%' && c.column == 0 then
    let s ← s.leaveBlocks
    let (t, cursor) ← c.directive
    return { s.push t with cursor }
  else if c.column == 0 && c.atMark '-' then return (← s.leaveBlocks).mark 3 .documentStart
  else if c.column == 0 && c.atMark '.' then return (← s.leaveBlocks).mark 3 .documentEnd
  else if ch == '[' then s.openBracket .flowSequenceStart
  else if ch == '\x7b' then s.openBracket .flowMappingStart
  else if ch == ']' then s.closeBracket .flowSequenceEnd
  else if ch == '\x7d' then s.closeBracket .flowMappingEnd
  else if ch == ',' then s.comma
  else if ch == '-' && alone then s.entry
  else if ch == '?' && (s.inBrackets || alone) then s.explicitKey
  else if ch == ':' && (s.inBrackets || alone) then s.colon
  else if ch == '*' then s.named fun c => (c.anchorName "alias").map fun (n, c) => (.mention n, c)
  else if ch == '&' then s.named fun c => (c.anchorName "anchor").map fun (n, c) => (.anchor n, c)
  else if ch == '!' then s.named Cursor.tag
  else if ch == '|' && !s.inBrackets then s.block false
  else if ch == '>' && !s.inBrackets then s.block true
  else if ch == '\'' || ch == '"' then
    s.named fun c => (c.quoted (ch == '"')).map fun (text, c) => (.scalar text false, c)
  else if s.startsPlain then s.plain
  else throw .strayCharacter

def settle : Nat → TokenStream → Except Problem TokenStream
  | 0, s => .ok s
  | fuel + 1, s =>
    if s.finished then .ok s
    else if s.tokens.isEmpty then s.fetch.bind (settle fuel)
    else do
      let s ← s.dropStale
      if s.firstIsOpen then s.fetch.bind (settle fuel) else return s

def first (s : TokenStream) : Except Problem (Token × TokenStream) := do
  let s ← settle (s.cursor.rest.length + 2) s
  return (s.tokens.headD .streamEnd, s)

def rest (s : TokenStream) : TokenStream :=
  { s with tokens := s.tokens.drop 1, taken := s.taken + 1 }

end TokenStream
end Yaml
end StreamingLM
