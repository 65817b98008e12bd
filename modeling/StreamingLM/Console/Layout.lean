import StreamingLM.Text.CellWidth
import StreamingLM.Text.Property

/-!
Laying text out in lines of a given width. Lines break between words; a word that is too wide for a
line is folded, or else stays whole and is cut with an ellipsis.
-/
namespace StreamingLM
namespace Layout

/-- The controls that a console does not write: bell, backspace, and the moves of the carriage. -/
def isUnwritten (c : Char) : Bool := [7, 8, 11, 12, 13].contains c.toNat

def writable (cs : List Char) : List Char := cs.filter fun c => !isUnwritten c

/-- The stretches between the characters of a class; there is always one. -/
def splitAt (p : Char → Bool) : List Char → List (List Char)
  | [] => [[]]
  | c :: rest =>
    match splitAt p rest with
    | [] => [[c]]
    | line :: lines => if p c then [] :: line :: lines else (c :: line) :: lines

def lines (cs : List Char) : List (List Char) := splitAt (· = '\n') cs

/-- The characters at which a text is taken to break when its width is measured. -/
def isBreak (c : Char) : Bool :=
  let n := c.toNat
  (10 ≤ n && n ≤ 13) || (0x1c ≤ n && n ≤ 0x1e) || n == 0x85 || n == 0x2028 || n == 0x2029

def widest (cs : List Char) : Nat := ((splitAt isBreak cs).map Cells.count).foldl max 0

def tabWidth : Nat := 8

/-- Fill up with blanks to the next tab stop at each tab. `held` is the stretch since the last one, in
reverse, and `used` the cells up to there. -/
def expandTabsFrom (used : Nat) (held : List Char) : List Char → List Char
  | [] => held.reverse
  | c :: rest =>
    if c = '\t' then
      let stretch := (' ' :: held).reverse
      let last := used + Cells.count stretch
      let stop := (last + tabWidth - 1) / tabWidth * tabWidth
      stretch ++ Cells.blanks (stop - last) ++ expandTabsFrom stop [] rest
    else expandTabsFrom used (c :: held) rest

def expandTabs (line : List Char) : List Char := expandTabsFrom 0 [] line

structure Word where
  body : List Char
  gap : List Char
  deriving DecidableEq, Repr

def Word.text (w : Word) : List Char := w.body ++ w.gap

/-- Words with their blanks; blanks at the start make a word without a body. -/
def pieces : List Char → List Word
  | [] => []
  | c :: rest =>
    match pieces rest with
    | [] => if Property.isBlank c then [⟨[], [c]⟩] else [⟨[c], []⟩]
    | w :: more =>
      if Property.isBlank c then
        if w.body.isEmpty then ⟨[], c :: w.gap⟩ :: more else ⟨[], [c]⟩ :: w :: more
      else ⟨c :: w.body, w.gap⟩ :: more

/-- The words of a line; blanks at the start belong to the first. -/
def words (line : List Char) : List Word :=
  match pieces line with
  | w :: next :: more => if w.body.isEmpty then ⟨w.gap ++ next.body, next.gap⟩ :: more else w :: next :: more
  | [w] => if w.body.isEmpty then [] else [w]
  | [] => []

/-- What happens to a line that is too wide. -/
inductive Overflow where
  | fold
  | ellipsis
  deriving DecidableEq, Repr

/-- Fill lines with words; `line` is the open line and `used` its cells. -/
def fill (width : Nat) (overflow : Overflow) (line : List Char) (used : Nat) :
    List Word → List (List Char)
  | [] => [line]
  | w :: rest =>
    let finished := if line.isEmpty then [] else [line]
    let needed := Cells.count w.body
    if used + needed ≤ width then
      fill width overflow (line ++ w.text) (used + Cells.count w.text) rest
    else if width < needed ∧ overflow = .fold then
      let chunks := Cells.chop width w.text
      let chunks := if line.isEmpty then chunks.dropWhile List.isEmpty else chunks
      let last := chunks.getLast?.getD []
      finished ++ chunks.dropLast ++ fill width overflow last (Cells.count last) rest
    else finished ++ fill width overflow w.text (Cells.count w.text) rest

def wrap (width : Nat) (overflow : Overflow) (line : List Char) : List (List Char) :=
  match words line with
  | [] => [line]
  | ws => fill width overflow [] 0 ws

/-- Drop blanks at the end, but no more than there are characters too many. -/
def trimEnd (width : Nat) (line : List Char) : List Char :=
  let trailing := (line.reverse.takeWhile Property.isBlank).length
  line.take (line.length - min trailing (line.length - width))

def cut (width : Nat) (overflow : Overflow) (line : List Char) : List Char :=
  if Cells.count line ≤ width then line
  else
    match overflow with
    | .fold => Cells.fit width line
    | .ellipsis => Cells.fit (width - 1) line ++ ['…']

/-- Where a line stands in its width: as it comes, or filled up with blanks at its end or on both
sides. -/
inductive Alignment where
  | plain
  | left
  | center
  deriving DecidableEq, Repr

def align (width : Nat) (overflow : Overflow) (alignment : Alignment) (line : List Char) :
    List Char :=
  match alignment with
  | .plain => cut width overflow line
  | .left =>
    let line := cut width overflow line
    line ++ Cells.blanks (width - Cells.count line)
  | .center =>
    let line := cut width overflow (line.reverse.dropWhile Property.isBlank).reverse
    let line := Cells.blanks ((width - Cells.count line) / 2) ++ line
    line ++ Cells.blanks (width - Cells.count line)

/-- A text in lines of a width; without any width there is nothing to show. -/
def paragraph (width : Nat) (overflow : Overflow) (alignment : Alignment) (cs : List Char) :
    List (List Char) :=
  if width = 0 then []
  else
    (lines cs).flatMap fun line =>
      (wrap width overflow (expandTabs line)).map fun l =>
        align width overflow alignment (trimEnd width l)

/-- A text that goes on where the last one ended: only blanks beyond the width are dropped. -/
def flow (width : Nat) (cs : List Char) : List Char :=
  if width = 0 then []
  else ['\n'].intercalate ((lines cs).map fun line => trimEnd width (expandTabs line))

def crop (width : Nat) (line : List Char) : List Char :=
  if Cells.count line ≤ width then line else Cells.fit width line

def unlines (ls : List (List Char)) : String := String.ofList (ls.flatMap (· ++ ['\n']))

end Layout
end StreamingLM
