import StreamingLM.Text.Property

/-!
Where a byte-pair tokenizer cuts a text before it merges: contractions, words with the sign before
them, numbers of up to three digits, runs of signs with the blank before and the line ends behind
them, and white space. The alternatives are tried in this order, and every text is used up.
-/
namespace StreamingLM
namespace Lexeme

def isLetter (c : Char) : Bool := Property.letter.contains c

def isNumber (c : Char) : Bool := Property.number.contains c

def isBreak (c : Char) : Bool := c == '\r' || c == '\n'

/-- A sign is no white space, no letter and no number. -/
def isSign (c : Char) : Bool := !Property.isWhite c && !isLetter c && !isNumber c

def isOneOf (cs : List Char) (c : Char) : Bool := cs.contains c

/-- The length of the contraction at the front, in any case of its letters; zero if there is none. -/
def contraction : List Char → Nat
  | '\'' :: c :: rest =>
    if isOneOf ['s', 'S', '\u017f', 't', 'T'] c then 2
    else
      match rest with
      | d :: _ =>
        if isOneOf ['r', 'R', 'v', 'V'] c && isOneOf ['e', 'E'] d then 3
        else if isOneOf ['m', 'M'] c then 2
        else if isOneOf ['l', 'L'] c && isOneOf ['l', 'L'] d then 3
        else if isOneOf ['d', 'D'] c then 2
        else 0
      | [] => if isOneOf ['m', 'M', 'd', 'D'] c then 2 else 0
  | _ => 0

def run (p : Char → Bool) (cs : List Char) : Nat := (cs.takeWhile p).length

/-- Letters, with the one character before them unless it is a number or a line break. -/
def word : List Char → Nat
  | [] => 0
  | c :: rest =>
    if isLetter c then run isLetter (c :: rest)
    else if isBreak c || isNumber c then 0
    else if run isLetter rest = 0 then 0 else run isLetter rest + 1

def number (cs : List Char) : Nat := min 3 (run isNumber cs)

def bareSigns (cs : List Char) : Nat :=
  let n := run isSign cs
  if n = 0 then 0 else n + run isBreak (cs.drop n)

def signs : List Char → Nat
  | ' ' :: rest => if bareSigns rest = 0 then 0 else bareSigns rest + 1
  | cs => bareSigns cs

/-- White space up to its last line break; without one, all of it at the end of the text, and
elsewhere all but the last character, which belongs to what follows. -/
def white (cs : List Char) : Nat :=
  let blank := cs.takeWhile Property.isWhite
  let broken := (blank.reverse.dropWhile fun c => !isBreak c).length
  if broken ≠ 0 then broken
  else if blank.length = cs.length then blank.length
  else if 2 ≤ blank.length then blank.length - 1
  else blank.length

def firstOf : List Nat → Nat
  | [] => 0
  | n :: rest => if n = 0 then firstOf rest else n

def length (cs : List Char) : Nat :=
  firstOf [contraction cs, word cs, number cs, signs cs, white cs]

/-- Cut up to `fuel` pieces off; a character that starts none is passed over. -/
def cutFrom : Nat → List Char → List (List Char)
  | 0, _ => []
  | _ + 1, [] => []
  | fuel + 1, c :: rest =>
    match length (c :: rest) with
    | 0 => cutFrom fuel rest
    | n + 1 => (c :: rest.take n) :: cutFrom fuel (rest.drop n)

def cut (cs : List Char) : List (List Char) := cutFrom cs.length cs

end Lexeme
end StreamingLM
