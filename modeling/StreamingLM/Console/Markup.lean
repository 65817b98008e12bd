import StreamingLM.Console.Emoji
import StreamingLM.Console.TextStyle
import StreamingLM.Failure

/-!
Console markup: tags in brackets switch styles on and off, and a backslash in front of a tag makes it
plain text. Nothing here is shown in colour, so what is left of a text is its characters; still each
closing tag has to close a style that is open.
-/
namespace StreamingLM
namespace Markup

inductive Part where
  | text (cs : List Char)
  | opening (name : List Char)
  | closing (name : List Char)
  deriving DecidableEq, Repr

def startsTag (c : Char) : Bool := ('a' ≤ c && c ≤ 'z') || c == '#' || c == '/' || c == '@'

def body? (cs : List Char) : Option (List Char) :=
  if (cs.head?.map startsTag).getD false then
    let body := cs.takeWhile fun c => c ≠ ']' && c ≠ '['
    match cs.drop body.length with
    | ']' :: _ => some body
    | _ => none
  else none

def Part.ofBody (body : List Char) : Part :=
  match body.takeWhile (· ≠ '=') with
  | '/' :: name => .closing (trimBlanks name)
  | name => .opening name

def Part.ofText (cs : List Char) : List Part := if cs.isEmpty then [] else [.text cs]

def backslashes (n : Nat) : List Char := List.replicate n '\\'

/-- A tag behind backslashes: every two of them stand for one, and an odd one makes the tag plain
text. -/
def Part.ofTag (slashes : Nat) (body : List Char) : List Part :=
  ofText (backslashes (slashes / 2))
    ++ [if slashes % 2 = 1 then .text ('[' :: body ++ [']']) else ofBody body]

/-- Read on behind the first `skip` characters, which are done; `held` is open text in reverse, and
`slashes` backslashes follow it. -/
def partsFrom (skip slashes : Nat) (held : List Char) : List Char → List Part
  | [] => Part.ofText (backslashes slashes ++ held).reverse
  | c :: rest =>
    match skip with
    | n + 1 => partsFrom n 0 [] rest
    | 0 =>
      if c = '\\' then partsFrom 0 (slashes + 1) held rest
      else
        match if c = '[' then body? rest else none with
        | some body =>
          Part.ofText held.reverse ++ Part.ofTag slashes body
            ++ partsFrom (body.length + 1) 0 [] rest
        | none => partsFrom 0 0 (c :: backslashes slashes ++ held) rest

def parts (cs : List Char) : List Part := partsFrom 0 0 [] cs

/-- An opening bracket that starts no tag may have a backslash in front, too. -/
def unescape : List Char → List Char
  | '\\' :: '[' :: rest => '[' :: unescape rest
  | c :: rest => c :: unescape rest
  | [] => []

def close (name : List Char) (opened : List String) : Option (List String) :=
  if name.isEmpty then
    match opened with
    | [] => none
    | _ :: rest => some rest
  else
    let name := TextStyle.normal (String.ofList name)
    if opened.contains name then some (opened.erase name) else none

def shownFrom (opened : List String) : List Part → Option (List Char)
  | [] => some []
  | .text cs :: rest => (shownFrom opened rest).map (Emoji.expand (unescape cs) ++ ·)
  | .opening name :: rest => shownFrom (TextStyle.normal (String.ofList name) :: opened) rest
  | .closing name :: rest => (close name opened).bind (shownFrom · rest)

def shown (cs : List Char) : Except Failure (List Char) :=
  if cs.contains '[' then
    match shownFrom [] (parts cs) with
    | some shown => .ok shown
    | none => .error (.fault .markup "closing tag")
  else .ok (Emoji.expand cs)

end Markup
end StreamingLM
