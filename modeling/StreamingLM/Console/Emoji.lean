import StreamingLM.Console.EmojiNames
import StreamingLM.Text.CharSet
import StreamingLM.Text.Property

/-!
Emoji codes: a known name between colons stands for its emoji. A name may end in the wish to have the
emoji shown as a picture or as a letter. Unknown names stay as they are.
-/
namespace StreamingLM
namespace Emoji

def small (c : Char) : Char :=
  if 0xc0 ≤ c.toNat ∧ c.toNat ≤ 0xde ∧ c.toNat ≠ 0xd7 then Char.ofNat (c.toNat + 32) else c.toLower

def points (text : String) : List Char :=
  (text.splitOn "-").map fun point => Char.ofNat (CharSet.hexValue point.toList)

def lookup (name : String) : List String → Option (List Char)
  | key :: value :: rest => if key = name then some (points value) else lookup name rest
  | _ => none

def find? (name : List Char) : Option (List Char) :=
  let name := String.ofList (name.map small)
  names.findSome? fun line => lookup name (line.splitOn " ")

def presentation (name : List Char) : List Char × List Char :=
  if "-emoji".toList.isSuffixOf name then (name.take (name.length - 6), ['\ufe0f'])
  else if "-text".toList.isSuffixOf name then (name.take (name.length - 5), ['\ufe0e'])
  else (name, [])

def written (name : List Char) : List Char :=
  let (plain, selector) := presentation name
  match find? plain with
  | some emoji => emoji ++ selector
  | none => ':' :: name ++ [':']

def name? (cs : List Char) : Option (List Char) :=
  let name := cs.takeWhile fun c => c ≠ ':' && !Property.isBlank c
  match cs.drop name.length with
  | ':' :: _ => some name
  | _ => none

/-- Replace the codes behind the first so many characters, which are done. -/
def expandFrom : Nat → List Char → List Char
  | _, [] => []
  | n + 1, _ :: rest => expandFrom n rest
  | 0, c :: rest =>
    if c = ':' then
      match name? rest with
      | some name => written name ++ expandFrom (name.length + 1) rest
      | none => c :: expandFrom 0 rest
    else c :: expandFrom 0 rest

def expand (cs : List Char) : List Char := expandFrom 0 cs

end Emoji
end StreamingLM
