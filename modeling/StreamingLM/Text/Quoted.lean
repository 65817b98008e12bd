import StreamingLM.Text.Property

/-!
Quoted text: a text between quotes in which quotes, backslashes and invisible characters are
escaped, so that the written form is one line of visible characters.
-/
namespace StreamingLM
namespace Quoted

def hexText (width n : Nat) : List Char :=
  let digits := Nat.toDigits 16 n
  List.replicate (width - digits.length) '0' ++ digits

def escape (quote c : Char) : List Char :=
  if c = quote ∨ c = '\\' then ['\\', c]
  else if c = '\n' then ['\\', 'n']
  else if c = '\r' then ['\\', 'r']
  else if c = '\t' then ['\\', 't']
  else if Property.printable.contains c then [c]
  else if c.toNat ≤ 0xff then '\\' :: 'x' :: hexText 2 c.toNat
  else if c.toNat ≤ 0xffff then '\\' :: 'u' :: hexText 4 c.toNat
  else '\\' :: 'U' :: hexText 8 c.toNat

/-- Single quotes, unless the text holds single quotes and no double ones. -/
def quoteFor (cs : List Char) : Char :=
  if cs.contains '\'' && !cs.contains '"' then '"' else '\''

def encode (cs : List Char) : List Char :=
  let quote := quoteFor cs
  quote :: cs.flatMap (escape quote) ++ [quote]

/-- One byte inside quotes of the given kind; beyond the visible characters of ASCII it is escaped. -/
def escapeByte (quote : Char) (b : Nat) : List Char :=
  if 0x7f ≤ b then '\\' :: 'x' :: hexText 2 b else escape quote (Char.ofNat b)

def encodeBytes (bs : List Nat) : List Char :=
  let quote := quoteFor (bs.map Char.ofNat)
  'b' :: quote :: bs.flatMap (escapeByte quote) ++ [quote]

end Quoted

def quoted (text : String) : String := String.ofList (Quoted.encode text.toList)

end StreamingLM
