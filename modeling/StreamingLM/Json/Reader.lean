import StreamingLM.Failure
import StreamingLM.Text.Numeral

/-!
Reading JSON text. Beside the standard's values the names `NaN`, `Infinity` and `-Infinity` are
numbers, integers are unbounded, and the last value of a repeated key wins. A fault names what was
expected and the place where it was missing.
-/
namespace StreamingLM
namespace Json

inductive Problem where
  | expectedValue
  | expectedName
  | expectedColon
  | expectedComma
  | unterminated
  | controlCharacter
  | badEscape
  | badUnicodeEscape
  | extraData
  | byteOrderMark
  | hugeNumber (digits : Nat)
  deriving DecidableEq, Repr

def Problem.message : Problem → String
  | expectedValue => "Expecting value"
  | expectedName => "Expecting property name enclosed in double quotes"
  | expectedColon => "Expecting ':' delimiter"
  | expectedComma => "Expecting ',' delimiter"
  | unterminated => "Unterminated string starting at"
  | controlCharacter => "Invalid control character at"
  | badEscape => "Invalid \\escape"
  | badUnicodeEscape => "Invalid \\uXXXX escape"
  | extraData => "Extra data"
  | byteOrderMark => "Unexpected UTF-8 BOM (decode using utf-8-sig)"
  | hugeNumber digits =>
    s!"Exceeds the limit (4300 digits) for integer string conversion: value has {digits} digits; " ++
      "use sys.set_int_max_str_digits() to increase the limit"

/-- A problem and how many characters follow its place. -/
structure Fault where
  problem : Problem
  following : Nat
  deriving DecidableEq, Repr

abbrev Result (α : Type) := Except Fault (α × List Char)

def fail {α : Type} (problem : Problem) (rest : List Char) : Result α :=
  .error ⟨problem, rest.length⟩

def isSpace (c : Char) : Bool := c == ' ' || c == '\t' || c == '\n' || c == '\r'

def skipSpace (cs : List Char) : List Char := cs.dropWhile isSpace

def isHex (c : Char) : Bool :=
  Property.isDigit c || ('a' ≤ c && c ≤ 'f') || ('A' ≤ c && c ≤ 'F')

def unit? : List Char → Option (Nat × List Char)
  | a :: b :: c :: d :: rest =>
    if isHex a && isHex b && isHex c && isHex d then some (CharSet.hexValue [a, b, c, d], rest)
    else none
  | _ => none

/-- The character behind a `\u` escape: two escaped surrogates are one character, and a lone one
has none, so that a replacement character stands for it. -/
def escapedUnit (high : Nat) (rest : List Char) : Char × List Char :=
  if 0xd800 ≤ high ∧ high < 0xdc00 then
    match rest with
    | '\\' :: 'u' :: more =>
      match unit? more with
      | some (low, after) =>
        if 0xdc00 ≤ low ∧ low < 0xe000 then
          (Char.ofNat (0x10000 + (high - 0xd800) * 1024 + (low - 0xdc00)), after)
        else ('\uFFFD', rest)
      | none => ('\uFFFD', rest)
    | _ => ('\uFFFD', rest)
  else if 0xdc00 ≤ high ∧ high < 0xe000 then ('\uFFFD', rest)
  else (Char.ofNat high, rest)

def escaped? : Char → Option Char
  | '"' => some '"'
  | '\\' => some '\\'
  | '/' => some '/'
  | 'b' => some '\x08'
  | 'f' => some '\x0c'
  | 'n' => some '\n'
  | 'r' => some '\r'
  | 't' => some '\t'
  | _ => none

/-- The rest of a string after its opening quote; `start` follows that quote, and `done` holds the
characters read so far, the last first. -/
def stringBody (start : Nat) : Nat → List Char → List Char → Result String
  | 0, _, rest => fail .unterminated rest
  | _ + 1, _, [] => .error ⟨.unterminated, start⟩
  | _ + 1, done, '"' :: rest => .ok (String.ofList done.reverse, rest)
  | _ + 1, _, ['\\'] => .error ⟨.unterminated, start⟩
  | fuel + 1, done, '\\' :: 'u' :: rest =>
    match unit? rest with
    | some (n, more) => let (c, after) := escapedUnit n more; stringBody start fuel (c :: done) after
    | none => fail .badUnicodeEscape rest
  | fuel + 1, done, '\\' :: c :: rest =>
    match escaped? c with
    | some d => stringBody start fuel (d :: done) rest
    | none => fail .badEscape ('\\' :: c :: rest)
  | fuel + 1, done, c :: rest =>
    if c.toNat < 0x20 then fail .controlCharacter (c :: rest)
    else stringBody start fuel (c :: done) rest

def string (rest : List Char) : Result String :=
  stringBody (rest.length + 1) (rest.length + 1) [] rest

def digitsValue (cs : List Char) : Nat := cs.foldl (fun n c => 10 * n + (c.toNat - '0'.toNat)) 0

def fraction? : List Char → Option (List Char × List Char)
  | '.' :: rest =>
    let digits := rest.takeWhile Property.isDigit
    if digits.isEmpty then none else some (digits, rest.dropWhile Property.isDigit)
  | _ => none

def exponentDigits? (negative : Bool) (rest : List Char) : Option (Int × List Char) :=
  let digits := rest.takeWhile Property.isDigit
  if digits.isEmpty then none
  else
    let n : Int := digitsValue digits
    some (if negative then -n else n, rest.dropWhile Property.isDigit)

def exponent? : List Char → Option (Int × List Char)
  | c :: rest =>
    if c = 'e' ∨ c = 'E' then
      match rest with
      | '-' :: more => exponentDigits? true more
      | '+' :: more => exponentDigits? false more
      | _ => exponentDigits? false rest
    else none
  | [] => none

/-- The digits before the point: no zero stands in front of another digit. -/
def wholeDigits (cs : List Char) : List Char :=
  match cs with
  | '0' :: _ => ['0']
  | _ => cs.takeWhile Property.isDigit

def number? (negative : Bool) (cs : List Char) : Option (Value × List Char) :=
  let whole := wholeDigits cs
  if whole.isEmpty then none
  else
    let rest := cs.drop whole.length
    match fraction? rest, exponent? rest with
    | none, none =>
      let n : Int := digitsValue whole
      some (.int (if negative then -n else n), rest)
    | some (places, more), _ =>
      let (e, after) := (exponent? more).getD (0, more)
      some (.real (Decimal.toFloat negative (digitsValue (whole ++ places)) (e - places.length)),
        after)
    | none, some (e, after) => some (.real (Decimal.toFloat negative (digitsValue whole) e), after)

def number (negative : Bool) (start cs : List Char) : Result Value :=
  match number? negative cs with
  | none => fail .expectedValue start
  | some (.int n, rest) =>
    let digits := (wholeDigits cs).length
    if Numeral.mostDigits < digits then fail (.hugeNumber digits) start else .ok (.int n, rest)
  | some done => .ok done

def infinity : Float := 1.0 / 0.0

def scalar (cs : List Char) : Result Value :=
  match cs with
  | '"' :: rest => (string rest).map fun (s, more) => (.text s, more)
  | 'n' :: 'u' :: 'l' :: 'l' :: rest => .ok (.null, rest)
  | 't' :: 'r' :: 'u' :: 'e' :: rest => .ok (.bool true, rest)
  | 'f' :: 'a' :: 'l' :: 's' :: 'e' :: rest => .ok (.bool false, rest)
  | 'N' :: 'a' :: 'N' :: rest => .ok (.real (0.0 / 0.0), rest)
  | 'I' :: 'n' :: 'f' :: 'i' :: 'n' :: 'i' :: 't' :: 'y' :: rest => .ok (.real infinity, rest)
  | '-' :: 'I' :: 'n' :: 'f' :: 'i' :: 'n' :: 'i' :: 't' :: 'y' :: rest =>
    .ok (.real (-infinity), rest)
  | '-' :: rest => number true cs rest
  | _ => number false cs cs

mutual

/-- A value; `fuel` exceeds the length of the text. -/
def value : Nat → List Char → Result Value
  | 0, cs => fail .expectedValue cs
  | fuel + 1, '[' :: rest =>
    match skipSpace rest with
    | ']' :: more => .ok (.list [], more)
    | more => items fuel [] more
  | fuel + 1, '\x7b' :: rest =>
    match skipSpace rest with
    | '\x7d' :: more => .ok (.dict [], more)
    | more => members fuel [] more
  | _ + 1, cs => scalar cs

/-- The items of a list up to its closing bracket, the last of the ones read first. -/
def items : Nat → List Value → List Char → Result Value
  | 0, _, cs => fail .expectedValue cs
  | fuel + 1, done, cs =>
    match value fuel cs with
    | .error fault => .error fault
    | .ok (item, rest) =>
      match skipSpace rest with
      | ']' :: more => .ok (.list (item :: done).reverse, more)
      | ',' :: more => items fuel (item :: done) (skipSpace more)
      | other => fail .expectedComma other

/-- The members of an object up to its closing brace, the last of the ones read first. -/
def members : Nat → List (Value × Value) → List Char → Result Value
  | 0, _, cs => fail .expectedValue cs
  | fuel + 1, done, '"' :: cs =>
    match string cs with
    | .error fault => .error fault
    | .ok (name, rest) =>
      match skipSpace rest with
      | ':' :: more =>
        match value fuel (skipSpace more) with
        | .error fault => .error fault
        | .ok (item, after) =>
          match skipSpace after with
          | '\x7d' :: last => .ok (Value.dictOf ((.text name, item) :: done).reverse, last)
          | ',' :: last => members fuel ((.text name, item) :: done) (skipSpace last)
          | other => fail .expectedComma other
      | other => fail .expectedColon other
  | _ + 1, _, cs => fail .expectedName cs

end

/-- A problem with the line, the column and the index of its place, the first two from one. -/
structure Located where
  problem : Problem
  line : Nat
  column : Nat
  index : Nat
  deriving DecidableEq, Repr

def locate (cs : List Char) (fault : Fault) : Located :=
  let index := cs.length - fault.following
  let before := cs.take index
  ⟨fault.problem, before.count '\n' + 1, (before.reverse.takeWhile (· ≠ '\n')).length + 1, index⟩

/-- A number that is too long is no fault of the document, and is reported without its place. -/
def Located.isFormal (fault : Located) : Bool :=
  match fault.problem with
  | .hugeNumber _ => false
  | _ => true

def Located.message (fault : Located) : String :=
  if fault.isFormal then
    s!"{fault.problem.message}: line {fault.line} column {fault.column} (char {fault.index})"
  else fault.problem.message

def Located.failure (fault : Located) : Failure :=
  .fault (if fault.isFormal then .badJson else .value) fault.message

def document (cs : List Char) : Except Fault Value :=
  match cs with
  | '\uFEFF' :: _ => .error ⟨.byteOrderMark, cs.length⟩
  | _ =>
    match value (2 * cs.length + 2) (skipSpace cs) with
    | .error fault => .error fault
    | .ok (v, rest) =>
      match skipSpace rest with
      | [] => .ok v
      | other => .error ⟨.extraData, other.length⟩

def read (text : String) : Except Located Value :=
  (document text.toList).mapError (locate text.toList)

end Json
end StreamingLM
