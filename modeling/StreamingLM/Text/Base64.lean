/-!
Base 64: three bytes are written as four digits, and the last group is filled up with pads. In
reading, characters that are no digits are passed over.
-/
namespace StreamingLM
namespace Base64

def digit? (c : Char) : Option Nat :=
  if 'A' ≤ c ∧ c ≤ 'Z' then some (c.toNat - 'A'.toNat)
  else if 'a' ≤ c ∧ c ≤ 'z' then some (c.toNat - 'a'.toNat + 26)
  else if '0' ≤ c ∧ c ≤ '9' then some (c.toNat - '0'.toNat + 52)
  else if c = '+' then some 62
  else if c = '/' then some 63
  else none

def group : List Nat → List Nat
  | [a, b, c, d] => [a * 4 + b / 16, b % 16 * 16 + c / 4, c % 4 * 64 + d]
  | [a, b, c] => [a * 4 + b / 16, b % 16 * 16 + c / 4]
  | [a, b] => [a * 4 + b / 16]
  | _ => []

/-- Read on, with the digits of the open group and the number of pads behind them. -/
def decodeFrom : List Nat → Nat → List Char → Option (List Nat)
  | held, _, [] => if held.isEmpty then some [] else none
  | held, pads, c :: rest =>
    match digit? c with
    | some d =>
      if held.length = 3 then (decodeFrom [] 0 rest).map (group (held ++ [d]) ++ ·)
      else decodeFrom (held ++ [d]) 0 rest
    | none =>
      if c = '=' ∧ 2 ≤ held.length then
        if 4 ≤ held.length + pads + 1 then some (group held) else decodeFrom held (pads + 1) rest
      else decodeFrom held pads rest

def decode (cs : List Char) : Option (List Nat) := decodeFrom [] 0 cs

def digit (n : Nat) : Char :=
  if n < 26 then Char.ofNat (n + 'A'.toNat)
  else if n < 52 then Char.ofNat (n - 26 + 'a'.toNat)
  else if n < 62 then Char.ofNat (n - 52 + '0'.toNat)
  else if n = 62 then '+'
  else '/'

def encode : List Nat → List Char
  | a :: b :: c :: rest =>
    [digit (a / 4), digit (a % 4 * 16 + b / 16), digit (b % 16 * 4 + c / 64), digit (c % 64)]
      ++ encode rest
  | [a, b] => [digit (a / 4), digit (a % 4 * 16 + b / 16), digit (b % 16 * 4), '=']
  | [a] => [digit (a / 4), digit (a % 4 * 16), '=', '=']
  | [] => []

end Base64
end StreamingLM
