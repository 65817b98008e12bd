/-!
UTF-8: encoding, strict decoding with the place of the first fault, and lenient decoding, in which
every maximal prefix of an ill-formed sequence becomes one replacement character.
-/
namespace StreamingLM
namespace Utf8

inductive Fault where
  | badStart
  | badContinuation
  | truncated
  deriving DecidableEq, Repr

/-- The number of continuation bytes after a lead byte, the bounds of the first of them, and the
bits that the lead byte contributes. -/
def lead? (b : Nat) : Option (Nat × Nat × Nat × Nat) :=
  if 0xc2 ≤ b ∧ b ≤ 0xdf then some (1, 0x80, 0xbf, b - 0xc0)
  else if b = 0xe0 then some (2, 0xa0, 0xbf, 0)
  else if b = 0xed then some (2, 0x80, 0x9f, 0xd)
  else if 0xe1 ≤ b ∧ b ≤ 0xef then some (2, 0x80, 0xbf, b - 0xe0)
  else if b = 0xf0 then some (3, 0x90, 0xbf, 0)
  else if 0xf1 ≤ b ∧ b ≤ 0xf3 then some (3, 0x80, 0xbf, b - 0xf0)
  else if b = 0xf4 then some (3, 0x80, 0x8f, 4)
  else none

/-- Take `n` continuation bytes, the first within bounds: the character, or the fault and how many
bytes were good. -/
def tail : Nat → Nat → Nat → Nat → Nat → List Nat → Except (Fault × Nat) Char
  | 0, _, _, value, _, _ => .ok (Char.ofNat value)
  | _ + 1, _, _, _, taken, [] => .error (.truncated, taken)
  | n + 1, low, high, value, taken, b :: rest =>
    if low ≤ b ∧ b ≤ high then tail n 0x80 0xbf (value * 64 + (b - 0x80)) (taken + 1) rest
    else .error (.badContinuation, taken)

/-- The first character of a nonempty byte sequence and its width, or the fault and the width of
the ill-formed prefix. -/
def first (b : Nat) (rest : List Nat) : Except (Fault × Nat) (Char × Nat) :=
  if b < 0x80 then .ok (Char.ofNat b, 1)
  else
    match lead? b with
    | none => .error (.badStart, 1)
    | some (n, low, high, bits) =>
      match tail n low high bits 1 rest with
      | .ok c => .ok (c, n + 1)
      | .error (fault, taken) => .error (fault, taken)

/-- Lenient decoding; `skip` counts the bytes that the last step has already consumed. -/
def decodeFrom : Nat → List Nat → List Char
  | _, [] => []
  | skip + 1, _ :: rest => decodeFrom skip rest
  | 0, b :: rest =>
    match first b rest with
    | .ok (c, width) => c :: decodeFrom (width - 1) rest
    | .error (_, width) => '\uFFFD' :: decodeFrom (width - 1) rest

def decodeLenient (bytes : List Nat) : String := String.ofList (decodeFrom 0 bytes)

/-- An ill-formed sequence of bytes: what is wrong with it, where it starts and how long it is. -/
structure IllFormed where
  fault : Fault
  start : Nat
  width : Nat
  deriving DecidableEq, Repr

def Fault.text : Fault → String
  | badStart => "invalid start byte"
  | badContinuation => "invalid continuation byte"
  | truncated => "unexpected end of data"

def decodeStrictFrom : Nat → Nat → List Nat → Except IllFormed (List Char)
  | _, _, [] => .ok []
  | skip + 1, at_, _ :: rest => decodeStrictFrom skip (at_ + 1) rest
  | 0, at_, b :: rest =>
    match first b rest with
    | .ok (c, width) => (decodeStrictFrom (width - 1) (at_ + 1) rest).map (c :: ·)
    | .error (fault, width) => .error ⟨fault, at_, width⟩

def decodeStrict (bytes : List Nat) : Except IllFormed String :=
  (decodeStrictFrom 0 0 bytes).map String.ofList

def encodePoint (n : Nat) : List Nat :=
  if n < 0x80 then [n]
  else if n < 0x800 then [0xc0 + n / 64, 0x80 + n % 64]
  else if n < 0x10000 then [0xe0 + n / 4096, 0x80 + n / 64 % 64, 0x80 + n % 64]
  else [0xf0 + n / 262144, 0x80 + n / 4096 % 64, 0x80 + n / 64 % 64, 0x80 + n % 64]

def encode (text : String) : List Nat := text.toList.flatMap fun c => encodePoint c.toNat

end Utf8
end StreamingLM
