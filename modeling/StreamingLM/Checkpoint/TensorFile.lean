import StreamingLM.Directory
import StreamingLM.Json.Reader
import StreamingLM.Text.Utf8

/-!
The file format of named tensors: the length of a header in eight bytes, the header, which is a JSON
object of kinds, shapes and places, and the numbers themselves in little-endian order. The places
follow each other without a gap and fill the file.
-/
namespace StreamingLM
namespace TensorFile

def littleEndian (bytes : List Nat) : Nat := bytes.foldr (fun b n => b + 256 * n) 0

/-- The kinds of numbers, all of them floating. -/
inductive Kind where
  | half
  | brain
  | single
  | double
  deriving DecidableEq, Repr

namespace Kind

def ofName? : String → Option Kind
  | "F16" => some half
  | "BF16" => some brain
  | "F32" => some single
  | "F64" => some double
  | _ => none

def size : Kind → Nat
  | half | brain => 2
  | single => 4
  | double => 8

def ofSingleBits (bits : Nat) : Float := (Float32.ofBits bits.toUInt32).toFloat

/-- A number of half precision: a sign, five bits of exponent and ten of fraction. -/
def ofHalfBits (bits : Nat) : Float :=
  let fraction := bits % 1024
  let exponent := bits / 1024 % 32
  let magnitude :=
    if exponent = 31 then if fraction = 0 then 1.0 / 0.0 else 0.0 / 0.0
    else if exponent = 0 then Float.scaleB (Float.ofNat fraction) (-24)
    else Float.scaleB (Float.ofNat (1024 + fraction)) (Int.ofNat exponent - 25)
  if 0x8000 ≤ bits then -magnitude else magnitude

def decode (k : Kind) (bytes : List Nat) : Float :=
  let bits := littleEndian bytes
  match k with
  | half => ofHalfBits bits
  | brain => ofSingleBits (bits * 65536)
  | single => ofSingleBits bits
  | double => Float.ofBits bits.toUInt64

end Kind

/-- What the header says about one tensor: its numbers lie from `start` up to `stop`. -/
structure Entry where
  name : String
  kind : Kind
  shape : List Nat
  start : Nat
  stop : Nat
  deriving DecidableEq, Repr

def nat? : Value → Option Nat
  | .int n => if 0 ≤ n then some n.toNat else none
  | _ => none

def nats? : Option Value → Option (List Nat)
  | some (.list items) => items.mapM nat?
  | _ => none

def entry? (name : String) (v : Value) : Option Entry := do
  let kind ← match v.get? "dtype" with
    | some (.text s) => Kind.ofName? s
    | _ => none
  let shape ← nats? (v.get? "shape")
  match ← nats? (v.get? "data_offsets") with
  | [start, stop] => return ⟨name, kind, shape, start, stop⟩
  | _ => none

/-- The entries of a header in the order of their places; remarks are left out. -/
def entries? (header : Value) : Option (List Entry) := do
  match header with
  | .dict fields =>
    let entries ← (fields.filter fun (key, _) => key.listed ≠ "__metadata__").mapM fun (key, v) =>
      entry? key.listed v
    return entries.mergeSort fun a b => a.start < b.start || (a.start == b.start && a.stop ≤ b.stop)
  | _ => none

/-- The places follow each other from `start` on and fit their shapes; the result is where they end. -/
def extent? (start : Nat) : List Entry → Option Nat
  | [] => some start
  | e :: rest =>
    if e.start = start ∧ e.stop = start + Tensor.size e.shape * e.kind.size then extent? e.stop rest
    else none

def tensor (data : Array Nat) (e : Entry) : String × Tensor Float :=
  (e.name, ⟨e.shape, ((List.range (Tensor.size e.shape)).map fun i =>
    let place := e.start + i * e.kind.size
    e.kind.decode (data.extract place (place + e.kind.size)).toList).toArray⟩)

def longestHeader : Nat := 100000000

def decode? (bytes : List Nat) : Option (List (String × Tensor Float)) := do
  let length := littleEndian (bytes.take 8)
  let rest := bytes.drop 8
  if bytes.length < 8 ∨ longestHeader < length ∨ rest.length < length then none
  let text ← (Utf8.decodeStrict (rest.take length)).toOption
  let entries ← entries? (← (Json.read text).toOption)
  let data := (rest.drop length).toArray
  if (← extent? 0 entries) = data.size then return entries.map (tensor data) else none

end TensorFile

/-- The content of a file with a path: tensors where its ending promises them and it keeps the format,
and plain bytes otherwise. -/
def FileContent.ofBytes (path : String) (bytes : List Nat) : FileContent Float :=
  match if Path.ending path = ".safetensors" then TensorFile.decode? bytes else none with
  | some entries => .tensors entries
  | none => .bytes bytes

end StreamingLM
