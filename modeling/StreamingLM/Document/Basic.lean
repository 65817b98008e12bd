import StreamingLM.Schema

/-!
Documents put together and taken apart. Taking apart is lenient: a missing field is null, and a value
of another kind counts as empty, as zero, or as false.
-/
namespace StreamingLM
namespace Document

def str (s : String) : Value := .text s

def int (n : Int) : Value := .int n

def nat (n : Nat) : Value := .int n

def bool (b : Bool) : Value := .bool b

def obj (fields : List (String × Value)) : Value := .record fields

def list {α : Type} (f : α → Value) (xs : List α) : Value := .list (xs.map f)

def opt {α : Type} (f : α → Value) : Option α → Value
  | some a => f a
  | none => .null

def one {α : Type} (name : String) (f : α → Value) (a : α) : Value := obj [(name, f a)]

def nats (xs : List Nat) : Value := list nat xs

def ints (xs : List Int) : Value := list int xs

def strs (xs : List String) : Value := list str xs

/-- Three places, without a negative zero. -/
def fixed3 (x : Float) : Value :=
  let s := Decimal.fixed 3 x
  str (if s = "-0.000" then "0.000" else s)

def strOf : Value → String
  | .text s => s
  | _ => ""

def intOf : Value → Int
  | .int n => n
  | .bool b => if b then 1 else 0
  | .real x => (Value.integral? x).getD 0
  | _ => 0

def natOf (v : Value) : Nat := (intOf v).toNat

def realOf : Value → Float
  | .text s => (Numeral.real? s).getD 0
  | .int n => (Numeral.realOfInt? n).getD 0
  | .bool b => if b then 1 else 0
  | .real x => x
  | _ => 0

def listOf : Value → List Value
  | .list items => items
  | _ => []

def field (v : Value) (name : String) : Value := (v.get? name).getD .null

def text (v : Value) (name : String) : String := strOf (field v name)

def strings (v : Value) : List String := (listOf v).map strOf

def given (v : Value) (name : String) : Option Value :=
  match v.get? name with
  | some .null => none
  | w => w

def intField (v : Value) (name : String) (default : Int) : Int :=
  ((given v name).map intOf).getD default

def flag (v : Value) (name : String) (default : Bool) : Bool :=
  ((v.get? name).map Value.truthy).getD default

/-- An argument that is turned into an integer: numbers are cut off, texts are read. -/
def toInt : Value → Except Failure Int
  | .int n => .ok n
  | .bool b => .ok (if b then 1 else 0)
  | .real x =>
    if x.isNaN then .error (.fault .value "nan")
    else if !x.isFinite then .error (.fault .overflow "infinity")
    else .ok ((Value.integral? (if x < 0 then x.ceil else x.floor)).getD 0)
  | .text s =>
    match Numeral.typedInt? s with
    | some n => .ok n
    | none => .error (.fault .value "int")
  | _ => .error (.fault .type "int")

def shapeOf : Value → List Nat
  | .list [] => [0]
  | .list (x :: xs) => (xs.length + 1) :: shapeOf x
  | _ => []

mutual

def leaves : Value → List Value
  | .list items => leavesOfItems items
  | w => [w]

def leavesOfItems : List Value → List Value
  | [] => []
  | v :: rest => leaves v ++ leavesOfItems rest

end

def leafInts (v : Value) : List Int := (leaves v).map intOf

def nested : List Nat → List Value → Value
  | [], xs => xs.headD .null
  | n :: rest, xs =>
    let size := rest.foldl (· * ·) 1
    list (fun i => nested rest ((xs.drop (i * size)).take size)) (List.range n)

end Document
end StreamingLM
