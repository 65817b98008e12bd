import StreamingLM.Text.Decimal
import StreamingLM.Text.Quoted

/-!
Values of configuration documents: what JSON and YAML files hold before a schema gives them types.
-/
namespace StreamingLM

/-- A value of a document. Mappings keep their entries in order and admit any value as key;
`foreign` stands for the value kinds that no setting accepts, known by their class name. -/
inductive Value where
  | null
  | bool (b : Bool)
  | int (n : Int)
  | real (x : Float)
  | text (s : String)
  | bytes (bs : List Nat)
  | list (items : List Value)
  | dict (entries : List (Value × Value))
  | foreign (className : String)

namespace Value

instance : Inhabited Value := ⟨.null⟩

def className : Value → String
  | null => "NoneType"
  | bool _ => "bool"
  | int _ => "int"
  | real _ => "float"
  | text _ => "str"
  | bytes _ => "bytes"
  | list _ => "list"
  | dict _ => "dict"
  | foreign name => name

def boolText (b : Bool) : String := if b then "True" else "False"

mutual

/-- The form in which messages show a value: texts quoted, containers spelled out. -/
def shown : Value → String
  | null => "None"
  | bool b => boolText b
  | int n => toString n
  | real x => Decimal.brief x
  | text s => quoted s
  | bytes bs => String.ofList (Quoted.encodeBytes bs)
  | list items => "[" ++ String.intercalate ", " (shownItems items) ++ "]"
  | dict entries => "\x7b" ++ String.intercalate ", " (shownEntries entries) ++ "\x7d"
  | foreign name => name

def shownItems : List Value → List String
  | [] => []
  | v :: rest => shown v :: shownItems rest

def shownEntries : List (Value × Value) → List String
  | [] => []
  | (k, v) :: rest => (shown k ++ ": " ++ shown v) :: shownEntries rest

end

def listed : Value → String
  | text s => s
  | v => shown v

def number? : Value → Option (Int ⊕ Float)
  | bool b => some (.inl (if b then 1 else 0))
  | int n => some (.inl n)
  | real x => some (.inr x)
  | _ => none

def integral? (x : Float) : Option Int :=
  match Decimal.parts x with
  | .finite negative m q =>
    let r := Decimal.Ratio.ofBinary m q
    if r.num % r.den = 0 then
      let n : Int := (r.num / r.den : Nat)
      some (if negative then -n else n)
    else none
  | _ => none

def ratioOfInt (n : Int) : Decimal.Ratio := ⟨n.natAbs, 1⟩

/-- Exact comparison of an integer with a double; `none` when the double is not a number. -/
def compareIntReal (n : Int) (x : Float) : Option Ordering :=
  match Decimal.parts x with
  | .nan => none
  | .infinite negative => some (if negative then .gt else .lt)
  | .finite negative m q =>
    let r := Decimal.Ratio.ofBinary m q
    let scaled : Int := if negative then -(r.num : Int) else r.num
    some (compare (n * r.den) scaled)

def compareReal (x y : Float) : Option Ordering :=
  if x < y then some .lt else if y < x then some .gt else if x == y then some .eq else none

def compareNumbers : Int ⊕ Float → Int ⊕ Float → Option Ordering
  | .inl m, .inl n => some (compare m n)
  | .inl m, .inr y => compareIntReal m y
  | .inr x, .inl n => (compareIntReal n x).map Ordering.swap
  | .inr x, .inr y => compareReal x y

mutual

/-- Equality as messages and checks see it: numbers compare by value, so `1`, `1.0` and `true` are
equal, and mappings compare without regard to order. -/
def same : Value → Value → Bool
  | null, null => true
  | text s, text t => s == t
  | bytes a, bytes b => a == b
  | foreign a, foreign b => a == b
  | list xs, list ys => sameItems xs ys
  | dict xs, dict ys => xs.length == ys.length && sameEntries xs ys
  | bool b, w => sameNumber (.inl (if b then 1 else 0)) w
  | int n, w => sameNumber (.inl n) w
  | real x, w => sameNumber (.inr x) w
  | _, _ => false

def sameNumber (a : Int ⊕ Float) (w : Value) : Bool :=
  match w.number? with
  | some b => compareNumbers a b == some .eq
  | none => false

def sameItems : List Value → List Value → Bool
  | [], [] => true
  | x :: xs, y :: ys => same x y && sameItems xs ys
  | _, _ => false

def sameEntries : List (Value × Value) → List (Value × Value) → Bool
  | [], _ => true
  | (k, v) :: rest, other =>
    (match other.find? (fun entry => same k entry.1) with
      | some entry => same v entry.2
      | none => false) && sameEntries rest other

end

/-- What counts as true: everything but null, zero and the empty containers. -/
def truthy : Value → Bool
  | null => false
  | bool b => b
  | int n => n != 0
  | real x => !(x == 0.0)
  | text s => s != ""
  | bytes bs => !bs.isEmpty
  | list items => !items.isEmpty
  | dict entries => !entries.isEmpty
  | foreign _ => true

/-- Set a key: a key that is present keeps its place. -/
def insertEntry (key value : Value) : List (Value × Value) → List (Value × Value)
  | [] => [(key, value)]
  | (k, v) :: rest => if same k key then (k, value) :: rest else (k, v) :: insertEntry key value rest

/-- Entries in order of first appearance, the last value of a key winning. -/
def dictOf (entries : List (Value × Value)) : Value :=
  dict (entries.foldl (fun done entry => insertEntry entry.1 entry.2 done) [])

def lookup (entries : List (Value × Value)) (key : String) : Option Value :=
  match entries with
  | [] => none
  | (text k, v) :: rest => if k = key then some v else lookup rest key
  | _ :: rest => lookup rest key

def record (fields : List (String × Value)) : Value := dict (fields.map fun (k, v) => (text k, v))

def entries : Value → List (Value × Value)
  | dict entries => entries
  | _ => []

def get? (v : Value) (key : String) : Option Value := lookup v.entries key

end Value
end StreamingLM
