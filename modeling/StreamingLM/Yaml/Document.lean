import StreamingLM.Schema
import StreamingLM.Text.Base64
import StreamingLM.Yaml.Node

/-!
The value of a YAML document. Texts are read as their tags say, a merge key brings in the members of
other mappings in front of a mapping's own, and of equal keys the last wins. Of several problems the
one nearest to the root counts, and among those the first.
-/
namespace StreamingLM
namespace Yaml

def digitValue? (base : Nat) (c : Char) : Option Nat :=
  if Json.isHex c ∧ CharSet.hexDigit c < base then some (CharSet.hexDigit c) else none

def baseLetter (base : Nat) : Char :=
  if base = 2 then 'b' else if base = 8 then 'o' else 'x'

/-- An integer in a base, with an optional sign and the announcement of its base. -/
def integer? (base : Nat) (cs : List Char) : Option Int :=
  let (negative, body) := Numeral.signed (trimWhite (Numeral.plain cs))
  let digits := match body with
    | '0' :: c :: rest => if base ≠ 10 ∧ c.toLower = baseLetter base then rest else body
    | _ => body
  if digits.isEmpty ∨ base = 10 ∧ Numeral.mostDigits < digits.length then none
  else do
    let values ← digits.mapM (digitValue? base)
    let n : Nat := values.foldl (fun n d => base * n + d) 0
    return if negative then -n else n

def sixties {α : Type} [Add α] [Mul α] [OfNat α 0] [OfNat α 60] (places : List α) : α :=
  places.foldl (fun n d => n * 60 + d) 0

def signOf (cs : List Char) : Except Problem (Bool × List Char) :=
  match cs with
  | [] => .error (.badScalar .index "empty number")
  | '-' :: rest => .ok (true, rest)
  | '+' :: rest => .ok (false, rest)
  | _ => .ok (false, cs)

def notNumber (text : String) : Problem := .badScalar .value s!"no number: {quoted text}"

/-- An integer; underscores set digits apart, and a zero in front announces base eight. -/
def readInteger (text : String) : Except Problem Value := do
  let (negative, body) ← signOf (text.toList.filter (· != '_'))
  let magnitude ← (match body with
    | [] => .error (.badScalar .index "empty number")
    | ['0'] => .ok (some 0)
    | '0' :: 'b' :: rest => .ok (integer? 2 rest)
    | '0' :: 'x' :: rest => .ok (integer? 16 rest)
    | '0' :: _ => .ok (integer? 8 body)
    | _ => .ok ((atColons body).mapM (integer? 10) |>.map sixties) : Except Problem (Option Int))
  match magnitude with
  | some n => return .int (if negative then -n else n)
  | none => throw (notNumber text)

def realSixties (places : List Float) : Float :=
  (places.reverse.foldl (fun (sum, base) x => (sum + x * base, base * 60.0)) (0.0, 1.0)).1

def readReal (text : String) : Except Problem Value := do
  let (negative, body) ← signOf ((text.toList.filter (· != '_')).map Char.toLower)
  let sign (x : Float) : Float := if negative then -x else x
  let word := String.ofList body
  if word = ".inf" then return .real (sign Json.infinity)
  else if word = ".nan" then return .real (0.0 / 0.0)
  else
    let places := if body.contains ':' then (atColons body).map String.ofList else [word]
    match places.mapM Numeral.typedReal? with
    | some [x] => return .real (sign x)
    | some xs => return .real (sign (realSixties xs))
    | none => throw (notNumber text)

def readBool (text : String) : Except Problem Value :=
  let word := String.ofList (text.toList.map Char.toLower)
  match boolWord? word with
  | some b => .ok (.bool b)
  | none => .error (.badScalar .key (quoted word))

def readTimestamp (text : String) : Except Problem Value :=
  match Timestamp.read? (withoutBreak text.toList) with
  | none => .error (.badScalar .field "no date")
  | some t =>
    if t.isReal then .ok (.foreign (if t.moment.isSome then "datetime.datetime" else "datetime.date"))
    else .error (.badScalar .value "date out of range")

def readBinary (text : String) : Except Problem Value :=
  if text.toList.any (127 < ·.toNat) then
    .error (.badBinary "failed to convert base64 data into ascii")
  else
    match Base64.decode text.toList with
    | some bytes => .ok (.bytes bytes)
    | none => .error (.badBinary "failed to decode base64 data")

def readScalar (tag : Tag) (text : String) : Except Problem Value :=
  match tag with
  | .str => .ok (.text text)
  | .int => readInteger text
  | .real => readReal text
  | .bool => readBool text
  | .null => .ok .null
  | .timestamp => readTimestamp text
  | .binary => readBinary text
  | tag => .error (.unknownTag tag.uri)

structure Trouble where
  rank : Nat
  problem : Problem

abbrev Built (α : Type) := Except Trouble α

/-- Put two results together. Of two problems the one of lesser rank counts, or else the first. -/
def joined {α β γ : Type} (f : α → β → γ) (a : Built α) (b : Built β) : Built γ :=
  match a, b with
  | .ok x, .ok y => .ok (f x y)
  | .error e, .ok _ => .error e
  | .ok _, .error e => .error e
  | .error e, .error e' => .error (if e'.rank < e.rank then e' else e)

abbrev Entry := Value × Value

/-- The members of a mapping: those that merge keys bring in, and its own. -/
structure Members where
  merged : Built (List Entry) := .ok []
  own : Built (List Entry) := .ok []

def Members.all (m : Members) : Built (List Entry) := joined (· ++ ·) m.merged m.own

def isKey : Value → Bool
  | .list _ | .dict _ => false
  | .foreign name => name != "set" && name != "dict" && name != "list"
  | _ => true

/-- The rank of what happens to the nodes at a depth, and of what happens before that. -/
def rankAt (depth : Nat) : Nat := 2 * depth + 1

def mergeRank (depth : Nat) : Nat := 2 * depth

def refuse {α : Type} (depth : Nat) (problem : Problem) : Built α := .error ⟨rankAt depth, problem⟩

def atDepth {α : Type} (depth : Nat) (r : Except Problem α) : Built α :=
  r.mapError fun problem => ⟨rankAt depth, problem⟩

/-- The text of a node, for a mapping that under its key for a default value. -/
def Node.text : Node → Except Problem String
  | .scalar _ text => .ok text
  | .mapping _ entries => inEntries entries
  | n => .error (.wrongNode "scalar" n.noun)
where
  inEntries : List (Node × Node) → Except Problem String
    | [] => .error (.wrongNode "scalar" "mapping")
    | (.scalar .value _, v) :: _ => v.text
    | _ :: rest => inEntries rest

def readAsScalar (tag : Tag) (n : Node) : Except Problem Value :=
  match readScalar tag "" with
  | .error (.unknownTag uri) => .error (.unknownTag uri)
  | _ => n.text.bind (readScalar tag)

/-- The key behind a node with a value. The mark of a default value is an ordinary key here. -/
def keyOf (depth : Nat) (n : Node) (value : Built Value) : Built Value :=
  match n with
  | .scalar .value text => .ok (.text text)
  | _ => value.bind fun k => if isKey k then .ok k else refuse depth .badMapping

mutual

def Node.value (depth : Nat) : Node → Built Value
  | .scalar tag text =>
    match tag with
    | .seq | .omap | .pairs =>
      refuse (depth + 1) (match tag with
        | .omap => .badOrderedMap
        | .pairs => .badPairs
        | _ => .wrongNode "sequence" "scalar")
    | .map | .set => refuse (depth + 1) (.wrongNode "mapping" "scalar")
    | tag => atDepth depth (readScalar tag text)
  | .sequence tag items =>
    match tag with
    | .seq => (Node.values (depth + 1) items).map .list
    | .omap => (Node.pairs .badOrderedMap (depth + 1) items).map .list
    | .pairs => (Node.pairs .badPairs (depth + 1) items).map .list
    | .map | .set => refuse (depth + 1) (.wrongNode "mapping" "sequence")
    | tag => atDepth depth (readAsScalar tag (.sequence tag []))
  | .mapping tag entries =>
    match tag with
    | .map => (Node.members (depth + 1) entries).all.map Value.dictOf
    | .set => (Node.members (depth + 1) entries).all.map fun _ => .foreign "set"
    | .seq => refuse (depth + 1) (.wrongNode "sequence" "mapping")
    | .omap => refuse (depth + 1) .badOrderedMap
    | .pairs => refuse (depth + 1) .badPairs
    | tag => atDepth depth (readAsScalar tag (.mapping tag entries))
  | .unfinished ofMapping => .ok (.foreign (if ofMapping then "dict" else "list"))

def Node.values (depth : Nat) : List Node → Built (List Value)
  | [] => .ok []
  | n :: rest => joined (· :: ·) (Node.value depth n) (Node.values depth rest)

def Node.pairs (problem : Problem) (depth : Nat) : List Node → Built (List Value)
  | [] => .ok []
  | .mapping _ [(k, v)] :: rest =>
    joined (· :: ·) (joined (fun k v => .list [k, v]) (Node.value depth k) (Node.value depth v))
      (Node.pairs problem depth rest)
  | _ :: _ => refuse depth problem

def Node.members (depth : Nat) : List (Node × Node) → Members
  | [] => {}
  | (.scalar .merge _, v) :: rest =>
    let more := Node.members depth rest
    { more with merged := joined (· ++ ·) (Node.merged depth v) more.merged }
  | (k, v) :: rest =>
    let more := Node.members depth rest
    let member := joined Prod.mk (keyOf depth k (Node.value depth k)) (Node.value depth v)
    { more with own := joined (· :: ·) member more.own }

/-- The members that a merge key brings in from a mapping, or from several, of which the first takes
precedence. -/
def Node.merged (depth : Nat) : Node → Built (List Entry)
  | .mapping _ entries => (Node.members depth entries).all
  | .sequence _ items => Node.mergedItems depth items
  | .scalar .. => .error ⟨mergeRank depth, .badMapping⟩
  | .unfinished _ => .ok []

def Node.mergedItems (depth : Nat) : List Node → Built (List Entry)
  | [] => .ok []
  | .mapping _ entries :: rest =>
    joined (· ++ ·) (Node.mergedItems depth rest) (Node.members depth entries).all
  | .unfinished _ :: rest => Node.mergedItems depth rest
  | _ :: _ => .error ⟨mergeRank depth, .badMapping⟩

end

def read (text : String) : Except Problem Value := do
  match ← Node.ofText? text with
  | none => return .null
  | some n => (n.value 0).mapError (·.problem)

end Yaml
end StreamingLM
