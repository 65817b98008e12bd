import StreamingLM.Failure

/-!
Statistics of a completion: entries of six kinds, each listed once, and shown as rows in the order of
their kinds.
-/
namespace StreamingLM

/-- The kinds of entries, in the order in which they are shown. -/
inductive StatKind where
  | inferenceDuration
  | loadingDuration
  | named
  | tokensCount
  | tokensPerSecond
  | totalDuration
  deriving DecidableEq, Repr

namespace StatKind

def all : List StatKind :=
  [inferenceDuration, loadingDuration, named, tokensCount, tokensPerSecond, totalDuration]

def rank : StatKind → Nat
  | inferenceDuration => 0
  | loadingDuration => 1
  | named => 2
  | tokensCount => 3
  | tokensPerSecond => 4
  | totalDuration => 5

def label : StatKind → String
  | inferenceDuration => "Inference Duration"
  | loadingDuration => "Model Loading Duration"
  | named => "Named"
  | tokensCount => "Tokens Count"
  | tokensPerSecond => "Tokens Per Second"
  | totalDuration => "Total Duration"

def name : StatKind → String
  | inferenceDuration => "inference_duration"
  | loadingDuration => "model_loading_duration"
  | named => "named"
  | tokensCount => "tokens_count"
  | tokensPerSecond => "tokens_per_second"
  | totalDuration => "total_duration"

def ofName? (s : String) : Option StatKind := all.find? (·.name = s)

@[simp] theorem ofName?_name (k : StatKind) : ofName? k.name = some k := by
  cases k <;> decide

end StatKind

/-- One statistic. Each kind uses some of the fields, and the others are null. -/
structure StatEntry where
  kind : StatKind
  seconds : Value := .null
  count : Value := .null
  name : Value := .null
  value : Value := .null

namespace StatEntry

def duration (kind : StatKind) (seconds : Float) : StatEntry := { kind, seconds := .real seconds }

def tokens (n : Nat) : StatEntry := { kind := .tokensCount, count := .int n }

def rate (n : Nat) (seconds : Float) : StatEntry :=
  { kind := .tokensPerSecond, count := .int n, seconds := .real seconds }

def ofArguments (kind : StatKind) (arguments : List Value) : StatEntry :=
  let argument (i : Nat) : Value := (arguments[i]?).getD .null
  match kind with
  | .named => { kind, name := argument 0, value := argument 1 }
  | .tokensCount => { kind, count := argument 0 }
  | .tokensPerSecond => { kind, count := argument 0, seconds := argument 1 }
  | kind => { kind, seconds := argument 0 }

def same (a b : StatEntry) : Bool :=
  a.kind == b.kind && a.seconds.same b.seconds && a.count.same b.count && a.name.same b.name
    && a.value.same b.value

def label (e : StatEntry) : String :=
  match e.kind with
  | .named => e.name.listed
  | kind => kind.label

/-- A number of a field; what counts as false is zero. -/
def number (v : Value) : Except Failure Float :=
  if !v.truthy then .ok 0.0
  else
    match v.number? with
    | some (.inl n) => .ok (Decimal.toFloat (n < 0) n.natAbs 0)
    | some (.inr x) => .ok x
    | none => .error (.fault .type "number")

def shownValue (e : StatEntry) : Except Failure String := do
  match e.kind with
  | .named => return e.value.listed
  | .tokensCount => return e.count.listed
  | .tokensPerSecond =>
    if !e.seconds.truthy then return "N/A"
    else return Decimal.fixed 2 ((← number e.count) / (← number e.seconds))
  | _ => return Decimal.fixed 2 (← number e.seconds) ++ "s"

end StatEntry

/-- Entries in the order in which they came, no two of them equal. -/
structure Stats where
  entries : List StatEntry := []

namespace Stats

def insert (s : Stats) (e : StatEntry) : Stats :=
  if s.entries.any (e.same ·) then s else ⟨s.entries ++ [e]⟩

def add (s : Stats) (entries : List StatEntry) : Stats := entries.foldl insert s

def ofList (entries : List StatEntry) : Stats := add {} entries

def extend (s : Stats) (other : Option Stats) : Stats :=
  match other with
  | none => s
  | some o => s.add o.entries

/-- What the first entry of a kind says about time, null if there is none. -/
def duration (s : Stats) (kind : StatKind) : Value :=
  match s.entries.find? (·.kind = kind) with
  | some e => e.seconds
  | none => .null

/-- Labels and values in the order of the kinds; entries of one kind keep their order. -/
def rows (s : Stats) : Except Failure (List (String × String)) :=
  (s.entries.mergeSort fun a b => a.kind.rank ≤ b.kind.rank).mapM fun e => do
    return (e.label, ← e.shownValue)

end Stats
end StreamingLM
