import StreamingLM.CommandLine.Usage

/-!
Reading a command line. Options may be shortened as long as they stay apart from each other, values
follow as the next argument or behind an equals sign, and two hyphens alone end the options.
-/
namespace StreamingLM
namespace CommandLine

/-- Why a program ends instead of running: it shows a text, or it refuses its arguments. -/
inductive Halt where
  | shown (text : String) (code : Nat)
  | refused (g : Grammar) (message : String)

namespace Halt

def code : Halt → Nat
  | shown _ code => code
  | refused .. => 2

def output : Halt → String
  | shown text _ => text
  | refused .. => ""

def errors : Halt → String
  | shown .. => ""
  | refused g message => g.usage ++ "\n" ++ g.program ++ ": error: " ++ message ++ "\n"

end Halt

def refuse {α : Type} (g : Grammar) (title message : String) : Except Halt α :=
  .error (.refused g ("argument " ++ title ++ ": " ++ message))

/-- A value attached to the name of an option, behind an equals sign or, for names of one letter,
directly. -/
structure Attached where
  equals : Bool
  value : List Char
  deriving DecidableEq, Repr

/-- What an argument is: an argument to the program, the end of options, an option under one of its
names, or an option that is not known. -/
inductive Token where
  | argument (text : String)
  | ending
  | option (text : String) (o : Opt) (name : String) (attached : Option Attached)
  | unknown (text : String)
  deriving DecidableEq, Repr

def Token.text : Token → String
  | argument text | unknown text | option text .. => text
  | ending => "--"

/-- The name in front of the first equals sign, and the value behind it. -/
def cutName (cs : List Char) : List Char × Option Attached :=
  match cs.dropWhile (· ≠ '=') with
  | [] => (cs, none)
  | _ :: value => (cs.takeWhile (· ≠ '='), some ⟨true, value⟩)

def candidates (g : Grammar) (cs : List Char) : List (Opt × String × Option Attached) :=
  match cs with
  | '-' :: '-' :: _ =>
    let (start, attached) := cutName cs
    g.names.filterMap fun (name, o) =>
      if start.isPrefixOf name.toList then some (o, name, attached) else none
  | _ =>
    g.names.filterMap fun (name, o) =>
      if name.toList = cs.take 2 then some (o, name, some ⟨false, cs.drop 2⟩)
      else if cs.isPrefixOf name.toList then some (o, name, none)
      else none

def isNegativeNumber (cs : List Char) : Bool :=
  match Numeral.plain cs with
  | '-' :: rest =>
    let rest := if rest.getLast? = some '\n' then rest.dropLast else rest
    let whole := rest.takeWhile Property.isDigit
    match rest.dropWhile Property.isDigit with
    | [] => !whole.isEmpty
    | '.' :: places => !places.isEmpty && places.all Property.isDigit
    | _ => false
  | _ => false

def classify (g : Grammar) (text : String) : Except Halt Token :=
  let cs := text.toList
  let (name, attached) := cutName cs
  let name := String.ofList name
  if cs.head? ≠ some '-' then .ok (.argument text)
  else
    match g.option? text, attached.bind fun _ => g.option? name with
    | some o, _ => .ok (.option text o text none)
    | none, some o => .ok (.option text o name attached)
    | none, none =>
      match if cs.length = 1 then [] else candidates g cs with
      | [] =>
        if cs.length = 1 || isNegativeNumber cs || cs.contains ' ' then .ok (.argument text)
        else .ok (.unknown text)
      | [(o, name, attached)] => .ok (.option text o name attached)
      | several =>
        let list := String.intercalate ", " (several.map fun (_, name, _) => name)
        .error (.refused g s!"ambiguous option: {text} could match {list}")

def tokens (g : Grammar) : List String → Except Halt (List Token)
  | [] => .ok []
  | text :: rest => do
    if text = "--" then return .ending :: rest.map .argument
    let token ← classify g text
    return token :: (← tokens g rest)

/-- Where reading stands: anywhere, right behind the operand, behind an option that waits for its
value, behind the end of options with the operand still to come, or inside a command, to which the rest
belongs. -/
inductive Stage where
  | anywhere
  | behindOperand
  | awaiting (o : Opt) (kind : ValueKind)
  | ended
  | command
  deriving DecidableEq, Repr

/-- What a command line says: the values of options, the operand with the arguments that belong to it,
and the arguments that nothing takes. -/
structure Reading where
  values : List (String × Value) := []
  operand : Option (List String) := none
  extras : List String := []
  stage : Stage := .anywhere

namespace Reading

def extra (r : Reading) (text : String) : Reading :=
  { r with extras := r.extras ++ [text], stage := .anywhere }

def value? (r : Reading) (key : String) : Option Value := r.values.reverse.lookup key

def isOpen (g : Grammar) (r : Reading) : Bool := g.operand.isSome && r.operand.isNone

/-- An argument goes to the operand if that is still to come. The end of options in front of it is part
of a command, but not of a single argument. -/
def take (g : Grammar) (r : Reading) (front : List String) (text : String) : Reading :=
  match r.operand, g.operand with
  | none, some (.argument ..) => { r with operand := some [text], stage := .behindOperand }
  | none, some (.command ..) => { r with operand := some (front ++ [text]), stage := .command }
  | _, _ => r.extra text

end Reading

def give (g : Grammar) (r : Reading) (o : Opt) (kind : ValueKind) (text : String) :
    Except Halt Reading :=
  match kind.read? text with
  | some v => .ok { r with values := r.values ++ [(o.key, v)], stage := .anywhere }
  | none => refuse g o.title s!"invalid {kind.name} value: {quoted text}"

/-- A value that an option without values cannot take. Behind a name of one letter more letters may
follow, each an option of its own. -/
def surplus? (g : Grammar) (equals : Bool) : List Char → Option (List Char)
  | [] => if equals then some [] else none
  | c :: rest =>
    if equals || c = '-' then some (c :: rest)
    else if (g.option? (String.ofList ['-', c])).isNone then none
    else
      match rest with
      | '=' :: value => some value
      | rest => surplus? g false rest

def haltAt (g : Grammar) (o : Opt) (name : String) (attached : Option Attached) : Halt :=
  let surplus := attached.bind fun a =>
    if a.equals || "--".toList.isPrefixOf name.toList then some a.value else surplus? g false a.value
  match surplus with
  | some value =>
    let value := quoted (String.ofList value)
    .refused g s!"argument {o.title}: ignored explicit argument {value}"
  | none => .shown (if o.effect = .version then g.version ++ "\n" else g.helpText) 0

def readOption (g : Grammar) (r : Reading) (o : Opt) (name : String) (attached : Option Attached) :
    Except Halt Reading :=
  match o.effect, attached with
  | .set kind, some a => give g r o kind (String.ofList a.value)
  | .set kind, none => .ok { r with stage := .awaiting o kind }
  | _, attached => .error (haltAt g o name attached)

def step (g : Grammar) (r : Reading) (token : Token) : Except Halt Reading :=
  match r.stage, token with
  | .command, token => .ok { r with operand := r.operand.map (· ++ [token.text]) }
  | .awaiting o kind, .argument text => give g r o kind text
  | .awaiting o _, _ => refuse g o.title "expected one argument"
  | .ended, token => .ok (r.take g ["--"] token.text)
  | .behindOperand, .ending => .ok { r with stage := .anywhere }
  | _, .ending => .ok (if r.isOpen g then { r with stage := .ended } else r.extra "--")
  | _, .argument text => .ok (r.take g [] text)
  | _, .unknown text => .ok (r.extra text)
  | _, .option _ o name attached => readOption g r o name attached

def finish (g : Grammar) (r : Reading) : Except Halt Reading :=
  match r.stage with
  | .awaiting o _ => refuse g o.title "expected one argument"
  | .ended => .ok (r.extra "--")
  | _ => .ok r

def missing (g : Grammar) (r : Reading) : List String :=
  (match g.operand, r.operand with
    | some (.argument name _), none => [name]
    | _, _ => [])
    ++ (g.options.filter fun o => o.required && (r.value? o.key).isNone).map Opt.title

def checkCommand (g : Grammar) (r : Reading) : Except Halt Unit :=
  match g.operand, r.operand with
  | some (.command name choices), some (word :: _) =>
    if choices.any (·.1 = word) then .ok ()
    else
      let list := String.intercalate ", " (choices.map fun (choice, _) => quoted choice)
      refuse g name s!"invalid choice: {quoted word} (choose from {list})"
  | _, _ => .ok ()

def Grammar.read (g : Grammar) (arguments : List String) : Except Halt Reading := do
  let r ← (← tokens g arguments).foldlM (step g) {}
  let r ← finish g r
  checkCommand g r
  match missing g r with
  | [] => return r
  | names =>
    let list := String.intercalate ", " names
    .error (.refused g s!"the following arguments are required: {list}")

end CommandLine
end StreamingLM
