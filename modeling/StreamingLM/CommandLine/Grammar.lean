import StreamingLM.Schema

/-!
The grammar of a command line: options, which start with hyphens and may take a value, and an operand,
which is one argument or the name of a command with everything behind it.
-/
namespace StreamingLM
namespace CommandLine

/-- What the value of an option is read as. -/
inductive ValueKind where
  | text
  | int
  | real
  deriving DecidableEq, Repr

namespace ValueKind

def name : ValueKind → String
  | text => "str"
  | int => "int"
  | real => "float"

def read? (kind : ValueKind) (text : String) : Option Value :=
  match kind with
  | .text => some (.text text)
  | int => (Numeral.typedInt? text).map .int
  | real => (Numeral.typedReal? text).map .real

end ValueKind

/-- What an option does: ask for help or for the version, or set a value. -/
inductive Effect where
  | help
  | version
  | set (kind : ValueKind)
  deriving DecidableEq, Repr

structure Opt where
  names : List String
  effect : Effect
  required : Bool := false
  help : String
  deriving DecidableEq, Repr

namespace Opt

def title (o : Opt) : String := String.intercalate "/" o.names

/-- The setting that an option stands for: its last name with underscores for hyphens. -/
def key (o : Opt) : String :=
  String.ofList (((o.names.getLast?.getD "").toList.dropWhile (· = '-')).map fun c =>
    if c = '-' then '_' else c)

def placeholder (o : Opt) : String := String.ofList (o.key.toList.map Char.toUpper)

def takesValue (o : Opt) : Bool :=
  match o.effect with
  | .set _ => true
  | _ => false

end Opt

/-- What a command line is about: one argument, or one of several commands, each with a help text. -/
inductive Operand where
  | argument (name help : String)
  | command (name : String) (choices : List (String × String))
  deriving DecidableEq, Repr

def Operand.name : Operand → String
  | argument name _ | command name _ => name

structure Grammar where
  program : String
  description : String := ""
  version : String := ""
  options : List Opt
  operand : Option Operand := none
  deriving DecidableEq, Repr

namespace Grammar

def names (g : Grammar) : List (String × Opt) :=
  g.options.flatMap fun o => o.names.map fun name => (name, o)

def option? (g : Grammar) (name : String) : Option Opt := g.names.lookup name

end Grammar

def helpOption : Opt :=
  { names := ["-h", "--help"], effect := .help, help := "show this help message and exit" }

end CommandLine
end StreamingLM
