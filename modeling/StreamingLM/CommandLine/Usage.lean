import StreamingLM.CommandLine.Grammar

/-!
Usage lines and help texts, laid out for a terminal of eighty columns.
-/
namespace StreamingLM
namespace CommandLine

def helpWidth : Nat := 78

def lastHelpColumn : Nat := 24

def blankText (n : Nat) : String := String.ofList (List.replicate n ' ')

/-- Pack words into lines of so many columns. `used` columns are taken by the words of `line`, and each
new line starts with `start` columns taken. -/
def pack (width start used : Nat) (line : List String) : List String → List (List String)
  | [] => if line.isEmpty then [] else [line]
  | w :: rest =>
    if width < used + 1 + w.length ∧ line ≠ [] then
      line :: pack width start (start + w.length + 1) [w] rest
    else pack width start (used + w.length + 1) (line ++ [w]) rest

def filled (width : Nat) (text : String) : List String :=
  (pack (width + 1) 0 0 [] ((words text).map String.ofList)).map (String.intercalate " ")

def Opt.usage (o : Opt) : List String :=
  if o.takesValue then
    let name := o.names.headD ""
    if o.required then [name, o.placeholder] else ["[" ++ name ++ " " ++ o.placeholder ++ "]"]
  else ["[" ++ o.names.headD "" ++ "]"]

def Operand.label : Operand → String
  | argument name _ => name
  | command _ choices => "\x7b" ++ String.intercalate "," (choices.map (·.1)) ++ "\x7d"

def Operand.usage : Operand → List String
  | argument name _ => [name]
  | command name choices => [(command name choices).label, "..."]

def Opt.label (o : Opt) : String :=
  String.intercalate ", " (o.names.map fun name =>
    if o.takesValue then name ++ " " ++ o.placeholder else name)

namespace Grammar

/-- The usage of a program; what does not fit one line is set under the first option, and the operand
then has lines of its own. -/
def usage (g : Grammar) : String :=
  let head := "usage: "
  let options := g.options.flatMap Opt.usage
  let operand := (g.operand.map Operand.usage).getD []
  let line := head ++ String.intercalate " " (g.program :: options ++ operand)
  if line.length ≤ helpWidth then line
  else
    let indent := head.length + g.program.length + 1
    let first := pack helpWidth (indent - 1) (head.length - 1) [] (g.program :: options)
    let second := pack helpWidth (indent - 1) (indent - 1) [] operand
    let ls := (first ++ second).map (String.intercalate " ")
    head ++ String.intercalate ("\n" ++ blankText indent) ls

/-- The parts of a help text: how deep they stand, what they are about, and the explanation. -/
def operandEntries (g : Grammar) : List (Nat × String × String) :=
  match g.operand with
  | none => []
  | some (.argument name help) => [(2, name, help)]
  | some (.command name choices) =>
    (2, (Operand.command name choices).label, "") :: choices.map fun (choice, help) => (4, choice, help)

def optionEntries (g : Grammar) : List (Nat × String × String) :=
  g.options.map fun o => (2, o.label, o.help)

def helpColumn (g : Grammar) : Nat :=
  let labels := (g.operandEntries ++ g.optionEntries).map fun (_, label, _) => label.length
  min (labels.foldl max 0 + 4) lastHelpColumn

/-- One part of a help text. An explanation stands beside a short label and below a long one. -/
def entryLines (column : Nat) : Nat × String × String → List String
  | (indent, label, help) =>
    let head := blankText indent ++ label
    match filled (helpWidth - column) help with
    | [] => [head]
    | first :: rest =>
      let below := rest.map (blankText column ++ ·)
      if head.length + 2 ≤ column then
        (head ++ blankText (column - head.length) ++ first) :: below
      else head :: (blankText column ++ first) :: below

def sectionLines (column : Nat) (title : String) (entries : List (Nat × String × String)) :
    List String :=
  if entries.isEmpty then []
  else [String.intercalate "\n" ((title ++ ":") :: entries.flatMap (entryLines column))]

def helpText (g : Grammar) : String :=
  let description := String.intercalate "\n" (filled helpWidth g.description)
  let blocks := [g.usage] ++ (if description = "" then [] else [description])
    ++ sectionLines g.helpColumn "positional arguments" g.operandEntries
    ++ sectionLines g.helpColumn "options" g.optionEntries
  String.intercalate "\n\n" blocks ++ "\n"

end Grammar
end CommandLine
end StreamingLM
