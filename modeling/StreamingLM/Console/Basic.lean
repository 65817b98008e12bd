import StreamingLM.Console.Markup
import StreamingLM.Console.Table
import StreamingLM.Value

/-!
A plain console of fixed width: messages with a mark in front, headings, tables, and the text of a
completion as it comes. Each operation gives the text that it writes.
-/
namespace StreamingLM

structure Console where
  width : Nat := 80
  deriving DecidableEq, Repr

namespace Console

def shown (text : String) : Except Failure (List Char) := do
  return Layout.writable (← Markup.shown text.toList)

def heading : Value → Except Failure (List Char)
  | .text s => shown s
  | _ => .error (.fault .unprintable "heading")

/-- A cell holds text with markup or nothing. -/
def cell : Value → Except Failure (List Char)
  | .null => .ok []
  | v => heading v

def paragraph (c : Console) (cs : List Char) : String :=
  Layout.unlines (Layout.paragraph c.width .fold .plain cs)

def print (c : Console) (text : String) : Except Failure String := c.paragraph <$> shown text

def info (c : Console) (message : String) : Except Failure String :=
  c.print ("[info]ℹ[/info] " ++ message)

def success (c : Console) (message : String) : Except Failure String :=
  c.print ("[success]✓[/success] " ++ message)

def subheader (c : Console) (text : String) : Except Failure String :=
  c.print ("[muted]──[/muted] [highlight]" ++ text ++ "[/highlight]")

def header (c : Console) (title subtitle : String) : String :=
  let aside := if subtitle = "" then "" else " • " ++ subtitle
  let line := "━━━ " ++ title ++ aside ++ " " ++ String.ofList (List.replicate 40 '━')
  "\n" ++ c.paragraph (Layout.writable line.toList) ++ "\n"

def stream (c : Console) (text : String) : String :=
  String.ofList (Layout.flow c.width (Layout.writable (Emoji.expand text.toList)))

def drawn (c : Console) (t : Table) : String := Layout.unlines (t.lines c.width)

def table (c : Console) (title : String) (columns : List Value) (rows : List (List Value)) :
    Except Failure String := do
  if columns.isEmpty || rows.isEmpty then return ""
  let rows ← rows.mapM (·.mapM cell)
  let headings ← columns.mapM heading
  let title ← if title = "" then pure none else some <$> shown title
  return c.drawn (.ofRows title true (headings :: rows))

def pairs (c : Console) (entries : List (Value × Value)) (title : String) :
    Except Failure String := do
  let head ← if title = "" then pure "" else c.subheader title
  let cells ← entries.mapM fun (key, value) => do
    return [← shown (key.listed ++ ":"), ← shown value.listed]
  return head ++ c.drawn (.ofRows none false cells)

def stats (c : Console) (rows : List (List Value)) : Except Failure String := do
  if rows.isEmpty then return ""
  return "\n" ++ (← c.table "Stats" [.text "Statistic Name", .text "Value"] rows)

def spinner (_ : Console) : String := "\n"

end Console
end StreamingLM
