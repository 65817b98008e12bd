import StreamingLM.Value
import StreamingLM.Text.Quoted

/-!
Writing JSON: one line, double quotes, and every character outside of ASCII escaped by its UTF-16
units. A number that is no integer has the fewest digits that read back.
-/
namespace StreamingLM
namespace Json

def unitText (n : Nat) : List Char := '\\' :: 'u' :: Quoted.hexText 4 n

def escapeChar (c : Char) : List Char :=
  if c = '"' ∨ c = '\\' then ['\\', c]
  else if c = '\n' then ['\\', 'n']
  else if c = '\r' then ['\\', 'r']
  else if c = '\t' then ['\\', 't']
  else if 0x20 ≤ c.toNat ∧ c.toNat < 0x7f then [c]
  else if c.toNat < 0x10000 then unitText c.toNat
  else
    let n := c.toNat - 0x10000
    unitText (0xd800 + n / 0x400) ++ unitText (0xdc00 + n % 0x400)

def writeText (s : String) : String :=
  String.ofList ('"' :: s.toList.flatMap escapeChar ++ ['"'])

mutual

def write : Value → String
  | .null => "null"
  | .bool b => if b then "true" else "false"
  | .int n => toString n
  | .real x => Decimal.brief x
  | .text s => writeText s
  | .bytes bs => "[" ++ String.intercalate "," (bs.map toString) ++ "]"
  | .list items => "[" ++ String.intercalate "," (writeItems items) ++ "]"
  | .dict entries => "\x7b" ++ String.intercalate "," (writeEntries entries) ++ "\x7d"
  | .foreign name => writeText name

def writeItems : List Value → List String
  | [] => []
  | v :: rest => write v :: writeItems rest

def writeEntries : List (Value × Value) → List String
  | [] => []
  | (k, v) :: rest => (writeText k.listed ++ ":" ++ write v) :: writeEntries rest

end

end Json
end StreamingLM
