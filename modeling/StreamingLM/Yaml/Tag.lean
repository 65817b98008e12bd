import StreamingLM.Yaml.Problem

/-!
The tags of YAML nodes, and the tag that a plain text has by its form: truth values, integers in four
bases and in sixtieths, reals, dates, and the empty values.
-/
namespace StreamingLM
namespace Yaml

inductive Tag where
  | str
  | int
  | real
  | bool
  | null
  | timestamp
  | binary
  | merge
  | value
  | indicator
  | seq
  | map
  | set
  | omap
  | pairs
  | other (uri : String)
  deriving DecidableEq, Repr

namespace Tag

def root : String := "tag:yaml.org,2002:"

def standard : List (String × Tag) :=
  [("str", str), ("int", int), ("float", real), ("bool", bool), ("null", null),
    ("timestamp", timestamp), ("binary", binary), ("merge", merge), ("value", value),
    ("yaml", indicator), ("seq", seq), ("map", map), ("set", set), ("omap", omap), ("pairs", pairs)]

def ofUri (uri : String) : Tag :=
  match standard.find? fun entry => root ++ entry.1 == uri with
  | some (_, tag) => tag
  | none => other uri

def uri : Tag → String
  | other uri => uri
  | tag => root ++ ((standard.find? (·.2 == tag)).map (·.1)).getD ""

end Tag

def unsigned : List Char → List Char
  | '+' :: rest => rest
  | '-' :: rest => rest
  | cs => cs

def isDecimal (c : Char) : Bool := '0' ≤ c && c ≤ '9'

def isGrouped (c : Char) : Bool := isDecimal c || c == '_'

def isRun (p : Char → Bool) (cs : List Char) : Bool := !cs.isEmpty && cs.all p

def isNumeral : List Char → Bool
  | d :: rest => isDecimal d && rest.all isGrouped
  | [] => false

def atColons (cs : List Char) : List (List Char) := cs.splitOn ':'

def isSixtieth : List Char → Bool
  | [d] => isDecimal d
  | [t, d] => '0' ≤ t && t ≤ '5' && isDecimal d
  | _ => false

def isIntegerForm (cs : List Char) : Bool :=
  match unsigned cs with
  | ['0'] => true
  | '0' :: 'b' :: rest => isRun (fun c => c == '0' || c == '1' || c == '_') rest
  | '0' :: 'x' :: rest => isRun (fun c => isGrouped c || ('a' ≤ c && c ≤ 'f') || ('A' ≤ c && c ≤ 'F')) rest
  | '0' :: rest => isRun (fun c => ('0' ≤ c && c ≤ '7') || c == '_') rest
  | body =>
    match atColons body with
    | [] => false
    | first :: rest => isNumeral first && rest.all isSixtieth

def isExponentForm : List Char → Bool
  | [] => true
  | e :: s :: digits => (e == 'e' || e == 'E') && (s == '+' || s == '-') && isRun isDecimal digits
  | _ => false

def isFractionForm (cs : List Char) : Bool := isExponentForm (cs.dropWhile isGrouped)

def isRealForm (cs : List Char) : Bool :=
  let body := unsigned cs
  let whole := body.takeWhile (· != '.')
  match body.dropWhile (· != '.') with
  | '.' :: places =>
    if whole.isEmpty then
      let name := String.ofList places
      ["inf", "Inf", "INF"].contains name
        || (cs.head? == some '.' && (["nan", "NaN", "NAN"].contains name
          || (isNumeral (places.takeWhile isGrouped) && isFractionForm places)))
    else
      match atColons whole with
      | [_] => isNumeral whole && isFractionForm places
      | first :: rest => isNumeral first && rest.all isSixtieth && places.all isGrouped
      | [] => false
  | _ => false

structure Zone where
  negative : Bool
  hours : Nat
  minutes : Nat

structure Moment where
  hour : Nat
  minute : Nat
  second : Nat
  zone : Option Zone

structure Timestamp where
  year : Nat
  month : Nat
  day : Nat
  moment : Option Moment

namespace Timestamp

/-- A number in at least and at most so many digits, and what follows it. -/
def digits? (least most : Nat) (cs : List Char) : Option (Nat × List Char) :=
  let taken := (cs.takeWhile isDecimal).take most
  if taken.length < least then none else some (CharSet.decimalValue taken, cs.drop taken.length)

def mark? (c : Char) : List Char → Option (List Char)
  | d :: rest => if c = d then some rest else none
  | [] => none

def isBlank (c : Char) : Bool := c == ' ' || c == '\t'

def zone? (cs : List Char) : Option (Option Zone) :=
  match cs, cs.dropWhile isBlank with
  | [], _ => some none
  | _, ['Z'] => some none
  | _, s :: rest =>
    if s ≠ '+' ∧ s ≠ '-' then none
    else do
      let (hours, rest) ← digits? 1 2 rest
      match rest with
      | [] => some (some ⟨s == '-', hours, 0⟩)
      | ':' :: rest =>
        let (minutes, rest) ← digits? 2 2 rest
        if rest.isEmpty then some (some ⟨s == '-', hours, minutes⟩) else none
      | _ => none
  | _, [] => none

/-- The time of a day, behind the letter or the blanks that set it apart. -/
def moment? (cs : List Char) : Option Moment := do
  let rest ← match cs with
    | 'T' :: rest | 't' :: rest => some rest
    | c :: rest => if isBlank c then some (rest.dropWhile isBlank) else none
    | [] => none
  let (hour, rest) ← digits? 1 2 rest
  let (minute, rest) ← digits? 2 2 (← mark? ':' rest)
  let (second, rest) ← digits? 2 2 (← mark? ':' rest)
  let rest := match rest with
    | '.' :: places => places.dropWhile isDecimal
    | _ => rest
  return ⟨hour, minute, second, ← zone? rest⟩

def read? (cs : List Char) : Option Timestamp := do
  let (year, rest) ← digits? 4 4 cs
  let (month, rest) ← digits? 1 2 (← mark? '-' rest)
  let (day, rest) ← digits? 1 2 (← mark? '-' rest)
  if rest.isEmpty then return ⟨year, month, day, none⟩
  else return ⟨year, month, day, some (← moment? rest)⟩

/-- A date alone is written with all its digits where no tag announces it. -/
def isForm (cs : List Char) : Bool :=
  match read? cs with
  | some t => t.moment.isSome || cs.length = 10
  | none => false

def isLeap (year : Nat) : Bool := year % 4 = 0 && (year % 100 ≠ 0 || year % 400 = 0)

def monthDays (year month : Nat) : Nat :=
  if month = 2 then if isLeap year then 29 else 28
  else if [4, 6, 9, 11].contains month then 30
  else 31

/-- The date is in the calendar, the time in the day, and the zone within a day of the origin. -/
def isReal (t : Timestamp) : Bool :=
  1 ≤ t.year && 1 ≤ t.month && t.month ≤ 12 && 1 ≤ t.day && t.day ≤ monthDays t.year t.month
    && (match t.moment with
      | none => true
      | some m => m.hour < 24 && m.minute < 60 && m.second < 60
          && (match m.zone with
            | none => true
            | some z => z.hours * 60 + z.minutes < 1440))

end Timestamp

def boolWord? : String → Option Bool
  | "yes" | "true" | "on" => some true
  | "no" | "false" | "off" => some false
  | _ => none

def isCased (word : String) : Bool :=
  let cs := word.toList
  cs.all (·.isLower) || cs.all (·.isUpper)
    || ((cs.head?.map (·.isUpper)).getD false && cs.tail.all (·.isLower))

def withoutBreak (cs : List Char) : List Char :=
  if cs.getLast? = some '\n' then cs.dropLast else cs

def Tag.ofPlain (text : String) : Tag :=
  let cs := if text = "\n" then text.toList else withoutBreak text.toList
  let word := String.ofList cs
  if isCased word && (boolWord? (String.ofList (cs.map Char.toLower))).isSome then .bool
  else if isRealForm cs then .real
  else if isIntegerForm cs then .int
  else if word = "<<" then .merge
  else if ["", "~", "null", "Null", "NULL"].contains word then .null
  else if Timestamp.isForm cs then .timestamp
  else if word = "=" then .value
  else if ["!", "&", "*"].contains word then .indicator
  else .str

end Yaml
end StreamingLM
