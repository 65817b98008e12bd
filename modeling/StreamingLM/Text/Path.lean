/-!
File paths: parts between slashes, the name, its ending, and the folder that holds it.
-/
namespace StreamingLM
namespace Path

/-- The parts of a path; empty ones and single dots say nothing. -/
def parts (path : String) : List String :=
  (path.splitOn "/").filter fun part => part ≠ "" ∧ part ≠ "."

/-- The root that a path starts from. Exactly two leading slashes are kept. -/
def root (path : String) : String :=
  match path.toList with
  | '/' :: '/' :: '/' :: _ => "/"
  | '/' :: '/' :: _ => "//"
  | '/' :: _ => "/"
  | _ => ""

def ofParts (root : String) (parts : List String) : String :=
  let text := root ++ String.intercalate "/" parts
  if text = "" then "." else text

def clean (path : String) : String := ofParts (root path) (parts path)

def name (path : String) : String := (parts path).getLast?.getD ""

/-- The ending of a name, from its last dot on; a dot at either end starts no ending. -/
def endingOf (name : String) : String :=
  let (back, front) := (name.toList.reverse.takeWhile (· ≠ '.'), name.toList.reverse.dropWhile (· ≠ '.'))
  match back, front with
  | _ :: _, '.' :: _ :: _ => "." ++ String.ofList back.reverse
  | _, _ => ""

def ending (path : String) : String := endingOf (name path)

/-- The folder of a path joined with another path; an absolute one stands alone. -/
def beside (path other : String) : String :=
  if root other ≠ "" then clean other
  else ofParts (root path) ((parts path).dropLast ++ parts other)

end Path
end StreamingLM
