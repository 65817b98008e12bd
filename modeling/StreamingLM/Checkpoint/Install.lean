import StreamingLM.Checkpoint.Names

/-!
Copying the tensors of a checkpoint into the parameters of a model. Every tensor of a fitting name
and shape is copied before anything is reported.
-/
namespace StreamingLM
namespace Checkpoint

variable {α : Type}

def installOne (state : Parameters α) (name : String) (old : Tensor α) : Tensor α :=
  match state.lookup name with
  | some new => if new.shape = old.shape then new else old
  | none => old

def install (p state : Parameters α) : Parameters α :=
  p.map fun (name, old) => (name, installOne state name old)

def misshapen (p state : Parameters α) : Bool :=
  p.any fun (name, old) =>
    match state.lookup name with
    | some new => new.shape ≠ old.shape
    | none => false

/-- The scopes that enclose a parameter, the outermost first; each ends with a dot. -/
def scopes (name : String) : List String :=
  let parts := (name.splitOn ".").dropLast
  (List.range (parts.length + 1)).map fun n =>
    String.join ((parts.take n).map (· ++ "."))

def allScopes (p : Parameters α) : List String :=
  (p.flatMap fun entry => scopes entry.1).foldl
    (fun seen scope => if seen.contains scope then seen else seen ++ [scope]) [""]

/-- The innermost scope of a model that a name belongs to. -/
def home (all : List String) (name : String) : String :=
  all.foldl (fun best scope =>
    if scope.isPrefixOf name && best.length < scope.length then scope else best) ""

def missing (p state : Parameters α) : List String :=
  (p.map (·.1)).filter fun name => !has state name

def unexpected (p state : Parameters α) : List String :=
  let all := allScopes p
  let extra := (state.map (·.1)).filter fun name => !has p name
  all.flatMap fun scope => extra.filter fun name => home all name = scope

/-- Load tensors of own names. Shapes that differ are reported first, then names that are missing
or left over. -/
def load (p state : Parameters α) : Attempt (Parameters α) Unit :=
  let installed := install p state
  let missing := missing p state
  let extra := unexpected p state
  (if misshapen p state then .error .tensorShapes
    else if missing.isEmpty && extra.isEmpty then .ok ()
    else .error (.tensorNames missing extra), installed)

def loadNamed (p state : Parameters α) (names : Option (List (String × String))) :
    Attempt (Parameters α) Unit :=
  match names with
  | none => load p state
  | some names =>
    match rename state names with
    | .error f => (.error f, p)
    | .ok state => load p state

end Checkpoint
end StreamingLM
