import StreamingLM.Server.Basic

/-!
The registry of servers by name, listed in the order of their names.
-/
namespace StreamingLM

structure RegistryEntry where
  name : String
  description : String
  kind : ServerKind
  deriving DecidableEq, Repr

/-- Entries in the order of registration; no two have one name. -/
structure Registry where
  registered : List RegistryEntry := []

namespace Registry

def find? (r : Registry) (name : String) : Option RegistryEntry := r.registered.find? (·.name = name)

def register (r : Registry) (name description : String) (kind : ServerKind) :
    Except Failure Registry :=
  if (r.find? name).isSome then .error (.registered name)
  else .ok ⟨r.registered ++ [⟨name, description, kind⟩]⟩

def entries (r : Registry) : List RegistryEntry :=
  r.registered.mergeSort fun a b => a.name ≤ b.name

def names (r : Registry) : List String := r.entries.map (·.name)

def get (r : Registry) (name : String) : Except Failure RegistryEntry :=
  match r.find? name with
  | some e => .ok e
  | none => .error (.modelUnknown name r.names)

def create {α : Type} [Scalar α] (r : Registry) (d : Directory α) (name : String) (offer : Offer) :
    Except Failure (ServerKind × Server α) := do
  let e ← r.get name
  return (e.kind, .ofConfig e.kind (← Server.settings d e.kind offer))

def bundled : Registry :=
  ⟨[⟨"llama", "Llama 3 family and TinyLlama, selected by preset", .llama⟩,
    ⟨"parrot", "Echoes the prompt back", .parrot⟩]⟩

end Registry
end StreamingLM
