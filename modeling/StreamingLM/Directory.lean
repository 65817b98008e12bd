import StreamingLM.Tensor
import StreamingLM.Text.Path

/-!
The files that a program sees: a path leads to nothing, to a folder, to bytes, or to named tensors.
-/
namespace StreamingLM

inductive FileContent (α : Type) where
  | folder
  | bytes (contents : List Nat)
  | tensors (entries : List (String × Tensor α))

abbrev Directory (α : Type) := String → Option (FileContent α)

namespace Directory

variable {α : Type}

def empty : Directory α := fun _ => none

def find (d : Directory α) (path : String) : Option (FileContent α) := d (Path.clean path)

/-- Walk from a folder along the parts of a path. Every file stands in folders, which are all there
is to walk through. -/
def walk (files : List (List String × FileContent α)) : List String → List String →
    Option (FileContent α)
  | here, [] =>
    match files.find? (·.1 == here) with
    | some (_, content) => some content
    | none =>
      if here.isEmpty || files.any (fun file => here.isPrefixOf file.1) then some .folder else none
  | here, part :: rest =>
    if files.any (·.1 == here) then none
    else if part = ".." then
      if here.isEmpty || !files.any (fun file => here.isPrefixOf file.1) then none
      else walk files here.dropLast rest
    else walk files (here ++ [part]) rest

def ofFiles (files : List (String × FileContent α)) : Directory α :=
  let split := files.map fun (path, content) => (Path.parts path, content)
  fun path => if Path.root path = "" then walk split [] (Path.parts path) else none

end Directory
end StreamingLM
