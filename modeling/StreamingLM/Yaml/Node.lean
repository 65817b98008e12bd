import StreamingLM.Yaml.Tag
import StreamingLM.Yaml.TokenStream

/-!
The nodes of a YAML document: tagged texts, sequences and mappings, put together from the tokens. An
alias stands for the node under its anchor.
-/
namespace StreamingLM
namespace Yaml

/-- A node. `unfinished` is an alias to a collection from within it. -/
inductive Node where
  | scalar (tag : Tag) (text : String)
  | sequence (tag : Tag) (items : List Node)
  | mapping (tag : Tag) (entries : List (Node × Node))
  | unfinished (ofMapping : Bool)

namespace Node

instance : Inhabited Node := ⟨.scalar .null ""⟩

def noun : Node → String
  | scalar .. => "scalar"
  | sequence .. => "sequence"
  | mapping .. => "mapping"
  | unfinished ofMapping => if ofMapping then "mapping" else "sequence"

def empty : Node := .scalar (Tag.ofPlain "") ""

end Node

/-- What is known while nodes are put together: the tokens to come, what the handles of tags stand
for, and the nodes under anchors. -/
structure Composition where
  tokens : TokenStream
  handles : List (String × String) := []
  anchors : List (String × Node) := []

abbrev Composing (α : Type) := StateT Composition (Except Problem) α

namespace Composing

def peek : Composing Token := fun s => do
  let (t, tokens) ← s.tokens.first
  return (t, { s with tokens })

def drop : Composing Unit := modify fun s => { s with tokens := s.tokens.rest }

def accept (t : Token) : Composing Bool := do
  if (← peek) = t then drop; return true else return false

def commonHandles : List (String × String) := [("!", "!"), ("!!", Tag.root)]

def expand (handle : Option String) (suffix : String) : Composing String := do
  match handle with
  | none => return suffix
  | some h =>
    match (← get).handles.lookup h with
    | some stem => return stem ++ suffix
    | none => throw .unknownHandle

def properties : Composing (Option String × Option String) := do
  match ← peek with
  | .anchor name =>
    drop
    match ← peek with
    | .tag handle suffix => drop; return (some name, some (← expand handle suffix))
    | _ => return (some name, none)
  | .tag handle suffix =>
    drop
    match ← peek with
    | .anchor name => drop; return (some name, some (← expand handle suffix))
    | _ => return (none, some (← expand handle suffix))
  | _ => return (none, none)

def checkAnchor (anchor : Option String) : Composing Unit := do
  match anchor with
  | none => pure ()
  | some name => if ((← get).anchors.lookup name).isSome then throw (.anchorTwice name)

def setAnchor (anchor : Option String) (n : Node) : Composing Unit :=
  match anchor with
  | none => pure ()
  | some name => modify fun s => { s with anchors := (name, n) :: s.anchors }

def mentioned (name : String) : Composing Node := do
  match (← get).anchors.lookup name with
  | some n => return n
  | none => throw (.unknownAlias name)

def givenTag (tag : Option String) : Option Tag :=
  match tag with
  | none | some "!" => none
  | some uri => some (Tag.ofUri uri)

/-- A text: a plain one without a tag has that of its form, and so has any text under a bare mark. -/
def scalarNode (anchor tag : Option String) (text : String) (plain : Bool) : Composing Node := do
  checkAnchor anchor
  let byForm := if (plain && tag.isNone) || tag == some "!" then Tag.ofPlain text else .str
  let n := Node.scalar ((givenTag tag).getD byForm) text
  setAnchor anchor n
  return n

mutual

/-- A node. Blocks may stand here if `block` holds, and entries of a sequence without an
indentation of their own if `flat` does. -/
def node (block flat : Bool) : Nat → Composing Node
  | 0 => throw (.nodeExpected block)
  | fuel + 1 => do
    match ← peek with
    | .mention name => drop; mentioned name
    | _ =>
      let (anchor, tag) ← properties
      let sequence (rest : Composing (List Node)) : Composing Node := do
        checkAnchor anchor
        setAnchor anchor (.unfinished false)
        let n := Node.sequence ((givenTag tag).getD .seq) (← rest)
        setAnchor anchor n
        return n
      let mapping (rest : Composing (List (Node × Node))) : Composing Node := do
        checkAnchor anchor
        setAnchor anchor (.unfinished true)
        let n := Node.mapping ((givenTag tag).getD .map) (← rest)
        setAnchor anchor n
        return n
      match ← peek with
      | .scalar text plain => drop; scalarNode anchor tag text plain
      | .flowSequenceStart => sequence (do drop; flowItems true fuel)
      | .flowMappingStart => mapping (do drop; flowMembers true fuel)
      | t =>
        if flat && t == .blockEntry then sequence (flatItems fuel)
        else if block && t == .blockSequenceStart then sequence (do drop; blockItems fuel)
        else if block && t == .blockMappingStart then mapping (do drop; blockMembers fuel)
        else if anchor.isSome || tag.isSome then scalarNode anchor tag "" tag.isNone
        else throw (.nodeExpected block)

def nodeUnless (stops : List Token) (block flat : Bool) : Nat → Composing Node
  | 0 => throw (.nodeExpected block)
  | fuel + 1 => do if stops.contains (← peek) then return Node.empty else node block flat fuel

def blockItems : Nat → Composing (List Node)
  | 0 => throw .openBlockSequence
  | fuel + 1 => do
    if ← accept .blockEntry then
      let n ← nodeUnless [.blockEntry, .blockEnd] true false fuel
      return n :: (← blockItems fuel)
    else if ← accept .blockEnd then return []
    else throw .openBlockSequence

def flatItems : Nat → Composing (List Node)
  | 0 => throw .openBlockSequence
  | fuel + 1 => do
    if ← accept .blockEntry then
      let n ← nodeUnless [.blockEntry, .key, .value, .blockEnd] true false fuel
      return n :: (← flatItems fuel)
    else return []

def blockMembers : Nat → Composing (List (Node × Node))
  | 0 => throw .openBlockMapping
  | fuel + 1 => do
    if ← accept .key then
      let k ← nodeUnless [.key, .value, .blockEnd] true true fuel
      let v ← if ← accept .value then nodeUnless [.key, .value, .blockEnd] true true fuel
        else pure Node.empty
      return (k, v) :: (← blockMembers fuel)
    else if ← accept .blockEnd then return []
    else throw .openBlockMapping

/-- The items of a bracketed sequence and its end; one with a key is a mapping of its own. -/
def flowItems (first : Bool) : Nat → Composing (List Node)
  | 0 => throw .openFlowSequence
  | fuel + 1 => do
    if ← accept .flowSequenceEnd then return []
    if !first && !(← accept .flowEntry) then throw .openFlowSequence
    if ← accept .flowSequenceEnd then return []
    let n ← if ← accept .key then do
        let k ← nodeUnless [.value, .flowEntry, .flowSequenceEnd] false false fuel
        let v ← if ← accept .value then
            nodeUnless [.flowEntry, .flowSequenceEnd] false false fuel
          else pure Node.empty
        pure (Node.mapping .map [(k, v)])
      else node false false fuel
    return n :: (← flowItems false fuel)

/-- The members of a braced mapping and its end; a key may stand without a value. -/
def flowMembers (first : Bool) : Nat → Composing (List (Node × Node))
  | 0 => throw .openFlowMapping
  | fuel + 1 => do
    if ← accept .flowMappingEnd then return []
    if !first && !(← accept .flowEntry) then throw .openFlowMapping
    if ← accept .flowMappingEnd then return []
    let member ← if ← accept .key then do
        let k ← nodeUnless [.value, .flowEntry, .flowMappingEnd] false false fuel
        let v ← if ← accept .value then
            nodeUnless [.flowEntry, .flowMappingEnd] false false fuel
          else pure Node.empty
        pure (k, v)
      else do pure (← node false false fuel, Node.empty)
    return member :: (← flowMembers false fuel)

end

/-- The directives of a document: at most one version, which must be a 1, and handles. -/
def directives : Nat → Option (Nat × Nat) → List (String × String) → Composing (List (String × String))
  | 0, _, handles => return handles
  | fuel + 1, version, handles => do
    match ← peek with
    | .directive (.version major minor) =>
      drop
      if version.isSome then throw .versionTwice
      if major ≠ 1 then throw .wrongVersion
      directives fuel (some (major, minor)) handles
    | .directive (.handle name stem) =>
      drop
      if (handles.lookup name).isSome then throw (.handleTwice name)
      directives fuel version (handles ++ [(name, stem)])
    | .directive .other => drop; directives fuel version handles
    | _ => return handles

def skipDocumentEnds : Nat → Composing Unit
  | 0 => pure ()
  | fuel + 1 => do if ← accept .documentEnd then skipDocumentEnds fuel

/-- The start of a document that is announced; `false` at the end of the text. -/
def documentStart (fuel : Nat) : Composing Bool := do
  skipDocumentEnds fuel
  if (← peek) = .streamEnd then return false
  let handles ← directives fuel none []
  modify fun s => { s with handles := handles ++ commonHandles }
  if ← accept .documentStart then return true
  else throw (.documentExpected (← peek).noun)

def document (fuel : Nat) : Composing (Option Node) := do
  let root ← match ← peek with
    | .streamEnd => pure none
    | .directive _ | .documentStart =>
      if ← documentStart fuel then
        let n ← match ← peek with
          | .directive _ | .documentStart | .documentEnd | .streamEnd => pure Node.empty
          | _ => node true false fuel
        pure (some n)
      else pure none
    | _ =>
      modify fun s => { s with handles := commonHandles }
      pure (some (← node true false fuel))
  let _ ← accept .documentEnd
  if ← documentStart fuel then throw .secondDocument
  return root

end Composing

def Node.ofText? (text : String) : Except Problem (Option Node) :=
  match text.toList.find? (!isPrintable ·) with
  | some c => .error (.unprintable c)
  | none =>
    let s : Composition := { tokens := TokenStream.ofText text }
    (Composing.document (8 * (text.length + 2)) |>.run s).map (·.1)

end Yaml
end StreamingLM
