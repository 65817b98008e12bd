import StreamingLM.Failure
import StreamingLM.Text.CharSet

/-!
What can be wrong with a YAML text: with its characters, its tokens, its structure, its anchors, or
the values that its nodes stand for.
-/
namespace StreamingLM
namespace Yaml

inductive Problem where
  | unprintable (c : Char)
  | strayCharacter
  | keyWithoutColon
  | entryNotAllowed
  | keyNotAllowed
  | valueNotAllowed
  | badDirective
  | badName (noun : String)
  | badTag
  | openTag
  | badBlockText
  | badEscape
  | openQuote
  | pointOutOfRange
  | pointOverflow
  | documentExpected (found : String)
  | versionTwice
  | wrongVersion
  | handleTwice (handle : String)
  | unknownHandle
  | nodeExpected (block : Bool)
  | openBlockSequence
  | openBlockMapping
  | openFlowSequence
  | openFlowMapping
  | secondDocument
  | unknownAlias (name : String)
  | anchorTwice (name : String)
  | unknownTag (uri : String)
  | wrongNode (expected found : String)
  | badMapping
  | badOrderedMap
  | badPairs
  | badBinary (reason : String)
  | badScalar (family : Family) (detail : String)
  deriving DecidableEq, Repr

namespace Problem

def family : Problem → Family
  | unprintable _ => .yamlReader
  | strayCharacter | keyWithoutColon | entryNotAllowed | keyNotAllowed | valueNotAllowed
  | badDirective | badName _ | badTag | openTag | badBlockText | badEscape | openQuote =>
    .yamlScanner
  | pointOutOfRange => .value
  | pointOverflow => .overflow
  | documentExpected _ | versionTwice | wrongVersion | handleTwice _ | unknownHandle
  | nodeExpected _ | openBlockSequence | openBlockMapping | openFlowSequence | openFlowMapping =>
    .yamlParser
  | secondDocument | unknownAlias _ | anchorTwice _ => .yamlComposer
  | unknownTag _ | wrongNode .. | badMapping | badOrderedMap | badPairs | badBinary _ =>
    .yamlConstructor
  | badScalar family _ => family

def hexPoint (n : Nat) : String :=
  let digits := Nat.toDigits 16 n
  String.ofList (List.replicate (4 - digits.length) '0' ++ digits)

def message : Problem → String
  | unprintable c =>
    s!"unacceptable character #x{hexPoint c.toNat}: special characters are not allowed"
  | strayCharacter => "while scanning for the next token"
  | keyWithoutColon => "while scanning a simple key"
  | entryNotAllowed => "sequence entries are not allowed here"
  | keyNotAllowed => "mapping keys are not allowed here"
  | valueNotAllowed => "mapping values are not allowed here"
  | badDirective => "while scanning a directive"
  | badName noun => s!"while scanning an {noun}"
  | badTag => "while scanning a tag"
  | openTag => "while parsing a tag"
  | badBlockText => "while scanning a block scalar"
  | badEscape => "while scanning a double-quoted scalar"
  | openQuote => "while scanning a quoted scalar"
  | pointOutOfRange => "code point out of range"
  | pointOverflow => "code point too large"
  | documentExpected found => s!"expected '<document start>', but found {quoted found}"
  | versionTwice => "found duplicate YAML directive"
  | wrongVersion => "found incompatible YAML document (version 1.* is required)"
  | handleTwice handle => s!"duplicate tag handle {quoted handle}"
  | unknownHandle => "while parsing a node"
  | nodeExpected block => if block then "while parsing a block node" else "while parsing a flow node"
  | openBlockSequence => "while parsing a block collection"
  | openBlockMapping => "while parsing a block mapping"
  | openFlowSequence => "while parsing a flow sequence"
  | openFlowMapping => "while parsing a flow mapping"
  | secondDocument => "expected a single document in the stream"
  | unknownAlias name => s!"found undefined alias {quoted name}"
  | anchorTwice name => s!"found duplicate anchor {quoted name}; first occurrence"
  | unknownTag uri => s!"could not determine a constructor for the tag {quoted uri}"
  | wrongNode expected found => s!"expected a {expected} node, but found {found}"
  | badMapping => "while constructing a mapping"
  | badOrderedMap => "while constructing an ordered map"
  | badPairs => "while constructing pairs"
  | badBinary reason => reason
  | badScalar _ detail => detail

def failure (p : Problem) : Failure := .fault p.family p.message

end Problem
end Yaml
end StreamingLM
