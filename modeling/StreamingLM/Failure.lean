import StreamingLM.Text.Utf8
import StreamingLM.Value

/-!
Everything that can go wrong, as data: the rules that settings must keep, the complaints of
validation, and the failures of the engine and its servers. The wording is kept in one function for
each of the three.
-/
namespace StreamingLM

inductive Bound where
  | atLeast
  | above
  | atMost
  | below
  deriving DecidableEq, Repr

def Bound.broken : Bound → String
  | atLeast => "<"
  | above => "<="
  | atMost => ">"
  | below => ">="

def Bound.expected : Bound → String
  | atLeast => ">="
  | above => ">"
  | atMost => "<="
  | below => "<"

/-- A rule on settings that is broken, with the values that break it. -/
inductive Violation where
  | notTrue (value : Value)
  | notEqual (left right : Value)
  | notMultiple (left right : Value)
  | notPositive (value : Value)
  | negative (value : Value)
  | outOfRange (value : Value) (bound : Bound) (limit : Value)
  | factorOrder (high low : Float)
  | tokenizerSource
  | oddHeadDim (dim : Int)
  | windowTooLong (limit length : Int)
  | unknownPreset (name : String) (known : List String)
  | tokenizerPathNeeded (preset : String)

def Violation.message : Violation → String
  | notTrue v => s!"Validation failed: SHOULD_BE_TRUE: value={v.shown} is not truthy"
  | notEqual l r => s!"Validation failed: SHOULD_BE_EQUAL_TO: {l.shown} != {r.shown}"
  | notMultiple l r =>
    s!"Validation failed: SHOULD_BE_MULTIPLE_OF: {l.shown} is not a multiple of {r.shown}"
  | notPositive v => s!"Validation failed: SHOULD_BE_POSITIVE: {v.shown} <= 0"
  | negative v => s!"Validation failed: SHOULD_BE_NON_NEGATIVE: {v.shown} < 0"
  | outOfRange v b limit =>
    s!"Validation failed: {v.shown} {b.broken} {limit.shown} (expected {b.expected} {limit.shown})"
  | factorOrder high low =>
    s!"high_freq_factor ({Decimal.brief high}) must exceed low_freq_factor ({Decimal.brief low})"
  | tokenizerSource => "tiktoken tokenizer requires exactly one of encoding or path"
  | oddHeadDim dim => s!"head_dim must be even for rotary encoding, got {dim}"
  | windowTooLong limit length =>
    s!"Maximum sequence length must not exceed {limit}, got {length}"
  | unknownPreset name known =>
    s!"Unknown preset {quoted name}; expected one of {(Value.list (known.map .text)).shown}"
  | tokenizerPathNeeded preset => s!"Preset {quoted preset} requires tokenizer_path"

/-- A complaint about one place of a document. -/
inductive Complaint where
  | missing
  | notModel
  | notTagged
  | notInt
  | badInt
  | hugeInt
  | notFinite
  | fractionalInt
  | notReal
  | badReal
  | notBool
  | badBool
  | notText
  | badUnicode
  | badChoice
  | badLiteral
  | noTag
  | unknownTag
  | broken (rule : Violation)

def Complaint.code : Complaint → String
  | missing => "missing"
  | notModel => "model_type"
  | notTagged => "model_attributes_type"
  | notInt => "int_type"
  | badInt => "int_parsing"
  | hugeInt => "int_parsing_size"
  | notFinite => "finite_number"
  | fractionalInt => "int_from_float"
  | notReal => "float_type"
  | badReal => "float_parsing"
  | notBool => "bool_type"
  | badBool => "bool_parsing"
  | notText => "string_type"
  | badUnicode => "string_unicode"
  | badChoice => "enum"
  | badLiteral => "literal_error"
  | noTag => "union_tag_not_found"
  | unknownTag => "union_tag_invalid"
  | broken _ => "value_error"

/-- A complaint and the path of field names and tags to its place. -/
structure Issue where
  path : List String
  complaint : Complaint

def Issue.under (name : String) (issue : Issue) : Issue := { issue with path := name :: issue.path }

/-- The families of failures, by the names under which reports list them. -/
inductive Family where
  | value
  | validation
  | badJson
  | badUtf8
  | stepLength
  | runtime
  | capacity
  | recursion
  | inference
  | notLoaded
  | contextLength
  | unknownModel
  | load
  | index
  | type
  | key
  | field
  | zeroDivision
  | overflow
  | missingFile
  | directory
  | os
  | timeout
  | endOfFile
  | pickle
  | tensorFile
  | yamlScanner
  | yamlParser
  | yamlComposer
  | yamlConstructor
  | yamlReader
  | markup
  | unprintable
  | general
  deriving DecidableEq, Repr

def Family.name : Family → String
  | value => "ValueError"
  | validation => "ValidationError"
  | badJson => "JSONDecodeError"
  | badUtf8 => "UnicodeDecodeError"
  | stepLength => "MaxSequenceLengthExceeded"
  | runtime => "RuntimeError"
  | capacity => "CapacityExceeded"
  | recursion => "RecursionError"
  | inference => "InferenceError"
  | notLoaded => "ModelNotLoaded"
  | contextLength => "ContextLengthExceeded"
  | unknownModel => "UnknownModel"
  | load => "LoadError"
  | index => "IndexError"
  | type => "TypeError"
  | key => "KeyError"
  | field => "AttributeError"
  | zeroDivision => "ZeroDivisionError"
  | overflow => "OverflowError"
  | missingFile => "FileNotFoundError"
  | directory => "IsADirectoryError"
  | os => "OSError"
  | timeout => "TimeoutError"
  | endOfFile => "EOFError"
  | pickle => "UnpicklingError"
  | tensorFile => "SafetensorError"
  | yamlScanner => "ScannerError"
  | yamlParser => "ParserError"
  | yamlComposer => "ComposerError"
  | yamlConstructor => "ConstructorError"
  | yamlReader => "ReaderError"
  | markup => "MarkupError"
  | unprintable => "NotRenderableError"
  | general => "Exception"

def Family.isValue : Family → Bool
  | value | validation | badJson | badUtf8 | stepLength => true
  | _ => false

def Family.isInference : Family → Bool
  | inference | notLoaded | contextLength | unknownModel | load => true
  | _ => false

def Family.isRuntime : Family → Bool
  | runtime | capacity | recursion => true
  | f => f.isInference

def shapeText : List Nat → String
  | [n] => s!"({n},)"
  | shape => "(" ++ String.intercalate ", " (shape.map toString) ++ ")"

/-- A failure and what it is about. `fault` is a failure of arithmetic, of a file or of a data
format, known by its family. -/
inductive Failure where
  | violated (rule : Violation)
  | invalid (model : String) (issues : List Issue)
  | fault (family : Family) (detail : String)
  | said (family : Family) (text : String)
  | illFormed (contents : List Nat) (place : Utf8.IllFormed)
  | emptyConversation
  | capacityExceeded (length incoming capacity : Int)
  | stepTooLong (actual limit : Int)
  | contextTooLong (actual limit : Int) (chained : Bool)
  | badCapacity (capacity : Int)
  | notRankFour (shape : List Nat)
  | misfit (shape buffer : List Nat)
  | evictTooMany (count length : Int)
  | desync (operation : String) (keys values : Nat)
  | badStep (count : Int)
  | layerLength (layer held : Nat) (expected : Int)
  | maskShape (queries keys : Int)
  | headGroups (heads groups : Int)
  | notRankThree (shape : List Nat)
  | featureWidth (expected : Nat) (shape : List Nat)
  | trackerNeeded
  | rotaryNeeded
  | normWidth (expected : Nat) (shape : List Nat)
  | oddRotary (dim : Int)
  | rotaryRows (first last : Int) (capacity : Nat)
  | rotaryWidth (rotary width : Nat)
  | stepBeyondTable (count : Int) (capacity : Nat)
  | negativeIndex (position start : Int)
  | badTemperature (value : Value)
  | badMass (value : Value)
  | notFlat (shape : List Nat)
  | transcriptFull (last capacity : Nat)
  | transcriptShort (requested : Int) (written : Nat)
  | workerFailed (cause : Failure)
  | workerStopped (cause : Option Failure)
  | badSampleLength (count : Int)
  | emptyPrompt
  | layerCaches (expected got : Nat)
  | scoreTooShort
  | checkpointMissing (path : String)
  | badShardIndex (path : String)
  | nestedShardIndex (name : String)
  | duplicateTensor (name : String)
  | tensorsMissing (names : List String)
  | tensorShapes
  | tensorNames (missing unexpected : List String)
  | tokenizerMissing (path : String)
  | tokenizerUnsupported (className : String)
  | formatUnsupported (suffix : String)
  | payloadKind (className : String)
  | wrongConfig (server expected got : String)
  | registered (name : String)
  | modelUnknown (name : String) (known : List String)
  | modelNotLoaded
  | actorClosed
  | promptNeeded
  | flagsRefused (model : String) (flags : List String)

namespace Failure

def index : Failure := .fault .index "index out of range"

def shape : Failure := .fault .runtime "shape mismatch"

def family : Failure → Family
  | invalid .. => .validation
  | fault f _ | said f _ => f
  | illFormed .. => .badUtf8
  | capacityExceeded .. => .capacity
  | stepTooLong .. => .stepLength
  | contextTooLong .. => .contextLength
  | desync .. | layerLength .. | negativeIndex .. | workerFailed _ | workerStopped _
  | actorClosed => .runtime
  | checkpointMissing _ | badShardIndex _ | nestedShardIndex _ | duplicateTensor _
  | tensorsMissing _ | tensorShapes | tensorNames .. | tokenizerMissing _ => .load
  | modelUnknown .. => .unknownModel
  | modelNotLoaded => .notLoaded
  | _ => .value

def cause? : Failure → Option Failure
  | contextTooLong actual limit true => some (stepTooLong actual limit)
  | workerFailed cause => some cause
  | workerStopped cause => cause
  | tensorShapes => some shape
  | _ => none

def namesText (names : List String) : String := (Value.list (names.map .text)).shown

def message : Failure → String
  | violated rule => rule.message
  | invalid model issues =>
    let noun := if issues.length = 1 then "error" else "errors"
    s!"{issues.length} validation {noun} for {model}"
  | fault _ detail => detail
  | said _ text => text
  | illFormed contents place =>
    let start := place.start
    let stop := start + place.width
    let what := if place.width = 1 then
        let byte := String.ofList (Quoted.hexText 2 ((contents[start]?).getD 0))
        s!"byte 0x{byte} in position {start}"
      else s!"bytes in position {start}-{stop - 1}"
    s!"'utf-8' codec can't decode {what}: {place.fault.text}"
  | emptyConversation => "Cannot render an empty conversation"
  | capacityExceeded length incoming capacity =>
    s!"Cache overflow: len {length} + {incoming} > capacity {capacity}"
  | stepTooLong actual limit => s!"Step of {actual} tokens exceeds max sequence length {limit}"
  | contextTooLong actual limit _ => s!"Context length exceeded: {actual} > {limit}"
  | badCapacity capacity => s!"capacity must be positive, got {capacity}"
  | notRankFour shape => s!"Expected (B,H,T,D), got {shapeText shape}"
  | misfit shape buffer => s!"Shape {shapeText shape} does not fit buffer {shapeText buffer}"
  | evictTooMany count length => s!"Cannot evict {count} entries from buffer of length {length}"
  | desync operation keys values => s!"K/V cache desync after {operation}: {keys} != {values}"
  | badStep count => s!"step_len must be positive, got {count}"
  | layerLength layer held expected =>
    s!"Layer {layer} cache holds {held} positions, expected {expected}"
  | maskShape queries keys => s!"t_q ({queries}) cannot exceed t_k ({keys})"
  | headGroups heads groups => s!"n_heads ({heads}) must be divisible by n_kv_heads ({groups})"
  | notRankThree shape => s!"Expected (B,T,D), got {shapeText shape}"
  | featureWidth expected shape => s!"Expected last dim {expected}, got {shapeText shape}"
  | trackerNeeded => "Cached attention requires a position tracker"
  | rotaryNeeded => "Uncached attention requires a rotary embedding"
  | normWidth expected shape => s!"Expected x last dim {expected}, got {shapeText shape}"
  | oddRotary dim => s!"rot_dim must be even, got {dim}"
  | rotaryRows first last capacity => s!"Rotary rows [{first}, {last}) outside table of {capacity}"
  | rotaryWidth rotary width => s!"rot_dim {rotary} > head_dim {width}"
  | stepBeyondTable count capacity =>
    s!"Step of {count} tokens exceeds rotary table of {capacity}"
  | negativeIndex position start =>
    s!"Negative rotary index: position {position}, start offset {start}"
  | badTemperature value => s!"temperature must be positive, got {value.shown}"
  | badMass value => s!"top_p must be in (0, 1], got {value.shown}"
  | notFlat shape => s!"tokens must be rank-1, got shape {shapeText shape}"
  | transcriptFull last capacity => s!"buffer overflow: end={last} > max_len={capacity}"
  | transcriptShort requested written => s!"requested {requested} tokens, only {written} written"
  | workerFailed _ => "decode worker failed"
  | workerStopped _ => "decode worker is not running"
  | badSampleLength count => s!"sample_len must be positive, got {count}"
  | emptyPrompt => "prompt encodes to zero tokens"
  | layerCaches expected got => s!"Expected {expected} layer caches, got {got}"
  | scoreTooShort => "scoring needs at least two tokens"
  | checkpointMissing path => s!"Checkpoint not found: {path}"
  | badShardIndex path => s!"Invalid index file {path}: missing weight_map"
  | nestedShardIndex name => s!"Shard {name} is an index file, expected tensor file"
  | duplicateTensor name => s!"Duplicate key in shards: {name}"
  | tensorsMissing names => s!"Checkpoint lacks expected tensors: {namesText names}"
  | tensorShapes => "load failed"
  | tensorNames missing unexpected =>
    s!"load failed: missing={namesText missing}, unexpected={namesText unexpected}"
  | tokenizerMissing path => s!"Tokenizer file not found: {path}"
  | tokenizerUnsupported className => s!"Unsupported tokenizer config: <class '{className}'>"
  | formatUnsupported suffix => s!"Unsupported format '{suffix}'"
  | payloadKind className => s!"Config payload must be a dict, got <class '{className}'>"
  | wrongConfig server expected got => s!"{server} expects {expected}, got {got}"
  | registered name => s!"Server {quoted name} is already registered"
  | modelUnknown name known =>
    let list := String.intercalate ", " known
    let available := if list.isEmpty then "none" else list
    s!"Unknown model {quoted name}; available: {available}"
  | modelNotLoaded => "Model is not loaded"
  | actorClosed => "actor is closed"
  | promptNeeded => "run requires a model and --prompt."
  | flagsRefused model flags =>
    let list := String.intercalate ", " flags
    s!"Model {quoted model} does not accept {list}"

/-- Whether the wording is this library's own; faults of data formats and of arithmetic are known
by their family alone. -/
def hasOwnMessage : Failure → Bool
  | invalid .. | fault .. | illFormed .. | tensorShapes => false
  | _ => true

def inspected (f : Failure) : String :=
  let about := match f with
    | illFormed contents place =>
      let bytes := (Value.bytes contents).shown
      s!"'utf-8', {bytes}, {place.start}, {place.start + place.width}, {quoted place.fault.text}"
    | f => quoted f.message
  s!"{f.family.name}({about})"

end Failure

/-- A result together with the state that is left, also after a failure. -/
abbrev Attempt (σ α : Type) := Except Failure α × σ

end StreamingLM
