import StreamingLM.Config.Rotary
import StreamingLM.Config.Layer
import StreamingLM.Config.Cache
import StreamingLM.Config.Tokenizer

/-!
Settings of whole models: the shapes of the decoder stack, what a runnable model needs around it,
and the published architectures.
-/
namespace StreamingLM

structure TransformerConfig where
  vocabSize : Int
  layers : Int
  width : Int
  hidden : Int
  heads : Int
  keyHeads : Int
  window : Int := 128
  normEps : Float := 1e-5

namespace TransformerConfig

def reader : Reader TransformerConfig := .model fun entries =>
  mk <$> Reader.required .positiveInt "vocab_size" entries
    <*> Reader.required .positiveInt "n_layers" entries
    <*> Reader.required .positiveInt "d_model" entries
    <*> Reader.required .positiveInt "hidden_size" entries
    <*> Reader.required .positiveInt "n_heads" entries
    <*> Reader.required .positiveInt "n_kv_heads" entries
    <*> Reader.withDefault .positiveInt 128 "max_seq_len" entries
    <*> Reader.withDefault .positiveReal 1e-5 "norm_eps" entries

def dump (c : TransformerConfig) : Value := .dict
  [(.text "vocab_size", .int c.vocabSize), (.text "n_layers", .int c.layers),
    (.text "d_model", .int c.width), (.text "hidden_size", .int c.hidden),
    (.text "n_heads", .int c.heads), (.text "n_kv_heads", .int c.keyHeads),
    (.text "max_seq_len", .int c.window), (.text "norm_eps", .real c.normEps)]

def headDim (c : TransformerConfig) : Int := Int.fdiv c.width c.heads

def attention (c : TransformerConfig) : Except Failure AttentionConfig :=
  let block : AttentionConfig := ⟨c.width, c.heads, some c.keyHeads⟩
  (Validated.keeping (.valid block) AttentionConfig.shapeRule).toExcept "AttentionLayerConfig"

def norm (c : TransformerConfig) : NormConfig := ⟨c.width, c.normEps⟩

def feedForward (c : TransformerConfig) : GatedConfig := ⟨c.width, c.hidden, false⟩

end TransformerConfig

/-- A complete model. The rotary table has five rows per position of the window and is anchored
anew when decoding runs past it, so that `window` bounds what attention sees and not the length of
a text. -/
structure LlamaConfig where
  width : Int := 4096
  hidden : Int
  layers : Int := 32
  heads : Int := 32
  sharedHeads : Option Int := none
  vocabSize : Int
  normEps : Float := 1e-5
  rotary : RotaryConfig := {}
  window : Int := 128
  batch : Int := 1
  contextLimit : Option Int := none
  cache : CacheConfig := {}
  tokenizer : TokenizerConfig := .byte

namespace LlamaConfig

/-- The window stays within the longest context that the architecture supports. -/
def windowRule (c : LlamaConfig) : Option Violation :=
  match c.contextLimit with
  | some limit => if limit < c.window then some (.windowTooLong limit c.window) else none
  | none => none

def reader : Reader LlamaConfig := .model fun entries =>
  (mk <$> Reader.withDefault .positiveInt 4096 "d_model" entries
    <*> Reader.required .positiveInt "hidden_size" entries
    <*> Reader.withDefault .positiveInt 32 "n_layers" entries
    <*> Reader.withDefault .positiveInt 32 "n_heads" entries
    <*> Reader.withDefault (.optional .positiveInt) none "n_kv_heads" entries
    <*> Reader.required .positiveInt "vocab_size" entries
    <*> Reader.withDefault .positiveReal 1e-5 "norm_eps" entries
    <*> Reader.withDefault RotaryConfig.reader {} "rope" entries
    <*> Reader.withDefault .positiveInt 128 "max_seq_len" entries
    <*> Reader.withDefault .positiveInt 1 "max_batch_size" entries
    <*> Reader.withDefault (.optional .positiveInt) none "max_context_len" entries
    <*> Reader.withDefault CacheConfig.reader {} "cache" entries
    <*> Reader.withDefault TokenizerConfig.reader .byte "tokenizer" entries).keeping windowRule

def dump (c : LlamaConfig) : Value := .dict
  [(.text "d_model", .int c.width), (.text "hidden_size", .int c.hidden),
    (.text "n_layers", .int c.layers), (.text "n_heads", .int c.heads),
    (.text "n_kv_heads", Value.ofInt? c.sharedHeads), (.text "vocab_size", .int c.vocabSize),
    (.text "norm_eps", .real c.normEps), (.text "rope", c.rotary.dump),
    (.text "max_seq_len", .int c.window), (.text "max_batch_size", .int c.batch),
    (.text "max_context_len", Value.ofInt? c.contextLimit), (.text "cache", c.cache.dump),
    (.text "tokenizer", c.tokenizer.dump)]

def rotaryRows (c : LlamaConfig) : Int := c.window * 5

def transformer (c : LlamaConfig) : TransformerConfig where
  vocabSize := c.vocabSize
  layers := c.layers
  width := c.width
  hidden := c.hidden
  heads := c.heads
  keyHeads := c.sharedHeads.getD c.heads
  window := c.window
  normEps := c.normEps

end LlamaConfig

/-- The published architectures, and a tiny one for tests that reads bytes. -/
inductive Preset where
  | llama3_2_1b_test
  | llama3_2_1b
  | llama3_2_3b
  | llama3_1_8b
  | llama3_8b
  | tinyLlama
  deriving DecidableEq, Repr

namespace Preset

def all : List Preset :=
  [llama3_2_1b_test, llama3_2_1b, llama3_2_3b, llama3_1_8b, llama3_8b, tinyLlama]

def name : Preset → String
  | llama3_2_1b_test => "llama3_2_1b_test"
  | llama3_2_1b => "llama3_2_1b"
  | llama3_2_3b => "llama3_2_3b"
  | llama3_1_8b => "llama3_1_8b"
  | llama3_8b => "llama3_8b"
  | tinyLlama => "tiny_llama"

def ofName? (s : String) : Option Preset := all.find? (·.name = s)

def needsTokenizer : Preset → Bool
  | llama3_2_1b_test => false
  | _ => true

def stretched (factor : Float) : Value :=
  (RotaryConfig.mk 500000.0 (some { scaleFactor := factor })).dump

def plain (theta : Float) : Value := (RotaryConfig.mk theta none).dump

def ranked (path : String) : Value := (TokenizerConfig.ranks ⟨none, some path⟩).dump

def document (p : Preset) (path : String) : List (Value × Value) :=
  let ints (settings : List (String × Int)) : List (Value × Value) :=
    settings.map fun (name, n) => (.text name, .int n)
  match p with
  | llama3_2_1b_test =>
    ints [("hidden_size", 128), ("vocab_size", 255), ("d_model", 64), ("n_layers", 2),
      ("n_heads", 4), ("n_kv_heads", 2)]
      ++ [(.text "rope", stretched 32.0), (.text "tokenizer", TokenizerConfig.byteDump)]
  | llama3_2_1b =>
    ints [("hidden_size", 8192), ("vocab_size", 128256), ("d_model", 2048), ("n_layers", 16),
      ("n_kv_heads", 8), ("max_context_len", 131072)]
      ++ [(.text "rope", stretched 32.0), (.text "tokenizer", ranked path)]
  | llama3_2_3b =>
    ints [("hidden_size", 8192), ("vocab_size", 128256), ("d_model", 3072), ("n_layers", 28),
      ("n_heads", 24), ("n_kv_heads", 8), ("max_context_len", 131072)]
      ++ [(.text "rope", stretched 32.0), (.text "tokenizer", ranked path)]
  | llama3_1_8b =>
    ints [("hidden_size", 14336), ("vocab_size", 128256), ("n_kv_heads", 8),
      ("max_context_len", 131072)]
      ++ [(.text "rope", stretched 8.0), (.text "tokenizer", ranked path)]
  | llama3_8b =>
    ints [("hidden_size", 14336), ("vocab_size", 128256), ("n_kv_heads", 8),
      ("max_context_len", 8192)]
      ++ [(.text "rope", plain 500000.0), (.text "tokenizer", ranked path)]
  | tinyLlama =>
    ints [("hidden_size", 5632), ("vocab_size", 32000), ("d_model", 2048), ("n_layers", 22),
      ("n_kv_heads", 4), ("max_context_len", 2048)]
      ++ [(.text "rope", plain 10000.0),
        (.text "tokenizer", (TokenizerConfig.pieces { path := path }).dump)]

def isNull : Value → Bool
  | .null => true
  | _ => false

/-- The model of a preset with some settings replaced; settings of null are left alone. -/
def config (p : Preset) (path : String) (overrides : List (Value × Value)) :
    Except Failure LlamaConfig :=
  let kept := overrides.filter fun entry => !isNull entry.2
  (LlamaConfig.reader (Value.dictOf (p.document path ++ kept))).toExcept "LlamaConfig"

end Preset
end StreamingLM
