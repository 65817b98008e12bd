import StreamingLM.Chat
import StreamingLM.Config.Model

/-!
Settings of the inference servers.
-/
namespace StreamingLM

/-- Generation settings of a server. Temperature zero selects greedy decoding, anything above it
nucleus sampling, and seed zero a fresh seed. -/
structure LlamaServerConfig where
  preset : String := "llama3_2_1b_test"
  tokenizerPath : Option String := none
  weights : Option String := none
  device : String := "cpu"
  topP : Float := 0.9
  temperature : Float := 0.0
  window : Int := 1024
  sampleLength : Int := 128
  seed : Int := 0
  strategy : CacheStrategy := .shift
  template : Option ChatTemplate := none

namespace LlamaServerConfig

def sortedPresets : List String := (Preset.all.map Preset.name).mergeSort (fun a b => a ≤ b)

/-- The preset is known, and all but the tiny one come with a tokenizer file. -/
def presetRule (c : LlamaServerConfig) : Option Violation :=
  match Preset.ofName? c.preset with
  | none => some (.unknownPreset c.preset sortedPresets)
  | some p =>
    if p.needsTokenizer && c.tokenizerPath.isNone then some (.tokenizerPathNeeded c.preset) else none

def reader : Reader LlamaServerConfig := .model fun entries =>
  (mk <$> Reader.withDefault .text "llama3_2_1b_test" "preset" entries
    <*> Reader.withDefault (.optional .text) none "tokenizer_path" entries
    <*> Reader.withDefault (.optional .text) none "weights" entries
    <*> Reader.withDefault .text "cpu" "device" entries
    <*> Reader.withDefault .mass 0.9 "top_p" entries
    <*> Reader.withDefault .nonnegativeReal 0.0 "temperature" entries
    <*> Reader.withDefault .positiveInt 1024 "max_seq_len" entries
    <*> Reader.withDefault .positiveInt 128 "sample_len" entries
    <*> Reader.withDefault .naturalInt 0 "seed" entries
    <*> Reader.withDefault (.choice CacheStrategy.ofName?) .shift "cache_strategy" entries
    <*> Reader.withDefault (.optional (.choice ChatTemplate.ofName?)) none "chat_template"
      entries).keeping presetRule

def dump (c : LlamaServerConfig) : Value := .dict
  [(.text "preset", .text c.preset), (.text "tokenizer_path", Value.ofText? c.tokenizerPath),
    (.text "weights", Value.ofText? c.weights), (.text "device", .text c.device),
    (.text "top_p", .real c.topP), (.text "temperature", .real c.temperature),
    (.text "max_seq_len", .int c.window), (.text "sample_len", .int c.sampleLength),
    (.text "seed", .int c.seed), (.text "cache_strategy", .text c.strategy.name),
    (.text "chat_template", Value.ofText? (c.template.map ChatTemplate.name))]

def fields : List String :=
  ["preset", "tokenizer_path", "weights", "device", "top_p", "temperature", "max_seq_len",
    "sample_len", "seed", "cache_strategy", "chat_template"]

end LlamaServerConfig

def Preset.template : Preset → ChatTemplate
  | llama3_2_1b_test => .plain
  | tinyLlama => .tinyLlama
  | _ => .llama3

namespace LlamaServerConfig

/-- The chosen template, or the one of the preset. -/
def chatTemplate (c : LlamaServerConfig) : Except Failure ChatTemplate :=
  match c.template with
  | some t => .ok t
  | none =>
    match Preset.ofName? c.preset with
    | some p => .ok p.template
    | none => .error (.fault .key c.preset)

def model (c : LlamaServerConfig) : Except Failure LlamaConfig :=
  match Preset.ofName? c.preset with
  | some p =>
    p.config (c.tokenizerPath.getD "")
      [(.text "max_seq_len", .int c.window), (.text "cache", (CacheConfig.mk c.strategy).dump)]
  | none => .error (.fault .key c.preset)

end LlamaServerConfig

inductive ServerConfig where
  | parrot
  | llama (c : LlamaServerConfig)

/-- The kinds of servers: the two that come with the library, and `echo` for those that others
register, which take the settings of the first. -/
inductive ServerKind where
  | parrot
  | llama
  | echo
  deriving DecidableEq, Repr

namespace ServerKind

def configName : ServerKind → String
  | parrot | echo => "ParrotServerConfig"
  | llama => "LlamaServerConfig"

def serverName : ServerKind → String
  | parrot => "ParrotServer"
  | llama => "LlamaServer"
  | echo => "EchoServer"

def name : ServerKind → String
  | parrot => "parrot"
  | llama => "llama"
  | echo => "echo"

def ofName? (s : String) : Option ServerKind := [parrot, llama, echo].find? (·.name = s)

@[simp] theorem ofName?_name (k : ServerKind) : ofName? k.name = some k := by
  cases k <;> decide

def reader : ServerKind → Reader ServerConfig
  | parrot | echo => .model fun _ => .valid .parrot
  | llama => fun v => (LlamaServerConfig.reader v).map .llama

def config (kind : ServerKind) (payload : Value) : Except Failure ServerConfig :=
  (kind.reader payload).toExcept kind.configName

def defaultConfig : ServerKind → ServerConfig
  | parrot | echo => .parrot
  | llama => .llama {}

def fields : ServerKind → List String
  | parrot | echo => []
  | llama => LlamaServerConfig.fields

end ServerKind

namespace ServerConfig

def kind : ServerConfig → ServerKind
  | parrot => .parrot
  | llama _ => .llama

def dump : ServerConfig → Value
  | parrot => .dict []
  | llama c => c.dump

end ServerConfig
end StreamingLM
