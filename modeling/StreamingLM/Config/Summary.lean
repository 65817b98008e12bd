import StreamingLM.Config.Server
import StreamingLM.Report

/-!
Summaries of settings: the name of their kind, all fields, what follows from them, and the building
block that they describe.
-/
namespace StreamingLM

structure Summary where
  kind : String
  fields : Value
  derived : List (String × Value) := []
  block : Option LayerConfig := none

namespace Summary

def shapes (params : List (String × List Nat)) : Value :=
  .record (params.map fun (name, shape) => (name, .list (shape.map fun (n : Nat) => .int n)))

/-- The parameters of a block, or why it cannot be built; only tagged settings describe one. -/
def buildReport : Option LayerConfig → Value
  | some c => outcomeReport (fun params =>
      .record [("class", .text c.tag), ("params", shapes params)]) c.parameters
  | none => .record (Failure.fault .field "type").report

def report (s : Summary) (withBuild : Bool) : Value :=
  .record ([("class", .text s.kind), ("dump", s.fields)] ++ s.derived
    ++ if withBuild then [("built", buildReport s.block)] else [])

def ofNorm (c : NormConfig) : Summary :=
  { kind := "RMSNormLayerConfig", fields := c.dump, block := some (.norm c) }

def ofGated (c : GatedConfig) : Summary :=
  { kind := "SwiGLULayerConfig", fields := c.dump, block := some (.gated c) }

def ofAttention (c : AttentionConfig) : Summary :=
  { kind := "AttentionLayerConfig", fields := c.dump, block := some (.attention c)
    derived := [("head_dim", .int c.headDim), ("kv_heads", .int c.keyHeads),
      ("group_size", .int c.groupSize)] }

def ofLayer : LayerConfig → Summary
  | .norm c => ofNorm c
  | .gated c => ofGated c
  | .attention c => ofAttention c

def ofTokenizer : TokenizerConfig → Summary
  | .byte => { kind := "ByteTokenizerConfig", fields := TokenizerConfig.byteDump }
  | .ranks c => { kind := "TiktokenTokenizerConfig", fields := c.dump }
  | .pieces c => { kind := "HuggingFaceTokenizerConfig", fields := c.dump }

def ofTransformer (c : TransformerConfig) : Summary :=
  { kind := "TransformerConfig", fields := c.dump
    derived := [("head_dim", .int c.headDim),
      ("attention", outcomeReport AttentionConfig.dump c.attention),
      ("norm", c.norm.dump), ("ffn", c.feedForward.dump)] }

def ofModel (c : LlamaConfig) : Summary :=
  { kind := "LlamaConfig", fields := c.dump
    derived := [("rope_capacity", .int c.rotaryRows), ("transformer", c.transformer.dump)] }

def ofServer : ServerConfig → Summary
  | .parrot => { kind := "ParrotServerConfig", fields := .dict [] }
  | .llama c =>
    { kind := "LlamaServerConfig", fields := c.dump
      derived := [("template", outcomeReport (fun t => .text t.name) c.chatTemplate),
        ("llama", outcomeReport LlamaConfig.dump c.model)] }

def ofMessage (m : Message) : Summary :=
  { kind := "Message"
    fields := .record [("role", .text m.role.name), ("content", .text m.content),
      ("refusal", Value.ofText? m.refusal)] }

/-- Read a document of a known kind. Unchecked attention settings keep their fields even when their
shapes do not fit together. -/
def read (kind : String) (checked : Bool) (document : Value) : Except Failure Summary :=
  let reading {α : Type} (reader : Reader α) (summary : α → Summary) : Except Failure Summary :=
    ((reader document).toExcept kind).map summary
  match kind with
  | "Message" => reading Message.reader ofMessage
  | "RMSNormLayerConfig" => reading NormConfig.reader ofNorm
  | "SwiGLULayerConfig" => reading GatedConfig.reader ofGated
  | "AttentionLayerConfig" =>
    reading (if checked then AttentionConfig.reader else .model AttentionConfig.fields) ofAttention
  | "LayerConfig" => reading LayerConfig.reader ofLayer
  | "KVCacheConfig" => reading CacheConfig.reader fun c => { kind, fields := c.dump }
  | "RopeFrequencyScaling" => reading FrequencyScaling.reader fun c => { kind, fields := c.dump }
  | "RopeConfig" => reading RotaryConfig.reader fun c => { kind, fields := c.dump }
  | "TokenizerConfig" => reading TokenizerConfig.reader ofTokenizer
  | "ByteTokenizerConfig" => reading TokenizerConfig.byteReader fun _ => ofTokenizer .byte
  | "TiktokenTokenizerConfig" => reading RankConfig.reader fun c => ofTokenizer (.ranks c)
  | "HuggingFaceTokenizerConfig" => reading PieceConfig.reader fun c => ofTokenizer (.pieces c)
  | "TransformerConfig" => reading TransformerConfig.reader ofTransformer
  | "LlamaConfig" => reading LlamaConfig.reader ofModel
  | "ParrotServerConfig" => reading (ServerKind.reader .parrot) ofServer
  | "LlamaServerConfig" => reading (ServerKind.reader .llama) ofServer
  | "ServerConfig" => reading (.model fun _ => .valid ()) fun _ => { kind, fields := .dict [] }
  | _ => .error (.fault .key kind)

end Summary
end StreamingLM
