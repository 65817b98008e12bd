import StreamingLM.Schema

/-!
Settings of the building blocks of a decoder layer, and the choice between them by tag.
-/
namespace StreamingLM

structure NormConfig where
  width : Int
  eps : Float := 1e-5

structure GatedConfig where
  width : Int
  hidden : Int
  bias : Bool := false

/-- Attention in which groups of query heads share a key/value head. -/
structure AttentionConfig where
  width : Int
  heads : Int
  sharedHeads : Option Int := none

namespace NormConfig

def tag : String := "RMSNormLayer"

def reader : Reader NormConfig := .model fun entries =>
  (fun _ => mk) <$> Reader.withDefault (.literal tag) () "type" entries
    <*> Reader.required .positiveInt "d_model" entries
    <*> Reader.withDefault .positiveReal 1e-5 "eps" entries

def dump (c : NormConfig) : Value := .dict
  [(.text "type", .text tag), (.text "d_model", .int c.width), (.text "eps", .real c.eps)]

end NormConfig

namespace GatedConfig

def tag : String := "SwiGLULayer"

def reader : Reader GatedConfig := .model fun entries =>
  (fun _ => mk) <$> Reader.withDefault (.literal tag) () "type" entries
    <*> Reader.required .positiveInt "d_model" entries
    <*> Reader.required .positiveInt "d_ff" entries
    <*> Reader.withDefault .bool false "bias" entries

def dump (c : GatedConfig) : Value := .dict
  [(.text "type", .text tag), (.text "d_model", .int c.width), (.text "d_ff", .int c.hidden),
    (.text "bias", .bool c.bias)]

end GatedConfig

def Value.ofInt? : Option Int → Value
  | some n => .int n
  | none => .null

def Value.ofText? : Option String → Value
  | some s => .text s
  | none => .null

def multipleOf (left right : Int) : Option Violation :=
  if right = 0 ∨ Int.fmod left right ≠ 0 then some (.notMultiple (.int left) (.int right)) else none

namespace AttentionConfig

def tag : String := "GroupedQueryAttention"

def keyHeads (c : AttentionConfig) : Int := c.sharedHeads.getD c.heads

def headDim (c : AttentionConfig) : Int := Int.fdiv c.width c.heads

def groupSize (c : AttentionConfig) : Int := Int.fdiv c.heads c.keyHeads

/-- Heads divide the width evenly, key/value heads divide the heads, and a head has an even width
so that the rotary encoding can pair its dimensions. -/
def shapeRule (c : AttentionConfig) : Option Violation :=
  multipleOf c.width c.heads
    <|> multipleOf c.heads c.keyHeads
    <|> if Int.fmod c.headDim 2 ≠ 0 then some (.oddHeadDim c.headDim) else none

def fields (entries : List (Value × Value)) : Validated AttentionConfig :=
  (fun _ => mk) <$> Reader.withDefault (.literal tag) () "type" entries
    <*> Reader.required .positiveInt "d_model" entries
    <*> Reader.required .positiveInt "n_heads" entries
    <*> Reader.withDefault (.optional .positiveInt) none "n_kv_heads" entries

def reader : Reader AttentionConfig := .model fun entries => (fields entries).keeping shapeRule

def dump (c : AttentionConfig) : Value := .dict
  [(.text "type", .text tag), (.text "d_model", .int c.width), (.text "n_heads", .int c.heads),
    (.text "n_kv_heads", Value.ofInt? c.sharedHeads)]

end AttentionConfig

inductive LayerConfig where
  | norm (c : NormConfig)
  | gated (c : GatedConfig)
  | attention (c : AttentionConfig)

namespace LayerConfig

def reader : Reader LayerConfig := .tagged
  [(NormConfig.tag, fun v => (NormConfig.reader v).map norm),
    (GatedConfig.tag, fun v => (GatedConfig.reader v).map gated),
    (AttentionConfig.tag, fun v => (AttentionConfig.reader v).map attention)]

def dump : LayerConfig → Value
  | norm c => c.dump
  | gated c => c.dump
  | attention c => c.dump

def tag : LayerConfig → String
  | norm _ => NormConfig.tag
  | gated _ => GatedConfig.tag
  | attention _ => AttentionConfig.tag

/-- The shape of a parameter; a negative size cannot be allocated. -/
def shape (dims : List Int) : Except Failure (List Nat) :=
  if dims.any (· < 0) then .error (.fault .runtime "negative dimension") else .ok (dims.map (·.toNat))

def named (params : List (String × List Int)) : Except Failure (List (String × List Nat)) :=
  params.mapM fun (name, dims) => (shape dims).map ((name, ·))

def parameters : LayerConfig → Except Failure (List (String × List Nat))
  | norm c => named [("weight", [c.width])]
  | gated c =>
    let bias (name : String) (n : Int) := if c.bias then [(name, [n])] else []
    named ([("w_gate.weight", [c.hidden, c.width])] ++ bias "w_gate.bias" c.hidden
      ++ [("w_up.weight", [c.hidden, c.width])] ++ bias "w_up.bias" c.hidden
      ++ [("w_down.weight", [c.width, c.hidden])] ++ bias "w_down.bias" c.width)
  | attention c =>
    if c.keyHeads = 0 ∨ c.heads = 0 then .error (.fault .zeroDivision "division by zero")
    else if Int.fmod c.heads c.keyHeads ≠ 0 then .error (.headGroups c.heads c.keyHeads)
    else
      let q := c.heads * c.headDim
      let k := c.keyHeads * c.headDim
      named [("wq.weight", [q, c.width]), ("wk.weight", [k, c.width]), ("wv.weight", [k, c.width]),
        ("wo.weight", [c.width, q])]

end LayerConfig
end StreamingLM
