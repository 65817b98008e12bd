import StreamingLM.Layer.Feature

/-!
Two ways to name the tensors of a decoder stack: the names of this library, and the published names,
in which checkpoints usually come. The last matrix may be missing there, when it equals the embedding.
-/
namespace StreamingLM
namespace Checkpoint

def embeddingName : String := "model.embed_tokens.weight"

def headName : String := "lm_head.weight"

def blockNames : List (String × String) :=
  [("self_attn.q_proj.weight", "attention.wq.weight"),
    ("self_attn.k_proj.weight", "attention.wk.weight"),
    ("self_attn.v_proj.weight", "attention.wv.weight"),
    ("self_attn.o_proj.weight", "attention.wo.weight"),
    ("mlp.gate_proj.weight", "feed_forward.w_gate.weight"),
    ("mlp.up_proj.weight", "feed_forward.w_up.weight"),
    ("mlp.down_proj.weight", "feed_forward.w_down.weight"),
    ("input_layernorm.weight", "attention_norm.weight"),
    ("post_attention_layernorm.weight", "ffn_norm.weight")]

def namesOfBlock (i : Nat) : List (String × String) :=
  blockNames.map fun (published, own) => (s!"model.layers.{i}." ++ published, s!"layers.{i}." ++ own)

def publishedNames (layers : Nat) : List (String × String) :=
  [(embeddingName, "tok_embeddings.weight"), ("model.norm.weight", "norm.weight")]
    ++ (List.range layers).flatMap namesOfBlock ++ [(headName, "output.weight")]

variable {α : Type}

def has (state : Parameters α) (name : String) : Bool := (state.lookup name).isSome

def isTied (state : Parameters α) : Bool := !has state headName && has state embeddingName

/-- Add the last matrix if the embedding stands in for it. -/
def tie (state : Parameters α) : Parameters α :=
  if isTied state then state ++ [(headName, state.tensor embeddingName)] else state

def set (name : String) (t : Tensor α) : Parameters α → Parameters α
  | [] => [(name, t)]
  | (n, u) :: rest => if n = name then (n, t) :: rest else (n, u) :: set name t rest

/-- Tensors under other names; every name of the mapping has to be there. -/
def rename (state : Parameters α) (names : List (String × String)) :
    Except Failure (Parameters α) :=
  let missing := (names.map (·.1)).filter fun name => !has state name
  if missing.isEmpty then
    .ok (names.foldl (fun done (source, target) => set target (state.tensor source) done) [])
  else .error (.tensorsMissing (missing.take 5))

end Checkpoint
end StreamingLM
