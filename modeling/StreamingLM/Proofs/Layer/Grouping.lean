import Mathlib.Data.Option.Basic
import StreamingLM.Proofs.Config.Accepted
import StreamingLM.Proofs.Layer.CachedStep
import StreamingLM.Proofs.Layer.Heads

/-!
Query heads in groups. The grouping of heads is only a way to count them: queries are read under a
shape with one axis for the key/value heads and one for the members of their groups, and keys and
values are stretched along the latter.
-/
namespace StreamingLM

open Tensor

namespace AttentionConfig

theorem sizes_pos {v : Value} {c : AttentionConfig} (ok : reader v = .valid c) :
    0 < c.width ∧ 0 < c.heads ∧ 0 < c.keyHeads := by
  cases v with
  | dict entries =>
    obtain ⟨hfields, -⟩ := Validated.keeping_eq_valid.mp ok
    simp only [fields, Validated.seq_eq_valid, Validated.map_eq_valid] at hfields
    obtain ⟨_, shared, ⟨_, heads, ⟨_, width, ⟨_, -, rfl⟩, hwidth, rfl⟩, hheads, rfl⟩, hshared, rfl⟩ :=
      hfields
    have hpos : 0 < heads := Reader.required_pos hheads
    refine ⟨Reader.required_pos hwidth, hpos, ?_⟩
    cases shared with
    | none => exact hpos
    | some n => exact Reader.optional_pos hshared
  | _ => cases ok

theorem multipleOf_eq_none {left right : Int} (h : multipleOf left right = none) :
    Int.fmod left right = 0 := by
  unfold multipleOf at h
  split at h
  · cases h
  · have hkeeps : ¬(right = 0 ∨ left.fmod right ≠ 0) := ‹_›
    omega

theorem accepted_sizes {v : Value} {c : AttentionConfig} (ok : reader v = .valid c) :
    0 < c.width ∧ 0 < c.heads ∧ 0 < c.keyHeads ∧ c.groupSize * c.keyHeads = c.heads ∧
      c.heads * c.headDim = c.width := by
  obtain ⟨hwidth, hheads, hkeys⟩ := sizes_pos ok
  have hrule : c.shapeRule = none := by
    cases v with
    | dict entries => exact (Validated.keeping_eq_valid.mp ok).2
    | _ => cases ok
  obtain ⟨hdim, hrest⟩ := (Option.orElse_eq_none _ _).mp hrule
  obtain ⟨hgroup, -⟩ := (Option.orElse_eq_none _ _).mp hrest
  refine ⟨hwidth, hheads, hkeys, ?_, ?_⟩
  · exact Int.fdiv_mul_cancel (Int.dvd_of_fmod_eq_zero (multipleOf_eq_none hgroup))
  · exact Int.mul_fdiv_cancel_of_fmod_eq_zero (multipleOf_eq_none hdim)

end AttentionConfig

namespace AttentionConfig

theorem headDim_pos {v : Value} {c : AttentionConfig} (ok : reader v = .valid c) :
    0 < c.headDim := by
  obtain ⟨hwidth, hheads, -, -, hdim⟩ := accepted_sizes ok
  by_contra hle
  have hproduct := Int.mul_le_mul_of_nonneg_left (Int.not_lt.mp hle) (Int.le_of_lt hheads)
  rw [hdim, Int.mul_zero] at hproduct
  omega

end AttentionConfig

namespace LayerConfig

theorem shape_ok {dims : List Int} (h : ∀ n ∈ dims, ¬n < 0) :
    shape dims = .ok (dims.map (·.toNat)) := by
  have hnone : dims.any (· < 0) = false := by simpa using h
  rw [shape, hnone]
  rfl

theorem named_of_nonneg {params : List (String × List Int)}
    (h : ∀ entry ∈ params, ∀ n ∈ entry.2, ¬n < 0) :
    named params = .ok (params.map fun entry => (entry.1, entry.2.map (·.toNat))) := by
  refine Outcome.mapM_eq_ok.mpr (List.forall₂_map_right_iff.mpr (List.forall₂_same.mpr ?_))
  rintro ⟨name, dims⟩ hentry
  exact congrArg (Except.map ((name, ·))) (shape_ok (h _ hentry))

/-- Queries and outputs of an accepted layer are as wide as its vectors, keys and values as wide as
the heads that they are shared by. -/
theorem attention_parameters {v : Value} {c : AttentionConfig}
    (ok : AttentionConfig.reader v = .valid c) :
    let width := c.width.toNat
    let shared := (c.keyHeads * c.headDim).toNat
    (attention c).parameters = .ok [("wq.weight", [width, width]), ("wk.weight", [shared, width]),
      ("wv.weight", [shared, width]), ("wo.weight", [width, width])] := by
  obtain ⟨hwidth, hheads, hkeys, hgroup, hdim⟩ := AttentionConfig.accepted_sizes ok
  have hfmod : Int.fmod c.heads c.keyHeads = 0 :=
    Int.fmod_eq_zero_of_dvd (hgroup ▸ Int.dvd_mul_left c.groupSize c.keyHeads)
  have hshared : 0 < c.keyHeads * c.headDim := Int.mul_pos hkeys (AttentionConfig.headDim_pos ok)
  simp only [parameters, hdim]
  rw [if_neg (by omega), if_neg (by omega), named_of_nonneg]
  · rfl
  · intro entry hentry
    simp only [List.mem_cons, List.not_mem_nil, or_false] at hentry
    rcases hentry with rfl | rfl | rfl | rfl
    all_goals
      simp only [List.mem_cons, List.not_mem_nil, or_false, forall_eq_or_imp, forall_eq]
      omega

end LayerConfig

namespace Attention

variable {α : Type}

theorem build_accepted {v : Value} {c : AttentionConfig}
    (ok : AttentionConfig.reader v = .valid c) (p : Parameters α) (scope : String) :
    ∃ a, build c p scope = .ok a ∧ (a.width : Int) = c.width ∧ (a.heads : Int) = c.heads ∧
      (a.keyHeads : Int) = c.keyHeads ∧ (a.headDim : Int) = c.headDim := by
  obtain ⟨hwidth, hheads, hkeys, -, -⟩ := AttentionConfig.accepted_sizes ok
  have hpos := AttentionConfig.headDim_pos ok
  refine ⟨_, by simp only [build, LayerConfig.attention_parameters ok]; rfl, ?_⟩
  simp only
  omega

/-- Queries, keys and values for the heads of a layer, and a mask for their scores. -/
structure Inputs (a : Attention α) (batch queries keys : Nat) (q k v : Tensor α)
    (mask : Option Mask) : Prop where
  queries_full : q.Full
  keys_full : k.Full
  values_full : v.Full
  queries_shape : q.shape = [batch, a.heads, queries, a.headDim]
  keys_shape : k.shape = [batch, a.keyHeads, keys, a.headDim]
  values_shape : v.shape = [batch, a.keyHeads, keys, a.headDim]
  mask_sizes : ∀ m ∈ mask, IsMatrix queries keys m

namespace Inputs

variable {a : Attention α} {batch queries keys : Nat} {q k v : Tensor α} {mask : Option Mask}

theorem query (inputs : Inputs a batch queries keys q k v mask) :
    ∀ i < size [batch, a.heads], IsMatrix queries a.headDim (q.matrix i) := fun _ hi =>
  matrix_isMatrix inputs.queries_full inputs.queries_shape hi

theorem key (inputs : Inputs a batch queries keys q k v mask) :
    ∀ i < size [batch, a.keyHeads], IsMatrix keys a.headDim (k.matrix i) := fun _ hi =>
  matrix_isMatrix inputs.keys_full inputs.keys_shape hi

theorem value (inputs : Inputs a batch queries keys q k v mask) :
    ∀ i < size [batch, a.keyHeads], IsMatrix keys a.headDim (v.matrix i) := fun _ hi =>
  matrix_isMatrix inputs.values_full inputs.values_shape hi

theorem shared_lt (hgroup : a.groupSize * a.keyHeads = a.heads) {i : Nat}
    (hi : i < size [batch, a.heads]) : i / a.groupSize < size [batch, a.keyHeads] := by
  rw [size_pair] at hi ⊢
  refine Nat.div_lt_of_lt_mul ?_
  rwa [Nat.mul_left_comm, hgroup]

theorem shared_eq (hgroup : a.groupSize * a.keyHeads = a.heads) (b : Nat) {h : Nat}
    (hh : h < a.heads) : (b * a.heads + h) / a.groupSize = b * a.keyHeads + h / a.groupSize := by
  have hpos : 0 < a.groupSize := Nat.pos_of_mul_pos_right (hgroup ▸ Nat.zero_lt_of_lt hh)
  rw [← hgroup, Nat.mul_left_comm, Nat.mul_add_div hpos]

end Inputs

variable [Scalar α]

def weightRows (mask : Option Mask) (scores : List (List α)) : List (List α) :=
  scores.zipIdx.map fun (row, i) => softmaxPresent (maskScores (mask.bind fun m => m[i]?) row)

/-- Scaled scores of queries and keys, their weights under a mask, and the values under the weights,
for stacks of queries, keys and values. -/
def attendStacks (scale : α) (mask : Option Mask) (q k v : Tensor α) : Except Failure (Tensor α) := do
  let scores ← q.matmul k.transposeLast
  ((scores.map (· * scale)).onMatrices (weightRows mask)).matmul v

/-- Attention with grouped queries, as one computation on tensors: the queries of a group share an
axis along which keys and values are stretched. -/
def attendGrouped (a : Attention α) (q k v : Tensor α) (mask : Option Mask) :
    Except Failure (Tensor α) :=
  match q.shape with
  | [batch, heads, queries, dim] => do
    let grouped ← q.reshape [batch, a.keyHeads, a.groupSize, queries, dim]
    let out ← attendStacks a.scale mask grouped (k.unsqueeze 2) (v.unsqueeze 2)
    out.reshape [batch, heads, queries, dim]
  | _ => .error (.notRankFour q.shape)

/-- Plain attention of one head: each query over all keys and values, under its row of a mask. -/
def attendHead (dim : Nat) (scale : α) (mask : Option Mask) (queries keys values : List (List α)) :
    List (List α) :=
  queries.zipIdx.map fun (query, i) =>
    attendOne dim scale (mask.bind fun m => m[i]?) query keys values

def repeatHeads (t : Tensor α) (copies : Nat) : Except Failure (Tensor α) :=
  match t.shape with
  | [batch, heads, count, dim] =>
    .ok (stack [batch, heads * copies] count dim fun k => t.matrix (k / copies))
  | _ => .error (.notRankFour t.shape)

section Head

variable {queries keys dim : Nat} {q k v : List (List α)} {mask : Option Mask}

theorem product_columns (hk : IsMatrix keys dim k) :
    product keys q (columns dim k) = q.map fun query => k.map (dot query) := by
  rw [product, hk.columns_columns]

theorem weightRows_isMatrix {scores : List (List α)} (h : IsMatrix queries keys scores)
    (hmask : ∀ m ∈ mask, IsMatrix queries keys m) :
    IsMatrix queries keys (weightRows mask scores) where
  length_eq := by simp [weightRows, h.length_eq]
  uniform := fun r hr => by
    obtain ⟨⟨row, i⟩, hmem, rfl⟩ := List.mem_map.mp hr
    have hrow : row.length = keys := h.uniform row (List.fst_mem_of_mem_zipIdx hmem)
    rw [length_softmaxPresent]
    cases hm : mask.bind fun m => m[i]? with
    | none => simpa [maskScores] using hrow
    | some allowed =>
      obtain ⟨m, hmask', hallowed⟩ := Option.bind_eq_some_iff.mp hm
      have hlength := (hmask m hmask').uniform allowed (List.mem_of_getElem? hallowed)
      simp [maskScores, hlength, hrow]

theorem attendHead_eq (hk : IsMatrix keys dim k) (hv : IsMatrix keys dim v) (scale : α) :
    product dim (weightRows mask ((product keys q (columns dim k)).map (List.map (· * scale)))) v =
      attendHead dim scale mask q k v := by
  rw [product_columns hk, product, weightRows, attendHead]
  simp only [List.zipIdx_map, List.map_map]
  refine List.map_congr_left fun entry _ => ?_
  simp only [Function.comp_apply, Prod.map, attendOne, hv.weightedSum_eq, List.map_map]
  rfl

theorem attendHead_isMatrix (hq : q.length = queries) (hv : IsMatrix keys dim v) (scale : α) :
    IsMatrix queries dim (attendHead dim scale mask q k v) where
  length_eq := by simp [attendHead, hq]
  uniform := fun r hr => by
    obtain ⟨⟨query, i⟩, -, rfl⟩ := List.mem_map.mp hr
    simp [attendOne, hv.weightedSum_eq, columns]

end Head

section Stacks

variable {queries keys : Nat} {q k v : Nat → List (List α)} {mask : Option Mask}

theorem attendStacks_stretched {axes : List Nat} {group dim : Nat} (scale : α)
    (hq : ∀ i < size (axes ++ [group]), IsMatrix queries dim (q i))
    (hk : ∀ i < size axes, IsMatrix keys dim (k i)) (hv : ∀ i < size axes, IsMatrix keys dim (v i))
    (hmask : ∀ m ∈ mask, IsMatrix queries keys m) :
    attendStacks scale mask (stack (axes ++ [group]) queries dim q) (stack (axes ++ [1]) keys dim k)
        (stack (axes ++ [1]) keys dim v) =
      .ok (stack (axes ++ [group]) queries dim fun i =>
        attendHead dim scale mask (q i) (k (i / group)) (v (i / group))) := by
  have hone : size (axes ++ [1]) = size axes := by rw [size_concat, Nat.mul_one]
  have hscores := matmul_stack hq fun i hi => (hk i hi).transposed
  have hsizes : ∀ i < size (axes ++ [group]), IsMatrix queries keys
      ((product keys (q i) (columns dim (k (i / group)))).map (List.map (· * scale))) := fun i hi => by
    have hproduct : IsMatrix queries keys (product keys (q i) (columns dim (k (i / group)))) :=
      .product (hq i hi).length_eq
    exact hproduct.map (· * scale)
  have hvalues := matmul_stack (fun i hi => weightRows_isMatrix (hsizes i hi) hmask) hv
  simp only [attendStacks, transposeLast_stack (hone.symm ▸ hk), hscores, bind, Except.bind,
    map_stack, onMatrices_stack hsizes, hvalues]
  refine congrArg Except.ok (stack_congr fun i hi => ?_)
  have hplace : i / group < size axes :=
    Nat.div_lt_of_lt_mul (Nat.mul_comm _ group ▸ size_concat axes group ▸ hi)
  exact attendHead_eq (hk _ hplace) (hv _ hplace) scale

theorem attendGrouped_stack {batch : Nat} (a : Attention α)
    (hgroup : a.groupSize * a.keyHeads = a.heads)
    (hq : ∀ i < size [batch, a.heads], IsMatrix queries a.headDim (q i))
    (hk : ∀ i < size [batch, a.keyHeads], IsMatrix keys a.headDim (k i))
    (hv : ∀ i < size [batch, a.keyHeads], IsMatrix keys a.headDim (v i))
    (hmask : ∀ m ∈ mask, IsMatrix queries keys m) :
    a.attendGrouped (stack [batch, a.heads] queries a.headDim q)
        (stack [batch, a.keyHeads] keys a.headDim k) (stack [batch, a.keyHeads] keys a.headDim v)
        mask =
      .ok (stack [batch, a.heads] queries a.headDim fun i =>
        attendHead a.headDim a.scale mask (q i) (k (i / a.groupSize)) (v (i / a.groupSize))) := by
  have hsize : size ([batch, a.keyHeads] ++ [a.groupSize]) = size [batch, a.heads] := by
    rw [size_concat, size_pair, size_pair, Nat.mul_assoc, Nat.mul_comm a.keyHeads, hgroup]
  have hshape : (stack [batch, a.heads] queries a.headDim q).shape =
      [batch, a.heads, queries, a.headDim] := rfl
  have hgrouped : (stack [batch, a.heads] queries a.headDim q).reshape
      [batch, a.keyHeads, a.groupSize, queries, a.headDim] =
        .ok (stack ([batch, a.keyHeads] ++ [a.groupSize]) queries a.headDim q) :=
    reshape_stack hsize
  have hstretch (f : Nat → List (List α)) :
      (stack [batch, a.keyHeads] keys a.headDim f).unsqueeze 2 =
        stack ([batch, a.keyHeads] ++ [1]) keys a.headDim f := unsqueeze_stack
  have hout := attendStacks_stretched a.scale (hsize.symm ▸ hq) hk hv hmask
  simp only [attendGrouped, hshape, hgrouped, hstretch, hout, bind, Except.bind]
  exact reshape_stack hsize.symm

/-- The layer computes each head of a block from the columns of the head and of the one it shares. -/
theorem column_attend (a : Attention α) (q k v : Block α) (mask : Option Mask) {row head : Nat}
    (hrow : row < q.batch) (hhead : head < a.heads) :
    (a.attend q k v mask).column row head =
      attendHead a.headDim a.scale mask (q.column row head) (k.column row (head / a.groupSize))
        (v.column row (head / a.groupSize)) := by
  simp only [attend, Block.column, attendHead, List.map_map, List.zipIdx_map]
  refine List.map_congr_left fun entry _ => ?_
  simp [attendSlot, Block.vector, rowAt, hrow, hhead, Block.column]

end Stacks

/-- Plain attention of the `i`-th query head of all batch rows over the key/value head it shares. -/
def headOf (a : Attention α) (q k v : Tensor α) (mask : Option Mask) (i : Nat) : List (List α) :=
  attendHead a.headDim a.scale mask (q.matrix i) (k.matrix (i / a.groupSize))
    (v.matrix (i / a.groupSize))

namespace Inputs

variable {a : Attention α} {batch queries keys : Nat} {q k v : Tensor α} {mask : Option Mask}

theorem headOf_isMatrix (inputs : Inputs a batch queries keys q k v mask)
    (hgroup : a.groupSize * a.keyHeads = a.heads) :
    ∀ i < size [batch, a.heads], IsMatrix queries a.headDim (a.headOf q k v mask i) := fun i hi =>
  attendHead_isMatrix (inputs.query i hi).length_eq (inputs.value _ (shared_lt hgroup hi)) a.scale

theorem attendGrouped_eq (inputs : Inputs a batch queries keys q k v mask)
    (hgroup : a.groupSize * a.keyHeads = a.heads) :
    a.attendGrouped q k v mask =
      .ok (stack [batch, a.heads] queries a.headDim (a.headOf q k v mask)) := by
  have hq : stack [batch, a.heads] queries a.headDim q.matrix = q :=
    stack_matrix inputs.queries_full inputs.queries_shape
  have hk : stack [batch, a.keyHeads] keys a.headDim k.matrix = k :=
    stack_matrix inputs.keys_full inputs.keys_shape
  have hv : stack [batch, a.keyHeads] keys a.headDim v.matrix = v :=
    stack_matrix inputs.values_full inputs.values_shape
  have hgrouped := attendGrouped_stack a hgroup inputs.query inputs.key inputs.value inputs.mask_sizes
  rwa [hq, hk, hv] at hgrouped

/-- The layer computes the same on blocks. -/
theorem attend_eq (inputs : Inputs a batch queries keys q k v mask)
    (hgroup : a.groupSize * a.keyHeads = a.heads) :
    ∃ qs ks vs, Block.ofTensor q = .ok qs ∧ Block.ofTensor k = .ok ks ∧ Block.ofTensor v = .ok vs ∧
      (a.attend qs ks vs mask).toTensor =
        stack [batch, a.heads] queries a.headDim (a.headOf q k v mask) := by
  obtain ⟨qs, hq, hshape, hquery⟩ := Block.ofTensor_eq inputs.queries_shape
  obtain ⟨ks, hk, -, hkey⟩ := Block.ofTensor_eq inputs.keys_shape
  obtain ⟨vs, hv, -, hvalue⟩ := Block.ofTensor_eq inputs.values_shape
  refine ⟨qs, ks, vs, hq, hk, hv, ?_⟩
  rw [inputs.queries_shape] at hshape
  simp only [Block.shape, List.cons.injEq, and_true] at hshape
  obtain ⟨hbatch, hheads, hqueries, hdim⟩ := hshape
  have hlength : (a.attend qs ks vs mask).slots.length = queries := by simp [attend, hqueries]
  rw [Block.toTensor_eq, hlength]
  have hsizes : (a.attend qs ks vs mask).batch = batch ∧ (a.attend qs ks vs mask).heads = a.heads ∧
      (a.attend qs ks vs mask).dim = a.headDim := ⟨hbatch, hheads, hdim⟩
  rw [hsizes.1, hsizes.2.1, hsizes.2.2]
  refine stack_congr fun i hi => ?_
  rw [size_pair] at hi
  have hpos : 0 < a.heads := Nat.pos_of_mul_pos_left (Nat.zero_lt_of_lt hi)
  have hrow : i / a.heads < batch := Nat.div_lt_of_lt_mul (Nat.mul_comm batch a.heads ▸ hi)
  have hhead : i % a.heads < a.heads := Nat.mod_lt i hpos
  have hshared : i % a.heads / a.groupSize < a.keyHeads :=
    Nat.div_lt_of_lt_mul (hgroup.symm ▸ hhead)
  rw [column_attend a qs ks vs mask (hbatch.symm ▸ hrow) hhead, hquery _ hrow _ hhead,
    hkey _ hrow _ hshared, hvalue _ hrow _ hshared, ← shared_eq hgroup _ hhead, Nat.div_add_mod']
  rfl

/-- Key/value heads of their own for all query heads, copied from the ones they share, change
nothing. -/
theorem attendGrouped_repeated (inputs : Inputs a batch queries keys q k v mask)
    (hgroup : a.groupSize * a.keyHeads = a.heads) :
    ∃ wideKeys wideValues, repeatHeads k a.groupSize = .ok wideKeys ∧
      repeatHeads v a.groupSize = .ok wideValues ∧
      attendGrouped { a with keyHeads := a.heads } q wideKeys wideValues mask =
        .ok (stack [batch, a.heads] queries a.headDim (a.headOf q k v mask)) := by
  have hheads : a.keyHeads * a.groupSize = a.heads := (Nat.mul_comm _ _).trans hgroup
  have hwide (t : Tensor α) (h : t.shape = [batch, a.keyHeads, keys, a.headDim]) :
      repeatHeads t a.groupSize =
        .ok (stack [batch, a.heads] keys a.headDim fun i => t.matrix (i / a.groupSize)) := by
    simp only [repeatHeads, h, hheads]
  refine ⟨_, _, hwide k inputs.keys_shape, hwide v inputs.values_shape, ?_⟩
  have hq : stack [batch, a.heads] queries a.headDim q.matrix = q :=
    stack_matrix inputs.queries_full inputs.queries_shape
  have hout := attendGrouped_stack { a with keyHeads := a.heads }
    (Nat.div_mul_cancel (Nat.dvd_refl a.heads)) inputs.query
    (fun i hi => inputs.key _ (shared_lt hgroup hi))
    (fun i hi => inputs.value _ (shared_lt hgroup hi)) inputs.mask_sizes
  simp only at hout
  rw [hq] at hout
  refine hout.trans (congrArg Except.ok (stack_congr fun i hi => ?_))
  have hpos : 0 < a.heads := Nat.pos_of_mul_pos_left (Nat.zero_lt_of_lt (size_pair batch a.heads ▸ hi))
  have hone : groupSize { a with keyHeads := a.heads } = 1 := Nat.div_self hpos
  rw [hone, Nat.div_one]
  rfl

end Inputs

/-- Grouped attention is attention head by head. For accepted settings the sizes of groups, heads and
widths fit; splitting into heads and merging them gives every tensor back; and for all queries, keys
and values, under every mask, the grouped computation on tensors gives what the layer computes on
blocks: the matrix of head `h` is plain attention of query head `h` over key/value head
`h / groupSize`, as it is with a key/value head of its own for each query head. -/
theorem attend_grouped {payload : Value} {c : AttentionConfig}
    (accepted : AttentionConfig.reader payload = .valid c) (p : Parameters α) (scope : String) :
    ∃ a : Attention α, build c p scope = .ok a ∧
      ((a.width : Int) = c.width ∧ (a.heads : Int) = c.heads ∧ (a.keyHeads : Int) = c.keyHeads ∧
        (a.headDim : Int) = c.headDim) ∧
      a.groupSize * a.keyHeads * a.headDim = a.width ∧
      (∀ (x : Tensor α) (batch count heads : Nat), x.Full →
        x.shape = [batch, count, heads * a.headDim] →
          let cut := splitSteps a.headDim heads batch x.steps
          ∃ y, a.splitTensor x heads = .ok y ∧ y.shape = [batch, heads, count, a.headDim] ∧
            mergeTensor y = .ok x ∧ cut.toTensor = y ∧
            ofSteps batch (heads * a.headDim) (cut.slots.map (List.map List.flatten)) = x) ∧
      ∀ (q k v : Tensor α) (mask : Option Mask) (batch queries keys : Nat),
        Inputs a batch queries keys q k v mask →
          ∃ out qs ks vs wideKeys wideValues,
            (a.attendGrouped q k v mask = .ok out ∧ out.Full ∧ out.shape = q.shape) ∧
            (Block.ofTensor q = .ok qs ∧ Block.ofTensor k = .ok ks ∧ Block.ofTensor v = .ok vs ∧
              (a.attend qs ks vs mask).toTensor = out) ∧
            (repeatHeads k a.groupSize = .ok wideKeys ∧
              repeatHeads v a.groupSize = .ok wideValues ∧
              attendGrouped { a with keyHeads := a.heads } q wideKeys wideValues mask = .ok out) ∧
            ∀ b < batch, ∀ h < a.heads,
              out.matrix (b * a.heads + h) =
                attendHead a.headDim a.scale mask (q.matrix (b * a.heads + h))
                  (k.matrix (b * a.keyHeads + h / a.groupSize))
                  (v.matrix (b * a.keyHeads + h / a.groupSize)) := by
  obtain ⟨-, hheads, hkeys, hgroups, hdims⟩ := AttentionConfig.accepted_sizes accepted
  obtain ⟨a, ha, hw, hh, hk, hd⟩ := build_accepted accepted p scope
  have hsize : (a.groupSize : Int) = c.groupSize := by
    rw [groupSize, Int.natCast_ediv, hh, hk, AttentionConfig.groupSize,
      Int.fdiv_eq_ediv_of_nonneg _ (Int.le_of_lt hkeys)]
  have hgroup : a.groupSize * a.keyHeads = a.heads := by
    have hcast : ((a.groupSize * a.keyHeads : Nat) : Int) = a.heads := by
      rw [Int.natCast_mul, hsize, hk, hh, hgroups]
    exact Int.ofNat.inj hcast
  have hdim : a.heads * a.headDim = a.width := by
    have hcast : ((a.heads * a.headDim : Nat) : Int) = a.width := by
      rw [Int.natCast_mul, hh, hd, hw, hdims]
    exact Int.ofNat.inj hcast
  refine ⟨a, ha, ⟨hw, hh, hk, hd⟩, by rw [hgroup, hdim],
    fun x batch count heads full h => split_merge a full h,
    fun q k v mask batch queries keys inputs => ?_⟩
  have hmatrices := inputs.headOf_isMatrix hgroup
  obtain ⟨qs, ks, vs, hqs, hks, hvs, hattend⟩ := inputs.attend_eq hgroup
  obtain ⟨wideKeys, wideValues, hkeys, hvalues, hrepeated⟩ := inputs.attendGrouped_repeated hgroup
  refine ⟨_, qs, ks, vs, wideKeys, wideValues,
    ⟨inputs.attendGrouped_eq hgroup, full_stack hmatrices, inputs.queries_shape.symm⟩,
    ⟨hqs, hks, hvs, hattend⟩, ⟨hkeys, hvalues, hrepeated⟩, fun b hb h hh => ?_⟩
  have hplace : b * a.heads + h < size [batch, a.heads] := size_pair batch a.heads ▸ index_lt hb hh
  rw [matrix_stack hmatrices hplace, headOf, Inputs.shared_eq hgroup b hh]

def fourHeads : Value :=
  .dict [(.text "d_model", .int 8), (.text "n_heads", .int 4), (.text "n_kv_heads", .int 2)]

/-- The last of four query heads reads the second of two key/value heads. -/
theorem fourHeads_grouped : ∃ c, AttentionConfig.reader fourHeads = .valid c ∧
    ∃ a : Attention Float, build c [] "" = .ok a ∧ a.groupSize * a.keyHeads * a.headDim = 8 ∧
      let q : Tensor Float := ⟨[1, 4, 1, 2], Array.replicate 8 1⟩
      let k : Tensor Float := ⟨[1, 2, 1, 2], Array.replicate 4 1⟩
      ∃ out, a.attendGrouped q k k (some [[true]]) = .ok out ∧
        out.matrix 3 =
          attendHead 2 a.scale (some [[true]]) (q.matrix 3) (k.matrix 1) (k.matrix 1) := by
  obtain ⟨c, hc⟩ : ∃ c, AttentionConfig.reader fourHeads = .valid c := ⟨_, rfl⟩
  let noParameters : Parameters Float := []
  obtain ⟨a, ha, ⟨hw, hh, hk, hd⟩, hsizes, -, hgrouped⟩ := attend_grouped hc noParameters ""
  have hfields : c = ⟨8, 4, some 2⟩ := by
    cases hc
    rfl
  subst hfields
  have hheads : a.heads = 4 := Int.ofNat.inj hh
  have hkeys : a.keyHeads = 2 := Int.ofNat.inj hk
  have hdim : a.headDim = 2 := Int.ofNat.inj hd
  have hwidth : a.width = 8 := Int.ofNat.inj hw
  have hgroup : a.groupSize = 2 := by rw [groupSize, hheads, hkeys]
  refine ⟨_, hc, a, ha, hsizes.trans hwidth, ?_⟩
  intro q k
  obtain ⟨out, -, -, -, -, -, ⟨hout, -, -⟩, -, -, hmatrix⟩ := hgrouped q k k (some [[true]]) 1 1 1 {
    queries_full := rfl
    keys_full := rfl
    values_full := rfl
    queries_shape := by rw [hheads, hdim]
    keys_shape := by rw [hkeys, hdim]
    values_shape := by rw [hkeys, hdim]
    mask_sizes := by
      rintro m ⟨⟩
      exact ⟨rfl, by simp⟩ }
  have hlast := hmatrix 0 (by decide) 3 (by omega)
  rw [hheads, hkeys, hgroup, hdim] at hlast
  exact ⟨out, hout, hlast⟩

end Attention
end StreamingLM
