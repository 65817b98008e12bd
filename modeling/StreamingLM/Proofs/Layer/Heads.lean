import StreamingLM.Layer.Attention
import StreamingLM.Proofs.Tensor.Stack

/-!
Heads of vectors. Under a shape of their own heads are rows of a tensor, and joining the heads of each
position undoes cutting them out; on positions that is cutting and joining single rows.
-/
namespace StreamingLM

open Tensor

namespace Block

variable {α : Type}

theorem toTensor_eq (b : Block α) :
    b.toTensor = stack [b.batch, b.heads] b.slots.length b.dim fun k =>
      b.column (k / b.heads) (k % b.heads) := by
  have hcolumns : ((List.range b.batch).flatMap fun row => (List.range b.heads).flatMap fun head =>
      b.slots.flatMap fun slot => vector slot row head) =
      ((List.range (b.batch * b.heads)).map fun k =>
        (b.column (k / b.heads) (k % b.heads)).flatten).flatten := by
    rw [← flatMap_range_map b.batch b.heads fun row head => (b.column row head).flatten]
    simp only [List.flatMap_def, List.flatten_flatten, List.map_map, Function.comp_def, column]
  have hshape : b.shape = [b.batch, b.heads] ++ [b.slots.length, b.dim] := rfl
  rw [toTensor, hcolumns, hshape, stack, size_pair, List.flatMap_def, List.flatten_flatten,
    List.map_map]
  rfl

theorem ofTensor_eq {t : Tensor α} {batch heads count dim : Nat}
    (h : t.shape = [batch, heads, count, dim]) :
    ∃ b, ofTensor t = .ok b ∧ b.shape = t.shape ∧ ∀ row < batch, ∀ head < heads,
      b.column row head = t.matrix (row * heads + head) := by
  have htail : t.shape = [batch, heads] ++ [count, dim] := h
  refine ⟨_, by simp only [ofTensor, h]; rfl, by simp [shape, h], fun row hrow head hhead => ?_⟩
  rw [matrix_eq htail, column, List.map_map]
  refine List.map_congr_left fun i _ => ?_
  simp [vector, rowAt, hrow, hhead]

end Block

namespace Attention

variable {α : Type}

section Splitting

theorem splitHeads_eq (dim heads : Nat) (v : List α) :
    splitHeads dim heads v = (List.range heads).map fun h => (v.drop (h * dim)).take dim := by
  induction heads generalizing v with
  | zero => rfl
  | succ heads ih =>
    rw [splitHeads, ih, List.range_succ_eq_map, List.map_cons, List.map_map]
    simp [Function.comp_def, List.drop_drop, Nat.succ_mul, Nat.add_comm]

theorem splitHeads_chunk (data : Array α) (dim heads r : Nat) :
    splitHeads dim heads (chunk data (heads * dim) r) =
      (List.range heads).map fun h => chunk data dim (r * heads + h) := by
  rw [splitHeads_eq]
  refine List.map_congr_left fun h hh => ?_
  have hroom : dim ≤ heads * dim - h * dim := by
    have hle := Nat.mul_le_mul_right dim (List.mem_range.mp hh)
    rw [Nat.succ_mul] at hle
    omega
  have hstart : r * (heads * dim) + h * dim = (r * heads + h) * dim := by
    rw [Nat.add_mul, Nat.mul_assoc]
  rw [chunk_eq, chunk_eq, List.drop_take, List.take_take, List.drop_drop, Nat.min_eq_left hroom,
    hstart]

theorem flatten_splitHeads {dim heads : Nat} {v : List α} (h : v.length = heads * dim) :
    (splitHeads dim heads v).flatten = v := by
  induction heads generalizing v with
  | zero =>
    rw [Nat.zero_mul] at h
    rw [List.eq_nil_of_length_eq_zero h]
    rfl
  | succ heads ih =>
    have hrest : (v.drop dim).length = heads * dim := by
      rw [List.length_drop, h, Nat.succ_mul, Nat.add_sub_cancel]
    rw [splitHeads, List.flatten_cons, ih hrest, List.take_append_drop]

/-- Give each head a block of its own: positions are counted within heads. -/
def splitTensor (a : Attention α) (x : Tensor α) (heads : Nat) : Except Failure (Tensor α) :=
  match x.shape with
  | [batch, count, _] => do (← x.reshape [batch, count, heads, a.headDim]).swapMiddle
  | _ => .error (.notRankThree x.shape)

def mergeTensor (x : Tensor α) : Except Failure (Tensor α) :=
  match x.shape with
  | [batch, heads, count, dim] => do (← x.swapMiddle).reshape [batch, count, heads * dim]
  | _ => .error (.notRankFour x.shape)

def splitSteps (dim heads batch : Nat) (steps : List (List (List α))) : Block α :=
  ⟨batch, heads, dim, steps.map (List.map (splitHeads dim heads))⟩

theorem column_splitSteps {x : Tensor α} {dim batch count heads row head : Nat}
    (h : x.shape = [batch, count, heads * dim]) (hrow : row < batch) :
    (splitSteps dim heads batch x.steps).column row head =
      (List.range count).map fun i => rowAt
        ((List.range heads).map fun j => chunk x.data dim ((row * count + i) * heads + j)) head := by
  simp only [Block.column, splitSteps, steps, h, List.map_map]
  refine List.map_congr_left fun i _ => ?_
  simp [Block.vector, hrow, splitHeads_chunk]

theorem flatten_splitSteps {x : Tensor α} (full : x.Full) {dim batch count heads : Nat}
    (h : x.shape = [batch, count, heads * dim]) :
    (splitSteps dim heads batch x.steps).slots.map (List.map List.flatten) = x.steps := by
  have hlength := length_of_steps full h
  simp only [splitSteps, List.map_map]
  refine (List.map_congr_left fun rows hrows => ?_).trans (List.map_id x.steps)
  rw [Function.comp_apply, List.map_map]
  refine (List.map_congr_left fun r hr => ?_).trans (List.map_id rows)
  exact flatten_splitHeads (hlength rows hrows r hr)

/-- Splitting into heads and merging them gives the tensor back; on positions the heads are cut out
of the rows, and joined again. -/
theorem split_merge (a : Attention α) {x : Tensor α} (full : x.Full) {batch count heads : Nat}
    (h : x.shape = [batch, count, heads * a.headDim]) :
    let cut := splitSteps a.headDim heads batch x.steps
    ∃ y, a.splitTensor x heads = .ok y ∧ y.shape = [batch, heads, count, a.headDim] ∧
      mergeTensor y = .ok x ∧ cut.toTensor = y ∧
      ofSteps batch (heads * a.headDim) (cut.slots.map (List.map List.flatten)) = x := by
  intro cut
  let r : Tensor α := ⟨[batch, count] ++ [heads, a.headDim], x.data⟩
  have hr : r.shape = [batch, count] ++ [heads, a.headDim] := rfl
  have hsize : size [batch, count, heads, a.headDim] = size x.shape := by
    simp [h, size, Nat.mul_assoc]
  have hfull : r.Full := full.trans hsize.symm
  have hreshape : x.reshape [batch, count, heads, a.headDim] = .ok r := if_pos hsize
  have hmatrix : ∀ i < size [batch, count], IsMatrix heads a.headDim (r.matrix i) := fun i hi =>
    matrix_isMatrix hfull hr hi
  have hstack : stack [batch, count] heads a.headDim r.matrix = r := stack_matrix hfull hr
  have hswap := swapMiddle_stack hmatrix
  have hback := swapMiddle_swapped hmatrix
  rw [hstack] at hswap hback
  refine ⟨stack [batch, heads] count a.headDim (crossed count heads r.matrix), ?_, rfl, ?_, ?_, ?_⟩
  · simp only [splitTensor, h, hreshape, bind, Except.bind]
    exact hswap
  · have hx : r.reshape [batch, count, heads * a.headDim] = .ok x := by
      rw [reshape, if_pos (h ▸ hsize.symm), ← h]
    simp only [mergeTensor, shape_stack, List.cons_append, List.nil_append, hback, bind, Except.bind]
    exact hx
  · have hcount : cut.slots.length = count := by simp [cut, splitSteps, steps, h]
    rw [Block.toTensor_eq, hcount]
    refine stack_congr fun k hk => ?_
    have hbatch : k / heads < batch :=
      Nat.div_lt_of_lt_mul (Nat.mul_comm batch heads ▸ size_pair batch heads ▸ hk)
    rw [crossed, matrix_eq hr]
    exact column_splitSteps h hbatch
  · rw [flatten_splitSteps full h]
    exact ofSteps_steps full h

end Splitting

end Attention
end StreamingLM
