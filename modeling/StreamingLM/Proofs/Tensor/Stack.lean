import Mathlib.Data.List.Induction
import StreamingLM.Proofs.Outcome
import StreamingLM.Proofs.Tensor.Matrix
import StreamingLM.Proofs.Tensor.RowMajor

/-!
Tensors as stacks of matrices. The last two axes count the rows and the entries of a matrix, the axes
in front of them count matrices: a product of two stacks stretches the latter, and another shape with
the same last two axes only counts the same matrices in another way.
-/
namespace StreamingLM

namespace Tensor

variable {α : Type}

def matrixHeight (t : Tensor α) : Nat := t.shape.dropLast.getLast?.getD 1

def leading (t : Tensor α) : List Nat := t.shape.dropLast.dropLast

def matrix (t : Tensor α) (i : Nat) : List (List α) :=
  (List.range t.matrixHeight).map fun r => t.row (i * t.matrixHeight + r)

def stack (leading : List Nat) (height width : Nat) (matrices : Nat → List (List α)) : Tensor α :=
  ⟨leading ++ [height, width], ((List.range (size leading)).flatMap matrices).flatten.toArray⟩

section Shapes

variable {t : Tensor α} {axes : List Nat} {m n : Nat}

theorem width_of_shape (h : t.shape = axes ++ [m, n]) : t.width = n := by
  simp [Tensor.width, h]

theorem matrixHeight_of_shape (h : t.shape = axes ++ [m, n]) : t.matrixHeight = m := by
  simp [matrixHeight, h, List.dropLast_append_of_ne_nil]

theorem leading_of_shape (h : t.shape = axes ++ [m, n]) : t.leading = axes := by
  simp [leading, h, List.dropLast_append_of_ne_nil]

theorem size_append (left right : List Nat) : size (left ++ right) = size left * size right := by
  induction right using List.reverseRecOn with
  | nil => simp [size]
  | append_singleton right n ih => rw [← List.append_assoc, size_concat, size_concat, ih, Nat.mul_assoc]

theorem size_cons (n : Nat) (shape : List Nat) : size (n :: shape) = n * size shape := by
  have hsplit := size_append [n] shape
  simpa [size] using hsplit

theorem Full.size_eq (full : t.Full) (h : t.shape = axes ++ [m, n]) :
    t.data.size = size axes * m * n := by
  rw [full, h, size_append]
  simp [size, Nat.mul_assoc]

theorem matrix_isMatrix (full : t.Full) (h : t.shape = axes ++ [m, n]) {i : Nat}
    (hi : i < size axes) : IsMatrix m n (t.matrix i) := by
  rw [matrix, matrixHeight_of_shape h]
  refine .map_range fun r hr => ?_
  rw [row, width_of_shape h]
  exact length_chunk (full.size_eq h) (index_lt hi hr)

theorem matrix_eq (h : t.shape = axes ++ [m, n]) :
    t.matrix = fun i => (List.range m).map fun r => chunk t.data n (i * m + r) := by
  funext i
  simp only [matrix, matrixHeight_of_shape h, row, width_of_shape h]

theorem stack_matrix (full : t.Full) (h : t.shape = axes ++ [m, n]) :
    stack axes m n t.matrix = t := by
  have hrows : (List.range (size axes)).flatMap t.matrix =
      (List.range (size axes * m)).map (chunk t.data n) := by
    rw [matrix_eq h, flatMap_range_map _ _ fun i r => chunk t.data n (i * m + r)]
    exact List.map_congr_left fun k _ => by rw [Nat.div_add_mod']
  rw [stack, hrows, flatten_chunks (full.size_eq h), ← h]

end Shapes

section Stacks

variable {axes : List Nat} {m n : Nat} {f g : Nat → List (List α)}

theorem shape_stack : (stack axes m n f).shape = axes ++ [m, n] := rfl

theorem stack_congr (h : ∀ i < size axes, f i = g i) : stack axes m n f = stack axes m n g := by
  rw [stack, stack, List.flatMap_congr fun i hi => h i (List.mem_range.mp hi)]

theorem flatMap_matrices {count : Nat} (h : ∀ i < count, IsMatrix m n (f i)) :
    (List.range count).flatMap f =
      (List.range (count * m)).map fun k => rowAt (f (k / m)) (k % m) := by
  have hrows : (List.range count).flatMap f =
      (List.range count).flatMap fun i => (List.range m).map (rowAt (f i)) :=
    List.flatMap_congr fun i hi => (h i (List.mem_range.mp hi)).eq_map
  rw [hrows, flatMap_range_map]

theorem length_rowAt_matrices {count : Nat} (h : ∀ i < count, IsMatrix m n (f i)) {k : Nat}
    (hk : k < count * m) : (rowAt (f (k / m)) (k % m)).length = n := by
  have hm : 0 < m := Nat.pos_of_mul_pos_left (Nat.zero_lt_of_lt hk)
  exact (h _ (Nat.div_lt_of_lt_mul (Nat.mul_comm count m ▸ hk))).length_rowAt (Nat.mod_lt k hm)

theorem uniform_flatMap_matrices {count : Nat} (h : ∀ i < count, IsMatrix m n (f i)) :
    ∀ r ∈ (List.range count).flatMap f, r.length = n := fun r hr => by
  rw [flatMap_matrices h] at hr
  obtain ⟨k, hk, rfl⟩ := List.mem_map.mp hr
  exact length_rowAt_matrices h (List.mem_range.mp hk)

theorem full_stack (h : ∀ i < size axes, IsMatrix m n (f i)) : (stack axes m n f).Full := by
  have hrows : ((List.range (size axes)).flatMap f).length = size axes * m := by
    simp [flatMap_matrices h]
  have hsize := length_flatten (uniform_flatMap_matrices h)
  rw [Full, shape_stack, size_append]
  rw [hrows] at hsize
  simpa [stack, size, Nat.mul_assoc] using hsize

theorem matrix_stack (h : ∀ i < size axes, IsMatrix m n (f i)) {i : Nat} (hi : i < size axes) :
    (stack axes m n f).matrix i = f i := by
  rw [matrix, matrixHeight_of_shape shape_stack, (h i hi).eq_map]
  refine List.map_congr_left fun r hr => ?_
  have hr : r < m := List.mem_range.mp hr
  have hrow : i * m + r < ((List.range (size axes)).flatMap f).length := by
    simpa [flatMap_matrices h] using index_lt hi hr
  rw [row, width_of_shape shape_stack, stack, chunk_flatten (uniform_flatMap_matrices h) hrow]
  simp only [flatMap_matrices h, List.getElem_map, List.getElem_range, index_div hr, index_mod hr]

end Stacks

section Axes

/-- The common extents of two lists of axes, in which an axis of extent one is stretched. -/
def broadcastAxes : List Nat → List Nat → Except Failure (List Nat)
  | [], [] => .ok []
  | m :: ms, n :: ns => do
    let rest ← broadcastAxes ms ns
    if m = n ∨ n = 1 then return m :: rest
    else if m = 1 then return n :: rest
    else .error Failure.shape
  | _, _ => .error Failure.shape

def sourceAt : List Nat → List Nat → Nat → Nat
  | m :: ms, _ :: ns, i =>
    (if m = 1 then 0 else i / size ns) * size ms + sourceAt ms ns (i % size ns)
  | _, _, _ => 0

theorem broadcastAxes_stretch (axes : List Nat) (n : Nat) :
    broadcastAxes (axes ++ [n]) (axes ++ [1]) = .ok (axes ++ [n]) := by
  induction axes with
  | nil => simp [broadcastAxes, pure, Except.pure, bind, Except.bind]
  | cons m axes ih =>
    simp only [List.cons_append, broadcastAxes, ih, true_or, if_true]
    rfl

theorem sourceAt_self {axes : List Nat} {i : Nat} (hi : i < size axes) : sourceAt axes axes i = i := by
  induction axes generalizing i with
  | nil =>
    have hzero : i = 0 := Nat.lt_one_iff.mp hi
    rw [hzero]
    rfl
  | cons m axes ih =>
    have hsize := size_cons m axes
    have hpos : 0 < size axes := Nat.pos_of_mul_pos_left (hsize ▸ Nat.zero_lt_of_lt hi)
    rw [sourceAt, ih (Nat.mod_lt i hpos)]
    by_cases hone : m = 1
    · have hlt : i < size axes := by rwa [hsize, hone, Nat.one_mul] at hi
      rw [if_pos hone, Nat.zero_mul, Nat.zero_add, Nat.mod_eq_of_lt hlt]
    · rw [if_neg hone, Nat.div_add_mod']

theorem sourceAt_stretch {axes : List Nat} {n i : Nat} (hi : i < size axes * n) :
    sourceAt (axes ++ [1]) (axes ++ [n]) i = i / n := by
  induction axes generalizing i with
  | nil =>
    have hlt : i < n := by simpa [size] using hi
    simp [sourceAt, Nat.div_eq_of_lt hlt]
  | cons m axes ih =>
    have hlast : size (axes ++ [n]) = size axes * n := size_concat axes n
    have hone : size (axes ++ [1]) = size axes := by rw [size_concat, Nat.mul_one]
    rw [size_cons, Nat.mul_assoc] at hi
    have hpos : 0 < size axes * n := Nat.pos_of_mul_pos_left (Nat.zero_lt_of_lt hi)
    have hmod : i % (size axes * n) / n = i / n % size axes := by
      rw [Nat.mul_comm, Nat.mod_mul_right_div_self]
    rw [List.cons_append, List.cons_append, sourceAt, hlast, hone, ih (Nat.mod_lt i hpos)]
    by_cases hm : m = 1
    · have hlt : i < size axes * n := by rwa [hm, Nat.one_mul] at hi
      rw [if_pos hm, Nat.zero_mul, Nat.zero_add, Nat.mod_eq_of_lt hlt]
    · have hdiv : i / (size axes * n) = i / n / size axes := by
        rw [Nat.div_div_eq_div_mul, Nat.mul_comm n]
      rw [if_neg hm, hmod, hdiv, Nat.div_add_mod']

end Axes

section Operations

def reshape (t : Tensor α) (shape : List Nat) : Except Failure (Tensor α) :=
  if size shape = size t.shape then .ok ⟨shape, t.data⟩ else .error Failure.shape

def unsqueeze (t : Tensor α) (axis : Nat) : Tensor α :=
  ⟨t.shape.take axis ++ 1 :: t.shape.drop axis, t.data⟩

def transposeLast (t : Tensor α) : Tensor α :=
  stack t.leading t.width t.matrixHeight fun i => columns t.width (t.matrix i)

/-- The rows at one place of each of `m` matrices; place and matrices are told by one number. -/
def crossed (m n : Nat) (f : Nat → List (List α)) (k : Nat) : List (List α) :=
  (List.range m).map fun i => rowAt (f (k / n * m + i)) (k % n)

def swapMiddle (t : Tensor α) : Except Failure (Tensor α) :=
  match t.shape with
  | [batch, m, n, width] => .ok (stack [batch, n] m width (crossed m n t.matrix))
  | _ => .error (.notRankFour t.shape)

/-- The products of the matrices of two stacks, whose leading axes are stretched. -/
def matmul [Scalar α] (x y : Tensor α) : Except Failure (Tensor α) := do
  let axes ← broadcastAxes x.leading y.leading
  if x.width ≠ y.matrixHeight then .error Failure.shape
  else
    return stack axes x.matrixHeight y.width fun i =>
      product y.width (x.matrix (sourceAt x.leading axes i)) (y.matrix (sourceAt y.leading axes i))

def onMatrices (f : List (List α) → List (List α)) (t : Tensor α) : Tensor α :=
  stack t.leading t.matrixHeight t.width fun i => f (t.matrix i)

variable {axes : List Nat} {m n : Nat} {f g : Nat → List (List α)}

theorem reshape_stack {other : List Nat} (h : size other = size axes) :
    (stack axes m n f).reshape (other ++ [m, n]) = .ok (stack other m n f) := by
  have hsize : size (other ++ [m, n]) = size (axes ++ [m, n]) := by
    rw [size_append, size_append, h]
  rw [reshape, shape_stack, if_pos hsize]
  simp only [stack, h]

theorem unsqueeze_stack :
    (stack axes m n f).unsqueeze axes.length = stack (axes ++ [1]) m n f := by
  have hsize : size (axes ++ [1]) = size axes := by rw [size_concat, Nat.mul_one]
  simp [unsqueeze, stack, hsize]

theorem map_stack (op : α → α) :
    (stack axes m n f).map op = stack axes m n fun i => (f i).map (List.map op) := by
  simp [Tensor.map, stack, List.map_flatten, List.map_flatMap]

theorem transposeLast_stack (h : ∀ i < size axes, IsMatrix m n (f i)) :
    (stack axes m n f).transposeLast = stack axes n m fun i => columns n (f i) := by
  rw [transposeLast, leading_of_shape shape_stack, width_of_shape shape_stack,
    matrixHeight_of_shape shape_stack]
  exact stack_congr fun i hi => by rw [matrix_stack h hi]

theorem onMatrices_stack (h : ∀ i < size axes, IsMatrix m n (f i))
    (op : List (List α) → List (List α)) :
    (stack axes m n f).onMatrices op = stack axes m n fun i => op (f i) := by
  rw [onMatrices, leading_of_shape shape_stack, width_of_shape shape_stack,
    matrixHeight_of_shape shape_stack]
  exact stack_congr fun i hi => by rw [matrix_stack h hi]

/-- In a product with a stack that is stretched along its last leading axis, consecutive matrices of
the first stack meet the same matrix of the second. -/
theorem matmul_stack [Scalar α] {group k : Nat}
    (hf : ∀ i < size (axes ++ [group]), IsMatrix m k (f i)) (hg : ∀ i < size axes, IsMatrix k n (g i)) :
    (stack (axes ++ [group]) m k f).matmul (stack (axes ++ [1]) k n g) =
      .ok (stack (axes ++ [group]) m n fun i => product n (f i) (g (i / group))) := by
  have hone : size (axes ++ [1]) = size axes := by rw [size_concat, Nat.mul_one]
  have hg' : ∀ i < size (axes ++ [1]), IsMatrix k n (g i) := hone.symm ▸ hg
  simp only [matmul, leading_of_shape shape_stack, width_of_shape shape_stack,
    matrixHeight_of_shape shape_stack, broadcastAxes_stretch, bind, Except.bind]
  rw [if_neg (fun h => h rfl)]
  refine congrArg Except.ok (stack_congr fun i hi => ?_)
  have hlast : i < size axes * group := size_concat axes group ▸ hi
  have hsource : i / group < size (axes ++ [1]) :=
    hone.symm ▸ Nat.div_lt_of_lt_mul (Nat.mul_comm _ group ▸ hlast)
  rw [sourceAt_self hi, sourceAt_stretch hlast, matrix_stack hf hi, matrix_stack hg' hsource]

section Crossed

variable {batch width : Nat}

theorem size_pair (m n : Nat) : size [m, n] = m * n := by simp [size]

theorem crossed_congr (h : ∀ i < size [batch, m], f i = g i) {k : Nat} (hk : k < size [batch, n]) :
    crossed m n f k = crossed m n g k := by
  rw [size_pair] at hk
  have hbatch : k / n < batch := Nat.div_lt_of_lt_mul (Nat.mul_comm batch n ▸ hk)
  refine List.map_congr_left fun i hi => ?_
  rw [h _ (size_pair batch m ▸ index_lt hbatch (List.mem_range.mp hi))]

theorem crossed_isMatrix (h : ∀ i < size [batch, m], IsMatrix n width (f i)) :
    ∀ k < size [batch, n], IsMatrix m width (crossed m n f k) := fun k hk => by
  rw [size_pair] at hk
  have hn : 0 < n := Nat.pos_of_mul_pos_left (Nat.zero_lt_of_lt hk)
  have hbatch : k / n < batch := Nat.div_lt_of_lt_mul (Nat.mul_comm batch n ▸ hk)
  refine .map_range fun i hi => ?_
  have hplace : k / n * m + i < size [batch, m] := size_pair batch m ▸ index_lt hbatch hi
  exact (h _ hplace).length_rowAt (Nat.mod_lt k hn)

theorem crossed_crossed (h : ∀ i < size [batch, m], IsMatrix n width (f i)) {k : Nat}
    (hk : k < size [batch, m]) : crossed n m (crossed m n f) k = f k := by
  have hm : 0 < m := Nat.pos_of_mul_pos_left (Nat.zero_lt_of_lt (size_pair batch m ▸ hk))
  have hrows : ∀ j ∈ List.range n,
      rowAt (crossed m n f (k / m * n + j)) (k % m) = rowAt (f k) j := fun j hj => by
    have hj : j < n := List.mem_range.mp hj
    simp only [crossed, index_div hj, index_mod hj]
    simp [rowAt, Nat.mod_lt k hm, Nat.div_add_mod']
  rw [crossed, List.map_congr_left hrows, ← (h k hk).eq_map]

theorem swapMiddle_stack (h : ∀ i < size [batch, m], IsMatrix n width (f i)) :
    (stack [batch, m] n width f).swapMiddle = .ok (stack [batch, n] m width (crossed m n f)) := by
  have hshape : (stack [batch, m] n width f).shape = [batch, m, n, width] := rfl
  simp only [swapMiddle, hshape]
  exact congrArg Except.ok (stack_congr fun k hk =>
    crossed_congr (fun i hi => matrix_stack h hi) hk)

theorem swapMiddle_swapped (h : ∀ i < size [batch, m], IsMatrix n width (f i)) :
    (stack [batch, n] m width (crossed m n f)).swapMiddle = .ok (stack [batch, m] n width f) := by
  rw [swapMiddle_stack (crossed_isMatrix h)]
  exact congrArg Except.ok (stack_congr fun k hk => crossed_crossed h hk)

end Crossed

end Operations

end Tensor
end StreamingLM
