import Mathlib.Data.List.Basic
import StreamingLM.Tensor

/-!
Matrices as lists of rows, their columns and their products. A sum of rows under weights is a product
with the columns.
-/
namespace StreamingLM

structure IsMatrix {β : Type} (height width : Nat) (rows : List (List β)) : Prop where
  length_eq : rows.length = height
  uniform : ∀ r ∈ rows, r.length = width

section Columns

variable {α : Type}

def column (rows : List (List α)) (j : Nat) : List α := rows.filterMap fun r => r[j]?

def columns (width : Nat) (rows : List (List α)) : List (List α) :=
  (List.range width).map (column rows)

theorem IsMatrix.map_range {height width : Nat} {row : Nat → List α}
    (h : ∀ i < height, (row i).length = width) : IsMatrix height width ((List.range height).map row) where
  length_eq := by simp
  uniform := fun r hr => by
    obtain ⟨i, hi, rfl⟩ := List.mem_map.mp hr
    exact h i (List.mem_range.mp hi)

variable {height width : Nat} {rows : List (List α)}

theorem IsMatrix.map (h : IsMatrix height width rows) (op : α → α) :
    IsMatrix height width (rows.map (List.map op)) where
  length_eq := by simp [h.length_eq]
  uniform := fun r hr => by
    obtain ⟨s, hs, rfl⟩ := List.mem_map.mp hr
    rw [List.length_map, h.uniform s hs]

theorem IsMatrix.eq_map (h : IsMatrix height width rows) :
    rows = (List.range height).map (Tensor.rowAt rows) := by
  refine List.ext_getElem (by simp [h.length_eq]) fun i hi _ => ?_
  simp [Tensor.rowAt, hi]

theorem IsMatrix.length_rowAt (h : IsMatrix height width rows) {i : Nat} (hi : i < height) :
    (Tensor.rowAt rows i).length = width := by
  have hrow : i < rows.length := h.length_eq.symm ▸ hi
  simpa [Tensor.rowAt, hrow] using h.uniform _ (List.getElem_mem hrow)

theorem column_cons {r : List α} {j : Nat} (hj : j < r.length) :
    column (r :: rows) j = r[j] :: column rows j := by
  simp [column, hj]

theorem IsMatrix.getElem?_column (h : IsMatrix height width rows) {j : Nat} (hj : j < width)
    (i : Nat) : (column rows j)[i]? = rows[i]?.bind fun r => r[j]? := by
  induction rows generalizing height i with
  | nil => rfl
  | cons r rows ih =>
    have hr : j < r.length := by rwa [h.uniform r (by simp)]
    have hrows : IsMatrix rows.length width rows :=
      ⟨rfl, fun s hs => h.uniform s (List.mem_cons_of_mem _ hs)⟩
    rw [column_cons hr]
    cases i with
    | zero => simp [hr]
    | succ i => simpa using ih hrows i

theorem IsMatrix.length_column (h : IsMatrix height width rows) {j : Nat} (hj : j < width) :
    (column rows j).length = height := by
  induction rows generalizing height with
  | nil => exact h.length_eq
  | cons r rows ih =>
    have hr : j < r.length := by rwa [h.uniform r (by simp)]
    have hrows : IsMatrix rows.length width rows :=
      ⟨rfl, fun s hs => h.uniform s (List.mem_cons_of_mem _ hs)⟩
    rw [column_cons hr, List.length_cons, ih hrows, ← h.length_eq, List.length_cons]

theorem IsMatrix.transposed (h : IsMatrix height width rows) :
    IsMatrix width height (columns width rows) :=
  .map_range fun _ hj => h.length_column hj

theorem filterMap_range_getElem? (r : List α) :
    (List.range r.length).filterMap (fun j => r[j]?) = r := by
  induction r with
  | nil => rfl
  | cons x r ih =>
    rw [List.length_cons, List.range_succ_eq_map, List.filterMap_cons]
    simpa [List.filterMap_map, Function.comp_def] using ih

theorem IsMatrix.columns_columns (h : IsMatrix height width rows) :
    columns height (columns width rows) = rows := by
  refine List.ext_getElem (by simp [columns, h.length_eq]) fun i hi hrow => ?_
  have hentry : ∀ j ∈ List.range width, (column rows j)[i]? = rows[i][j]? := fun j hj => by
    rw [h.getElem?_column (List.mem_range.mp hj), List.getElem?_eq_getElem hrow]
    rfl
  have hlength : rows[i].length = width := h.uniform _ (List.getElem_mem hrow)
  have hi' : i < height := by rwa [h.length_eq] at hrow
  simp only [columns, List.getElem_map, List.getElem_range, column, List.filterMap_map]
  exact (List.filterMap_congr hentry).trans (hlength ▸ filterMap_range_getElem? rows[i])

end Columns

section Products

variable {α : Type} [Scalar α]

/-- The product of two matrices, the second of which has rows of the given width. -/
def product (width : Nat) (a b : List (List α)) : List (List α) :=
  a.map fun row => (columns width b).map (dot row)

theorem IsMatrix.product {height width : Nat} {a b : List (List α)} (h : a.length = height) :
    IsMatrix height width (product width a b) where
  length_eq := by simp [StreamingLM.product, h]
  uniform := fun r hr => by
    obtain ⟨row, -, rfl⟩ := List.mem_map.mp hr
    simp [columns]

theorem dotFrom_nil (acc : α) (weights : List α) : dotFrom acc weights [] = acc := by
  cases weights <;> rfl

theorem getElem?_weightedFrom (weights : List α) {acc : List α} {vectors : List (List α)}
    (uniform : ∀ v ∈ vectors, v.length = acc.length) {j : Nat} (hj : j < acc.length) :
    ((List.zip weights vectors).foldl (fun acc entry => addScaled acc entry.1 entry.2) acc)[j]? =
      some (dotFrom acc[j] weights (column vectors j)) := by
  induction vectors generalizing weights acc with
  | nil =>
    have hcolumn : column ([] : List (List α)) j = [] := rfl
    rw [List.zip_nil_right, hcolumn, dotFrom_nil]
    exact List.getElem?_eq_getElem hj
  | cons v vectors ih =>
    have hv : v.length = acc.length := uniform v (by simp)
    have hvj : j < v.length := hv.symm ▸ hj
    rw [column_cons hvj]
    cases weights with
    | nil => exact List.getElem?_eq_getElem hj
    | cons w weights =>
      have hlength : (addScaled acc w v).length = acc.length := by simp [addScaled, hv]
      have hplace : j < (addScaled acc w v).length := hlength.symm ▸ hj
      have hentry : (addScaled acc w v)[j] = acc[j] + w * v[j] := by simp [addScaled]
      have hvectors : ∀ u ∈ vectors, u.length = (addScaled acc w v).length := fun u hu =>
        (uniform u (List.mem_cons_of_mem _ hu)).trans hlength.symm
      have hrest := ih weights hvectors hplace
      rw [List.zip_cons_cons, List.foldl_cons, hrest, hentry]
      rfl

theorem length_weightedFrom (weights : List α) {acc : List α} {vectors : List (List α)}
    (uniform : ∀ v ∈ vectors, v.length = acc.length) :
    ((List.zip weights vectors).foldl (fun acc entry => addScaled acc entry.1 entry.2) acc).length =
      acc.length := by
  induction vectors generalizing weights acc with
  | nil => rw [List.zip_nil_right, List.foldl_nil]
  | cons v vectors ih =>
    cases weights with
    | nil => rfl
    | cons w weights =>
      have hlength : (addScaled acc w v).length = acc.length := by
        simp [addScaled, uniform v (by simp)]
      have hvectors : ∀ u ∈ vectors, u.length = (addScaled acc w v).length := fun u hu =>
        (uniform u (List.mem_cons_of_mem _ hu)).trans hlength.symm
      have hrest := ih weights hvectors
      rw [List.zip_cons_cons, List.foldl_cons, hrest, hlength]

theorem IsMatrix.weightedSum_eq {height width : Nat} {vectors : List (List α)}
    (h : IsMatrix height width vectors) (weights : List α) :
    weightedSum width weights vectors = (columns width vectors).map (dot weights) := by
  let zeros : List α := List.replicate width Scalar.zero
  have hzeros : zeros.length = width := List.length_replicate
  have uniform : ∀ v ∈ vectors, v.length = zeros.length := fun v hv =>
    (h.uniform v hv).trans hzeros.symm
  refine List.ext_getElem? fun j => ?_
  by_cases hj : j < width
  · have hentry := getElem?_weightedFrom weights uniform (hzeros.symm ▸ hj)
    rw [List.getElem_replicate] at hentry
    have hsum : (weightedSum width weights vectors)[j]? = some (dot weights (column vectors j)) :=
      hentry
    simpa [columns, hj] using hsum
  · have hlength : (weightedSum width weights vectors).length = width :=
      (length_weightedFrom weights uniform).trans hzeros
    rw [List.getElem?_eq_none (by omega), List.getElem?_eq_none (by simp [columns]; omega)]

end Products

end StreamingLM
