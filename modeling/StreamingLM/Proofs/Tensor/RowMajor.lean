import Mathlib.Data.List.Basic
import StreamingLM.Tensor

/-!
Row-major order. The numbers of a tensor are its rows along the last axis, one after the other, and
rows that are counted by several axes are counted by one.
-/
namespace StreamingLM

section Counting

variable {m n i j : Nat}

theorem index_lt (hi : i < m) (hj : j < n) : i * n + j < m * n := by
  have hle := Nat.mul_le_mul_right n hi
  rw [Nat.succ_mul] at hle
  omega

theorem index_div (hj : j < n) : (i * n + j) / n = i := by
  rw [Nat.add_comm, Nat.add_mul_div_right _ _ (by omega), Nat.div_eq_of_lt hj, Nat.zero_add]

theorem index_mod (hj : j < n) : (i * n + j) % n = j := by
  rw [Nat.add_comm, Nat.add_mul_mod_self_right, Nat.mod_eq_of_lt hj]

/-- Two counts, one inside the other, are one count; its quotients and remainders are the two. -/
theorem flatMap_range_map {β : Type} (m n : Nat) (f : Nat → Nat → β) :
    ((List.range m).flatMap fun i => (List.range n).map (f i)) =
      (List.range (m * n)).map fun k => f (k / n) (k % n) := by
  induction m with
  | zero => simp
  | succ m ih =>
    have hlast : (List.range n).map (f m) =
        (List.range n).map fun j => f ((m * n + j) / n) ((m * n + j) % n) := by
      refine List.map_congr_left fun j hj => ?_
      have hlt : j < n := List.mem_range.mp hj
      rw [index_div hlt, index_mod hlt]
    rw [List.range_succ, List.flatMap_append, ih, Nat.succ_mul, List.range_add, List.map_append,
      List.map_map, List.flatMap_singleton, hlast]
    rfl

end Counting

namespace Tensor

variable {α : Type}

def row (t : Tensor α) (i : Nat) : List α := chunk t.data t.width i

def Full (t : Tensor α) : Prop := t.data.size = size t.shape

theorem size_concat (leading : List Nat) (width : Nat) :
    size (leading ++ [width]) = size leading * width := by
  simp [size]

theorem height_mul_width (t : Tensor α) : t.height * t.width = size t.shape := by
  obtain h | ⟨leading, width, h⟩ := List.eq_nil_or_concat' t.shape
  · simp [height, Tensor.width, h, size]
  · simp [height, Tensor.width, h, size_concat]

theorem chunk_eq (data : Array α) (width i : Nat) :
    chunk data width i = (data.toList.drop (i * width)).take width := by
  have hlength : (i + 1) * width - i * width = width := by
    rw [Nat.succ_mul]
    omega
  rw [chunk, Array.toList_extract, List.extract_eq_take_drop, hlength]

theorem length_chunk {data : Array α} {n width i : Nat} (full : data.size = n * width)
    (hi : i < n) : (chunk data width i).length = width := by
  have hrows : (i + 1) * width ≤ n * width := Nat.mul_le_mul_right width hi
  rw [Nat.succ_mul] at hrows
  rw [chunk_eq, List.length_take, List.length_drop, Array.length_toList, full]
  omega

theorem Full.length_row {t : Tensor α} (full : t.Full) {i : Nat} (hi : i < t.height) :
    (t.row i).length = t.width :=
  length_chunk (full.trans t.height_mul_width.symm) hi

theorem length_flatten {rows : List (List α)} {width : Nat} (uniform : ∀ r ∈ rows, r.length = width) :
    rows.flatten.length = rows.length * width := by
  induction rows with
  | nil => simp
  | cons r rows ih =>
    obtain ⟨hr, hrows⟩ := List.forall_mem_cons.mp uniform
    rw [List.flatten_cons, List.length_append, ih hrows, hr, List.length_cons, Nat.succ_mul,
      Nat.add_comm]

theorem chunk_flatten {rows : List (List α)} {width : Nat} (uniform : ∀ r ∈ rows, r.length = width)
    {i : Nat} (hi : i < rows.length) : chunk rows.flatten.toArray width i = rows[i] := by
  rw [chunk_eq]
  induction rows generalizing i with
  | nil => exact absurd hi (Nat.not_lt_zero i)
  | cons r rows ih =>
    obtain ⟨hr, hrows⟩ := List.forall_mem_cons.mp uniform
    cases i with
    | zero => simp [← hr]
    | succ i =>
      have hrest : ((r :: rows).flatten.drop ((i + 1) * width)) = rows.flatten.drop (i * width) := by
        rw [List.flatten_cons, Nat.succ_mul, Nat.add_comm, ← hr, List.drop_length_add_append]
      rw [List.length_cons] at hi
      have hi' := ih hrows (Nat.lt_of_succ_lt_succ hi)
      rw [hrest, List.getElem_cons_succ]
      exact hi'

theorem flatten_chunks {data : Array α} {n width : Nat} (full : data.size = n * width) :
    ((List.range n).map (chunk data width)).flatten = data.toList := by
  have hfront : ∀ m, ((List.range m).map (chunk data width)).flatten =
      data.toList.take (m * width) := by
    intro m
    induction m with
    | zero => simp
    | succ m ih =>
      rw [List.range_succ, List.map_append, List.flatten_append, ih, Nat.succ_mul, List.take_add,
        List.map_singleton, List.flatten_singleton, chunk_eq]
  rw [hfront n, ← full, ← Array.length_toList, List.take_length]

section Steps

variable {x : Tensor α} {batch count width : Nat}

theorem ofSteps_steps (full : x.Full)
    (h : x.shape = [batch, count, width]) : ofSteps batch width x.steps = x := by
  have hlength : x.steps.length = count := by simp [steps, h]
  have hrow : ∀ b ∈ List.range batch, (x.steps.map fun rows => rowAt rows b) =
      (List.range count).map fun i => chunk x.data width (b * count + i) := fun b hb => by
    simp only [steps, h, List.map_map]
    refine List.map_congr_left fun i _ => ?_
    simp [rowAt, List.mem_range.mp hb]
  have hrows : ((List.range batch).flatMap fun b => x.steps.map fun rows => rowAt rows b) =
      (List.range (batch * count)).map (chunk x.data width) := by
    rw [List.flatMap_congr hrow, flatMap_range_map _ _ fun b i => chunk x.data width (b * count + i)]
    exact List.map_congr_left fun k _ => by rw [Nat.div_add_mod']
  have hsize : x.data.size = batch * count * width := by simpa [Full, h, size] using full
  rw [ofSteps, ofRows, hlength, hrows, flatten_chunks hsize, Array.toArray_toList]
  exact congrArg (Tensor.mk · x.data) h.symm

theorem length_of_steps (full : x.Full)
    (h : x.shape = [batch, count, width]) : ∀ rows ∈ x.steps, ∀ r ∈ rows, r.length = width := by
  intro rows hrows r hr
  simp only [steps, h, List.mem_map, List.mem_range] at hrows
  obtain ⟨i, hi, rfl⟩ := hrows
  obtain ⟨b, hb, rfl⟩ := List.mem_map.mp hr
  have hsize : x.data.size = batch * count * width := by simpa [Full, h, size] using full
  exact length_chunk hsize (index_lt (List.mem_range.mp hb) hi)

end Steps

end Tensor
end StreamingLM
