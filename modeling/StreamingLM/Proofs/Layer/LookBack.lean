import StreamingLM.Proofs.Layer.Causal

/-!
What one position of a sequence sees: attention of its query over the keys and values of the
positions before it and its own, each rotated at its own place in the sequence. Main statement: a
step over a retained history computes exactly this for each of its positions.
-/
namespace StreamingLM
namespace Attention

variable {α : Type} [Scalar α]

def entryAt (a : Attention α) (frequencies : List α) (rows : List (List α)) (position : Nat) :
    Entry α :=
  (Turn.rotateSlot (Turn.atPosition frequencies position)
      (projectRows a.wk a.keyHeads a.headDim rows),
    projectRows a.wv a.keyHeads a.headDim rows)

/-- The keys and values of all inputs of a sequence. -/
def logOf (a : Attention α) (frequencies : List α) (inputs : List (List (List α))) :
    List (Entry α) :=
  inputs.zipIdx.map fun (rows, position) => a.entryAt frequencies rows position

def queryAt (a : Attention α) (frequencies : List α) (rows : List (List α)) (position : Nat) :
    Slot α :=
  Turn.rotateSlot (Turn.atPosition frequencies position)
    (projectRows a.wq a.heads a.headDim rows)

/-- The output for the input at `position`: its query over the keys and values of the positions from
`first` up to its own. -/
def lookBack (a : Attention α) (frequencies : List α) (rows : Nat) (inputs : List (List (List α)))
    (first position : Nat) : List (List α) :=
  let log := ((a.logOf frequencies inputs).take (position + 1)).drop first
  a.outputRows (a.attendSlot rows none (a.keysOf rows log) (a.valuesOf rows log)
    (a.queryAt frequencies ((inputs[position]?).getD []) position))

@[simp] theorem length_logOf (a : Attention α) (frequencies : List α)
    (inputs : List (List (List α))) : (a.logOf frequencies inputs).length = inputs.length := by
  simp [logOf]

theorem direct_eq (t : RotaryTable α) (start count : Nat) :
    t.direct start count =
      (List.range count).map fun (i : Nat) =>
        Turn.atPosition t.frequencies ((start + i : Nat) : Int) := by
  simp [RotaryTable.direct]

theorem logOf_append (a : Attention α) (t : RotaryTable α) (past x : List (List (List α))) :
    a.logOf t.frequencies (past ++ x) =
      a.logOf t.frequencies past ++ a.entries (t.direct past.length x.length) x := by
  have hnew : (x.zipIdx past.length).map (fun (rows, position) =>
      a.entryAt t.frequencies rows position) = a.entries (t.direct past.length x.length) x := by
    apply List.ext_getElem
    · simp
    · intro i h₁ h₂
      simp [entries, entryAt, direct_eq]
  rw [logOf, List.zipIdx_append, List.map_append, Nat.zero_add, hnew, logOf]

/-- Later inputs do not matter. -/
theorem lookBack_append (a : Attention α) (t : RotaryTable α) (rows : Nat)
    (past x : List (List (List α))) (first : Nat) {position : Nat} (h : position < past.length) :
    a.lookBack t.frequencies rows (past ++ x) first position =
      a.lookBack t.frequencies rows past first position := by
  have hlog : (a.logOf t.frequencies (past ++ x)).take (position + 1) =
      (a.logOf t.frequencies past).take (position + 1) := by
    rw [logOf_append, List.take_append_of_le_length]
    rw [length_logOf]
    exact h
  rw [lookBack, hlog, List.getElem?_append_left h, lookBack]

section Uniform

/-- At one batch row and head, the values of all entries have one width. -/
def Uniform (rows : Nat) (log : List (Entry α)) : Prop :=
  ∀ row < rows, ∀ head, ∃ size, ∀ entry ∈ log, (Block.vector entry.2 row head).length = size

omit [Scalar α] in
theorem Uniform.subset {rows : Nat} {log longer : List (Entry α)} (h : Uniform rows longer)
    (sub : log ⊆ longer) : Uniform rows log := by
  intro row hrow head
  obtain ⟨size, hsize⟩ := h row hrow head
  exact ⟨size, fun entry hentry => hsize entry (sub hentry)⟩

omit [Scalar α] in
theorem length_rowAt_splitHeads (dim heads head : Nat) {v w : List α} (h : v.length = w.length) :
    (Tensor.rowAt (splitHeads dim heads v) head).length =
      (Tensor.rowAt (splitHeads dim heads w) head).length := by
  induction heads generalizing v w head with
  | zero => rfl
  | succ heads ih =>
    cases head with
    | zero => simp [Tensor.rowAt, splitHeads, h]
    | succ head => exact ih head (by simp [h])

theorem length_apply (l : Linear α) (x y : List α) : (l.apply x).length = (l.apply y).length := by
  unfold Linear.apply
  split <;> simp [addVec]

theorem logOf_uniform (a : Attention α) (frequencies : List α) {rows : Nat}
    {inputs : List (List (List α))} (full : ∀ r ∈ inputs, r.length = rows) :
    Uniform rows (a.logOf frequencies inputs) := by
  intro row hrow head
  refine ⟨(Tensor.rowAt (splitHeads a.headDim a.keyHeads (a.wv.apply [])) head).length, ?_⟩
  intro entry hentry
  obtain ⟨⟨r, position⟩, hmem, rfl⟩ := List.mem_map.mp hentry
  have hr : row < r.length := by
    rw [full r (List.fst_mem_of_mem_zipIdx hmem)]
    exact hrow
  have hvector : Block.vector (a.entryAt frequencies r position).2 row head =
      Tensor.rowAt (splitHeads a.headDim a.keyHeads (a.wv.apply r[row])) head := by
    simp [Block.vector, entryAt, projectRows, hr]
  rw [hvector]
  exact length_rowAt_splitHeads _ _ _ (length_apply _ _ _)

end Uniform

/-- Under a row of the causal mask the queries of a position attend to the entries that the row
allows. -/
theorem attendSlot_causal [MaskLaws α] (a : Attention α) {rows : Nat} {log : List (Entry α)}
    (uniform : Uniform rows log) (nonempty : log ≠ []) (queries i : Nat) (query : Slot α) :
    let seen := log.take (log.length - queries + i + 1)
    a.attendSlot rows (some (maskRow queries log.length i)) (a.keysOf rows log)
        (a.valuesOf rows log) query =
      a.attendSlot rows none (a.keysOf rows seen) (a.valuesOf rows seen) query := by
  intro seen
  apply List.map_congr_left
  intro row hrow
  apply List.map_congr_left
  intro head _
  obtain ⟨size, hsize⟩ := uniform row (List.mem_range.mp hrow) (head / a.groupSize)
  let keys := (a.keysOf rows log).column row (head / a.groupSize)
  let values := (a.valuesOf rows log).column row (head / a.groupSize)
  have hkeys : keys.length = log.length := by simp [keys, Block.column, keysOf]
  have hvalues : values.length = log.length := by simp [values, Block.column, valuesOf]
  have hsome : keys ≠ [] := by
    rw [← List.length_pos_iff, hkeys]
    exact List.length_pos_of_ne_nil nonempty
  have hwidth : ∀ v ∈ values, v.length = size := by
    intro v hv
    obtain ⟨slot, hslot, rfl⟩ := List.mem_map.mp hv
    obtain ⟨entry, hentry, rfl⟩ := List.mem_map.mp hslot
    exact hsize entry hentry
  have hcausal := attendOne_causal a.headDim a.scale (Block.vector query row head) queries i
    (hkeys.trans hvalues.symm) hsome hwidth
  rw [hkeys] at hcausal
  show attendOne a.headDim a.scale _ _ keys values = _
  rw [hcausal]
  simp only [keys, values, Block.column, keysOf, valuesOf, seen, List.map_take]

theorem getElem_queries (a : Attention α) (t : RotaryTable α) (start : Nat)
    (x : List (List (List α))) {i : Nat} (hi : i < x.length)
    (h : i < (a.queries (t.direct start x.length) x).length) :
    (a.queries (t.direct start x.length) x)[i] = a.queryAt t.frequencies x[i] (start + i) := by
  simp [queries, queryAt, direct_eq]

theorem attendSlot_maskOf [MaskLaws α] (a : Attention α) {rows : Nat} {log : List (Entry α)}
    (uniform : Uniform rows log) {count i : Nat} (hi : i < count) (hcount : count ≤ log.length)
    (query : Slot α) :
    let seen := log.take (log.length - count + i + 1)
    a.attendSlot rows ((LayerCacheSet.maskOf count log.length).bind fun m => m[i]?)
        (a.keysOf rows log) (a.valuesOf rows log) query =
      a.attendSlot rows none (a.keysOf rows seen) (a.valuesOf rows seen) query := by
  intro seen
  unfold LayerCacheSet.maskOf
  by_cases hone : count ≤ 1
  · have hall : seen = log := List.take_of_length_le (by omega)
    rw [if_pos hone, hall]
    rfl
  · have hrow : (lowerTriangle count log.length)[i]? = some (maskRow count log.length i) := by
      simp [lowerTriangle, hi]
    have hsome : log ≠ [] := List.length_pos_iff.mp (by omega)
    rw [if_neg hone, Option.bind_some, hrow]
    exact attendSlot_causal a uniform hsome count i query

theorem stepOver_eq_lookBack [MaskLaws α] (a : Attention α) (t : RotaryTable α) {rows first : Nat}
    {past x : List (List (List α))} (full : ∀ r ∈ past ++ x, r.length = rows)
    (retained : first ≤ past.length) :
    a.stepOver rows (t.direct past.length x.length)
        (LayerCacheSet.maskOf x.length (past.length - first + x.length))
        ((a.logOf t.frequencies (past ++ x)).drop first) x =
      (List.range x.length).map fun i =>
        a.lookBack t.frequencies rows (past ++ x) first (past.length + i) := by
  have hlen : ((a.logOf t.frequencies (past ++ x)).drop first).length =
      past.length - first + x.length := by
    rw [List.length_drop, length_logOf, List.length_append]
    omega
  have huniform := (a.logOf_uniform t.frequencies full).subset
    (List.drop_subset first (a.logOf t.frequencies (past ++ x)))
  apply List.ext_getElem
  · simp
  · intro i h₁ h₂
    have hi : i < x.length := by simpa using h₂
    have hinput : ((past ++ x)[past.length + i]?).getD [] = x[i] := by simp [hi]
    have hseen : past.length - first + x.length - x.length + i + 1 =
        past.length + i + 1 - first := by omega
    have hattend := a.attendSlot_maskOf huniform hi (by omega)
      (a.queryAt t.frequencies x[i] (past.length + i))
    rw [hlen, hseen, ← List.drop_take] at hattend
    simp only [stepOver, output, attend, List.getElem_map, List.getElem_zipIdx, Nat.zero_add,
      a.getElem_queries t past.length x hi, hattend, List.getElem_range, lookBack, hinput]

end Attention
end StreamingLM
