import StreamingLM.Sampling
import StreamingLM.Proofs.Number.Real

/-!
A row of probabilities, the most likely token first: the order in which a draw goes through it. The
sort is stable, so tokens that are equally likely stand by their ids.
-/
namespace StreamingLM

/-- The mass of a token in a row; there is none beyond its end. -/
noncomputable def massAt (row : List ℝ) (i : Nat) : ℝ := row.getD i 0

/-- A token comes before another one: it is more likely, or as likely with a lower id. -/
def Precedes (row : List ℝ) (i j : Nat) : Prop :=
  massAt row j < massAt row i ∨ massAt row i = massAt row j ∧ i < j

theorem Precedes.asymm {row : List ℝ} {i j : Nat} (h : Precedes row i j) : ¬ Precedes row j i := by
  intro h'
  obtain hlt | ⟨heq, hlt⟩ := h <;> obtain hlt' | ⟨heq', hlt'⟩ := h'
  · exact hlt.asymm hlt'
  · exact hlt.ne heq'
  · exact hlt'.ne heq
  · exact hlt.asymm hlt'

/-- All tokens of a row, each before those that it precedes. -/
structure Ranks (row : List ℝ) (order : List Nat) : Prop where
  all : order.Perm (List.range row.length)
  ordered : order.Pairwise (Precedes row)

namespace Ranks

variable {row : List ℝ} {order : List Nat} {i j : Nat}

theorem mem_iff (h : Ranks row order) : i ∈ order ↔ i < row.length := by
  rw [h.all.mem_iff, List.mem_range]

theorem unique {other : List Nat} (h : Ranks row order) (h' : Ranks row other) : order = other :=
  List.Perm.eq_of_pairwise (fun _ _ _ _ hij hji => absurd hji hij.asymm) h.ordered h'.ordered
    (h.all.trans h'.all.symm)

/-- A token that precedes another one stands before it, so a part from the front that has the
second has the first. -/
theorem mem_of_precedes (h : Ranks row order) {kept : List Nat} (begins : kept <+: order)
    (hi : i < row.length) (hj : j ∈ kept) (hij : Precedes row i j) : i ∈ kept := by
  obtain ⟨rest, rfl⟩ := begins
  obtain hi | hi := List.mem_append.mp (h.mem_iff.mpr hi)
  · exact hi
  · have hji : Precedes row j i := (List.pairwise_append.mp h.ordered).2.2 j hj i hi
    exact absurd hji hij.asymm

theorem head_precedes (h : Ranks row (i :: order)) (hj : j < row.length) (ne : j ≠ i) :
    Precedes row i j := by
  obtain rfl | hj := List.mem_cons.mp (h.mem_iff.mpr hj)
  · exact absurd rfl ne
  · exact (List.pairwise_cons.mp h.ordered).1 j hj

end Ranks

noncomputable def asLikely (row : List ℝ) (i j : Nat) : Bool :=
  !Scalar.lt (massAt row i) (massAt row j)

theorem asLikely_iff {row : List ℝ} {i j : Nat} :
    asLikely row i j = true ↔ massAt row j ≤ massAt row i := by
  simp [asLikely, Scalar.lt]

theorem asLikely_trans (row : List ℝ) (i j k : Nat) (hij : asLikely row i j = true)
    (hjk : asLikely row j k = true) : asLikely row i k = true :=
  asLikely_iff.mpr ((asLikely_iff.mp hjk).trans (asLikely_iff.mp hij))

theorem asLikely_total (row : List ℝ) (i j : Nat) :
    (asLikely row i j || asLikely row j i) = true := by
  rw [Bool.or_eq_true, asLikely_iff, asLikely_iff]
  exact le_total _ _

/-- The tokens of a row, the most likely first. -/
noncomputable def byMass (row : List ℝ) : List Nat :=
  (List.range row.length).mergeSort (asLikely row)

noncomputable def weighed (row : List ℝ) (i : Nat) : Nat × ℝ := (i, massAt row i)

theorem zipIdx_eq_weighed (row : List ℝ) :
    (row.zipIdx.map fun (x, i) => (i, x)) = (List.range row.length).map (weighed row) := by
  refine List.ext_getElem (by simp) fun i h _ => ?_
  have hi : i < row.length := by simpa using h
  simp [weighed, massAt, hi]

theorem ranked_eq (row : List ℝ) : ranked row = (byMass row).map (weighed row) := by
  rw [ranked, zipIdx_eq_weighed, byMass]
  exact (List.map_mergeSort (f := weighed row) fun _ _ _ _ => rfl).symm

variable (row : List ℝ)

theorem byMass_pairwise : (byMass row).Pairwise fun i j => massAt row j ≤ massAt row i :=
  (List.pairwise_mergeSort (asLikely_trans row) (asLikely_total row) _).imp asLikely_iff.mp

theorem byMass_filter (x : ℝ) :
    (byMass row).filter (massAt row · = x) = (List.range row.length).filter (massAt row · = x) := by
  set equal := (List.range row.length).filter (massAt row · = x) with hequal
  have sorted : equal.Pairwise fun i j => asLikely row i j = true := by
    refine List.pairwise_of_forall_mem_list fun i hi j hj => asLikely_iff.mpr ?_
    simp only [hequal, List.mem_filter, decide_eq_true_eq] at hi hj
    rw [hi.2, hj.2]
  have hsub : equal.Sublist (byMass row) :=
    List.sublist_mergeSort (asLikely_trans row) (asLikely_total row) sorted List.filter_sublist
  have hfilter : equal.Sublist ((byMass row).filter (massAt row · = x)) := by
    simpa [hequal, List.filter_filter] using hsub.filter (massAt row · = x)
  exact (hfilter.eq_of_length ((List.mergeSort_perm _ _).filter _).length_eq.symm).symm

/-- The order of a row by mass is its stable descending order. -/
theorem byMass_ranks : Ranks row (byMass row) where
  all := List.mergeSort_perm _ _
  ordered := by
    rw [List.pairwise_iff_forall_sublist]
    intro i j hij
    have hle : massAt row j ≤ massAt row i :=
      List.pairwise_iff_forall_sublist.mp (byMass_pairwise row) hij
    obtain hlt | heq := hle.lt_or_eq
    · exact .inl hlt
    · have htied :
          [i, j].Sublist ((List.range row.length).filter (massAt row · = massAt row i)) := by
        rw [← byMass_filter]
        simpa [heq] using hij.filter (massAt row · = massAt row i)
      have hlt : i < j := List.pairwise_iff_forall_sublist.mp
        (List.pairwise_lt_range.filter (massAt row · = massAt row i)) htied
      exact .inr ⟨heq.symm, hlt⟩

end StreamingLM
