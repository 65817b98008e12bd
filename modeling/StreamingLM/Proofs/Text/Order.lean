import Mathlib.Data.List.Nodup
import Mathlib.Data.String.Basic

/-!
Names in alphabetic order.
-/
namespace StreamingLM

theorem pairwise_mergeSort_names (names : List String) :
    (names.mergeSort fun a b => a ≤ b).Pairwise (· ≤ ·) := by
  have htrans : ∀ a b c : String, decide (a ≤ b) → decide (b ≤ c) → decide (a ≤ c) := by
    intro a b c hab hbc
    exact decide_eq_true (String.le_trans (of_decide_eq_true hab) (of_decide_eq_true hbc))
  have htotal : ∀ a b : String, (decide (a ≤ b) || decide (b ≤ a)) = true := by
    intro a b
    simpa using String.le_total a b
  exact (List.pairwise_mergeSort htrans htotal names).imp of_decide_eq_true

theorem mergeSort_names_eq {names sorted : List String} (distinct : names.Nodup)
    (ascending : sorted.Pairwise (· < ·)) (same : ∀ name, name ∈ names ↔ name ∈ sorted) :
    names.mergeSort (fun a b => a ≤ b) = sorted := by
  have hperm : (names.mergeSort fun a b => a ≤ b).Perm sorted :=
    (List.mergeSort_perm _ _).trans
      ((List.perm_ext_iff_of_nodup distinct (ascending.imp ne_of_lt)).mpr same)
  exact hperm.eq_of_pairwise (fun _ _ _ _ => String.le_antisymm) (pairwise_mergeSort_names names)
    (ascending.imp le_of_lt)

end StreamingLM
