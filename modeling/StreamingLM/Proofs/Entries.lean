import Mathlib.Data.List.Nodup
import Std.Data.HashMap

/-!
Tables and the lists of entries that they were filled with.
-/
namespace StreamingLM

variable {α β : Type} [BEq α] [Hashable α]

structure Holds (table : Std.HashMap α β) (entries : List (α × β)) : Prop where
  found : ∀ key value, table[key]? = some value ↔ (key, value) ∈ entries
  size : table.size = entries.length

namespace Holds

theorem empty : Holds (∅ : Std.HashMap α β) [] := ⟨by simp, by simp⟩

theorem none {table : Std.HashMap α β} {entries : List (α × β)} (h : Holds table entries) {key : α}
    (fresh : key ∉ entries.map Prod.fst) : table[key]? = none := by
  cases hkey : table[key]? with
  | none => rfl
  | some value => exact absurd (List.mem_map_of_mem ((h.found key value).mp hkey)) fresh

variable [LawfulBEq α]

theorem insert {table : Std.HashMap α β} {entries : List (α × β)} (h : Holds table entries)
    {key : α} (fresh : key ∉ entries.map Prod.fst) (value : β) :
    Holds (table.insert key value) (entries ++ [(key, value)]) := by
  have hnone := h.none fresh
  constructor
  · intro k v
    rw [Std.HashMap.getElem?_insert, List.mem_append, List.mem_singleton, Prod.mk.injEq]
    by_cases hk : key = k
    · subst hk
      have hout : (key, v) ∉ entries := fun hmem => fresh (List.mem_map_of_mem hmem)
      simp [hout, eq_comm]
    · simp [hk, h.found, Ne.symm hk]
  · have hout : key ∉ table := by
      simp [Std.HashMap.mem_iff_isSome_getElem?, hnone]
    rw [Std.HashMap.size_insert, if_neg hout, h.size, List.length_append, List.length_singleton]

theorem foldl {more entries : List (α × β)} {table : Std.HashMap α β} (h : Holds table entries)
    (distinct : ((entries ++ more).map Prod.fst).Nodup) :
    Holds (more.foldl (fun t e => t.insert e.1 e.2) table) (entries ++ more) := by
  induction more generalizing table entries with
  | nil => rwa [List.append_nil]
  | cons e more ih =>
    rw [List.append_cons] at distinct ⊢
    have hfresh : e.1 ∉ entries.map Prod.fst := by
      rw [List.map_append, List.map_append, List.append_assoc] at distinct
      intro hmem
      exact List.disjoint_of_nodup_append distinct hmem (by simp)
    exact ih (h.insert hfresh e.2) distinct

end Holds
end StreamingLM
