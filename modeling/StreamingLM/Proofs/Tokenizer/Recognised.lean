import Mathlib.Data.List.Infix
import StreamingLM.Proofs.Tokenizer.RankTable

/-!
Which special tokens are recognised in a text: every one, wherever it stands.
-/
namespace StreamingLM
namespace Span

def id? : Span → Option Int
  | text _ => none
  | marker id => some id

def leading? (markers : List (List Char × Int)) (cs : List Char) : Option Int :=
  (markers.find? fun m => m.1.isPrefixOf cs).map Prod.snd

/-- The markers begin with a character that they do not hold again. -/
def OpenedBy (mark : Char) (markers : List (List Char × Int)) : Prop :=
  ∀ m ∈ markers, ∃ rest, m.1 = mark :: rest ∧ mark ∉ rest

variable {mark : Char} {markers : List (List Char × Int)}

theorem filterMap_close (held : List Char) (rest : List Span) :
    (close held rest).filterMap id? = rest.filterMap id? := by
  cases held with
  | nil => rfl
  | cons c held => rfl

theorem OpenedBy.leading?_nil (opened : OpenedBy mark markers) : leading? markers [] = none := by
  have hnone : (markers.find? fun m => m.1.isPrefixOf []) = none := by
    refine List.find?_eq_none.mpr fun m hm => ?_
    obtain ⟨rest, hname, -⟩ := opened m hm
    rw [hname]
    exact Bool.false_ne_true
  rw [leading?, hnone, Option.map_none]

theorem OpenedBy.leading?_cons (opened : OpenedBy mark markers) {c : Char} (other : c ≠ mark)
    (rest : List Char) : leading? markers (c :: rest) = none := by
  have hnone : (markers.find? fun m => m.1.isPrefixOf (c :: rest)) = none := by
    refine List.find?_eq_none.mpr fun m hm => ?_
    obtain ⟨name, hname, -⟩ := opened m hm
    rw [hname, List.isPrefixOf_cons_cons]
    simp [other.symm]
  rw [leading?, hnone, Option.map_none]

theorem OpenedBy.filterMap_cutFrom (opened : OpenedBy mark markers) {skip : Nat}
    {held cs : List Char} (passed : mark ∉ cs.take skip) :
    (cutFrom markers skip held cs).filterMap id? = cs.tails.filterMap (leading? markers) := by
  induction cs generalizing skip held with
  | nil =>
    rw [cutFrom, filterMap_close, List.tails, List.filterMap_cons, opened.leading?_nil]
    rfl
  | cons c rest ih =>
    rw [List.tails_cons]
    cases skip with
    | succ skip =>
      rw [List.take_succ_cons, List.mem_cons, not_or] at passed
      rw [cutFrom, ih passed.2, List.filterMap_cons, opened.leading?_cons (Ne.symm passed.1)]
    | zero =>
      rw [cutFrom, List.filterMap_cons, leading?]
      cases hfind : markers.find? fun m => m.1.isPrefixOf (c :: rest) with
      | none =>
        rw [ih (by simp)]
        rfl
      | some m =>
        obtain ⟨name, hname, hmark⟩ := opened m (List.mem_of_find?_eq_some hfind)
        have hbegins : m.1.isPrefixOf (c :: rest) = true := by simpa using List.find?_some hfind
        obtain ⟨after, hafter⟩ := List.isPrefixOf_iff_prefix.mp hbegins
        rw [hname, List.cons_append] at hafter
        obtain ⟨rfl, rfl⟩ := List.cons.inj hafter
        have hpassed : mark ∉ (name ++ after).take (m.1.length - 1) := by
          simpa [hname] using hmark
        rw [filterMap_close, List.filterMap_cons, ih hpassed]
        rfl

theorem OpenedBy.filterMap_cut (opened : OpenedBy mark markers) (cs : List Char) :
    (cut markers cs).filterMap id? = cs.tails.filterMap (leading? markers) :=
  opened.filterMap_cutFrom (by simp)

end Span

namespace RankTable

def special? (cs : List Char) : Option Nat := specials.findIdx? fun name => name.toList.isPrefixOf cs

def specialsIn (cs : List Char) : List Nat := cs.tails.filterMap special?

theorem special?_eq_some {cs : List Char} {i : Nat} {name : String} (hi : specials[i]? = some name) :
    special? cs = some i ↔ name.toList <+: cs := by
  obtain ⟨hlt, hget⟩ := List.getElem?_eq_some_iff.mp hi
  rw [special?, List.findIdx?_eq_some_iff_getElem]
  constructor
  · rintro ⟨_, hbegins, -⟩
    rw [hget] at hbegins
    exact List.isPrefixOf_iff_prefix.mp hbegins
  · intro hbegins
    refine ⟨hlt, by rw [hget]; exact List.isPrefixOf_iff_prefix.mpr hbegins, fun j hj hother => ?_⟩
    have hother := List.isPrefixOf_iff_prefix.mp hother
    have hsame := (special_bracketed (List.getElem_mem (by omega : j < specials.length))).eq_of_begins
      (special_bracketed (hget ▸ List.getElem_mem hlt)) hother hbegins
    rw [String.toList_inj, ← hget, specials_nodup.getElem_inj_iff] at hsame
    omega

variable {t : RankTable}

theorem markers_opened (t : RankTable) : Span.OpenedBy '<' t.markers := by
  intro m hm
  obtain ⟨i, name, hi, rfl⟩ := mem_markers hm
  obtain ⟨inner, hname, hopen, -⟩ := special_bracketed (List.mem_of_getElem? hi)
  exact ⟨inner ++ ['>'], hname, by simpa using hopen⟩

theorem leading?_markers (t : RankTable) (cs : List Char) :
    Span.leading? t.markers cs = (special? cs).map t.specialId := by
  rw [Span.leading?, markers, List.find?_map, special?, List.findIdx?_eq_fst_find?_zipIdx,
    Option.map_map, Option.map_map]
  rfl

theorem special?_nil : special? [] = none := by
  have hleading := (markers_opened {}).leading?_nil
  rwa [leading?_markers, Option.map_eq_none_iff] at hleading

theorem special?_of_ne {c : Char} (h : c ≠ '<') (rest : List Char) : special? (c :: rest) = none := by
  have hleading := (markers_opened {}).leading?_cons h rest
  rwa [leading?_markers, Option.map_eq_none_iff] at hleading

/-- The special tokens of a text are recognised, all of them and no others. -/
theorem filterMap_cut_markers (t : RankTable) (cs : List Char) :
    (Span.cut t.markers cs).filterMap Span.id? = (specialsIn cs).map t.specialId := by
  rw [(markers_opened t).filterMap_cut, specialsIn, List.map_filterMap]
  exact List.filterMap_congr fun cs _ => leading?_markers t cs

end RankTable
end StreamingLM
