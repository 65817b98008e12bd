import Mathlib.Data.List.Infix
import StreamingLM.Chat

/-!
The text between two marks. Main statement: of a content in which the closing mark stands behind the
first opening one, exactly the part from there to the last closing mark is kept, whatever the two marks
are and however they overlap; every other message is left as it is.
-/
namespace StreamingLM

def StartsAt (part cs : List Char) (i : Nat) : Prop := part <+: cs.drop i

section Places

variable {part cs : List Char} {i : Nat}

theorem StartsAt.exists_eq (h : StartsAt part cs i) :
    ∃ rest, cs = cs.take i ++ part ++ rest := by
  obtain ⟨rest, hrest⟩ := h
  refine ⟨rest, ?_⟩
  rw [List.append_assoc, hrest, List.take_append_drop]

theorem StartsAt.add_length_le (h : StartsAt part cs i) (ne : part ≠ []) :
    i + part.length ≤ cs.length := by
  have hpos := List.length_pos_of_ne_nil ne
  have hle := h.length_le
  rw [List.length_drop] at hle
  omega

theorem not_startsAt_nil (ne : part ≠ []) : ¬StartsAt part [] i := by
  intro h
  have hle := h.add_length_le ne
  have hpos := List.length_pos_of_ne_nil ne
  rw [List.length_nil] at hle
  omega

theorem firstIndex?_eq_none (ne : part ≠ []) (h : firstIndex? part cs = none) (i : Nat) :
    ¬StartsAt part cs i := by
  induction cs generalizing i with
  | nil => exact not_startsAt_nil ne
  | cons c rest ih =>
    rw [firstIndex?] at h
    split at h
    · cases h
    case isFalse hnot =>
      rw [Option.map_eq_none_iff] at h
      cases i with
      | zero => exact fun hstarts => hnot (List.isPrefixOf_iff_prefix.mpr hstarts)
      | succ i => exact ih h i

theorem firstIndex?_eq_some (ne : part ≠ []) (h : firstIndex? part cs = some i) :
    StartsAt part cs i ∧ ∀ j < i, ¬StartsAt part cs j := by
  induction cs generalizing i with
  | nil =>
    rw [firstIndex?, if_neg (by simpa using ne)] at h
    cases h
  | cons c rest ih =>
    rw [firstIndex?] at h
    split at h
    case isTrue hstarts =>
      cases h
      exact ⟨List.isPrefixOf_iff_prefix.mp hstarts, fun j hj => absurd hj (Nat.not_lt_zero j)⟩
    case isFalse hnot =>
      obtain ⟨k, hk, rfl⟩ := Option.map_eq_some_iff.mp h
      obtain ⟨hstarts, hfirst⟩ := ih hk
      refine ⟨hstarts, fun j hj => ?_⟩
      cases j with
      | zero => exact fun hzero => hnot (List.isPrefixOf_iff_prefix.mpr hzero)
      | succ j => exact hfirst j (by omega)

theorem lastIndex?_eq_none (ne : part ≠ []) (h : lastIndex? part cs = none) (i : Nat) :
    ¬StartsAt part cs i := by
  induction cs generalizing i with
  | nil => exact not_startsAt_nil ne
  | cons c rest ih =>
    rw [lastIndex?] at h
    split at h
    · cases h
    case h_2 hrest =>
      split at h
      · cases h
      case isFalse hnot =>
        cases i with
        | zero => exact fun hstarts => hnot (List.isPrefixOf_iff_prefix.mpr hstarts)
        | succ i => exact ih hrest i

theorem lastIndex?_eq_some (ne : part ≠ []) (h : lastIndex? part cs = some i) :
    StartsAt part cs i ∧ ∀ j, i < j → ¬StartsAt part cs j := by
  induction cs generalizing i with
  | nil =>
    rw [lastIndex?, if_neg (by simpa using ne)] at h
    cases h
  | cons c rest ih =>
    rw [lastIndex?] at h
    split at h
    case h_1 k hk =>
      cases h
      obtain ⟨hstarts, hlast⟩ := ih hk
      refine ⟨hstarts, fun j hj => ?_⟩
      cases j with
      | zero => omega
      | succ j => exact hlast j (by omega)
    case h_2 hrest =>
      split at h
      case isTrue hstarts =>
        cases h
        refine ⟨List.isPrefixOf_iff_prefix.mp hstarts, fun j hj => ?_⟩
        cases j with
        | zero => omega
        | succ j => exact lastIndex?_eq_none ne hrest j
      · cases h

end Places

section Between

variable {opening closing content : List Char} {first : Nat}

theorem StartsAt.take_end {part cs : List Char} (h : StartsAt part cs first) :
    cs.take (first + part.length) = cs.take first ++ part := by
  rw [List.take_add, (List.prefix_iff_eq_take.mp h).symm]

theorem between?_eq_some {body : List Char} (h : between? opening closing content = some body) :
    (opening ≠ [] ∧ closing ≠ []) ∧ ∃ pre post, content = pre ++ opening ++ body ++ closing ++ post ∧
      (∀ i < pre.length, ¬StartsAt opening content i) ∧
      ∀ i, (pre ++ opening ++ body).length < i → ¬StartsAt closing content i := by
  unfold between? at h
  split at h
  · cases h
  case isFalse hempty =>
    have hne : opening ≠ [] ∧ closing ≠ [] := by simpa using hempty
    split at h
    · rename_i first last hfirst hlast
      obtain ⟨hopens, hbefore⟩ := firstIndex?_eq_some hne.1 hfirst
      obtain ⟨hcloses, hbehind⟩ := lastIndex?_eq_some hne.2 hlast
      dsimp only at h
      split at h
      · cases h
      case isFalse horder =>
        cases h
        have hfirstLe := hopens.add_length_le hne.1
        have hlastLe := hcloses.add_length_le hne.2
        obtain ⟨post, hpost⟩ := hcloses.exists_eq
        have htake : content.take first ++ opening =
            (content.take last).take (first + opening.length) := by
          rw [List.take_take, Nat.min_eq_left (Nat.not_lt.mp horder), hopens.take_end]
        have hfront : content.take first ++ opening ++
            (content.take last).drop (first + opening.length) = content.take last := by
          rw [htake, List.take_append_drop]
        refine ⟨hne, content.take first, post, by rw [hfront, ← hpost], fun i hi => ?_, fun i hi => ?_⟩
        · rw [List.length_take, Nat.min_eq_left (by omega)] at hi
          exact hbefore i hi
        · rw [hfront, List.length_take, Nat.min_eq_left (by omega)] at hi
          exact hbehind i hi
    · cases h

theorem between?_eq_none (ho : opening ≠ []) (hc : closing ≠ [])
    (h : between? opening closing content = none) (starts : StartsAt opening content first)
    (isFirst : ∀ i < first, ¬StartsAt opening content i) {i : Nat}
    (closes : StartsAt closing content i) : i < first + opening.length := by
  unfold between? at h
  rw [if_neg (by simp [ho, hc])] at h
  split at h
  · rename_i k last hk hlast
    obtain ⟨hopens, hbefore⟩ := firstIndex?_eq_some ho hk
    obtain ⟨-, hbehind⟩ := lastIndex?_eq_some hc hlast
    have hsame : k = first := by
      rcases Nat.lt_trichotomy k first with hlt | heq | hgt
      · exact absurd hopens (isFirst k hlt)
      · exact heq
      · exact absurd starts (hbefore first hgt)
    have hle : i ≤ last := Nat.not_lt.mp fun hlt => hbehind i hlt closes
    dsimp only at h
    split at h
    · omega
    · cases h
  case h_2 hmissing =>
    cases hfirst : firstIndex? opening content with
    | none => exact absurd starts (firstIndex?_eq_none ho hfirst first)
    | some k =>
      cases hlast : lastIndex? closing content with
      | none => exact absurd closes (lastIndex?_eq_none hc hlast i)
      | some last => exact absurd hlast (hmissing k last hfirst)

end Between

def HoldsAt (part text : String) (i : Nat) : Prop :=
  ∃ front back, text = front ++ part ++ back ∧ front.length = i

theorem holdsAt_iff {part text : String} (ne : part ≠ "") (i : Nat) :
    HoldsAt part text i ↔ StartsAt part.toList text.toList i := by
  constructor
  · rintro ⟨front, back, rfl, rfl⟩
    refine ⟨back.toList, ?_⟩
    rw [String.toList_append, String.toList_append, ← String.length_toList, List.append_assoc,
      List.drop_left]
  · intro h
    have hne : part.toList ≠ [] := by simpa using ne
    have hle := h.add_length_le hne
    obtain ⟨rest, hrest⟩ := h.exists_eq
    refine ⟨String.ofList (text.toList.take i), String.ofList rest, ?_, ?_⟩
    · rw [← String.toList_inj]
      simpa using hrest
    · rw [String.length_ofList, List.length_take]
      omega

/-- There is a closing mark behind the first opening one. -/
structure Marked (opening closing text : String) : Prop where
  opening_ne : opening ≠ ""
  closing_ne : closing ≠ ""
  enclosed : ∃ first i, HoldsAt opening text first ∧ (∀ j < first, ¬HoldsAt opening text j) ∧
    first + opening.length ≤ i ∧ HoldsAt closing text i

/-- A body between two marks, with no opening mark before the first and no closing one behind the
second. -/
def Outermost (opening closing text body : String) : Prop :=
  ∃ pre post, text = pre ++ opening ++ body ++ closing ++ post ∧
    (∀ i < pre.length, ¬HoldsAt opening text i) ∧
    ∀ i, pre.length + opening.length + body.length < i → ¬HoldsAt closing text i

theorem Outermost.marked {opening closing text body : String} (ho : opening ≠ "") (hc : closing ≠ "")
    (h : Outermost opening closing text body) : Marked opening closing text := by
  obtain ⟨pre, post, rfl, hbefore, -⟩ := h
  refine ⟨ho, hc, pre.length, (pre ++ opening ++ body).length, ⟨pre, body ++ closing ++ post, ?_, rfl⟩,
    hbefore, ?_, pre ++ opening ++ body, post, rfl, rfl⟩
  · simp only [String.append_assoc]
  · simp only [String.length_append]
    omega

section Kept

variable {opening closing text : String}

theorem outermost_of_between? {body : List Char}
    (h : between? opening.toList closing.toList text.toList = some body) :
    Outermost opening closing text (String.ofList body) := by
  obtain ⟨⟨ho, hc⟩, pre, post, hcontent, hbefore, hbehind⟩ := between?_eq_some h
  have ho : opening ≠ "" := by simpa using ho
  have hc : closing ≠ "" := by simpa using hc
  refine ⟨String.ofList pre, String.ofList post, ?_, fun i hi => ?_, fun i hi => ?_⟩
  · rw [← String.toList_inj]
    simpa using hcontent
  · rw [holdsAt_iff ho]
    exact hbefore i (by simpa using hi)
  · rw [holdsAt_iff hc]
    rw [String.length_ofList, String.length_ofList] at hi
    refine hbehind i ?_
    rw [List.length_append, List.length_append, String.length_toList]
    exact hi

theorem not_marked_of_between? (h : between? opening.toList closing.toList text.toList = none) :
    ¬Marked opening closing text := by
  rintro ⟨ho, hc, first, i, hopens, hfirst, hbehind, hcloses⟩
  rw [holdsAt_iff ho] at hopens
  rw [holdsAt_iff hc] at hcloses
  have hnot := between?_eq_none (by simpa using ho) (by simpa using hc) h hopens
    (fun j hj hstarts => hfirst j hj ((holdsAt_iff ho j).mpr hstarts)) hcloses
  rw [String.length_toList] at hnot
  omega

end Kept

namespace Message

/-- Exactly the outermost marked text is kept. Where a closing mark stands behind the first opening
one, the content becomes what is between the first opening mark and the last closing one; every other
message stays as it is; and in no case does the role or the refusal change. -/
theorem cleaned_outermost (m : Message) (opening closing : String) :
    (Marked opening closing m.content → ∃ body, Outermost opening closing m.content body ∧
      m.cleaned opening closing = { m with content := body }) ∧
    (¬Marked opening closing m.content → m.cleaned opening closing = m) ∧
    (m.cleaned opening closing).role = m.role ∧ (m.cleaned opening closing).refusal = m.refusal := by
  unfold cleaned
  cases h : between? opening.toList closing.toList m.content.toList with
  | some body =>
    have houtermost := outermost_of_between? h
    obtain ⟨⟨ho, hc⟩, -⟩ := between?_eq_some h
    have hmarked := houtermost.marked (by simpa using ho) (by simpa using hc)
    exact ⟨fun _ => ⟨_, houtermost, rfl⟩, fun unmarked => absurd hmarked unmarked, rfl, rfl⟩
  | none => exact ⟨fun marked => absurd marked (not_marked_of_between? h), fun _ => rfl, rfl, rfl⟩

/-- Marks that overlap themselves, inside and outside of the body. -/
theorem brackets_outermost :
    let m : Message := ⟨.assistant, "[[[a]]]", none⟩
    Marked "[[" "]]" m.content ∧ (m.cleaned "[[" "]]").content = "[a]" ∧
      ∃ body, Outermost "[[" "]]" m.content body ∧ m.cleaned "[[" "]]" = { m with content := body } := by
  obtain ⟨hkept, -⟩ := cleaned_outermost ⟨.assistant, "[[[a]]]", none⟩ "[[" "]]"
  have hmarked : Marked "[[" "]]" "[[[a]]]" := by
    refine ⟨by decide, by decide, 0, 5, ⟨"", "[a]]]", by decide, by decide⟩, fun j hj => ?_,
      by decide, "[[[a]", "", by decide, by decide⟩
    exact absurd hj (Nat.not_lt_zero j)
  exact ⟨hmarked, by decide, hkept hmarked⟩

end Message
end StreamingLM
