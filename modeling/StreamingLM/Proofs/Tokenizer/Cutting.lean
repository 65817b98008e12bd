import Mathlib.Data.List.TakeWhile
import StreamingLM.Text.Span
import StreamingLM.Tokenizer.Lexeme
import StreamingLM.Tokenizer.Merge

/-!
On the way from a text to its tokens nothing is lost: cut at its markers and then into pieces, it is
the parts in their order, and a merge changes two neighbours only.
-/
namespace StreamingLM
namespace Span

def chars (named : Int → List Char) : Span → List Char
  | text cs => cs
  | marker id => named id

theorem flatMap_close (named : Int → List Char) (held : List Char) (rest : List Span) :
    (close held rest).flatMap (chars named) = held.reverse ++ rest.flatMap (chars named) := by
  cases held with
  | nil => rfl
  | cons c held => rfl

variable {named : Int → List Char} {markers : List (List Char × Int)}

theorem flatMap_cutFrom (names : ∀ m ∈ markers, named m.2 = m.1 ∧ m.1 ≠ []) (skip : Nat)
    (held cs : List Char) :
    (cutFrom markers skip held cs).flatMap (chars named) = held.reverse ++ cs.drop skip := by
  induction cs generalizing skip held with
  | nil => rw [cutFrom, flatMap_close, List.drop_nil, List.flatMap_nil]
  | cons c rest ih =>
    cases skip with
    | succ skip => rw [cutFrom, ih, List.drop_succ_cons]
    | zero =>
      rw [cutFrom, List.drop_zero]
      cases hfind : markers.find? fun m => m.1.isPrefixOf (c :: rest) with
      | none => rw [ih, List.reverse_cons, List.append_assoc, List.singleton_append, List.drop_zero]
      | some m =>
        obtain ⟨hnamed, hne⟩ := names m (List.mem_of_find?_eq_some hfind)
        have hbegins : m.1.isPrefixOf (c :: rest) = true := by simpa using List.find?_some hfind
        obtain ⟨after, hafter⟩ := List.isPrefixOf_iff_prefix.mp hbegins
        obtain ⟨d, name, hname⟩ := List.exists_cons_of_ne_nil hne
        rw [hname, List.cons_append] at hafter
        obtain ⟨rfl, rfl⟩ := List.cons.inj hafter
        simp only [flatMap_close, List.flatMap_cons, chars, hnamed, ih, hname, List.length_cons,
          Nat.add_sub_cancel, List.drop_left, List.reverse_nil, List.nil_append, List.cons_append]

theorem flatMap_cut (names : ∀ m ∈ markers, named m.2 = m.1 ∧ m.1 ≠ []) (cs : List Char) :
    (cut markers cs).flatMap (chars named) = cs := by
  rw [cut, flatMap_cutFrom names, List.reverse_nil, List.nil_append, List.drop_zero]

theorem mem_close {held : List Char} {rest : List Span} {id : Int} (h : marker id ∈ close held rest) :
    marker id ∈ rest := by
  cases held with
  | nil => exact h
  | cons c held => simpa [close] using h

theorem mem_cutFrom {skip : Nat} {held cs : List Char} {id : Int}
    (h : marker id ∈ cutFrom markers skip held cs) : ∃ m ∈ markers, m.2 = id := by
  induction cs generalizing skip held with
  | nil => simpa using mem_close h
  | cons c rest ih =>
    cases skip with
    | succ skip => exact ih h
    | zero =>
      rw [cutFrom] at h
      cases hfind : markers.find? fun m => m.1.isPrefixOf (c :: rest) with
      | none =>
        rw [hfind] at h
        exact ih h
      | some m =>
        rw [hfind] at h
        obtain hid | hrest := List.mem_cons.mp (mem_close h)
        · exact ⟨m, List.mem_of_find?_eq_some hfind, (Span.marker.inj hid).symm⟩
        · exact ih hrest

theorem mem_cut {cs : List Char} {id : Int} (h : marker id ∈ cut markers cs) :
    ∃ m ∈ markers, m.2 = id := mem_cutFrom h

end Span

namespace Lexeme

theorem run_ne_zero {p : Char → Bool} {c : Char} (h : p c = true) (rest : List Char) :
    run p (c :: rest) ≠ 0 := by
  rw [run, List.takeWhile_cons_of_pos h, List.length_cons]
  exact Nat.succ_ne_zero _

theorem firstOf_ne_zero {ns : List Nat} (h : ∃ n ∈ ns, n ≠ 0) : firstOf ns ≠ 0 := by
  induction ns with
  | nil => simp at h
  | cons n ns ih =>
    rw [firstOf]
    by_cases hn : n = 0
    · rw [if_pos hn]
      obtain ⟨m, hm, hne⟩ := h
      obtain rfl | hm := List.mem_cons.mp hm
      · exact absurd hn hne
      · exact ih ⟨m, hm, hne⟩
    · rwa [if_neg hn]

theorem white_ne_zero {c : Char} (h : Property.isWhite c = true) (rest : List Char) :
    white (c :: rest) ≠ 0 := by
  have hblank := run_ne_zero h rest
  rw [run] at hblank
  simp only [white]
  split_ifs <;> omega

theorem signs_ne_zero {c : Char} (h : isSign c = true) (rest : List Char) :
    signs (c :: rest) ≠ 0 := by
  have hspace : c ≠ ' ' := by
    rintro rfl
    simp [isSign, Property.isWhite] at h
  have hrun := run_ne_zero h rest
  have hbare : bareSigns (c :: rest) ≠ 0 := by
    simp only [bareSigns, if_neg hrun]
    omega
  unfold signs
  split
  · rename_i heq
    exact absurd (List.cons.inj heq).1 hspace
  · exact hbare

theorem length_ne_zero (c : Char) (rest : List Char) : length (c :: rest) ≠ 0 := by
  apply firstOf_ne_zero
  by_cases hletter : isLetter c
  · exact ⟨word (c :: rest), by simp, by rw [word, if_pos hletter]; exact run_ne_zero hletter rest⟩
  by_cases hnumber : isNumber c
  · have hrun := run_ne_zero hnumber rest
    exact ⟨number (c :: rest), by simp, by rw [number]; omega⟩
  by_cases hwhite : Property.isWhite c
  · exact ⟨white (c :: rest), by simp, white_ne_zero hwhite rest⟩
  · exact ⟨signs (c :: rest), by simp,
      signs_ne_zero (by simp [isSign, hletter, hnumber, hwhite]) rest⟩

theorem flatten_cutFrom {fuel : Nat} {cs : List Char} (h : cs.length ≤ fuel) :
    (cutFrom fuel cs).flatten = cs := by
  induction fuel generalizing cs with
  | zero =>
    rw [List.length_eq_zero_iff.mp (Nat.le_zero.mp h)]
    rfl
  | succ fuel ih =>
    cases cs with
    | nil => rfl
    | cons c rest =>
      rw [cutFrom]
      cases hlength : length (c :: rest) with
      | zero => exact absurd hlength (length_ne_zero c rest)
      | succ n =>
        have hrest : (rest.drop n).length ≤ fuel := by
          rw [List.length_drop]
          rw [List.length_cons] at h
          omega
        simp only [List.flatten_cons, ih hrest, List.cons_append, List.take_append_drop]

theorem flatten_cut (cs : List Char) : (cut cs).flatten = cs := flatten_cutFrom (Nat.le_refl _)

theorem cut_singleton (c : Char) : cut [c] = [[c]] := by
  rw [cut, List.length_singleton, cutFrom]
  cases hlength : length [c] with
  | zero => exact absurd hlength (length_ne_zero c [])
  | succ n => simp [cutFrom]

end Lexeme

namespace Merge

variable {σ : Type} {merge? : σ → σ → Option (Nat × σ)}

theorem of_once {symbols merged : List σ} {r : Nat} (h : once merge? symbols = some (r, merged)) :
    ∃ front a b ab back, symbols = front ++ a :: b :: back ∧ merge? a b = some (r, ab) ∧
      merged = front ++ ab :: back := by
  induction symbols generalizing merged r with
  | nil => simp [once] at h
  | cons a symbols ih =>
    cases symbols with
    | nil => simp [once] at h
    | cons b rest =>
      have hlater : ∀ {s : Nat} {later : List σ},
          (once merge? (b :: rest)).map (fun p => (p.1, a :: p.2)) = some (s, later) →
          ∃ front x y xy back, a :: b :: rest = front ++ x :: y :: back ∧
            merge? x y = some (s, xy) ∧ later = front ++ xy :: back := by
        intro s later hmap
        obtain ⟨⟨s', found⟩, hfound, heq⟩ := Option.map_eq_some_iff.mp hmap
        obtain ⟨rfl, rfl⟩ := Prod.mk.inj heq
        obtain ⟨front, x, y, xy, back, hsymbols, hxy, rfl⟩ := ih hfound
        exact ⟨a :: front, x, y, xy, back, by rw [hsymbols, List.cons_append], hxy, rfl⟩
      have hhere : ∀ {s : Nat} {ab : σ}, merge? a b = some (s, ab) →
          ∃ front x y xy back, a :: b :: rest = front ++ x :: y :: back ∧
            merge? x y = some (s, xy) ∧ ab :: rest = front ++ xy :: back :=
        fun {s ab} hab => ⟨[], a, b, ab, rest, rfl, hab, rfl⟩
      simp only [once] at h
      split at h
      · exact hlater h
      · rename_i hab _
        obtain ⟨rfl, rfl⟩ := Prod.mk.inj (Option.some.inj h)
        exact hhere hab
      · rename_i hab hmap
        split_ifs at h
        · obtain ⟨rfl, rfl⟩ := Prod.mk.inj (Option.some.inj h)
          exact hhere hab
        · obtain ⟨rfl, rfl⟩ := Prod.mk.inj (Option.some.inj h)
          exact hlater hmap

theorem all_keeps {P : List σ → Prop}
    (keeps : ∀ {front back : List σ} {a b ab : σ} {r : Nat}, merge? a b = some (r, ab) →
      P (front ++ a :: b :: back) → P (front ++ ab :: back))
    {symbols : List σ} (h : P symbols) : P (all merge? symbols) := by
  have htimes : ∀ n (symbols : List σ), P symbols → P (times merge? n symbols) := by
    intro n
    induction n with
    | zero => exact fun _ h => h
    | succ n ih =>
      intro symbols h
      rw [times]
      cases honce : once merge? symbols with
      | none => exact h
      | some found =>
        obtain ⟨r, merged⟩ := found
        obtain ⟨front, a, b, ab, back, rfl, hab, rfl⟩ := of_once honce
        exact ih _ (keeps hab h)
  exact htimes _ symbols h

theorem once_none (h : ∀ a b, merge? a b = none) (symbols : List σ) : once merge? symbols = none := by
  induction symbols with
  | nil => rfl
  | cons a symbols ih =>
    cases symbols with
    | nil => rfl
    | cons b rest => simp only [once, h, ih, Option.map_none]

theorem all_none (h : ∀ a b, merge? a b = none) (symbols : List σ) : all merge? symbols = symbols := by
  cases symbols with
  | nil => rfl
  | cons a rest => rw [all, List.length_cons, times, once_none h]

end Merge
end StreamingLM
