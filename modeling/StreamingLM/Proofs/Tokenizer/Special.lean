import Mathlib.Data.List.Infix
import Mathlib.Data.List.Nodup
import StreamingLM.Tokenizer.RankTable

/-!
The texts of the special tokens: all different, each between brackets of its own, so that none begins
inside another and none is the beginning of another.
-/
namespace StreamingLM
namespace RankTable

/-- A special token stands between brackets and holds no others. -/
def Bracketed (cs : List Char) : Prop :=
  ∃ inner, cs = '<' :: inner ++ ['>'] ∧ '<' ∉ inner ∧ '>' ∉ inner

def reservedFront : List Char := "<|reserved_special_token_".toList

def reservedName (n : Nat) : String := s!"<|reserved_special_token_{n}|>"

theorem specials_eq : specials =
    namedSpecials ++ (List.range (256 - namedSpecials.length)).map fun i => reservedName (i + 2) := rfl

theorem toList_reservedName (n : Nat) :
    (reservedName n).toList = reservedFront ++ (Nat.toDigits 10 n ++ ['|', '>']) := by
  have hname : reservedName n = "<|reserved_special_token_" ++ toString n ++ "|>" := rfl
  have hdigits : (toString n).toList = Nat.toDigits 10 n := Nat.toList_repr
  rw [hname, String.toList_append, String.toList_append, List.append_assoc, hdigits]
  rfl

theorem reservedName_injective : Function.Injective reservedName := by
  intro m n h
  have hlists := congrArg String.toList h
  rw [toList_reservedName, toList_reservedName] at hlists
  have hdigits := List.append_cancel_right (List.append_cancel_left hlists)
  rw [← Nat.ofDigitChars_ten_toDigits (n := m), hdigits, Nat.ofDigitChars_ten_toDigits]

theorem namedSpecials_reserved : ∀ name ∈ namedSpecials,
    name = reservedName 0 ∨ name = reservedName 1 ∨ ¬reservedFront <+: name.toList := by
  decide

theorem specials_nodup : specials.Nodup := by
  rw [specials_eq, List.nodup_append]
  refine ⟨by decide, ?_, fun name hname other hother => ?_⟩
  · exact List.nodup_range.map fun i j h => Nat.add_right_cancel (reservedName_injective h)
  · obtain ⟨i, -, rfl⟩ := List.mem_map.mp hother
    rintro rfl
    obtain h | h | h := namedSpecials_reserved _ hname
    · exact absurd (reservedName_injective h) (by omega)
    · exact absurd (reservedName_injective h) (by omega)
    · exact h ⟨_, (toList_reservedName _).symm⟩

theorem named_bracketed : ∀ name ∈ namedSpecials, Bracketed name.toList := by
  have hnamed : ∀ name ∈ namedSpecials, name.toList =
      '<' :: name.toList.tail.dropLast ++ ['>'] ∧ '<' ∉ name.toList.tail.dropLast ∧
        '>' ∉ name.toList.tail.dropLast := by decide
  exact fun name h => ⟨_, hnamed name h⟩

theorem front_bracketed : reservedFront = '<' :: reservedFront.tail ∧ '<' ∉ reservedFront.tail ∧
    '>' ∉ reservedFront.tail := by
  decide

theorem special_bracketed {name : String} (h : name ∈ specials) : Bracketed name.toList := by
  rw [specials_eq] at h
  obtain hname | hname := List.mem_append.mp h
  · exact named_bracketed name hname
  · obtain ⟨i, -, rfl⟩ := List.mem_map.mp hname
    have hdigits : ∀ c : Char, c.isDigit = false → c ∉ Nat.toDigits 10 (i + 2) := by
      intro c hc hmem
      rw [Nat.isDigit_of_mem_toDigits (by decide) (by decide) hmem] at hc
      cases hc
    obtain ⟨hfront, hopen, hclose⟩ := front_bracketed
    refine ⟨reservedFront.tail ++ (Nat.toDigits 10 (i + 2) ++ ['|']), ?_, ?_, ?_⟩
    · rw [toList_reservedName]
      nth_rewrite 1 [hfront]
      simp only [List.cons_append, List.append_assoc, List.nil_append]
    · simp [hopen, hdigits '<' (by decide)]
    · simp [hclose, hdigits '>' (by decide)]

theorem Bracketed.eq_of_begins {cs ds rest : List Char} (hc : Bracketed cs) (hd : Bracketed ds)
    (front : cs <+: rest) (other : ds <+: rest) : cs = ds := by
  have hbegins : ∀ {cs ds : List Char}, Bracketed cs → Bracketed ds → cs <+: ds → cs = ds := by
    rintro _ _ ⟨a, rfl, -, -⟩ ⟨b, rfl, -, hb⟩ ⟨after, h⟩
    have hlists : b ++ '>' :: [] = a ++ '>' :: after := by
      simpa using h.symm
    obtain ⟨rfl, -, -⟩ := (List.append_cons_inj_of_notMem hb (by simp)).mp hlists
    rfl
  obtain h | h := List.prefix_or_prefix_of_prefix front other
  · exact hbegins hc hd h
  · exact (hbegins hd hc h).symm

end RankTable
end StreamingLM
