import Mathlib.Data.List.Basic
import Mathlib.Tactic.IntervalCases
import Std.Data.String.ToNat
import StreamingLM.Proofs.Tokenizer.RankTable

/-!
Rank files: what is written in base 64, line by line, is read back.
-/
namespace StreamingLM
namespace Base64

theorem digit?_digit {n : Nat} (h : n < 64) : digit? (digit n) = some n := by
  have hall : ∀ m : Fin 64, digit? (digit m) = some m.val := by decide
  exact hall ⟨n, h⟩

def Plain (c : Char) : Prop := c.toNat < 0x80 ∧ Property.isBlank c = false

theorem plain_digit {n : Nat} (h : n < 64) : Plain (digit n) := by
  have hall : ∀ m : Fin 64, (digit m).toNat < 0x80 ∧ Property.isBlank (digit m) = false := by decide
  exact hall ⟨n, h⟩

theorem plain_encode {bytes : List Nat} (h : ∀ b ∈ bytes, b < 256) : ∀ c ∈ encode bytes, Plain c := by
  have hpad : Plain '=' := by
    unfold Plain
    decide
  induction bytes using encode.induct with
  | case1 a b c rest ih =>
    simp only [List.forall_mem_cons] at h
    obtain ⟨ha, hb, hc, hrest⟩ := h
    simp only [encode, List.forall_mem_append, List.forall_mem_cons]
    exact ⟨⟨plain_digit (by omega), plain_digit (by omega), plain_digit (by omega),
      plain_digit (by omega), by simp⟩, ih hrest⟩
  | case2 a b =>
    simp only [List.forall_mem_cons] at h
    obtain ⟨ha, hb, -⟩ := h
    simp only [encode, List.forall_mem_cons]
    exact ⟨plain_digit (by omega), plain_digit (by omega), plain_digit (by omega), hpad, by simp⟩
  | case3 a =>
    simp only [List.forall_mem_cons] at h
    simp only [encode, List.forall_mem_cons]
    exact ⟨plain_digit (by omega), plain_digit (by omega), hpad, hpad, by simp⟩
  | case4 => simp [encode]

theorem decode_encode {bytes : List Nat} (h : ∀ b ∈ bytes, b < 256) :
    decode (encode bytes) = some bytes := by
  rw [decode]
  induction bytes using encode.induct with
  | case1 a b c rest ih =>
    simp only [List.forall_mem_cons] at h
    obtain ⟨ha, hb, hc, hrest⟩ := h
    have h1 := digit?_digit (n := a / 4) (by omega)
    have h2 := digit?_digit (n := a % 4 * 16 + b / 16) (by omega)
    have h3 := digit?_digit (n := b % 16 * 4 + c / 64) (by omega)
    have h4 := digit?_digit (n := c % 64) (by omega)
    have hgroup : group [a / 4, a % 4 * 16 + b / 16, b % 16 * 4 + c / 64, c % 64] = [a, b, c] := by
      simp only [group, List.cons.injEq, and_true]
      omega
    simp [encode, decodeFrom, h1, h2, h3, h4, ih hrest, hgroup]
  | case2 a b =>
    simp only [List.forall_mem_cons] at h
    obtain ⟨ha, hb, -⟩ := h
    have h1 := digit?_digit (n := a / 4) (by omega)
    have h2 := digit?_digit (n := a % 4 * 16 + b / 16) (by omega)
    have h3 := digit?_digit (n := b % 16 * 4) (by omega)
    have hpad : digit? '=' = none := by decide
    have hgroup : group [a / 4, a % 4 * 16 + b / 16, b % 16 * 4] = [a, b] := by
      simp only [group, List.cons.injEq, and_true]
      omega
    simp [encode, decodeFrom, h1, h2, h3, hpad, hgroup]
  | case3 a =>
    simp only [List.forall_mem_cons] at h
    have h1 := digit?_digit (n := a / 4) (by omega)
    have h2 := digit?_digit (n := a % 4 * 16) (by omega)
    have hpad : digit? '=' = none := by decide
    have hgroup : group [a / 4, a % 4 * 16] = [a] := by
      simp only [group, List.cons.injEq, and_true]
      omega
    simp [encode, decodeFrom, h1, h2, hpad, hgroup]
  | case4 => rfl

end Base64

theorem wordsFrom_append {word : List Char} (h : ∀ c ∈ word, Property.isBlank c = false)
    (held rest : List Char) :
    wordsFrom held (word ++ rest) = wordsFrom (word.reverse ++ held) rest := by
  induction word generalizing held with
  | nil => rfl
  | cons c word ih =>
    rw [List.forall_mem_cons] at h
    rw [List.cons_append, wordsFrom, h.1, if_neg Bool.false_ne_true, ih h.2, List.reverse_cons,
      List.append_assoc, List.singleton_append]

theorem wordsFrom_pair {a b : List Char} (ha : ∀ c ∈ a, Property.isBlank c = false)
    (hb : ∀ c ∈ b, Property.isBlank c = false) (nea : a ≠ []) (neb : b ≠ []) :
    wordsFrom [] (a ++ ' ' :: b) = [a, b] := by
  have hspace : Property.isBlank ' ' = true := by decide
  have hlast := wordsFrom_append hb [] []
  rw [wordsFrom_append ha, wordsFrom, hspace, if_pos rfl]
  rw [List.append_nil] at hlast
  simp [hlast, wordsFrom, nea, neb]

namespace RankTable

def line (e : List Nat × Nat) : List Char := Base64.encode e.1 ++ ' ' :: Nat.toDigits 10 e.2

def fileOf (entries : List (List Nat × Nat)) : List Nat :=
  (entries.flatMap fun e => line e ++ ['\n']).map Char.toNat

def Written (e : List Nat × Nat) : Prop := e.1 ≠ [] ∧ ∀ b ∈ e.1, b < 256

theorem linesFrom_line {line : List Char} (h : ∀ c ∈ line, c ≠ '\n' ∧ c ≠ '\r')
    (held rest : List Char) :
    linesFrom held (line ++ '\n' :: rest) = (held.reverse ++ line) :: linesFrom [] rest := by
  induction line generalizing held with
  | nil => simp [linesFrom]
  | cons c line ih =>
    rw [List.forall_mem_cons] at h
    rw [List.cons_append, linesFrom, if_neg (by simpa using h.1), ih h.2, List.reverse_cons,
      List.append_assoc, List.singleton_append]
    rintro more rfl
    exact absurd rfl h.1.2

theorem digit_plain {n : Nat} : ∀ c ∈ Nat.toDigits 10 n, Base64.Plain c := by
  intro c hc
  have hdigit := Nat.isDigit_of_mem_toDigits (by decide) (by decide) hc
  have hrange : 48 ≤ c.toNat ∧ c.toNat ≤ 57 := Char.isDigit_iff_toNat.mp hdigit
  refine ⟨by omega, ?_⟩
  simp only [Property.isBlank, Property.isWhite, Bool.or_eq_false_iff, Bool.and_eq_false_iff,
    decide_eq_false_iff_not, beq_eq_false_iff_ne]
  omega

theorem digits_ne_nil (n : Nat) : Nat.toDigits 10 n ≠ [] := Nat.toDigits_ne_nil

theorem plain_line {e : List Nat × Nat} (h : Written e) :
    ∀ c ∈ line e, c.toNat < 0x80 ∧ c ≠ '\n' ∧ c ≠ '\r' := by
  have hplain : ∀ {c : Char}, Base64.Plain c → c.toNat < 0x80 ∧ c ≠ '\n' ∧ c ≠ '\r' := by
    rintro c ⟨hc, hblank⟩
    refine ⟨hc, ?_, ?_⟩ <;>
      · rintro rfl
        exact absurd hblank (by decide)
  intro c hc
  rw [line, List.mem_append, List.mem_cons] at hc
  obtain hc | rfl | hc := hc
  · exact hplain (Base64.plain_encode h.2 c hc)
  · decide
  · exact hplain (digit_plain c hc)

theorem linesFrom_entries {entries : List (List Nat × Nat)} (h : ∀ e ∈ entries, Written e) :
    linesFrom [] (entries.flatMap fun e => line e ++ ['\n']) = entries.map line := by
  induction entries with
  | nil => rfl
  | cons e entries ih =>
    rw [List.forall_mem_cons] at h
    rw [List.flatMap_cons, List.append_assoc, List.singleton_append,
      linesFrom_line fun c hc => (plain_line h.1 c hc).2, ih h.2, List.reverse_nil, List.nil_append,
      List.map_cons]

theorem readEntry_line {e : List Nat × Nat} (h : Written e) : readEntry (line e) = .ok e := by
  have hwords : wordsFrom [] (line e) = [Base64.encode e.1, Nat.toDigits 10 e.2] := by
    refine wordsFrom_pair (fun c hc => (Base64.plain_encode h.2 c hc).2)
      (fun c hc => (digit_plain c hc).2) ?_ (digits_ne_nil e.2)
    obtain ⟨bytes, r⟩ := e
    match bytes, h.1 with
    | [a], _ => simp [Base64.encode]
    | [a, b], _ => simp [Base64.encode]
    | a :: b :: c :: rest, _ => simp [Base64.encode]
  have hrank : (String.ofList (Nat.toDigits 10 e.2)).toNat? = some e.2 := by
    rw [← Nat.toList_repr, String.ofList_toList, Nat.toNat?_repr]
  simp only [readEntry, hwords, Base64.decode_encode h.2, hrank]

theorem entriesOf_fileOf {entries : List (List Nat × Nat)} (h : ∀ e ∈ entries, Written e) :
    entriesOf (fileOf entries) = .ok entries := by
  have hchars : (fileOf entries).map Char.ofNat = entries.flatMap fun e => line e ++ ['\n'] := by
    rw [fileOf, List.map_map]
    exact List.map_id'' (fun c => Char.ofNat_toNat c) _
  have hfilled : (entries.map line).filter (!·.isEmpty) = entries.map line := by
    refine List.filter_eq_self.mpr fun cs hcs => ?_
    obtain ⟨e, -, rfl⟩ := List.mem_map.mp hcs
    simp [line]
  rw [entriesOf, hchars, linesFrom_entries h, hfilled, Outcome.mapM_eq_ok,
    List.forall₂_map_left_iff, List.forall₂_same]
  exact fun e he => readEntry_line (h e he)

/-- A rank file is read as the table of its entries. -/
theorem ofFile_fileOf {entries : List (List Nat × Nat)} (h : ∀ e ∈ entries, Written e) :
    ofFile (fileOf entries) = .ok (ofEntries entries) := by
  rw [ofFile, entriesOf_fileOf h]
  rfl

theorem file_eq {pieces : List (List Nat)} (h : ∀ e ∈ pieces.zipIdx, Written e) :
    file pieces = fileOf pieces.zipIdx := by
  have hfile : file pieces = Utf8.encode (String.join (pieces.zipIdx.map fun e =>
      String.ofList (Base64.encode e.1) ++ " " ++ toString e.2 ++ "\n")) := rfl
  have hjoin : ∀ entries : List (List Nat × Nat), (String.join (entries.map fun e =>
      String.ofList (Base64.encode e.1) ++ " " ++ toString e.2 ++ "\n")).toList =
      entries.flatMap fun e => line e ++ ['\n'] := by
    intro entries
    induction entries with
    | nil => simp
    | cons e entries ih =>
      rw [List.map_cons, String.join_cons, String.toList_append, ih, List.flatMap_cons]
      simp [line]
  have hascii : ∀ c ∈ pieces.zipIdx.flatMap (fun e => line e ++ ['\n']), c.toNat < 0x80 := by
    intro c hc
    obtain ⟨e, he, hc⟩ := List.mem_flatMap.mp hc
    obtain hc | hc := List.mem_append.mp hc
    · exact (plain_line (h e he) c hc).1
    · rw [List.mem_singleton.mp hc]
      decide
  rw [hfile, Utf8.encode_eq_spell, hjoin, Utf8.spell_ascii hascii, fileOf]

end RankTable
end StreamingLM
