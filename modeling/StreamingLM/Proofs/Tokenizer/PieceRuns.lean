import Mathlib.Data.List.Basic
import StreamingLM.Proofs.Text.Utf8
import StreamingLM.Tokenizer.PieceTable

/-!
Pieces that stand for bytes come in runs, and a run is read as a whole. So the text of two lists of
pieces is the text of one behind the other when no run of bytes goes over from the first to the second
in the middle of a character.
-/
namespace StreamingLM
namespace PieceTable

theorem byteText_spell (cs : List Char) : byteText (Utf8.spell cs) = cs := by
  have h : Utf8.decodeStrict (Utf8.spell cs) = .ok (String.ofList cs) :=
    Utf8.decodeStrict_ok.mpr (by rw [Utf8.encode_eq_spell, String.toList_ofList])
  simp only [byteText, h, String.toList_ofList]

theorem byteText_append {bytes more : List Nat} (h : Utf8.Whole bytes) (h' : Utf8.Whole more) :
    byteText (bytes ++ more) = byteText bytes ++ byteText more := by
  obtain ⟨cs, rfl⟩ := h
  obtain ⟨ds, rfl⟩ := h'
  rw [← Utf8.spell_append, byteText_spell, byteText_spell, byteText_spell]

theorem byteText_broken {bytes : List Nat} (h : ¬ Utf8.Whole bytes) :
    byteText bytes = List.replicate bytes.length '\uFFFD' := by
  rw [byteText]
  cases hdecode : Utf8.decodeStrict bytes with
  | error _ => rfl
  | ok text => exact absurd ⟨text.toList, Utf8.decodeStrict_ok.mp hdecode⟩ h

theorem byteText_ne_nil {bytes : List Nat} (h : bytes ≠ []) : byteText bytes ≠ [] := by
  by_cases hwhole : Utf8.Whole bytes
  · obtain ⟨cs, rfl⟩ := hwhole
    rw [byteText_spell]
    rintro rfl
    exact h rfl
  · rw [byteText_broken hwhole]
    simpa using h

def lead : List (List Char) → List Nat
  | [] => []
  | piece :: rest =>
    match byteOf? piece with
    | some b => b :: lead rest
    | none => []

def plain (piece : List Char) : List Char := piece.map fun c => if c = bar then ' ' else c

def behind : List (List Char) → List Char
  | [] => []
  | piece :: rest =>
    match byteOf? piece with
    | some _ => behind rest
    | none => plain piece ++ joinFrom [] rest

/-- The bytes that a list of pieces ends with, behind some others. -/
def openRun : List Nat → List (List Char) → List Nat
  | held, [] => held
  | held, piece :: rest =>
    match byteOf? piece with
    | some b => openRun (held ++ [b]) rest
    | none => openRun [] rest

/-- The text in front of the bytes at the end. -/
def closed : List Nat → List (List Char) → List Char
  | _, [] => []
  | held, piece :: rest =>
    match byteOf? piece with
    | some b => closed (held ++ [b]) rest
    | none => byteText held ++ plain piece ++ closed [] rest

def join (pieces : List (List Char)) : List Char := joinFrom [] pieces

variable {piece : List Char} {pieces more : List (List Char)} {held : List Nat} {b : Nat}

theorem joinFrom_reverse (held : List Nat) (pieces : List (List Char)) :
    joinFrom held.reverse pieces = byteText (held ++ lead pieces) ++ behind pieces := by
  induction pieces generalizing held with
  | nil => simp [joinFrom, lead, behind]
  | cons piece rest ih =>
    cases hbyte : byteOf? piece with
    | some b =>
      have hheld := ih (held ++ [b])
      rw [List.reverse_append, List.reverse_singleton, List.singleton_append] at hheld
      simp only [joinFrom, lead, behind, hbyte, hheld, List.append_assoc, List.singleton_append]
    | none =>
      simp only [joinFrom, lead, behind, hbyte, List.reverse_reverse, List.append_nil, plain,
        List.append_assoc]

theorem join_eq (pieces : List (List Char)) : join pieces = byteText (lead pieces) ++ behind pieces :=
  joinFrom_reverse [] pieces

theorem joinFrom_append (held : List Nat) (pieces more : List (List Char)) :
    joinFrom held.reverse (pieces ++ more) =
      closed held pieces ++ joinFrom (openRun held pieces).reverse more := by
  induction pieces generalizing held with
  | nil => rfl
  | cons piece rest ih =>
    cases hbyte : byteOf? piece with
    | some b =>
      have hheld := ih (held ++ [b])
      rw [List.reverse_append, List.reverse_singleton, List.singleton_append] at hheld
      simp only [List.cons_append, joinFrom, closed, openRun, hbyte, hheld]
    | none =>
      have hrest := ih []
      rw [List.reverse_nil] at hrest
      simp only [List.cons_append, joinFrom, closed, openRun, hbyte, hrest, List.reverse_reverse,
        plain, List.append_assoc]

theorem join_append (pieces more : List (List Char)) :
    join (pieces ++ more) =
      closed [] pieces ++ byteText (openRun [] pieces ++ lead more) ++ behind more := by
  have h := joinFrom_append [] pieces more
  rw [joinFrom_reverse (openRun [] pieces), ← List.append_assoc] at h
  exact h

theorem join_eq_closed (pieces : List (List Char)) :
    join pieces = closed [] pieces ++ byteText (openRun [] pieces) := by
  simpa [lead, behind] using join_append pieces []

theorem join_append_whole (h : lead more = [] ∨
    Utf8.Whole (openRun [] pieces) ∧ Utf8.Whole (lead more)) :
    join (pieces ++ more) = join pieces ++ join more := by
  rw [join_append, join_eq_closed pieces, join_eq more]
  obtain hnone | ⟨hopen, hlead⟩ := h
  · have hempty : byteText [] = [] := byteText_spell []
    simp [hnone, hempty]
  · rw [byteText_append hopen hlead]
    simp only [List.append_assoc]

def Bytes (pieces : List (List Char)) : Prop := ∀ piece ∈ pieces, (byteOf? piece).isSome

theorem openRun_append (held : List Nat) (pieces more : List (List Char)) :
    openRun held (pieces ++ more) = openRun (openRun held pieces) more := by
  induction pieces generalizing held with
  | nil => rfl
  | cons piece rest ih =>
    cases hbyte : byteOf? piece with
    | some b => simp only [List.cons_append, openRun, hbyte, ih]
    | none => simp only [List.cons_append, openRun, hbyte, ih]

theorem openRun_bytes (h : Bytes pieces) (held : List Nat) :
    openRun held pieces = held ++ lead pieces := by
  induction pieces generalizing held with
  | nil => rw [openRun, lead, List.append_nil]
  | cons piece rest ih =>
    obtain ⟨hpiece, hrest⟩ := List.forall_mem_cons.mp h
    obtain ⟨b, hbyte⟩ := Option.isSome_iff_exists.mp hpiece
    simp only [openRun, lead, hbyte, ih hrest, List.append_assoc, List.singleton_append]

theorem openRun_closed (h : ¬ Bytes pieces) (held : List Nat) :
    openRun held pieces = openRun [] pieces := by
  induction pieces generalizing held with
  | nil => simp [Bytes] at h
  | cons piece rest ih =>
    cases hbyte : byteOf? piece with
    | none => simp only [openRun, hbyte]
    | some b =>
      have hrest : ¬ Bytes rest := by simpa [Bytes, hbyte] using h
      simp only [openRun, hbyte, ih hrest]

theorem lead_append (h : ¬ Bytes pieces) (more : List (List Char)) :
    lead (pieces ++ more) = lead pieces := by
  induction pieces with
  | nil => simp [Bytes] at h
  | cons piece rest ih =>
    cases hbyte : byteOf? piece with
    | none => simp only [List.cons_append, lead, hbyte]
    | some b =>
      have hrest : ¬ Bytes rest := by simpa [Bytes, hbyte] using h
      simp only [List.cons_append, lead, hbyte, ih hrest]

theorem closed_bytes (h : Bytes pieces) (held : List Nat) : closed held pieces = [] := by
  induction pieces generalizing held with
  | nil => rfl
  | cons piece rest ih =>
    obtain ⟨hpiece, hrest⟩ := List.forall_mem_cons.mp h
    obtain ⟨b, hbyte⟩ := Option.isSome_iff_exists.mp hpiece
    simp only [closed, hbyte, ih hrest]

theorem join_ne_nil (h : pieces ≠ []) (filled : ∀ piece ∈ pieces, piece ≠ []) :
    join pieces ≠ [] := by
  cases pieces with
  | nil => exact absurd rfl h
  | cons piece rest =>
    rw [join_eq]
    cases hbyte : byteOf? piece with
    | some b =>
      simp only [lead, hbyte]
      exact List.append_ne_nil_of_left_ne_nil (byteText_ne_nil (List.cons_ne_nil _ _)) _
    | none =>
      have hpiece : plain piece ≠ [] := by simpa [plain] using filled piece (by simp)
      simp only [behind, hbyte]
      exact List.append_ne_nil_of_right_ne_nil _ (List.append_ne_nil_of_left_ne_nil hpiece _)

/-- Every run of bytes, the first one behind some others, is made of whole characters. -/
def Runs : List Nat → List (List Char) → Prop
  | held, [] => Utf8.Whole held
  | held, piece :: rest =>
    match byteOf? piece with
    | some b => Runs (held ++ [b]) rest
    | none => Utf8.Whole held ∧ Runs [] rest

theorem Runs.lead (h : Runs held pieces) : Utf8.Whole (held ++ lead pieces) := by
  induction pieces generalizing held with
  | nil => rwa [PieceTable.lead, List.append_nil]
  | cons piece rest ih =>
    cases hbyte : byteOf? piece with
    | some b =>
      simp only [Runs, hbyte] at h
      simpa only [PieceTable.lead, hbyte, List.append_assoc, List.singleton_append] using ih h
    | none =>
      simp only [Runs, hbyte] at h
      simpa only [PieceTable.lead, hbyte, List.append_nil] using h.1

theorem Runs.right (h : Runs held (pieces ++ more)) : Runs (openRun held pieces) more := by
  induction pieces generalizing held with
  | nil => exact h
  | cons piece rest ih =>
    cases hbyte : byteOf? piece with
    | some b =>
      simp only [List.cons_append, Runs, hbyte] at h
      simpa only [openRun, hbyte] using ih h
    | none =>
      simp only [List.cons_append, Runs, hbyte] at h
      simpa only [openRun, hbyte] using ih h.2

theorem Runs.behind {front : List Nat} (whole : Utf8.Whole front) (h : Runs held pieces) :
    Runs (front ++ held) pieces := by
  induction pieces generalizing held with
  | nil => exact whole.append h
  | cons piece rest ih =>
    cases hbyte : byteOf? piece with
    | some b =>
      simp only [Runs, hbyte] at h ⊢
      simpa only [List.append_assoc] using ih h
    | none =>
      simp only [Runs, hbyte] at h ⊢
      exact ⟨whole.append h.1, h.2⟩

theorem Runs.append (h : Runs held pieces) (h' : Runs [] more) : Runs held (pieces ++ more) := by
  induction pieces generalizing held with
  | nil => simpa using Runs.behind h h'
  | cons piece rest ih =>
    cases hbyte : byteOf? piece with
    | some b =>
      simp only [List.cons_append, Runs, hbyte] at h ⊢
      exact ih h
    | none =>
      simp only [List.cons_append, Runs, hbyte] at h ⊢
      exact ⟨h.1, ih h.2⟩

theorem runs_nil : Runs [] [] := Utf8.whole_nil

theorem runs_singleton (h : byteOf? piece = none) : Runs [] [piece] := by
  simp only [Runs, h]
  exact ⟨Utf8.whole_nil, Utf8.whole_nil⟩

theorem runs_bytes {bytes : List Nat} (h : pieces.map byteOf? = bytes.map some)
    (whole : Utf8.Whole (held ++ bytes)) : Runs held pieces := by
  induction pieces generalizing held bytes with
  | nil =>
    obtain rfl : bytes = [] := List.map_eq_nil_iff.mp h.symm
    rwa [List.append_nil] at whole
  | cons piece rest ih =>
    cases bytes with
    | nil => simp at h
    | cons b bytes =>
      rw [List.map_cons, List.map_cons] at h
      obtain ⟨hbyte, hrest⟩ := List.cons.inj h
      simp only [Runs, hbyte]
      exact ih hrest (by simpa using whole)

theorem Runs.replace {a b ab : List Char} {front back : List (List Char)}
    (ha : byteOf? a = none) (hb : byteOf? b = none) (hab : byteOf? ab = none)
    (h : Runs held (front ++ a :: b :: back)) : Runs held (front ++ ab :: back) := by
  induction front generalizing held with
  | nil =>
    simp only [List.nil_append, Runs, ha, hb] at h
    simp only [List.nil_append, Runs, hab]
    exact ⟨h.1, h.2.2⟩
  | cons piece rest ih =>
    cases hbyte : byteOf? piece with
    | some b =>
      simp only [List.cons_append, Runs, hbyte] at h ⊢
      exact ih h
    | none =>
      simp only [List.cons_append, Runs, hbyte] at h ⊢
      exact ⟨h.1, ih h.2⟩

end PieceTable
end StreamingLM
