import StreamingLM.Proofs.Tokenizer.Cutting
import StreamingLM.Proofs.Tokenizer.PieceRuns

/-!
The tokens of a text under a merging table: whatever pairs are merged, the tokens that stand for bytes
spell whole characters.
-/
namespace StreamingLM
namespace Vocabulary

def Knows (v : Vocabulary) (id : Int) : Prop := ∃ piece, v.pieces[id]? = some piece ∧ piece ≠ ""

def Plain (v : Vocabulary) (id : Int) : Prop :=
  ∃ piece, v.pieces[id]? = some piece ∧ piece ≠ "" ∧ PieceTable.byteOf? piece.toList = none

def spelling (v : Vocabulary) (id : Int) : List Char := (v.pieces[id]?.getD "").toList

variable {v : Vocabulary} {id : Int} {ids more : List Int} {piece : String}

theorem spelling_eq (h : v.pieces[id]? = some piece) : v.spelling id = piece.toList := by
  rw [spelling, h, Option.getD_some]

theorem Plain.knows (h : v.Plain id) : v.Knows id := by
  obtain ⟨piece, hpiece, hne, -⟩ := h
  exact ⟨piece, hpiece, hne⟩

theorem Plain.spelling (h : v.Plain id) : PieceTable.byteOf? (v.spelling id) = none := by
  obtain ⟨piece, hpiece, -, hplain⟩ := h
  rw [spelling_eq hpiece, hplain]

theorem Knows.spelling_ne_nil (h : v.Knows id) : v.spelling id ≠ [] := by
  obtain ⟨piece, hpiece, hne⟩ := h
  rw [spelling_eq hpiece]
  exact fun hnil => hne (String.toList_eq_nil_iff.mp hnil)

theorem piecesOf_eq (known : ∀ id ∈ ids, v.Knows id) :
    (v.piecesOf ids).map String.toList = ids.map v.spelling := by
  induction ids with
  | nil => rfl
  | cons id ids ih =>
    obtain ⟨⟨piece, hpiece, -⟩, hrest⟩ := List.forall_mem_cons.mp known
    rw [piecesOf] at ih ⊢
    rw [List.filterMap_cons_some hpiece, List.map_cons, List.map_cons, ih hrest,
      spelling_eq hpiece]

/-- Known tokens, those for bytes in whole characters. -/
def Clear (v : Vocabulary) (ids : List Int) : Prop :=
  (∀ id ∈ ids, v.Knows id) ∧ PieceTable.Runs [] (ids.map v.spelling)

theorem clear_nil : v.Clear [] := ⟨by simp, PieceTable.runs_nil⟩

theorem Plain.clear (h : v.Plain id) : v.Clear [id] :=
  ⟨by simpa using h.knows, PieceTable.runs_singleton h.spelling⟩

theorem Clear.append (h : v.Clear ids) (h' : v.Clear more) : v.Clear (ids ++ more) := by
  refine ⟨fun id hid => ?_, ?_⟩
  · obtain hid | hid := List.mem_append.mp hid
    · exact h.1 id hid
    · exact h'.1 id hid
  · rw [List.map_append]
    exact h.2.append h'.2

theorem clear_flatMap {α : Type} {xs : List α} {f : α → List Int} (h : ∀ x ∈ xs, v.Clear (f x)) :
    v.Clear (xs.flatMap f) := by
  induction xs with
  | nil => exact clear_nil
  | cons x xs ih =>
    obtain ⟨hx, hrest⟩ := List.forall_mem_cons.mp h
    rw [List.flatMap_cons]
    exact hx.append (ih hrest)

end Vocabulary

namespace PieceTable

/-- Pieces lead back to their tokens, and all that is merged, marked or unknown stands for its own
text. -/
structure Sound (v : Vocabulary) (merges : Std.HashMap (Int × Int) (Nat × Int))
    (unknown : Option Int) (markers : List (List Char × Int)) : Prop where
  named : ∀ {piece : String} {id : Int}, v.ids[piece]? = some id → v.pieces[id]? = some piece
  unknown : ∀ id ∈ unknown, v.Plain id
  markers : ∀ m ∈ markers, v.Plain m.2
  merged : ∀ {a b ab : Int} {r : Nat}, merges[(a, b)]? = some (r, ab) →
    v.Plain a ∧ v.Plain b ∧ v.Plain ab

theorem hexValue?_hexDigit {n : Nat} (h : n < 16) : hexValue? (hexDigit n) = some n := by
  have hall : ∀ m : Fin 16, hexValue? (hexDigit m) = some m.val := by decide
  exact hall ⟨n, h⟩

theorem toList_bytePiece (b : Nat) :
    (bytePiece b).toList = ['<', '0', 'x', hexDigit (b / 16), hexDigit (b % 16), '>'] := by
  simp [bytePiece, toString]

theorem byteOf?_bytePiece {b : Nat} (h : b < 256) : byteOf? (bytePiece b).toList = some b := by
  have hvalue : 16 * (b / 16) + b % 16 = b := Nat.div_add_mod b 16
  rw [toList_bytePiece]
  simp only [byteOf?, hexValue?_hexDigit (show b / 16 < 16 by omega),
    hexValue?_hexDigit (Nat.mod_lt b (by decide)), hvalue]

theorem byteOf?_toString (c : Char) : byteOf? c.toString.toList = none := by
  rw [Char.toString, String.toList_singleton, byteOf?]
  intro a b h
  simp at h

namespace Sound

variable {v : Vocabulary} {merges : Std.HashMap (Int × Int) (Nat × Int)} {unknown : Option Int}
  {markers : List (List Char × Int)}

theorem fallback (h : Sound v merges unknown markers) {bytes : List Nat} (lt : ∀ b ∈ bytes, b < 256)
    {ids : List Int} (found : bytes.mapM (fun b => v.ids[bytePiece b]?) = some ids) :
    (∀ id ∈ ids, v.Knows id) ∧ (ids.map v.spelling).map byteOf? = bytes.map some := by
  induction bytes generalizing ids with
  | nil =>
    obtain rfl : [] = ids := by simpa using found
    simp
  | cons b bytes ih =>
    obtain ⟨hb, hrest⟩ := List.forall_mem_cons.mp lt
    cases hid : v.ids[bytePiece b]? with
    | none => simp [hid] at found
    | some id =>
      cases hmore : bytes.mapM (fun b => v.ids[bytePiece b]?) with
      | none => simp [hid, hmore] at found
      | some more =>
        obtain rfl : id :: more = ids := by simpa [hid, hmore] using found
        obtain ⟨hknown, hspelled⟩ := ih hrest hmore
        have hpiece := h.named hid
        have hbyte := byteOf?_bytePiece hb
        refine ⟨List.forall_mem_cons.mpr ⟨⟨_, hpiece, ?_⟩, hknown⟩, ?_⟩
        · intro hempty
          rw [hempty] at hbyte
          cases hbyte
        · rw [List.map_cons, List.map_cons, List.map_cons, hspelled,
            Vocabulary.spelling_eq hpiece, hbyte]

theorem symbols? (h : Sound v merges unknown markers) {byteFallback : Bool} {c : Char}
    {ids : List Int} (found : symbols? v byteFallback c = some ids) : v.Clear ids := by
  rw [PieceTable.symbols?] at found
  cases hid : v.ids[c.toString]? with
  | some id =>
    simp only [hid, Option.some.injEq] at found
    subst found
    exact Vocabulary.Plain.clear ⟨_, h.named hid, by simp [Char.toString], byteOf?_toString c⟩
  | none =>
    cases byteFallback with
    | false => simp only [hid, Bool.false_eq_true, if_false, reduceCtorEq] at found
    | true =>
      simp only [hid, if_true] at found
      obtain ⟨hknown, hspelled⟩ := h.fallback (Utf8.encodePoint_lt c) found
      exact ⟨hknown, runs_bytes hspelled ⟨[c], by simp⟩⟩

theorem symbols (h : Sound v merges unknown markers) (byteFallback afterUnknown : Bool)
    (cs : List Char) : v.Clear (symbols v byteFallback unknown afterUnknown cs) := by
  induction cs generalizing afterUnknown with
  | nil => exact Vocabulary.clear_nil
  | cons c rest ih =>
    rw [PieceTable.symbols]
    cases hfound : PieceTable.symbols? v byteFallback c with
    | some ids => exact (h.symbols? hfound).append (ih false)
    | none =>
      refine Vocabulary.Clear.append ?_ (ih true)
      cases afterUnknown with
      | true => exact Vocabulary.clear_nil
      | false =>
        cases hunknown : unknown with
        | none => exact Vocabulary.clear_nil
        | some id => exact (h.unknown id hunknown).clear

theorem merged_clear (h : Sound v merges unknown markers) {ids : List Int} (clear : v.Clear ids) :
    v.Clear (Merge.all (fun a b => merges[(a, b)]?) ids) := by
  refine Merge.all_keeps (P := v.Clear) ?_ clear
  intro front back a b ab r hab hkept
  obtain ⟨ha, hb, hmerged⟩ := h.merged hab
  refine ⟨fun id hid => ?_, ?_⟩
  · obtain hid | hid := List.mem_append.mp hid
    · exact hkept.1 id (by simp [hid])
    · obtain rfl | hid := List.mem_cons.mp hid
      · exact hmerged.knows
      · exact hkept.1 id (by simp [hid])
  · have hruns := hkept.2
    rw [List.map_append, List.map_cons, List.map_cons] at hruns
    rw [List.map_append, List.map_cons]
    exact hruns.replace ha.spelling hb.spelling hmerged.spelling

theorem encode (h : Sound v merges unknown markers) (byteFallback : Bool) (text : String) :
    ∃ ids, (merging v merges byteFallback unknown markers).encode text = .ok ids ∧ v.Clear ids := by
  refine ⟨_, rfl, Vocabulary.clear_flatMap fun span hspan => ?_⟩
  cases span with
  | marker id =>
    obtain ⟨m, hm, rfl⟩ := Span.mem_cut hspan
    exact (h.markers m hm).clear
  | text cs => exact h.merged_clear (h.symbols byteFallback false _)

end Sound

/-- A sound table of the merging kind, with its vocabulary. -/
def Merging (t : PieceTable) (v : Vocabulary) : Prop :=
  ∃ merges byteFallback unknown markers, t = merging v merges byteFallback unknown markers ∧
    Sound v merges unknown markers

theorem Merging.encode {t : PieceTable} {v : Vocabulary} (h : t.Merging v) (text : String) :
    ∃ ids, t.encode text = .ok ids ∧ v.Clear ids := by
  obtain ⟨merges, byteFallback, unknown, markers, rfl, sound⟩ := h
  exact sound.encode byteFallback text

end PieceTable
end StreamingLM
