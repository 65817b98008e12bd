import StreamingLM.Proofs.Entries
import StreamingLM.Proofs.Outcome
import StreamingLM.Proofs.Tokenizer.PieceTable

/-!
Tokenizer files of pieces: what is read from one is a sound table.
-/
namespace StreamingLM
namespace Vocabulary

theorem ofEntries_eq (entries : List (String × Int)) :
    ofEntries entries =
      { ids := entries.foldl (fun t e => t.insert e.1 e.2) {}
        pieces := (entries.map Prod.swap).foldl (fun t e => t.insert e.1 e.2) {} } := by
  have hfold : ∀ (entries : List (String × Int)) (v : Vocabulary),
      entries.foldl (fun v e => v.insert e.1 e.2) v =
        { ids := entries.foldl (fun t e => t.insert e.1 e.2) v.ids
          pieces := (entries.map Prod.swap).foldl (fun t e => t.insert e.1 e.2) v.pieces } := by
    intro entries
    induction entries with
    | nil => exact fun _ => rfl
    | cons e entries ih => exact fun v => ih (v.insert e.1 e.2)
  exact hfold entries {}

def Lists (v : Vocabulary) (entries : List (String × Int)) : Prop :=
  Holds v.ids entries ∧ Holds v.pieces (entries.map Prod.swap)

theorem lists_ofEntries {entries : List (String × Int)} (pieces : (entries.map Prod.fst).Nodup)
    (ids : (entries.map Prod.snd).Nodup) : (ofEntries entries).Lists entries := by
  rw [ofEntries_eq]
  refine ⟨Holds.empty.foldl pieces, Holds.empty.foldl ?_⟩
  rwa [List.nil_append, List.map_map]

end Vocabulary

namespace PieceTable

/-- The pieces of a tokenizer file with byte fallback, in the order of their ids. -/
def filePieces (pieces : List String) : List String :=
  specials ++ (List.range 256).map bytePiece ++ pieces

def fileEntries (pieces : List String) : List (String × Int) :=
  (filePieces pieces).zipIdx.map fun (piece, id) => (piece, (id : Int))

def fileVocabulary (pieces : List String) : Vocabulary := .ofEntries (fileEntries pieces)

def fileMarkers : List (List Char × Int) :=
  specials.zipIdx.map fun (piece, id) => (piece.toList, (id : Int))

/-- Pieces that make a tokenizer file: distinct ones that stand for their own text, and merges of some
of them into others. -/
structure Listed (pieces : List String) (merges : List (String × String)) : Prop where
  distinct : (specials ++ pieces).Nodup
  plain : ∀ piece ∈ pieces, piece ≠ "" ∧ byteOf? piece.toList = none
  merged : ∀ m ∈ merges, m.1 ∈ pieces ∧ m.2 ∈ pieces ∧ m.1 ++ m.2 ∈ pieces

variable {pieces : List String} {merges : List (String × String)}

theorem specials_plain : ∀ piece ∈ specials, piece ≠ "" ∧ byteOf? piece.toList = none := by
  decide

theorem mem_fileEntries {piece : String} {id : Int} :
    (piece, id) ∈ fileEntries pieces ↔ ∃ i : Nat, id = i ∧ (filePieces pieces)[i]? = some piece := by
  constructor
  · intro h
    obtain ⟨⟨p, i⟩, hmem, heq⟩ := List.mem_map.mp h
    obtain ⟨rfl, rfl⟩ := Prod.mk.inj heq
    exact ⟨i, rfl, List.mem_zipIdx_iff_getElem?.mp hmem⟩
  · rintro ⟨i, rfl, hi⟩
    exact List.mem_map.mpr ⟨(piece, i), List.mem_zipIdx_iff_getElem?.mpr hi, rfl⟩

theorem nodup_bytePieces : ((List.range 256).map bytePiece).Nodup := by
  refine List.Nodup.map_on (fun b hb c hc h => ?_) List.nodup_range
  have hbyte := byteOf?_bytePiece (List.mem_range.mp hb)
  rw [h, byteOf?_bytePiece (List.mem_range.mp hc)] at hbyte
  exact (Option.some.inj hbyte).symm

theorem Listed.nodup (h : Listed pieces merges) : (filePieces pieces).Nodup := by
  obtain ⟨hspecials, hpieces, hdisjoint⟩ := List.nodup_append'.mp h.distinct
  have hbytes : ∀ piece ∈ (List.range 256).map bytePiece, byteOf? piece.toList ≠ none := by
    intro piece hpiece
    obtain ⟨b, hb, rfl⟩ := List.mem_map.mp hpiece
    rw [byteOf?_bytePiece (List.mem_range.mp hb)]
    exact Option.some_ne_none b
  rw [filePieces, List.append_assoc]
  refine hspecials.append (nodup_bytePieces.append hpieces ?_) ?_
  · exact fun piece hbyte hplain => hbytes piece hbyte (h.plain piece hplain).2
  · intro piece hspecial hmem
    obtain hbyte | hpiece := List.mem_append.mp hmem
    · exact hbytes piece hbyte (specials_plain piece hspecial).2
    · exact hdisjoint hspecial hpiece

theorem Listed.lists (h : Listed pieces merges) :
    (fileVocabulary pieces).Lists (fileEntries pieces) := by
  refine Vocabulary.lists_ofEntries ?_ ?_
  · have hfst : (fileEntries pieces).map Prod.fst = filePieces pieces := by
      rw [fileEntries, List.map_map]
      exact List.zipIdx_map_fst _ _
    rw [hfst]
    exact h.nodup
  · have hsnd : (fileEntries pieces).map Prod.snd =
        (List.range (filePieces pieces).length).map fun (i : Nat) => (i : Int) := by
      rw [fileEntries, List.map_map, List.range_eq_range', ← List.zipIdx_map_snd 0, List.map_map]
      rfl
    rw [hsnd]
    exact List.nodup_range.map fun i j hij => Int.ofNat.inj hij

theorem Listed.ids (h : Listed pieces merges) {piece : String} {id : Int} :
    (fileVocabulary pieces).ids[piece]? = some id ↔
      ∃ i : Nat, id = i ∧ (filePieces pieces)[i]? = some piece :=
  (h.lists.1.found _ _).trans mem_fileEntries

theorem Listed.named (h : Listed pieces merges) {piece : String} {id : Int}
    (found : (fileVocabulary pieces).ids[piece]? = some id) :
    (fileVocabulary pieces).pieces[id]? = some piece :=
  (h.lists.2.found _ _).mpr (List.mem_map.mpr ⟨_, (h.lists.1.found _ _).mp found, rfl⟩)

theorem Listed.plain_id (h : Listed pieces merges) {piece : String} {id : Int}
    (found : (fileVocabulary pieces).ids[piece]? = some id)
    (plain : piece ≠ "" ∧ byteOf? piece.toList = none) : (fileVocabulary pieces).Plain id :=
  ⟨piece, h.named found, plain⟩

theorem Listed.special (h : Listed pieces merges) {piece : String} {i : Nat}
    (found : specials[i]? = some piece) : (fileVocabulary pieces).ids[piece]? = some (i : Int) := by
  obtain ⟨hi, -⟩ := List.getElem?_eq_some_iff.mp found
  refine h.ids.mpr ⟨i, rfl, ?_⟩
  rw [filePieces, List.append_assoc, List.getElem?_append_left hi, found]

theorem Listed.byte (h : Listed pieces merges) {b : Nat} (hb : b < 256) :
    (fileVocabulary pieces).ids[bytePiece b]? = some ((3 + b : Nat) : Int) := by
  have hspecials : specials.length = 3 := rfl
  refine h.ids.mpr ⟨_, rfl, ?_⟩
  rw [filePieces, List.append_assoc, List.getElem?_append_right (by omega), hspecials,
    Nat.add_sub_cancel_left, List.getElem?_append_left (by simpa using hb), List.getElem?_map,
    List.getElem?_range hb]
  rfl

theorem Listed.piece (h : Listed pieces merges) {piece : String} {i : Nat}
    (found : pieces[i]? = some piece) :
    (fileVocabulary pieces).ids[piece]? = some ((259 + i : Nat) : Int) := by
  have hbefore : (specials ++ (List.range 256).map bytePiece).length = 259 := by
    rw [List.length_append, List.length_map, List.length_range]
    rfl
  refine h.ids.mpr ⟨_, rfl, ?_⟩
  rw [filePieces, List.getElem?_append_right (by omega), hbefore, Nat.add_sub_cancel_left, found]

theorem Listed.absent (h : Listed pieces merges) {piece : String} (special : piece ∉ specials)
    (byte : byteOf? piece.toList = none) (listed : piece ∉ pieces) :
    (fileVocabulary pieces).ids[piece]? = none := by
  cases hid : (fileVocabulary pieces).ids[piece]? with
  | none => rfl
  | some id =>
    obtain ⟨i, -, hi⟩ := h.ids.mp hid
    have hmem := List.mem_of_getElem? hi
    rw [filePieces, List.append_assoc, List.mem_append, List.mem_append] at hmem
    obtain hspecial | hbyte | hlisted := hmem
    · exact absurd hspecial special
    · obtain ⟨b, hb, rfl⟩ := List.mem_map.mp hbyte
      rw [byteOf?_bytePiece (List.mem_range.mp hb)] at byte
      cases byte
    · exact absurd hlisted listed

def rankedMerges (found : List ((Int × Int) × Int)) : Std.HashMap (Int × Int) (Nat × Int) :=
  found.zipIdx.foldl (fun m ((pair, id), rank) => m.insert pair (rank, id)) {}

theorem mem_of_rankedMerges {found : List ((Int × Int) × Int)} {pair : Int × Int} {r : Nat} {ab : Int}
    (h : (rankedMerges found)[pair]? = some (r, ab)) : (pair, ab) ∈ found := by
  have hfold : ∀ (ranked : List (((Int × Int) × Int) × Nat))
      (m : Std.HashMap (Int × Int) (Nat × Int)),
      (ranked.foldl (fun m ((pair, id), rank) => m.insert pair (rank, id)) m)[pair]? =
        some (r, ab) → m[pair]? = some (r, ab) ∨ ((pair, ab), r) ∈ ranked := by
    intro ranked
    induction ranked with
    | nil => exact fun _ h => .inl h
    | cons e ranked ih =>
      intro m hm
      obtain hm | hmem := ih _ hm
      · rw [Std.HashMap.getElem?_insert] at hm
        by_cases hkey : e.1.1 = pair
        · subst hkey
          rw [if_pos (beq_self_eq_true _)] at hm
          obtain ⟨rfl, rfl⟩ := Prod.mk.inj (Option.some.inj hm)
          exact .inr (List.mem_cons_self ..)
        · rw [if_neg (by simpa using hkey)] at hm
          exact .inl hm
      · exact .inr (List.mem_cons_of_mem _ hmem)
  obtain hnone | hmem := hfold _ _ h
  · simp at hnone
  · exact List.fst_mem_of_mem_zipIdx hmem

theorem mergeOf_ok {v : Vocabulary} {m : String × String} {found : (Int × Int) × Int}
    (h : mergeOf v m = .ok found) : v.ids[m.1]? = some found.1.1 ∧ v.ids[m.2]? = some found.1.2 ∧
      v.ids[m.1 ++ m.2]? = some found.2 := by
  unfold mergeOf at h
  split at h
  · rename_i a b ab ha hb hab
    obtain rfl := Except.ok.inj h
    exact ⟨ha, hb, hab⟩
  · cases h

theorem Listed.sound (h : Listed pieces merges) {found : List ((Int × Int) × Int)}
    (ok : merges.mapM (mergeOf (fileVocabulary pieces)) = .ok found) :
    Sound (fileVocabulary pieces) (rankedMerges found) (some 0) fileMarkers := by
  refine ⟨h.named, ?_, ?_, ?_⟩
  · intro id hid
    obtain rfl := Option.some.inj hid
    exact h.plain_id (h.special (i := 0) rfl) (specials_plain "<unk>" (by simp [specials]))
  · intro m hm
    obtain ⟨⟨piece, i⟩, hmem, rfl⟩ := List.mem_map.mp hm
    have hi := List.mem_zipIdx_iff_getElem?.mp hmem
    exact h.plain_id (h.special hi) (specials_plain piece (List.mem_of_getElem? hi))
  · intro a b ab r hab
    obtain ⟨m, hm, hfound⟩ := Outcome.mem_of_mapM_ok ok _ (mem_of_rankedMerges hab)
    obtain ⟨ha, hb, hmerged⟩ := mergeOf_ok hfound
    obtain ⟨hfirst, hsecond, hboth⟩ := h.merged m hm
    exact ⟨h.plain_id ha (h.plain _ hfirst), h.plain_id hb (h.plain _ hsecond),
      h.plain_id hmerged (h.plain _ hboth)⟩

theorem vocabularyOf_document {model : Value} {all : List String}
    (h : model.get? "vocab" = some (vocabularyDocument all)) :
    vocabularyOf model =
      .ok (.ofEntries (all.zipIdx.map fun (piece, id) => (piece, (id : Int)))) := by
  rw [vocabularyOf, h]
  simp only [vocabularyDocument, Value.record, List.map_map]
  rw [Outcome.mapM_map_ok (h := fun e : String × Nat => (e.1, (e.2 : Int)))]
  · rfl
  · exact fun _ => rfl

theorem mapM_pairOf (merges : List (String × String)) :
    (merges.map fun (a, b) => Value.list [.text a, .text b]).mapM pairOf = .ok merges := by
  rw [Outcome.mapM_map_ok (h := fun m : String × String => m), List.map_id']
  exact fun _ => rfl

theorem Listed.ofDocument (h : Listed pieces merges) {found : List ((Int × Int) × Int)}
    (ok : merges.mapM (mergeOf (fileVocabulary pieces)) = .ok found) :
    ofDocument (mergingDocument pieces merges true) =
      .ok (merging (fileVocabulary pieces) (rankedMerges found) true (some 0) fileMarkers) := by
  have hunknown := h.special (i := 0) rfl
  let model : Value := .record [("type", .text "BPE"),
    ("vocab", vocabularyDocument (filePieces pieces)),
    ("merges", .list (merges.map fun (a, b) => .list [.text a, .text b])),
    ("byte_fallback", .bool true), ("unk_token", .text "<unk>")]
  let file : Value := .record
    [("added_tokens", .list (specials.zipIdx.map fun (piece, id) =>
        .record [("id", .int id), ("content", .text piece)])), ("model", model)]
  have hfile : mergingDocument pieces merges true = file := rfl
  have hmodel : file.get? "model" = some model := rfl
  have htype : textField? model "type" = some "BPE" := rfl
  have hvocab : vocabularyOf model = .ok (fileVocabulary pieces) := vocabularyOf_document rfl
  have hmerges : model.get? "merges" =
    some (.list (merges.map fun (a, b) => .list [.text a, .text b])) := rfl
  have hfallback : model.get? "byte_fallback" = some (.bool true) := rfl
  have htoken : textField? model "unk_token" = some "<unk>" := rfl
  have hmarkers : markersOf file = .ok fileMarkers := rfl
  rw [hfile, PieceTable.ofDocument, hmodel]
  simp only [htype, mergingOf, hvocab, hmerges, mapM_pairOf, ok, hfallback, htoken, hmarkers, bind,
    Except.bind, Option.bind_some, hunknown, pure, Except.pure]
  rfl

end PieceTable
end StreamingLM
