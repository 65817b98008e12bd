import Mathlib.Data.List.Basic
import StreamingLM.Proofs.Entries
import StreamingLM.Proofs.Outcome
import StreamingLM.Proofs.Text.Utf8
import StreamingLM.Proofs.Tokenizer.Cutting
import StreamingLM.Proofs.Tokenizer.Special

/-!
A byte-level table loses nothing: the tokens of a text spell its bytes, special tokens included. What
this takes is that the table ranks every single byte and leaves the special ids free.
-/
namespace StreamingLM
namespace RankTable

/-- Every single byte has a rank, a rank leads back to its bytes, and the special tokens have their ids
behind all ranks. -/
structure Complete (t : RankTable) : Prop where
  single : ∀ b < 256, ∃ r, t.rank[[b]]? = some r
  back : ∀ {bytes : List Nat} {r : Nat}, t.rank[bytes]? = some r → t.bytes[r]? = some bytes
  below : ∀ {r : Nat} {bytes : List Nat}, t.bytes[r]? = some bytes → r < t.size

def Knows (t : RankTable) (id : Int) : Prop := ∃ bytes, t.bytesOf id = .ok bytes

def word (t : RankTable) (id : Int) : List Nat :=
  match t.bytesOf id with
  | .ok bytes => bytes
  | .error _ => []

def spelled (t : RankTable) (ids : List Int) : List Nat := ids.flatMap t.word

/-- Known tokens with these bytes. -/
def Spells (t : RankTable) (ids : List Int) (bytes : List Nat) : Prop :=
  (∀ id ∈ ids, t.Knows id) ∧ t.spelled ids = bytes

variable {t : RankTable}

theorem bytesOf_natCast {id : Nat} {bytes : List Nat} (h : t.bytes? id = some bytes) :
    t.bytesOf id = .ok bytes := by
  have hid : (id : Int).toNat? = some id := rfl
  rw [bytesOf, hid, Option.bind_some, h]

theorem word_eq {id : Int} {bytes : List Nat} (h : t.bytesOf id = .ok bytes) : t.word id = bytes := by
  rw [word, h]

theorem spells_nil : t.Spells [] [] := ⟨by simp, rfl⟩

theorem spells_singleton {id : Int} {bytes : List Nat} (h : t.bytesOf id = .ok bytes) :
    t.Spells [id] bytes := by
  refine ⟨by simpa using ⟨bytes, h⟩, ?_⟩
  rw [spelled, List.flatMap_singleton, word_eq h]

theorem Spells.append {ids more : List Int} {bytes rest : List Nat} (h : t.Spells ids bytes)
    (h' : t.Spells more rest) : t.Spells (ids ++ more) (bytes ++ rest) := by
  refine ⟨fun id hid => ?_, ?_⟩
  · obtain hid | hid := List.mem_append.mp hid
    · exact h.1 id hid
    · exact h'.1 id hid
  · rw [spelled, List.flatMap_append, ← spelled, ← spelled, h.2, h'.2]

theorem mapM_bytesOf {ids : List Int} (known : ∀ id ∈ ids, t.Knows id) :
    ids.mapM t.bytesOf = .ok (ids.map t.word) := by
  induction ids with
  | nil => rfl
  | cons id ids ih =>
    rw [List.forall_mem_cons] at known
    obtain ⟨⟨bytes, hbytes⟩, hrest⟩ := known
    simp [hbytes, ih hrest, word_eq hbytes, bind, Except.bind, pure, Except.pure]

theorem decode_eq {ids : List Int} (known : ∀ id ∈ ids, t.Knows id) :
    t.decode ids = .ok (Utf8.decodeLenient (t.spelled ids)) := by
  rw [decode, mapM_bytesOf known]
  simp [bind, Except.bind, pure, Except.pure, spelled, List.flatMap_def]

theorem mapM_spells {α : Type} {f : α → Except Failure (List Int)} {g : α → List Nat} {xs : List α}
    (h : ∀ x ∈ xs, ∃ ids, f x = .ok ids ∧ t.Spells ids (g x)) :
    ∃ parts, xs.mapM f = .ok parts ∧ t.Spells parts.flatten (xs.flatMap g) := by
  induction xs with
  | nil => exact ⟨[], rfl, spells_nil⟩
  | cons x xs ih =>
    rw [List.forall_mem_cons] at h
    obtain ⟨⟨ids, hids, hspells⟩, hrest⟩ := h
    obtain ⟨parts, hparts, hmore⟩ := ih hrest
    refine ⟨ids :: parts, ?_, ?_⟩
    · simp [hids, hparts, bind, Except.bind, pure, Except.pure]
    · rw [List.flatten_cons, List.flatMap_cons]
      exact hspells.append hmore

def nameOf (t : RankTable) (id : Int) : List Char :=
  ((t.specialText? id.toNat).getD "").toList

theorem nameOf_special {i : Nat} {name : String} (hi : specials[i]? = some name) :
    nameOf t (t.specialId i) = name.toList := by
  have hid : (t.specialId i).toNat = t.size + i := by
    rw [specialId]
    omega
  rw [nameOf, hid, specialText?, if_pos (Nat.le_add_right _ _), Nat.add_sub_cancel_left, hi,
    Option.getD_some]

theorem mem_markers {m : List Char × Int} (hm : m ∈ t.markers) :
    ∃ i name, specials[i]? = some name ∧ m = (name.toList, t.specialId i) := by
  obtain ⟨⟨name, i⟩, hmem, rfl⟩ := List.mem_map.mp hm
  exact ⟨i, name, List.mem_zipIdx_iff_getElem?.mp hmem, rfl⟩

theorem markers_named {m : List Char × Int} (hm : m ∈ t.markers) :
    nameOf t m.2 = m.1 ∧ m.1 ≠ [] := by
  obtain ⟨i, name, hi, rfl⟩ := mem_markers hm
  obtain ⟨inner, hname, -⟩ := special_bracketed (List.mem_of_getElem? hi)
  exact ⟨nameOf_special hi, hname ▸ List.cons_ne_nil _ _⟩

theorem cut_singleton {c : Char} (h : c ≠ '<') : Span.cut t.markers [c] = [.text [c]] := by
  have hnone : (t.markers.find? fun m => m.1.isPrefixOf [c]) = none := by
    refine List.find?_eq_none.mpr fun m hm => ?_
    obtain ⟨i, name, hi, rfl⟩ := mem_markers hm
    obtain ⟨inner, hname, -⟩ := special_bracketed (List.mem_of_getElem? hi)
    simp [hname, h.symm]
  rw [Span.cut, Span.cutFrom, hnone]
  rfl

namespace Complete

theorem bytesOf_rank (h : t.Complete) {bytes : List Nat} {r : Nat} (hr : t.rank[bytes]? = some r) :
    t.bytesOf r = .ok bytes :=
  bytesOf_natCast (by rw [bytes?, h.back hr])

theorem bytesOf_special (h : t.Complete) {i : Nat} {name : String} (hi : specials[i]? = some name) :
    t.bytesOf (t.specialId i) = .ok (Utf8.encode name) := by
  have hfree : t.bytes[t.size + i]? = none := by
    cases hbytes : t.bytes[t.size + i]? with
    | none => rfl
    | some bytes => exact absurd (h.below hbytes) (by omega)
  have hword : t.bytes? (t.size + i) = some (Utf8.encode name) := by
    rw [bytes?, hfree]
    simp only [specialText?, if_pos (Nat.le_add_right _ _), Nat.add_sub_cancel_left, hi,
      Option.map_some]
  have hid : t.specialId i = ((t.size + i : Nat) : Int) := by rw [specialId, Int.natCast_add]
  rw [hid]
  exact bytesOf_natCast hword

theorem mapM_idOf (h : t.Complete) {symbols : List (List Nat)}
    (ranked : ∀ s ∈ symbols, ∃ r, t.rank[s]? = some r) :
    ∃ ids, symbols.mapM t.idOf = .ok ids ∧ t.Spells ids symbols.flatten := by
  induction symbols with
  | nil => exact ⟨[], rfl, spells_nil⟩
  | cons s symbols ih =>
    rw [List.forall_mem_cons] at ranked
    obtain ⟨⟨r, hr⟩, hrest⟩ := ranked
    obtain ⟨ids, hids, hspells⟩ := ih hrest
    refine ⟨r :: ids, ?_, ?_⟩
    · simp [idOf, hr, hids, bind, Except.bind, pure, Except.pure]
    · exact (spells_singleton (h.bytesOf_rank hr)).append hspells

theorem encodeBytes (h : t.Complete) {bytes : List Nat} (hlt : ∀ b ∈ bytes, b < 256) :
    ∃ ids, t.encodeBytes bytes = .ok ids ∧ t.Spells ids bytes := by
  rw [RankTable.encodeBytes]
  cases hwhole : t.rank[bytes]? with
  | some r => exact ⟨[(r : Int)], rfl, spells_singleton (h.bytesOf_rank hwhole)⟩
  | none =>
    have hmerged : (Merge.all t.merge? (bytes.map fun b => [b])).flatten = bytes ∧
        ∀ s ∈ Merge.all t.merge? (bytes.map fun b => [b]), ∃ r, t.rank[s]? = some r := by
      refine Merge.all_keeps (P := fun symbols => symbols.flatten = bytes ∧
        ∀ s ∈ symbols, ∃ r, t.rank[s]? = some r) ?_ ⟨?_, ?_⟩
      · intro front back a b ab r hab hkept
        obtain ⟨found, hfound, heq⟩ := Option.map_eq_some_iff.mp hab
        obtain ⟨rfl, rfl⟩ := Prod.mk.inj heq
        refine ⟨by simpa using hkept.1, fun s hs => ?_⟩
        obtain hs | hs := List.mem_append.mp hs
        · exact hkept.2 s (by simp [hs])
        · obtain rfl | hs := List.mem_cons.mp hs
          · exact ⟨_, hfound⟩
          · exact hkept.2 s (by simp [hs])
      · rw [← List.flatMap_def, List.flatMap_singleton']
      · intro s hs
        obtain ⟨b, hb, rfl⟩ := List.mem_map.mp hs
        exact h.single b (hlt b hb)
    obtain ⟨ids, hids, hspells⟩ := h.mapM_idOf hmerged.2
    exact ⟨ids, hids, hmerged.1 ▸ hspells⟩

theorem encodeSpan (h : t.Complete) {span : Span} (hspan : ∀ id, span = .marker id →
    ∃ i name, specials[i]? = some name ∧ id = t.specialId i) :
    ∃ ids, t.encodeSpan span = .ok ids ∧ t.Spells ids (Utf8.spell (span.chars (nameOf t))) := by
  cases span with
  | marker id =>
    obtain ⟨i, name, hi, rfl⟩ := hspan id rfl
    refine ⟨[t.specialId i], rfl, ?_⟩
    rw [Span.chars, nameOf_special hi]
    exact spells_singleton (h.bytesOf_special hi)
  | text cs =>
    obtain ⟨parts, hparts, hspells⟩ := mapM_spells (t := t)
      (f := fun piece => t.encodeBytes (Utf8.encode (String.ofList piece)))
      (g := Utf8.spell) fun piece (_ : piece ∈ Lexeme.cut cs) => by
        obtain ⟨ids, hids, hspells⟩ := h.encodeBytes (Utf8.encode_lt (String.ofList piece))
        rw [Utf8.encode_eq_spell, String.toList_ofList] at hspells
        exact ⟨ids, hids, hspells⟩
    refine ⟨parts.flatten, ?_, ?_⟩
    · simp [RankTable.encodeSpan, hparts, bind, Except.bind, pure, Except.pure]
    · have hbytes : (Lexeme.cut cs).flatMap Utf8.spell = Utf8.spell cs := by
        rw [← Utf8.spell_flatMap, List.flatMap_id', Lexeme.flatten_cut]
      rwa [hbytes] at hspells

theorem encode (h : t.Complete) (text : String) :
    ∃ ids, t.encode text = .ok ids ∧ t.Spells ids (Utf8.encode text) := by
  obtain ⟨parts, hparts, hspells⟩ := mapM_spells (t := t) (f := t.encodeSpan)
    (g := fun span => Utf8.spell (span.chars (nameOf t)))
    fun span (hspan : span ∈ Span.cut t.markers text.toList) => h.encodeSpan fun id hid => by
      subst hid
      obtain ⟨m, hm, rfl⟩ := Span.mem_cut hspan
      obtain ⟨i, name, hi, rfl⟩ := mem_markers hm
      exact ⟨i, name, hi, rfl⟩
  refine ⟨parts.flatten, ?_, ?_⟩
  · simp [RankTable.encode, hparts, bind, Except.bind, pure, Except.pure]
  · have hbytes : (Span.cut t.markers text.toList).flatMap (fun span =>
        Utf8.spell (span.chars (nameOf t))) = Utf8.encode text := by
      rw [← Utf8.spell_flatMap, Span.flatMap_cut fun m hm => markers_named hm]
      rfl
    rwa [hbytes] at hspells

end Complete

def Lists (t : RankTable) (entries : List (List Nat × Nat)) : Prop :=
  Holds t.rank entries ∧ Holds t.bytes (entries.map Prod.swap)

theorem Lists.insert {entries : List (List Nat × Nat)} (h : t.Lists entries) {bytes : List Nat}
    {r : Nat} (freshBytes : bytes ∉ entries.map Prod.fst) (freshRank : r ∉ entries.map Prod.snd) :
    (t.insert bytes r).Lists (entries ++ [(bytes, r)]) := by
  have hback : r ∉ (entries.map Prod.swap).map Prod.fst := by simpa using freshRank
  constructor
  · exact h.1.insert freshBytes r
  · rw [List.map_append]
    simp only [RankTable.insert, h.1.none freshBytes]
    exact h.2.insert hback bytes

theorem lists_ofEntries {entries : List (List Nat × Nat)} (bytes : (entries.map Prod.fst).Nodup)
    (ranks : (entries.map Prod.snd).Nodup) : (ofEntries entries).Lists entries := by
  have hfold : ∀ (more entries : List (List Nat × Nat)) (t : RankTable), t.Lists entries →
      ((entries ++ more).map Prod.fst).Nodup → ((entries ++ more).map Prod.snd).Nodup →
      (more.foldl (fun t e => t.insert e.1 e.2) t).Lists (entries ++ more) := by
    intro more
    induction more with
    | nil => intro entries t h _ _; rwa [List.append_nil]
    | cons e more ih =>
      intro entries t h hbytes hranks
      rw [List.append_cons] at hbytes hranks ⊢
      refine ih _ _ (h.insert ?_ ?_) hbytes hranks
      · rw [List.map_append, List.map_append, List.append_assoc] at hbytes
        exact fun hmem => List.disjoint_of_nodup_append hbytes hmem (by simp)
      · rw [List.map_append, List.map_append, List.append_assoc] at hranks
        exact fun hmem => List.disjoint_of_nodup_append hranks hmem (by simp)
  exact hfold entries [] {} ⟨Holds.empty, Holds.empty⟩ bytes ranks

theorem complete_ofEntries {entries : List (List Nat × Nat)} (bytes : (entries.map Prod.fst).Nodup)
    (ranks : (entries.map Prod.snd).Nodup) (below : ∀ e ∈ entries, e.2 < entries.length)
    (single : ∀ b < 256, [b] ∈ entries.map Prod.fst) : (ofEntries entries).Complete := by
  obtain ⟨hrank, hback⟩ := lists_ofEntries bytes ranks
  have hsize : (ofEntries entries).size = entries.length := hrank.size
  refine ⟨fun b hb => ?_, fun {bytes r} h => ?_, fun {r bytes} h => ?_⟩
  · obtain ⟨⟨_, r⟩, hmem, rfl⟩ := List.mem_map.mp (single b hb)
    exact ⟨r, (hrank.found _ _).mpr hmem⟩
  · rw [hback.found]
    exact List.mem_map.mpr ⟨_, (hrank.found _ _).mp h, rfl⟩
  · obtain ⟨e, hmem, heq⟩ := List.mem_map.mp ((hback.found _ _).mp h)
    obtain ⟨rfl, -⟩ := Prod.mk.inj heq
    rw [hsize]
    exact below e hmem

end RankTable
end StreamingLM
