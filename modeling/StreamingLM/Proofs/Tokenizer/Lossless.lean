import Mathlib.Data.List.Basic
import StreamingLM.Proofs.Tokenizer.RankStream
import StreamingLM.Proofs.Tokenizer.Recognised
import StreamingLM.Tokenizer.Basic

/-!
The tokenizer of a rank file loses nothing: a text, framed or not, is read back from its tokens, and
those behind the ranks are the special tokens of the text and of its frame.
-/
namespace StreamingLM
namespace RankTable

/-- Distinct byte sequences, every single byte among them, ranked from zero on without gaps. -/
structure Ranking (entries : List (List Nat × Nat)) : Prop where
  bytes : (entries.map Prod.fst).Nodup
  ranks : (entries.map Prod.snd).Perm (List.range entries.length)
  single : ∀ b < 256, [b] ∈ entries.map Prod.fst

theorem Ranking.distinct {entries : List (List Nat × Nat)} (h : Ranking entries) :
    (entries.map Prod.snd).Nodup := h.ranks.nodup_iff.mpr List.nodup_range

theorem Ranking.complete {entries : List (List Nat × Nat)} (h : Ranking entries) :
    (ofEntries entries).Complete := by
  refine complete_ofEntries h.bytes h.distinct (fun e he => ?_) h.single
  exact List.mem_range.mp (h.ranks.mem_iff.mp (List.mem_map_of_mem he))

theorem Ranking.size_eq {entries : List (List Nat × Nat)} (h : Ranking entries) :
    (ofEntries entries).size = entries.length := (lists_ofEntries h.bytes h.distinct).1.size

variable {t : RankTable}

def IsRank (t : RankTable) (id : Int) : Prop :=
  ∃ (bytes : List Nat) (r : Nat), t.rank[bytes]? = some r ∧ id = (r : Int)

theorem idOf_isRank {bytes : List Nat} {id : Int} (ok : t.idOf bytes = .ok id) : t.IsRank id := by
  rw [idOf] at ok
  split at ok
  · rename_i r hr
    exact ⟨bytes, r, hr, (Except.ok.inj ok).symm⟩
  · cases ok

theorem encodeBytes_isRank {bytes : List Nat} {ids : List Int} (ok : t.encodeBytes bytes = .ok ids) :
    ∀ id ∈ ids, t.IsRank id := by
  rw [encodeBytes] at ok
  split at ok
  · rename_i r hr
    obtain rfl := Except.ok.inj ok
    exact List.forall_mem_singleton.mpr ⟨bytes, r, hr, rfl⟩
  · intro id hid
    obtain ⟨symbol, -, hsymbol⟩ := Outcome.mem_of_mapM_ok ok id hid
    exact idOf_isRank hsymbol

theorem encodeSpan_isRank {cs : List Char} {ids : List Int} (ok : t.encodeSpan (.text cs) = .ok ids) :
    ∀ id ∈ ids, t.IsRank id := by
  obtain ⟨pieces, hpieces, hids⟩ := Outcome.bind_eq_ok.mp ok
  obtain rfl := Except.ok.inj hids
  intro id hid
  obtain ⟨piece, hpiece, hmem⟩ := List.mem_flatten.mp hid
  obtain ⟨lexeme, -, hlexeme⟩ := Outcome.mem_of_mapM_ok hpieces piece hpiece
  exact encodeBytes_isRank hlexeme id hmem

def specialsAmong (t : RankTable) (ids : List Int) : List Int := ids.filter ((t.size : Int) ≤ ·)

/-- Tokens below the end of the vocabulary, with these special ones among them. -/
def Tells (t : RankTable) (ids special : List Int) : Prop :=
  (∀ id ∈ ids, 0 ≤ id ∧ id < t.size + 256) ∧ t.specialsAmong ids = special

theorem Tells.append {ids more special others : List Int} (h : t.Tells ids special)
    (h' : t.Tells more others) : t.Tells (ids ++ more) (special ++ others) := by
  refine ⟨List.forall_mem_append.mpr ⟨h.1, h'.1⟩, ?_⟩
  rw [specialsAmong, List.filter_append, ← specialsAmong, ← specialsAmong, h.2, h'.2]

theorem mapM_tells {α : Type} {f : α → Except Failure (List Int)} {g : α → List Int} {xs : List α}
    {parts : List (List Int)} (ok : xs.mapM f = .ok parts)
    (each : ∀ x ∈ xs, ∀ ids, f x = .ok ids → t.Tells ids (g x)) :
    t.Tells parts.flatten (xs.flatMap g) := by
  induction xs generalizing parts with
  | nil =>
    obtain rfl := Except.ok.inj ok
    exact ⟨by simp, rfl⟩
  | cons x xs ih =>
    rw [List.forall_mem_cons] at each
    rw [List.mapM_cons] at ok
    obtain ⟨ids, hids, hrest⟩ := Outcome.bind_eq_ok.mp ok
    obtain ⟨more, hmore, heq⟩ := Outcome.bind_eq_ok.mp hrest
    obtain rfl := Except.ok.inj heq
    rw [List.flatten_cons, List.flatMap_cons]
    exact (each.1 ids hids).append (ih hmore each.2)

theorem tells_specialId (t : RankTable) {i : Nat} (h : i < 256) :
    t.Tells [t.specialId i] [t.specialId i] := by
  rw [Tells, List.forall_mem_singleton, specialsAmong, specialId]
  exact ⟨by omega, List.filter_cons_of_pos (by simp)⟩

namespace Complete

theorem tells_ranks (h : t.Complete) {ids : List Int} (ranks : ∀ id ∈ ids, t.IsRank id) :
    t.Tells ids [] := by
  have hlt : ∀ id ∈ ids, 0 ≤ id ∧ id < t.size := by
    intro id hid
    obtain ⟨bytes, r, hr, rfl⟩ := ranks id hid
    have hbelow := h.below (h.back hr)
    omega
  refine ⟨fun id hid => ⟨(hlt id hid).1, by have := hlt id hid; omega⟩, ?_⟩
  refine List.filter_eq_nil_iff.mpr fun id hid => ?_
  simpa using (hlt id hid).2

theorem tells_encodeSpan (h : t.Complete) {cs : List Char} {span : Span} {ids : List Int}
    (hspan : span ∈ Span.cut t.markers cs) (ok : t.encodeSpan span = .ok ids) :
    t.Tells ids span.id?.toList := by
  cases span with
  | text plain => exact h.tells_ranks (encodeSpan_isRank ok)
  | marker id =>
    obtain rfl := Except.ok.inj ok
    obtain ⟨m, hm, rfl⟩ := Span.mem_cut hspan
    obtain ⟨i, name, hi, rfl⟩ := mem_markers hm
    obtain ⟨hlt, -⟩ := List.getElem?_eq_some_iff.mp hi
    exact tells_specialId t (specials_length ▸ hlt)

theorem tells_encode (h : t.Complete) {text : String} {ids : List Int} (ok : t.encode text = .ok ids) :
    t.Tells ids ((specialsIn text.toList).map t.specialId) := by
  obtain ⟨parts, hparts, hids⟩ := Outcome.bind_eq_ok.mp ok
  obtain rfl := Except.ok.inj hids
  rw [← filterMap_cut_markers, List.filterMap_eq_flatMap_toList]
  exact mapM_tells hparts fun span hspan ids => h.tells_encodeSpan hspan

end Complete

/-- Tokens that spell a text are read as the text. -/
theorem Spells.decode_eq {ids : List Int} {text : String} (h : t.Spells ids (Utf8.encode text)) :
    t.decode ids = .ok text := by
  rw [RankTable.decode_eq h.1, h.2, Utf8.decodeLenient_encode]

theorem Spells.framed {front ids back : List Int} {a text b : String}
    (hfront : t.Spells front (Utf8.encode a)) (h : t.Spells ids (Utf8.encode text))
    (hback : t.Spells back (Utf8.encode b)) :
    t.Spells (front ++ ids ++ back) (Utf8.encode (a ++ text ++ b)) := by
  have hbytes : Utf8.encode (a ++ text ++ b) = Utf8.encode a ++ Utf8.encode text ++ Utf8.encode b := by
    simp only [Utf8.encode_eq_spell, String.toList_append, Utf8.spell_append]
  rw [hbytes]
  exact (hfront.append h).append hback

theorem Complete.frame (h : t.Complete) {i : Nat} {name : String} (hi : specials[i]? = some name)
    (present : Bool) :
    t.Spells (if present then [t.specialId i] else []) (Utf8.encode (if present then name else "")) ∧
      t.Tells (if present then [t.specialId i] else [])
        ((if present then [i] else []).map t.specialId) := by
  cases present with
  | false => exact ⟨spells_nil, by simp, rfl⟩
  | true =>
    obtain ⟨hlt, -⟩ := List.getElem?_eq_some_iff.mp hi
    exact ⟨spells_singleton (h.bytesOf_special hi), tells_specialId t (specials_length ▸ hlt)⟩

/-- The tokenizer of a rank file loses nothing: whatever the text, its tokens are read back as the
text, between the texts of the frame; they lie below the end of the vocabulary, and those behind the
ranks are the special tokens of the frame and of the text. -/
theorem ofConfig_lossless {α : Type} {d : Directory α} {c : RankConfig} {path : String}
    {contents : List Nat} {entries : List (List Nat × Nat)} (configured : c.path = some path)
    (file : d.find path = some (.bytes contents)) (read : entriesOf contents = .ok entries)
    (ranking : Ranking entries) :
    ∃ t, Tokenizer.ofConfig d (.ranks c) = .ok t ∧
      t.decode [t.beginId] = .ok "<|begin_of_text|>" ∧ t.decode [t.endId] = .ok "<|end_of_text|>" ∧
      ∀ text opened closed, ∃ ids, t.encodeFramed opened closed text = .ok ids ∧
        t.decode ids = .ok ((if opened then "<|begin_of_text|>" else "") ++ text ++
          (if closed then "<|end_of_text|>" else "")) ∧
        (∀ id ∈ ids, 0 ≤ id ∧ id < entries.length + 256) ∧
        ids.filter ((entries.length : Int) ≤ ·) = ((if opened then [0] else []) ++
          specialsIn text.toList ++ (if closed then [1] else [])).map
            fun i => (entries.length : Int) + (i : Nat) := by
  have hcomplete := ranking.complete
  have hopening := hcomplete.frame (i := 0) rfl
  have hclosing := hcomplete.frame (i := 1) rfl
  refine ⟨.ranks (ofEntries entries), ?_, (hopening true).1.decode_eq, (hclosing true).1.decode_eq,
    fun text opened closed => ?_⟩
  · obtain ⟨encoding, _⟩ := c
    obtain rfl := configured
    simp only [Tokenizer.ofConfig, Tokenizer.ofRankFile, file, ofFile, read, Except.map]
  · obtain ⟨ids, hids, hspells⟩ := hcomplete.encode text
    have htells := ((hopening opened).2.append (hcomplete.tells_encode hids)).append
      (hclosing closed).2
    rw [← List.map_append, ← List.map_append, Tells, specialsAmong, ranking.size_eq] at htells
    refine ⟨_, ?_, (Spells.framed (hopening opened).1 hspells (hclosing closed).1).decode_eq,
      htells.1, htells.2.trans ?_⟩
    · rw [Tokenizer.encodeFramed, Tokenizer.encode, hids]
      rfl
    · exact List.map_congr_left fun i _ => by rw [specialId, ranking.size_eq]

theorem ranking_singles : Ranking singles where
  bytes := ranked_singles.bytes
  ranks := by
    have hranks : singles.map Prod.snd = List.range singles.length := by
      rw [singles, List.map_map, List.length_map, List.length_range]
      exact List.map_id' _
    rw [hranks]
  single := ranked_singles.single

def singlesFile : Directory Unit := fun _ => some (.bytes (fileOf singles))

/-- A text that ends a turn, behind the mark of the beginning. -/
theorem turn_lossless : singlesFile.find "ranks" = some (.bytes (fileOf singles)) ∧
    entriesOf (fileOf singles) = .ok singles ∧ Ranking singles ∧
    ∃ t, Tokenizer.ofConfig singlesFile (.ranks { path := some "ranks" }) = .ok t ∧
      ∃ ids, t.encodeFramed true false "é<|eot_id|>" = .ok ids ∧
        t.decode ids = .ok "<|begin_of_text|>é<|eot_id|>" ∧
        ids.filter ((256 : Int) ≤ ·) = [256, 265] := by
  have hread := entriesOf_fileOf ranked_singles.written
  have hlength : singles.length = 256 := by rw [singles, List.length_map, List.length_range]
  have hspecials : specialsIn "é<|eot_id|>".toList = [9] := by
    have hname : "<|eot_id|>".toList = ['<', '|', 'e', 'o', 't', '_', 'i', 'd', '|', '>'] := by decide
    have hturn : special? "<|eot_id|>".toList = some 9 :=
      (special?_eq_some rfl).mpr (List.prefix_refl _)
    rw [hname] at hturn
    simp [specialsIn, special?_nil, special?_of_ne, hturn]
  obtain ⟨t, ht, -, -, htexts⟩ := ofConfig_lossless (d := singlesFile)
    (c := { path := some "ranks" }) rfl rfl hread ranking_singles
  obtain ⟨ids, hids, hdecode, -, hfilter⟩ := htexts "é<|eot_id|>" true false
  rw [hlength, hspecials] at hfilter
  exact ⟨rfl, hread, ranking_singles, t, ht, ids, hids, hdecode, hfilter⟩

end RankTable
end StreamingLM
