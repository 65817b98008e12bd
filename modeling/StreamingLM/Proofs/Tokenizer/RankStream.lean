import StreamingLM.Proofs.Session.Streaming
import StreamingLM.Proofs.Tokenizer.RankFile
import StreamingLM.Tokenizer.Basic

/-!
A stream of byte-level tokens has no context: every batch is decoded on its own. So it shows the text
as long as no character is divided between two batches, and only then.
-/
namespace StreamingLM
namespace RankTable

/-- The rank file of a tokenizer: distinct byte sequences, every single byte among them, ranked from
zero on. -/
structure Ranked (entries : List (List Nat × Nat)) : Prop where
  written : ∀ e ∈ entries, Written e
  bytes : (entries.map Prod.fst).Nodup
  ranks : (entries.map Prod.snd).Nodup
  below : ∀ e ∈ entries, e.2 < entries.length
  single : ∀ b < 256, [b] ∈ entries.map Prod.fst

theorem Ranked.complete {entries : List (List Nat × Nat)} (h : Ranked entries) :
    (ofEntries entries).Complete :=
  complete_ofEntries h.bytes h.ranks h.below h.single

variable {t : RankTable}

theorem reads (t : RankTable) : TextStream.Reads (Tokenizer.ranks t).detokenizer t.Knows
    fun ids => Utf8.decodeLenient (t.spelled ids) := fun _ known => decode_eq known

/-- However far the batches have come, they spell whole characters. -/
def Undivided (t : RankTable) (batches : List (List Int)) : Prop :=
  ∀ k, Utf8.Whole (t.spelled (batches.take k).flatten)

theorem spelled_flatten (batches : List (List Int)) :
    t.spelled batches.flatten = (batches.map t.spelled).flatten := by
  rw [spelled, List.flatMap_def, List.map_flatten, List.flatten_flatten, List.map_map]
  rfl

theorem undivided_iff {batches : List (List Int)} :
    t.Undivided batches ↔ ∀ k, Utf8.Whole ((batches.map t.spelled).take k).flatten := by
  simp only [Undivided, spelled_flatten, List.map_take]

theorem Spells.shown {text : String} {batches : List (List Int)}
    (spells : t.Spells batches.flatten (Utf8.encode text)) :
    ∃ streamed, TextStream.shown (Tokenizer.ranks t).detokenizer batches = .ok streamed ∧
      (streamed = text ↔ t.Undivided batches) := by
  refine ⟨_, TextStream.shown_zero (reads t) rfl spells.1, ?_⟩
  have hparts : (batches.map t.spelled).flatten = Utf8.encode text := by
    rw [← spelled_flatten, spells.2]
  have hjoin := Utf8.join_decodeLenient_iff hparts
  rwa [List.map_map, ← undivided_iff] at hjoin

def singles : List (List Nat × Nat) := (List.range 256).map fun b => ([b], b)

theorem zipIdx_bytesAnd : (bytesAnd []).zipIdx = singles := by
  refine List.ext_getElem (by simp [bytesAnd, singles]) fun i h h' => ?_
  simp [bytesAnd, singles]

theorem ranked_singles : Ranked singles := by
  have hlength : singles.length = 256 := by rw [singles, List.length_map, List.length_range]
  refine ⟨fun e he => ?_, ?_, ?_, fun e he => ?_, fun b hb => ?_⟩
  · obtain ⟨b, hb, rfl⟩ := List.mem_map.mp he
    exact ⟨List.cons_ne_nil _ _, by simpa using hb⟩
  · rw [singles, List.map_map]
    exact List.nodup_range.map fun b c h => (List.cons.inj h).1
  · rw [singles, List.map_map]
    exact List.nodup_range.map fun b c h => h
  · obtain ⟨b, hb, rfl⟩ := List.mem_map.mp he
    rw [hlength]
    exact List.mem_range.mp hb
  · exact List.mem_map.mpr ⟨([b], b), List.mem_map.mpr ⟨b, List.mem_range.mpr hb, rfl⟩, rfl⟩

/-- The tokenizer of a rank file loses nothing, and a stream of its tokens shows the text exactly when
no batch ends inside a character. -/
theorem file_shown_iff {entries : List (List Nat × Nat)} (ranked : Ranked entries) :
    ∃ t, ofFile (fileOf entries) = .ok t ∧ ∀ text, ∃ ids, t.encode text = .ok ids ∧
      t.Spells ids (Utf8.encode text) ∧ t.decode ids = .ok text ∧
        ∀ batches : List (List Int), batches.flatten = ids →
          ∃ streamed, TextStream.shown (Tokenizer.ranks t).detokenizer batches = .ok streamed ∧
            (streamed = text ↔ t.Undivided batches) := by
  refine ⟨_, ofFile_fileOf ranked.written, fun text => ?_⟩
  obtain ⟨ids, hids, hspells⟩ := ranked.complete.encode text
  refine ⟨ids, hids, hspells, ?_, ?_⟩
  · rw [decode_eq hspells.1, hspells.2, Utf8.decodeLenient_encode]
  · rintro batches rfl
    exact hspells.shown

theorem accent_shown : Ranked singles ∧
    ∃ t, ofFile (fileOf singles) = .ok t ∧ ∃ ids, t.encode "é" = .ok ids ∧
      TextStream.shown (Tokenizer.ranks t).detokenizer [ids] = .ok "é" := by
  obtain ⟨t, ht, htexts⟩ := file_shown_iff ranked_singles
  obtain ⟨ids, hids, hspells, -, hbatches⟩ := htexts "é"
  obtain ⟨streamed, hshown, hiff⟩ := hbatches [ids] (by simp)
  refine ⟨ranked_singles, t, ht, ids, hids, ?_⟩
  have hundivided : t.Undivided [ids] := by
    intro k
    cases k with
    | zero => exact Utf8.whole_nil
    | succ k => simpa [hspells.2] using Utf8.whole_encode "é"
  rw [hshown, hiff.mpr hundivided]

theorem rank_singles {bytes : List Nat} {r : Nat} :
    (ofEntries singles).rank[bytes]? = some r ↔ r < 256 ∧ bytes = [r] := by
  obtain ⟨hrank, -⟩ := lists_ofEntries ranked_singles.bytes ranked_singles.ranks
  rw [hrank.found, singles, List.mem_map]
  constructor
  · rintro ⟨b, hb, heq⟩
    obtain ⟨rfl, rfl⟩ := Prod.mk.inj heq
    exact ⟨List.mem_range.mp hb, rfl⟩
  · rintro ⟨hr, rfl⟩
    exact ⟨r, List.mem_range.mpr hr, rfl⟩

theorem bytesOf_singles {r : Nat} (h : r < 256) : (ofEntries singles).bytesOf r = .ok [r] :=
  ranked_singles.complete.bytesOf_rank (rank_singles.mpr ⟨h, rfl⟩)

theorem encode_accent {t : RankTable} (rank : ∀ r : Nat, r < 256 → t.rank[[r]]? = some r)
    (pair : t.rank[[195, 169]]? = none) : t.encode "é" = .ok [195, 169] := by
  have hutf8 : Utf8.encode (String.ofList ['é']) = [195, 169] := by decide
  have hmerged : Merge.all t.merge? [[195], [169]] = [[195], [169]] := by
    simp [Merge.all, Merge.times, Merge.once, merge?, pair]
  have hbytes : t.encodeBytes [195, 169] = .ok [195, 169] := by
    rw [encodeBytes, pair]
    simp [hmerged, idOf, rank, bind, Except.bind, pure, Except.pure]
  have hspan : t.encodeSpan (.text ['é']) = .ok [195, 169] := by
    simp [encodeSpan, Lexeme.cut_singleton, hutf8, hbytes, bind, Except.bind, pure, Except.pure]
  have htext : "é".toList = ['é'] := by decide
  rw [encode, htext, cut_singleton (by decide)]
  simp [hspan, bind, Except.bind, pure, Except.pure]

theorem pair_singles : (ofEntries singles).rank[[195, 169]]? = none := by
  cases h : (ofEntries singles).rank[[195, 169]]? with
  | none => rfl
  | some r => simpa using (rank_singles.mp h).2

/-- A character divided between two batches is lost, though the tokens stand for it. -/
theorem accent_divided :
    ofFile (file (bytesAnd [])) = .ok (ofEntries singles) ∧
      (ofEntries singles).encode "é" = .ok [[195], [169]].flatten ∧
      (ofEntries singles).decode [[195], [169]].flatten = .ok "é" ∧
      TextStream.shown (Tokenizer.ranks (ofEntries singles)).detokenizer [[195], [169]] =
        .ok "\uFFFD\uFFFD" := by
  have hwritten : ∀ e ∈ (bytesAnd []).zipIdx, Written e := by
    rw [zipIdx_bytesAnd]
    exact ranked_singles.written
  have hfirst := bytesOf_singles (r := 195) (by decide)
  have hsecond := bytesOf_singles (r := 169) (by decide)
  have hknown : ∀ id ∈ [[195], [169]].flatten, (ofEntries singles).Knows id := by
    simp only [List.flatten_cons, List.flatten_nil, List.append_nil, List.cons_append,
      List.nil_append, List.forall_mem_cons]
    exact ⟨⟨_, hfirst⟩, ⟨_, hsecond⟩, by simp⟩
  have hwords : (ofEntries singles).spelled [195] = [195] ∧
      (ofEntries singles).spelled [169] = [169] := by
    simpa [spelled] using ⟨word_eq hfirst, word_eq hsecond⟩
  have hrank : ∀ r : Nat, r < 256 → (ofEntries singles).rank[[r]]? = some r := fun r hr =>
    rank_singles.mpr ⟨hr, rfl⟩
  refine ⟨?_, encode_accent hrank pair_singles, ?_, ?_⟩
  · rw [file_eq hwritten, zipIdx_bytesAnd, ofFile_fileOf ranked_singles.written]
  · rw [decode_eq hknown, spelled_flatten]
    simp only [List.map_cons, List.map_nil, hwords, Except.ok.injEq]
    decide
  · rw [TextStream.shown_zero (reads _) rfl hknown]
    simp only [List.map_cons, List.map_nil, hwords, Except.ok.injEq]
    decide

end RankTable
end StreamingLM
