import StreamingLM.Proofs.Session.Streaming
import StreamingLM.Proofs.Tokenizer.PieceFile
import StreamingLM.Tokenizer.Basic

/-!
A stream of pieces decodes the last two tokens once more. When a character is spelled byte by byte, that
may be too few, or the tokens decoded so far may end inside of it: then replacement characters are
shown. As long as none is shown, the stream shows the text of its tokens.
-/
namespace StreamingLM
namespace PieceTable

open TextStream (Parts Carries Stands GoesOn freshAt overlap)

variable {t : PieceTable} {v : Vocabulary} {ids : List Int}

theorem dropSpace_of_ne {c : Char} (h : c ≠ ' ') (cs : List Char) : dropSpace (c :: cs) = c :: cs := by
  rw [dropSpace]
  rintro rest heq
  exact h (List.cons.inj heq).1

theorem dropSpace_append {cs : List Char} (h : cs ≠ []) (ds : List Char) :
    dropSpace (cs ++ ds) = dropSpace cs ++ ds := by
  obtain ⟨c, cs, rfl⟩ := List.exists_cons_of_ne_nil h
  by_cases hc : c = ' '
  · subst hc
    rfl
  · rw [List.cons_append, dropSpace_of_ne hc, dropSpace_of_ne hc, List.cons_append]

theorem dropSpace_eq_drop (cs : List Char) : ∃ k, dropSpace cs = cs.drop k := by
  unfold dropSpace
  split
  · exact ⟨1, rfl⟩
  · exact ⟨0, rfl⟩

def charsOf (v : Vocabulary) (ids : List Int) : List Char := dropSpace (join (ids.map v.spelling))

def textOf (v : Vocabulary) (ids : List Int) : String := String.ofList (charsOf v ids)

theorem Merging.decode_eq (h : t.Merging v) (known : ∀ id ∈ ids, v.Knows id) :
    t.decode ids = textOf v ids := by
  obtain ⟨merges, byteFallback, unknown, markers, rfl, -⟩ := h
  rw [decode, Vocabulary.piecesOf_eq known]
  rfl

def openBytes (v : Vocabulary) (ids : List Int) : List Nat := openRun [] (ids.map v.spelling)

def leadBytes (v : Vocabulary) (ids : List Int) : List Nat := lead (ids.map v.spelling)

/-- The first `e` tokens end between two characters, and where more bytes follow, so do the last two of
them, read by themselves. -/
def Between (v : Vocabulary) (ids : List Int) (e : Nat) : Prop :=
  Utf8.Whole (openBytes v (ids.take e)) ∧
    (leadBytes v (ids.drop e) ≠ [] → Utf8.Whole (openBytes v ((ids.take e).drop (e - overlap))))

theorem openBytes_append (front back : List Int) :
    openBytes v (front ++ back) = openRun (openBytes v front) (back.map v.spelling) := by
  rw [openBytes, List.map_append, openRun_append, openBytes]

theorem leadBytes_ne_nil_append {c rest : List Int} (h : leadBytes v c ≠ []) :
    leadBytes v (c ++ rest) ≠ [] := by
  cases c with
  | nil => exact absurd rfl h
  | cons id c =>
    rw [leadBytes, List.map_cons, lead] at h
    rw [leadBytes, List.cons_append, List.map_cons, lead]
    cases hbyte : byteOf? (v.spelling id) with
    | some b => simp
    | none => simp [hbyte] at h

theorem leadBytes_of_append {c rest : List Int} (hc : c ≠ []) (h : leadBytes v (c ++ rest) ≠ []) :
    leadBytes v c ≠ [] := by
  obtain ⟨id, c, rfl⟩ := List.exists_cons_of_ne_nil hc
  rw [leadBytes, List.cons_append, List.map_cons, lead] at h
  rw [leadBytes, List.map_cons, lead]
  cases hbyte : byteOf? (v.spelling id) with
  | some b => simp
  | none => simp [hbyte] at h

theorem whole_leadBytes {front c rest : List Int} (clear : v.Clear (front ++ c ++ rest))
    (before : Utf8.Whole (openBytes v front)) (after : Utf8.Whole (openBytes v (front ++ c))) :
    Utf8.Whole (leadBytes v c) := by
  by_cases hbytes : Bytes (c.map v.spelling)
  · rw [openBytes_append, openRun_bytes hbytes] at after
    exact after.right before
  · have hruns := clear.2
    rw [List.append_assoc, List.map_append] at hruns
    have hlead := hruns.right.lead
    rw [List.map_append, lead_append hbytes] at hlead
    exact hlead.right before

theorem charsOf_append {front c : List Int} (known : ∀ id ∈ front, v.Knows id) (hne : front ≠ [])
    (h : leadBytes v c = [] ∨ Utf8.Whole (openBytes v front) ∧ Utf8.Whole (leadBytes v c)) :
    charsOf v (front ++ c) = charsOf v front ++ join (c.map v.spelling) := by
  have hjoin : join (front.map v.spelling) ≠ [] := by
    refine join_ne_nil (by simpa using hne) fun piece hpiece => ?_
    obtain ⟨id, hid, rfl⟩ := List.mem_map.mp hpiece
    exact (known id hid).spelling_ne_nil
  rw [charsOf, List.map_append, join_append_whole h, dropSpace_append hjoin]
  rfl

theorem charsOf_nil : charsOf v [] = [] := by
  have hempty : byteText [] = [] := byteText_spell []
  simp [charsOf, join, joinFrom, hempty, dropSpace]

theorem carries (clear : v.Clear ids) : Carries (textOf v) ids (Between v ids) := by
  intro e n le bound here there
  obtain ⟨a, o, c, rest, parts⟩ := TextStream.exists_parts le bound
  have hknown : ∀ id ∈ a ++ o, v.Knows id := fun id hid =>
    clear.1 id (by rw [parts.whole, List.append_assoc]; exact List.mem_append_left _ hid)
  obtain ⟨hbefore, hagain⟩ := here
  rw [parts.before] at hbefore
  rw [parts.again, parts.after] at hagain
  have hboth := there.1
  rw [parts.both] at hboth
  rw [parts.whole] at clear
  have hlead := whole_leadBytes clear hbefore hboth
  rw [GoesOn, parts.waiting, parts.again, parts.both, parts.before]
  by_cases ho : o = []
  · subst ho
    obtain hlength | ⟨rfl, -⟩ := parts.context
    · simp [overlap] at hlength
    · exact ⟨textOf v c, by simp [textOf, charsOf_nil], by simp [textOf, charsOf_nil]⟩
  · have hopen : leadBytes v c = [] ∨ Utf8.Whole (openBytes v o) ∧ Utf8.Whole (leadBytes v c) := by
      by_cases hnone : leadBytes v c = []
      · exact .inl hnone
      · exact .inr ⟨hagain (leadBytes_ne_nil_append hnone), hlead⟩
    refine ⟨String.ofList (join (c.map v.spelling)), ?_, ?_⟩
    · rw [textOf, charsOf_append (fun id hid => hknown id (List.mem_append_right _ hid)) ho hopen,
        String.ofList_append, textOf]
    · rw [textOf, charsOf_append hknown (List.append_ne_nil_of_right_ne_nil _ ho)
        (.inr ⟨hbefore, hlead⟩), String.ofList_append, textOf]

theorem freshAt_eq {e n : Nat} {a o c rest : List Int} (le : e ≤ n) (parts : Parts ids e n a o c rest) :
    freshAt (textOf v) ids e n = (charsOf v (o ++ c)).drop (charsOf v o).length := by
  have htake : (ids.take n).take e = ids.take e := by rw [List.take_take, Nat.min_eq_left le]
  rw [freshAt, TextStream.fresh]
  simp only [htake, parts.waiting, parts.again, textOf, String.toList_ofList]

theorem mem_drop_charsOf {ids : List Int} (broken : ¬ Utf8.Whole (openBytes v ids)) {k : Nat}
    (h : (charsOf v ids).drop k ≠ []) : '\uFFFD' ∈ (charsOf v ids).drop k := by
  have hne : openBytes v ids ≠ [] := by
    intro hnil
    exact broken (hnil ▸ Utf8.whole_nil)
  have hlast : (join (ids.map v.spelling)).getLast? = some '\uFFFD' := by
    have hopen : byteText (openRun [] (ids.map v.spelling)) = _ := byteText_broken broken
    rw [join_eq_closed, hopen, List.getLast?_append]
    rw [openBytes] at hne
    simp [List.getLast?_replicate, hne]
  obtain ⟨j, hj⟩ := dropSpace_eq_drop (join (ids.map v.spelling))
  rw [charsOf, hj, List.drop_drop] at h ⊢
  refine List.mem_of_getLast? ?_
  rw [List.getLast?_drop, if_neg (by simpa using h), hlast]

theorem charsOf_broken {front c : List Int} (bytes : Bytes (front.map v.spelling))
    (ne : leadBytes v front ≠ []) (broken : ¬ Utf8.Whole (leadBytes v front ++ leadBytes v c)) :
    charsOf v (front ++ c) = List.replicate (leadBytes v front).length '\uFFFD' ++
      (List.replicate (leadBytes v c).length '\uFFFD' ++ behind (c.map v.spelling)) := by
  have hopen : openRun [] (front.map v.spelling) = leadBytes v front := openRun_bytes bytes []
  have hrun : byteText (leadBytes v front ++ lead (c.map v.spelling)) = _ := byteText_broken broken
  obtain ⟨n, hn⟩ := Nat.exists_eq_succ_of_ne_zero (mt List.length_eq_zero_iff.mp ne)
  rw [charsOf, List.map_append, join_append, closed_bytes bytes, hopen, hrun, List.nil_append,
    List.length_append, List.replicate_add, List.append_assoc, hn, List.replicate_succ,
    List.cons_append, dropSpace_of_ne (by decide), List.cons_append]
  rfl

/-- A stream that shows no replacement character has come to the end of a character. -/
theorem reaches {e n : Nat} (here : Between v ids e) (le : e ≤ n)
    (bound : n ≤ ids.length) (shows : freshAt (textOf v) ids e n ≠ [])
    (unspoiled : '\uFFFD' ∉ freshAt (textOf v) ids e n) :
    Utf8.Whole (openBytes v (ids.take n)) := by
  obtain ⟨a, o, c, rest, parts⟩ := TextStream.exists_parts le bound
  rw [freshAt_eq le parts] at shows unspoiled
  obtain ⟨hbefore, hagain⟩ := here
  rw [parts.before] at hbefore
  rw [parts.again, parts.after] at hagain
  by_contra hbroken
  rw [parts.both, openBytes_append] at hbroken
  refine unspoiled (mem_drop_charsOf ?_ shows)
  rw [openBytes_append]
  by_cases hbytes : Bytes (c.map v.spelling)
  · rw [openRun_bytes hbytes] at hbroken ⊢
    have hlead : ¬ Utf8.Whole (leadBytes v c) := fun h => hbroken (hbefore.append h)
    have hne : leadBytes v c ≠ [] := by
      intro hnil
      exact hlead (hnil ▸ Utf8.whole_nil)
    exact fun h => hlead (h.right (hagain (leadBytes_ne_nil_append hne)))
  · rwa [openRun_closed hbytes] at hbroken ⊢

/-- When the last two tokens end inside of a character, further bytes are shown as replacement
characters. -/
theorem spoils (v : Vocabulary) {e n : Nat} (reached : Utf8.Whole (openBytes v (ids.take e)))
    (divided : ¬ Between v ids e) (lt : e < n) (bound : n ≤ ids.length) :
    '\uFFFD' ∈ freshAt (textOf v) ids e n := by
  obtain ⟨a, o, c, rest, parts⟩ := TextStream.exists_parts (Nat.le_of_lt lt) bound
  obtain ⟨hfollow, hbroken⟩ : leadBytes v (c ++ rest) ≠ [] ∧ ¬ Utf8.Whole (openBytes v o) := by
    rw [Between, parts.again, parts.after] at divided
    by_contra hnot
    exact divided ⟨reached, fun hne => by_contra fun h => hnot ⟨hne, h⟩⟩
  rw [parts.before, openBytes_append] at reached
  have hbytes : Bytes (o.map v.spelling) := by
    by_contra hnot
    rw [openRun_closed hnot] at reached
    exact hbroken reached
  have hopen : openBytes v o = leadBytes v o := openRun_bytes hbytes []
  rw [openRun_bytes hbytes] at reached
  rw [hopen] at hbroken
  have hlead := leadBytes_of_append (parts.waits lt bound) hfollow
  have hne : leadBytes v o ≠ [] := by
    intro hnil
    exact hbroken (hnil ▸ Utf8.whole_nil)
  -- Were the bytes of the last tokens whole with those behind, they would be so alone.
  have hjoined : ¬ Utf8.Whole (leadBytes v o ++ leadBytes v c) := by
    intro hwhole
    have hstarts : Utf8.Starts (leadBytes v o) := by
      obtain ⟨b, bytes, hcons⟩ := List.exists_cons_of_ne_nil hne
      simpa [hcons, Utf8.Starts] using hwhole.starts
    exact hbroken (reached.right (reached.left hstarts))
  have hagain : charsOf v o = List.replicate (leadBytes v o).length '\uFFFD' := by
    have hnone : leadBytes v [] = [] := rfl
    have h := charsOf_broken (c := []) hbytes hne (by rwa [hnone, List.append_nil])
    simpa [hnone, behind] using h
  rw [freshAt_eq (Nat.le_of_lt lt) parts, charsOf_broken hbytes hne hjoined, hagain,
    List.length_replicate, List.drop_left' List.length_replicate]
  simp [hlead]

theorem Merging.reads (h : t.Merging v) (beginId endId : Int) :
    TextStream.Reads (Tokenizer.pieces t beginId endId).detokenizer v.Knows (textOf v) :=
  fun _ known => congrArg Except.ok (h.decode_eq known)

theorem one_le_context (t : PieceTable) (beginId endId : Int) :
    1 ≤ (Tokenizer.pieces t beginId endId).detokenizer.context := by
  show 1 ≤ 4
  decide

theorem between_last (clear : v.Clear ids) : Between v ids ids.length := by
  have hwhole : Utf8.Whole (openBytes v ids) := by
    have hruns := clear.2
    rw [← List.append_nil (ids.map v.spelling)] at hruns
    exact hruns.right
  refine ⟨by rwa [List.take_length], fun hne => absurd ?_ hne⟩
  rw [List.drop_length]
  rfl

/-- A stream that always stands between two characters shows the text of its tokens. -/
theorem Merging.shown (h : t.Merging v) (beginId endId : Int) {batches : List (List Int)}
    (clear : v.Clear batches.flatten)
    (stands : Stands (Tokenizer.pieces t beginId endId).detokenizer {} batches
      (Between v batches.flatten)) :
    TextStream.shown (Tokenizer.pieces t beginId endId).detokenizer batches =
      .ok (t.decode batches.flatten) := by
  have hnil : textOf v [] = "" := by rw [textOf, charsOf_nil]
  rw [h.decode_eq clear.1]
  exact TextStream.shown_eq (h.reads beginId endId) (one_le_context t beginId endId) hnil clear.1
    (carries clear) stands (between_last clear)

/-- A stream of pieces shows the text of its tokens when no character is divided between those it has
decoded and the rest, and this is so whenever it shows no replacement character. -/
theorem merging_shown (table : t.Merging v) (beginId endId : Int) (text : String) :
    ∃ ids, t.encode text = .ok ids ∧ ∀ batches : List (List Int), batches.flatten = ids →
      ∃ streamed,
        TextStream.shown (Tokenizer.pieces t beginId endId).detokenizer batches = .ok streamed ∧
          (Stands (Tokenizer.pieces t beginId endId).detokenizer {} batches (Between v ids) →
            streamed = t.decode ids) ∧
          ('\uFFFD' ∉ streamed.toList →
            Stands (Tokenizer.pieces t beginId endId).detokenizer {} batches (Between v ids)) := by
  obtain ⟨ids, hids, hclear⟩ := table.encode text
  refine ⟨ids, hids, ?_⟩
  rintro batches rfl
  have hreads := table.reads beginId endId
  obtain ⟨streamed, hshown⟩ := TextStream.exists_shown hreads (one_le_context t beginId endId) hclear.1
  refine ⟨streamed, hshown, fun stands => ?_, fun unspoiled => ?_⟩
  · exact Except.ok.inj (hshown.symm.trans (table.shown beginId endId hclear stands))
  · obtain ⟨texts, after, final, hfeed, hflush, rfl⟩ := TextStream.of_shown hshown
    exact TextStream.stands_of_unspoiled hreads (one_le_context t beginId endId) hclear.1
      (R := fun e => Utf8.Whole (openBytes v (batches.flatten.take e)))
      (fun e n => spoils v) (fun e n => reaches)
      (fun _ => between_last hclear) rfl (Nat.le_refl _) Utf8.whole_nil hfeed hflush unspoiled

def letters : List String := ["▁", "a", "b"]

theorem listed_letters : Listed letters [] where
  distinct := by decide
  plain := by decide
  merged := by simp

/-- The table of the letters, in which every other character falls back to its bytes. -/
def letterTable : PieceTable :=
  merging (fileVocabulary letters) (rankedMerges []) true (some 0) fileMarkers

theorem ofDocument_letters : ofDocument (mergingDocument letters [] true) = .ok letterTable :=
  listed_letters.ofDocument rfl

theorem letterTable_merging : letterTable.Merging (fileVocabulary letters) :=
  ⟨_, _, _, _, rfl, listed_letters.sound rfl⟩

theorem symbols?_letter {c : Char} {i : Nat} (h : letters[i]? = some c.toString) :
    symbols? (fileVocabulary letters) true c = some [((259 + i : Nat) : Int)] := by
  rw [symbols?, listed_letters.piece h]

theorem symbols?_euro : symbols? (fileVocabulary letters) true '€' = some [229, 133, 175] := by
  have hnone : (fileVocabulary letters).ids['€'.toString]? = none :=
    listed_letters.absent (by decide) (by decide) (by decide)
  have hbytes : Utf8.encodePoint '€'.toNat = [226, 130, 172] := by decide
  have hbyte : ∀ b < 256, (fileVocabulary letters).ids[bytePiece b]? = some ((3 + b : Nat) : Int) :=
    fun b hb => listed_letters.byte hb
  rw [symbols?, hnone, hbytes]
  simp [hbyte]

theorem encode_letters : letterTable.encode "ab€" = .ok [259, 260, 261, 229, 133, 175] := by
  have hcut : Span.cut fileMarkers "ab€".toList = [.text ['a', 'b', '€']] := by decide
  have hbarred : barred ['a', 'b', '€'] = ['▁', 'a', 'b', '€'] := by decide
  have hmerged : ∀ a b : Int, (rankedMerges [])[(a, b)]? = none := by simp [rankedMerges]
  have hbar := symbols?_letter (c := '▁') (i := 0) (by decide)
  have ha := symbols?_letter (c := 'a') (i := 1) (by decide)
  have hb := symbols?_letter (c := 'b') (i := 2) (by decide)
  simp only [letterTable, encode, hcut, List.flatMap_cons, List.flatMap_nil, List.append_nil,
    Merge.all_none hmerged, hbarred, symbols, hbar, ha, hb, symbols?_euro]
  rfl

def signTokens : List (Int × String) :=
  [(259, "▁"), (260, "a"), (261, "b"), (229, "<0xE2>"), (133, "<0x82>"), (175, "<0xAC>")]

theorem pieces_letters : ∀ e ∈ signTokens, (fileVocabulary letters).pieces[e.1]? = some e.2 := by
  have hletter : ∀ {i : Nat} {piece : String}, letters[i]? = some piece →
      (fileVocabulary letters).pieces[((259 + i : Nat) : Int)]? = some piece :=
    fun hi => listed_letters.named (listed_letters.piece hi)
  have hbyte : ∀ {b : Nat}, b < 256 →
      (fileVocabulary letters).pieces[((3 + b : Nat) : Int)]? = some (bytePiece b) :=
    fun hb => listed_letters.named (listed_letters.byte hb)
  simp only [signTokens, List.forall_mem_cons]
  exact ⟨hletter (i := 0) rfl, hletter (i := 1) rfl, hletter (i := 2) rfl,
    hbyte (b := 226) (by decide), hbyte (b := 130) (by decide), hbyte (b := 172) (by decide),
    by simp⟩

theorem decode_letters (tokens : List (Int × String)) (h : ∀ e ∈ tokens, e ∈ signTokens) :
    letterTable.decode (tokens.map Prod.fst) =
      String.ofList (dropSpace (join (tokens.map fun e => e.2.toList))) := by
  have hpieces : (fileVocabulary letters).piecesOf (tokens.map Prod.fst) = tokens.map Prod.snd := by
    induction tokens with
    | nil => rfl
    | cons e tokens ih =>
      rw [List.forall_mem_cons] at h
      have hrest := ih h.2
      rw [Vocabulary.piecesOf] at hrest ⊢
      rw [List.map_cons, List.filterMap_cons_some (pieces_letters e h.1), hrest, List.map_cons]
  rw [letterTable, decode, hpieces, List.map_map]
  rfl

theorem decode_sign : letterTable.decode [259, 260, 261, 229, 133, 175] = "ab€" :=
  (decode_letters signTokens (by decide)).trans (by decide)

theorem decode_nil : letterTable.decode [] = "" := (decode_letters [] (by decide)).trans (by decide)

/-- What waits until all bytes of the sign have come is shown as it is. -/
theorem euro_shown : letterTable.Merging (fileVocabulary letters) ∧
    ∃ ids, letterTable.encode "ab€" = .ok ids ∧
      TextStream.shown (Tokenizer.pieces letterTable 1 2).detokenizer [ids.take 3, ids.drop 3] =
        .ok (letterTable.decode ids) := by
  obtain ⟨ids, hids, hbatches⟩ := merging_shown letterTable_merging 1 2 "ab€"
  obtain rfl := Except.ok.inj (encode_letters.symm.trans hids)
  obtain ⟨streamed, hshown, hequal, hstands⟩ := hbatches [[259, 260, 261], [229, 133, 175]] rfl
  have hsign : TextStream.shown (Tokenizer.pieces letterTable 1 2).detokenizer
      [[259, 260, 261], [229, 133, 175]] = .ok "ab€" := by
    simp [TextStream.shown, TextStream.feed, TextStream.push, TextStream.flush,
      TextStream.decodePending, TextStream.extend, Tokenizer.detokenizer, Tokenizer.context,
      Tokenizer.decode, TextStream.overlap, decode_sign, decode_nil, bind, Except.bind, pure,
      Except.pure, Except.map]
  obtain rfl := Except.ok.inj (hsign.symm.trans hshown)
  refine ⟨letterTable_merging, _, encode_letters, ?_⟩
  rw [← hequal (hstands (by decide))]
  exact hshown

/-- The first byte of the sign is shown before the others have come, and the sign never. -/
theorem euro_divided :
    ofDocument (mergingDocument letters [] true) = .ok letterTable ∧
      letterTable.encode "ab€" = .ok [[259, 260, 261, 229], [133, 175]].flatten ∧
      letterTable.decode [[259, 260, 261, 229], [133, 175]].flatten = "ab€" ∧
      TextStream.shown (Tokenizer.pieces letterTable 1 2).detokenizer
        [[259, 260, 261, 229], [133, 175]] = .ok "ab\uFFFD" := by
  have hbegin : letterTable.decode [259, 260, 261, 229] = "ab\uFFFD" :=
    (decode_letters (signTokens.take 4) (by decide)).trans (by decide)
  have hend : letterTable.decode [261, 229, 133, 175] = "b€" :=
    (decode_letters (signTokens.drop 2) (by decide)).trans (by decide)
  have hagain : letterTable.decode [261, 229] = "b\uFFFD" :=
    (decode_letters ((signTokens.take 4).drop 2) (by decide)).trans (by decide)
  refine ⟨ofDocument_letters, encode_letters, decode_sign, ?_⟩
  simp [TextStream.shown, TextStream.feed, TextStream.push, TextStream.flush,
    TextStream.decodePending, TextStream.extend, Tokenizer.detokenizer, Tokenizer.context,
    Tokenizer.decode, TextStream.overlap, hbegin, decode_nil, hend, hagain, bind, Except.bind, pure,
    Except.pure, Except.map]

end PieceTable
end StreamingLM
