import Mathlib.Data.List.TakeWhile
import StreamingLM.Proofs.Session.Streaming
import StreamingLM.Tokenizer.Decoder

/-!
Decoders to which two tokens are context enough: a stream shows all their text, once. Pieces whose
leading spaces are stripped are decoded so, as long as every piece shows something.
-/
namespace StreamingLM
namespace Detokenizer

/-- Two tokens are context enough: what further tokens add depends on the last two tokens only, or
on all of them as long as there are no more than two. -/
structure Local (d : Detokenizer) (allowed : Int → Prop) (text : List Int → String) : Prop where
  reads : TextStream.Reads d allowed text
  nil : text [] = ""
  goes_on : ∀ a o c : List Int, (∀ id ∈ a ++ o ++ c, allowed id) →
    o.length = 2 ∨ a = [] ∧ o.length ≤ 2 →
      ∃ x, text (o ++ c) = text o ++ x ∧ text (a ++ o ++ c) = text (a ++ o) ++ x

theorem Local.carries {d : Detokenizer} {allowed : Int → Prop} {text : List Int → String}
    (h : d.Local allowed text) {ids : List Int} (known : ∀ id ∈ ids, allowed id) :
    TextStream.Carries text ids fun _ => True := by
  intro e n le bound _ _
  obtain ⟨a, o, c, rest, parts⟩ := TextStream.exists_parts le bound
  have hknown : ∀ id ∈ a ++ o ++ c, allowed id := fun id hid =>
    known id (List.mem_of_mem_take (parts.both ▸ hid))
  obtain ⟨x, hx, hall⟩ := h.goes_on a o c hknown parts.context
  exact ⟨x, by rw [parts.waiting, parts.again]; exact hx, by rw [parts.both, parts.before]; exact hall⟩

def Placed (all : List String) (id : Int) : Prop := ∃ i, place? all.length id = .ok i

def spread (all : List String) (id : Int) : List Char :=
  match place? all.length id with
  | .ok i => ((all[i]?).getD "").toList.map fun c => if c = PieceTable.bar then ' ' else c
  | .error _ => []

def strippedText (all : List String) (ids : List Int) : String :=
  String.ofList ((ids.flatMap (spread all)).dropWhile (· = ' '))

/-- A piece shows something besides spaces. -/
def Shows (piece : String) : Prop := ∃ c ∈ piece.toList, c ≠ ' ' ∧ c ≠ PieceTable.bar

variable {all : List String}

theorem pieces_eq {ids : List Int} (known : ∀ id ∈ ids, Placed all id) :
    pieces all true ids = .ok (strippedText all ids) := by
  have hplaces : ∃ texts, ids.mapM (fun id => do return (all[← place? all.length id]?).getD "") =
      Except.ok (ε := Failure) texts ∧
      (String.join texts).toList.map (fun c => if c = PieceTable.bar then ' ' else c) =
        ids.flatMap (spread all) := by
    induction ids with
    | nil => exact ⟨[], rfl, rfl⟩
    | cons id ids ih =>
      obtain ⟨i, hi⟩ := known id (by simp)
      obtain ⟨texts, hmap, hjoin⟩ := ih fun id hid => known id (List.mem_cons_of_mem _ hid)
      refine ⟨(all[i]?).getD "" :: texts, ?_, ?_⟩
      · rw [List.mapM_cons, hi, hmap]
        rfl
      · rw [String.join_cons, String.toList_append, List.map_append, hjoin, List.flatMap_cons,
          spread, hi]
  obtain ⟨texts, hmap, hjoin⟩ := hplaces
  rw [pieces, hmap]
  simp only [bind, Except.bind, hjoin, if_true, pure, Except.pure, strippedText]

theorem lt_of_place? {n i : Nat} {id : Int} (h : place? n id = .ok i) : i < n := by
  unfold place? at h
  generalize (if id < 0 then id + n else id) = j at h
  by_cases hj : 0 ≤ j ∧ j < n
  · rw [if_pos hj] at h
    cases h
    omega
  · rw [if_neg hj] at h
    cases h

theorem placed_of_lt {id : Int} (h : 0 ≤ id ∧ id < all.length) : Placed all id := by
  have hnonneg : ¬ id < 0 := by omega
  exact ⟨id.toNat, by simp only [place?, if_neg hnonneg, if_pos h]⟩

theorem spread_shows (shows : ∀ piece ∈ all, Shows piece) {id : Int} (h : Placed all id) :
    ∃ c ∈ spread all id, c ≠ ' ' := by
  obtain ⟨i, hi⟩ := h
  have hlt := lt_of_place? hi
  obtain ⟨c, hc, hspace, hbar⟩ := shows all[i] (List.getElem_mem hlt)
  refine ⟨c, ?_, hspace⟩
  rw [spread, hi]
  simp only [List.getElem?_eq_getElem hlt, Option.getD_some]
  exact List.mem_map.mpr ⟨c, hc, if_neg hbar⟩

/-- Behind pieces that show something, the spaces in front of further pieces stay. -/
theorem strippedText_append (shows : ∀ piece ∈ all, Shows piece) {o : List Int} (some_ : o ≠ [])
    (known : ∀ id ∈ o, Placed all id) (c : List Int) :
    strippedText all (o ++ c) = strippedText all o ++ String.ofList (c.flatMap (spread all)) := by
  obtain ⟨id, hid⟩ := List.exists_mem_of_ne_nil o some_
  obtain ⟨ch, hch, hspace⟩ := spread_shows shows (known id hid)
  have hleft : (o.flatMap (spread all)).dropWhile (· = ' ') ≠ [] := by
    intro hnone
    have hall := List.dropWhile_eq_nil_iff.mp hnone ch (List.mem_flatMap.mpr ⟨id, hid, hch⟩)
    exact hspace (by simpa using hall)
  have hempty : ((o.flatMap (spread all)).dropWhile (· = ' ')).isEmpty = false := by
    simpa using hleft
  rw [strippedText, strippedText, List.flatMap_append, List.dropWhile_append, hempty,
    if_neg Bool.false_ne_true, String.ofList_append]

theorem pieces_local (shows : ∀ piece ∈ all, Shows piece) {d : Detokenizer}
    (h : d.decode = pieces all true) : d.Local (Placed all) (strippedText all) := by
  refine ⟨fun ids known => h ▸ pieces_eq known, rfl, ?_⟩
  intro a o c known short
  by_cases hnone : o = []
  · have ha : a = [] := by simpa [hnone] using short
    exact ⟨strippedText all c, by simp [hnone, strippedText], by simp [ha, hnone, strippedText]⟩
  · have hao : ∀ id ∈ a ++ o, Placed all id := fun id hid => known id (List.mem_append_left c hid)
    refine ⟨_, strippedText_append shows hnone (fun id hid => hao id (List.mem_append_right a hid)) c,
      strippedText_append shows (by simp [hnone]) hao c⟩

/-- A stream of a two-token-local decoder shows the text of all its tokens, however they are cut into
batches, and a second flush has nothing to add. Pieces that all show something, decoded without the
spaces at the front, are such a decoder. -/
theorem local_shown :
    (∀ {d : Detokenizer} {allowed : Int → Prop} {text : List Int → String},
      d.Local allowed text → 1 ≤ d.context → ∀ batches : List (List Int),
      (∀ id ∈ batches.flatten, allowed id) →
        TextStream.shown d batches = d.decode batches.flatten ∧
        d.decode batches.flatten = .ok (text batches.flatten) ∧
        (TextStream.flush d (TextStream.finished d batches)).1 = .ok none) ∧
    ∀ {all : List String}, (∀ piece ∈ all, Shows piece) → ∀ {d : Detokenizer},
      d.decode = pieces all true → d.Local (Placed all) (strippedText all) := by
  refine ⟨?_, fun shows _ h => pieces_local shows h⟩
  intro d allowed text hlocal context batches known
  have hdecode := hlocal.reads batches.flatten known
  have hshown := TextStream.shown_eq hlocal.reads context hlocal.nil known (hlocal.carries known)
    (fun _ => trivial) trivial
  exact ⟨hshown.trans hdecode.symm, hdecode,
    TextStream.flush_finished hlocal.reads context known⟩

def greeting : List String := ["▁Hello", "▁wor", "ld", "!", "▁how", "▁are", "▁you", "?"]

/-- Greeting pieces, two of which are held back. -/
def greetingDecoder : Detokenizer := { decode := pieces greeting true, context := 2 }

theorem greeting_shown :
    (∀ piece ∈ greeting, Shows piece) ∧
    (∀ id ∈ [[0], [1, 2], [], [3, 4], [5, 6, 7]].flatten, Placed greeting id) ∧
    TextStream.shown greetingDecoder [[0], [1, 2], [], [3, 4], [5, 6, 7]] =
      .ok "Hello world! how are you?" ∧
    (TextStream.flush greetingDecoder
      (TextStream.finished greetingDecoder [[0], [1, 2], [], [3, 4], [5, 6, 7]])).1 = .ok none := by
  have hany : ∀ piece ∈ greeting,
      (piece.toList.any fun c => c != ' ' && c != PieceTable.bar) = true := by decide
  have hshows : ∀ piece ∈ greeting, Shows piece := fun piece hpiece => by
    simpa [Shows] using hany piece hpiece
  have hplaced : ∀ id ∈ [[0], [1, 2], [], [3, 4], [5, 6, 7]].flatten, Placed greeting id := by
    have hbound : ∀ id ∈ [[0], [1, 2], [], [3, 4], [5, 6, 7]].flatten,
        0 ≤ id ∧ id < (greeting.length : Int) := by decide
    exact fun id hid => placed_of_lt (hbound id hid)
  obtain ⟨hshown, hdecode, hflush⟩ :=
    local_shown.1 (local_shown.2 hshows (d := greetingDecoder) rfl) (by decide) _ hplaced
  exact ⟨hshows, hplaced, (hshown.trans hdecode).trans rfl, hflush⟩

end Detokenizer
end StreamingLM
