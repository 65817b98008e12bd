import StreamingLM.Proofs.Outcome
import StreamingLM.Session.TextStream

/-!
What a stream of tokens shows, however it is cut into batches. The text handed out so far is the text
of the tokens decoded so far; this survives a step when the waiting tokens add the same text to the
two that are decoded again as to all that came before.
-/
namespace StreamingLM
namespace TextStream

def feed (d : Detokenizer) (s : TextStream) :
    List (List Int) → Attempt TextStream (List (Option String))
  | [] => (.ok [], s)
  | batch :: rest =>
    match s.push d batch with
    | (.error f, s) => (.error f, s)
    | (.ok text, s) =>
      let (result, s) := feed d s rest
      (result.map (text :: ·), s)

def joined (texts : List (Option String)) : String := String.join (texts.map (·.getD ""))

def finished (d : Detokenizer) (batches : List (List Int)) : TextStream :=
  (flush d (feed d {} batches).2).2

/-- All that a stream shows of some batches. -/
def shown (d : Detokenizer) (batches : List (List Int)) : Except Failure String := do
  let texts ← (feed d {} batches).1
  let last ← (flush d (feed d {} batches).2).1
  return joined (texts ++ [last])

/-- Between two places of a list, the text goes on behind the last two tokens as it does behind all
tokens. -/
def GoesOn (text : List Int → String) (ids : List Int) (e n : Nat) : Prop :=
  ∃ x, text ((ids.take n).drop (e - overlap)) = text ((ids.take e).drop (e - overlap)) ++ x ∧
    text (ids.take n) = text (ids.take e) ++ x

@[simp] theorem joined_nil : joined [] = "" := String.join_nil

@[simp] theorem joined_cons (t : Option String) (texts : List (Option String)) :
    joined (t :: texts) = t.getD "" ++ joined texts := String.join_cons

theorem joined_append (texts more : List (Option String)) :
    joined (texts ++ more) = joined texts ++ joined more := by
  rw [joined, List.map_append, String.join_append, joined, joined]

@[simp] theorem tokens_extend (s : TextStream) (ids : List Int) :
    (s.extend ids).tokens = s.tokens ++ ids := rfl

@[simp] theorem emitted_extend (s : TextStream) (ids : List Int) :
    (s.extend ids).emitted = s.emitted := rfl

/-- The text that counts as new: what is left behind the known characters. -/
def fresh (text : List Int → String) (s : TextStream) : List Char :=
  (text (s.tokens.drop (s.emitted - overlap))).toList.drop
    (text ((s.tokens.take s.emitted).drop (s.emitted - overlap))).toList.length

def handOut (text : List Int → String) (s : TextStream) : Option String × TextStream :=
  if (s.fresh text).isEmpty then (none, s)
  else (some (String.ofList (s.fresh text)), { s with emitted := s.tokens.length })

theorem handOut_empty {text : List Int → String} {s : TextStream} (h : s.fresh text = []) :
    s.handOut text = (none, s) := by simp [handOut, h]

theorem handOut_fresh {text : List Int → String} {s : TextStream} (h : s.fresh text ≠ []) :
    s.handOut text =
      (some (String.ofList (s.fresh text)), { s with emitted := s.tokens.length }) := by
  simp [handOut, h]

@[simp] theorem tokens_handOut (text : List Int → String) (s : TextStream) :
    (s.handOut text).2.tokens = s.tokens := by
  by_cases h : s.fresh text = []
  · rw [handOut_empty h]
  · rw [handOut_fresh h]

theorem emitted_handOut_le {text : List Int → String} {s : TextStream}
    (h : s.emitted ≤ s.tokens.length) : (s.handOut text).2.emitted ≤ s.tokens.length := by
  by_cases hfresh : s.fresh text = []
  · rwa [handOut_empty hfresh]
  · simp [handOut_fresh hfresh]

/-- The text of allowed tokens. -/
def Reads (d : Detokenizer) (allowed : Int → Prop) (text : List Int → String) : Prop :=
  ∀ ids : List Int, (∀ id ∈ ids, allowed id) → d.decode ids = .ok (text ids)

variable {d : Detokenizer} {allowed : Int → Prop} {text : List Int → String}

theorem decodePending_eq (reads : Reads d allowed text) {s : TextStream}
    (known : ∀ id ∈ s.tokens, allowed id) : decodePending d s = .ok (s.handOut text) := by
  have hwhole := reads (s.tokens.drop (s.emitted - overlap)) fun id hid =>
    known id (List.mem_of_mem_drop hid)
  have hagain := reads ((s.tokens.take s.emitted).drop (s.emitted - overlap)) fun id hid =>
    known id (List.mem_of_mem_take (List.mem_of_mem_drop hid))
  simp only [decodePending, hwhole, hagain, bind, Except.bind]
  by_cases h : s.fresh text = []
  · rw [handOut_empty h]
    rw [fresh] at h
    simp [h, pure, Except.pure]
  · rw [handOut_fresh h]
    rw [fresh] at h
    simp [h, fresh, pure, Except.pure]

theorem push_eq (reads : Reads d allowed text) (context : 1 ≤ d.context) {s : TextStream}
    {ids : List Int} (known : ∀ id ∈ s.tokens ++ ids, allowed id) :
    push d s ids =
      if (s.tokens ++ ids).length - s.emitted < d.context then (.ok none, s.extend ids)
      else (.ok ((s.extend ids).handOut text).1, ((s.extend ids).handOut text).2) := by
  have hpending := decodePending_eq reads (s := s.extend ids) known
  simp only [push, if_neg (Nat.one_le_iff_ne_zero.mp context), hpending, tokens_extend,
    emitted_extend]

theorem flush_eq (reads : Reads d allowed text) (context : 1 ≤ d.context) {s : TextStream}
    (known : ∀ id ∈ s.tokens, allowed id) :
    flush d s = if s.tokens.length ≤ s.emitted then (.ok none, s)
      else (.ok (s.handOut text).1, (s.handOut text).2) := by
  simp only [flush, Nat.one_le_iff_ne_zero.mp context, false_or, decodePending_eq reads known]

theorem flush_flush (reads : Reads d allowed text) (context : 1 ≤ d.context) {s : TextStream}
    (known : ∀ id ∈ s.tokens, allowed id) : (flush d (flush d s).2).1 = .ok none := by
  have hflush := flush_eq reads context known
  by_cases hdone : s.tokens.length ≤ s.emitted
  · rw [if_pos hdone] at hflush
    rw [hflush, hflush]
  · rw [if_neg hdone] at hflush
    by_cases hfresh : s.fresh text = []
    · rw [handOut_empty hfresh] at hflush
      rw [hflush, hflush]
    · have hagain := flush_eq reads context
        (s := { s with emitted := s.tokens.length }) known
      rw [if_pos (Nat.le_refl _)] at hagain
      rw [hflush, handOut_fresh hfresh, hagain]

/-- Where the text goes on, what is new to the stream is what the waiting tokens add to the whole. -/
theorem fresh_of_goesOn {s : TextStream} {ids : List Int} {n : Nat} (h : s.tokens = ids.take n)
    (le : s.emitted ≤ n) (goes : GoesOn text ids s.emitted n) :
    ∃ x : String, s.fresh text = x.toList ∧ text (ids.take n) = text (ids.take s.emitted) ++ x := by
  obtain ⟨x, hagain, hall⟩ := goes
  refine ⟨x, ?_, hall⟩
  have htake : s.tokens.take s.emitted = ids.take s.emitted := by
    rw [h, List.take_take, Nat.min_eq_left le]
  rw [fresh, htake, h, hagain, String.toList_append, List.drop_left]

variable {ids : List Int}

theorem text_handOut (text : List Int → String) {s : TextStream} (h : s.tokens <+: ids)
    (le : s.emitted ≤ s.tokens.length)
    (goes : s.fresh text ≠ [] → GoesOn text ids s.emitted s.tokens.length) :
    text (ids.take (s.handOut text).2.emitted) =
      text (ids.take s.emitted) ++ (s.handOut text).1.getD "" := by
  by_cases hfresh : s.fresh text = []
  · simp [handOut_empty hfresh]
  · obtain ⟨x, hx, htext⟩ := fresh_of_goesOn (List.prefix_iff_eq_take.mp h) le (goes hfresh)
    simp [handOut_fresh hfresh, hx, htext]

/-- The tokens around two places: those that are decoded once more stand before the first place, the
waiting ones between the two. -/
structure Parts (ids : List Int) (e n : Nat) (a o c rest : List Int) : Prop where
  before : ids.take e = a ++ o
  both : ids.take n = a ++ o ++ c
  after : ids.drop e = c ++ rest
  again : (ids.take e).drop (e - overlap) = o
  waiting : (ids.take n).drop (e - overlap) = o ++ c
  context : o.length = overlap ∨ a = [] ∧ o.length ≤ overlap
  ends : a.length + o.length = e

theorem exists_parts {e n : Nat} (le : e ≤ n) (bound : n ≤ ids.length) :
    ∃ a o c rest, Parts ids e n a o c rest := by
  have hsplit : ∀ {m k : Nat}, m ≤ k → ids.take k = ids.take m ++ (ids.take k).drop m := by
    intro m k hmk
    have htake : (ids.take k).take m = ids.take m := by rw [List.take_take, Nat.min_eq_left hmk]
    rw [← htake, List.take_append_drop]
  have hbefore := hsplit (Nat.sub_le e overlap)
  have hlength : (ids.take (e - overlap)).length = e - overlap := List.length_take_of_le (by omega)
  have hagain : ((ids.take e).drop (e - overlap)).length = e - (e - overlap) := by
    rw [List.length_drop, List.length_take_of_le (by omega)]
  have hboth : ids.take n = ids.take (e - overlap) ++
      ((ids.take e).drop (e - overlap) ++ (ids.take n).drop e) := by
    rw [← List.append_assoc, ← hbefore, ← hsplit le]
  have hbehind : e ≤ (ids.take n).length := by rwa [List.length_take_of_le bound]
  refine ⟨ids.take (e - overlap), (ids.take e).drop (e - overlap), (ids.take n).drop e, ids.drop n,
    hbefore, hboth.trans (List.append_assoc _ _ _).symm, ?_, rfl, ?_, ?_, by omega⟩
  · rw [← List.drop_append_of_le_length hbehind, List.take_append_drop]
  · exact (congrArg (List.drop _) hboth).trans (List.drop_left' hlength)
  · rw [← List.length_eq_zero_iff, hlength, hagain, overlap]
    omega

theorem Parts.whole {e n : Nat} {a o c rest : List Int} (h : Parts ids e n a o c rest) :
    ids = a ++ o ++ c ++ rest := by
  rw [← List.take_append_drop e ids, h.before, h.after, ← List.append_assoc]

theorem Parts.waits {e n : Nat} {a o c rest : List Int} (h : Parts ids e n a o c rest) (lt : e < n)
    (bound : n ≤ ids.length) : c ≠ [] := by
  rintro rfl
  have hlength := congrArg List.length h.both
  rw [List.length_take_of_le bound, List.append_nil, List.length_append, h.ends] at hlength
  omega

/-- The text goes on between any two places with a property. -/
def Carries (text : List Int → String) (ids : List Int) (P : Nat → Prop) : Prop :=
  ∀ e n, e ≤ n → n ≤ ids.length → P e → P n → GoesOn text ids e n

/-- Wherever a stream stands while some batches are pushed, the number of tokens decoded has a
property. -/
def Stands (d : Detokenizer) (s : TextStream) (batches : List (List Int)) (P : Nat → Prop) : Prop :=
  ∀ k, P (feed d s (batches.take k)).2.emitted

theorem Stands.head {s : TextStream} {batches : List (List Int)} {P : Nat → Prop}
    (h : Stands d s batches P) : P s.emitted := h 0

theorem Stands.tail {s s' : TextStream} {batch : List Int} {batches : List (List Int)}
    {P : Nat → Prop} {t : Option String} (h : Stands d s (batch :: batches) P)
    (pushed : push d s batch = (.ok t, s')) : Stands d s' batches P := by
  intro k
  have hk := h (k + 1)
  rwa [List.take_succ_cons, feed, pushed] at hk

theorem Stands.last {s : TextStream} {batches : List (List Int)} {P : Nat → Prop}
    (h : Stands d s batches P) : P (feed d s batches).2.emitted := by
  have hall := h batches.length
  rwa [List.take_length] at hall

/-- Pushing allowed tokens succeeds and keeps them all; what is handed out meanwhile is the text of
the tokens decoded meanwhile, when the text goes on between the places where the stream stands. -/
theorem feed_ok (reads : Reads d allowed text) (context : 1 ≤ d.context)
    (known : ∀ id ∈ ids, allowed id) {batches : List (List Int)} {s : TextStream}
    (whole : s.tokens ++ batches.flatten = ids) (le : s.emitted ≤ s.tokens.length) :
    ∃ texts after, feed d s batches = (.ok texts, after) ∧ after.tokens = ids ∧
      after.emitted ≤ ids.length ∧
      ∀ P, Carries text ids P → Stands d s batches P →
        text (ids.take after.emitted) = text (ids.take s.emitted) ++ joined texts := by
  induction batches generalizing s with
  | nil =>
    have htokens : s.tokens = ids := by simpa using whole
    exact ⟨[], s, rfl, htokens, htokens ▸ le, fun _ _ _ => by simp⟩
  | cons batch batches ih =>
    rw [List.flatten_cons, ← List.append_assoc] at whole
    have hbegin : (s.extend batch).tokens <+: ids := ⟨_, whole⟩
    have hknown : ∀ id ∈ s.tokens ++ batch, allowed id := fun id hid =>
      known id (hbegin.subset hid)
    have hlonger : (s.extend batch).emitted ≤ (s.extend batch).tokens.length := by
      simp only [tokens_extend, emitted_extend, List.length_append]
      omega
    have hpush := push_eq reads context hknown
    by_cases hwait : (s.tokens ++ batch).length - s.emitted < d.context
    · rw [if_pos hwait] at hpush
      obtain ⟨texts, after, hfeed, htokens, hle, htext⟩ := ih whole hlonger
      refine ⟨none :: texts, after, by rw [feed, hpush]; simp only [hfeed]; rfl, htokens, hle, ?_⟩
      intro P carries stands
      simpa using htext P carries (stands.tail hpush)
    · rw [if_neg hwait] at hpush
      obtain ⟨texts, after, hfeed, htokens, hle, htext⟩ :=
        ih (s := ((s.extend batch).handOut text).2) (by rwa [tokens_handOut])
          (by rw [tokens_handOut]; exact emitted_handOut_le hlonger)
      refine ⟨_ :: texts, after, by rw [feed, hpush]; simp only [hfeed]; rfl, htokens, hle, ?_⟩
      intro P carries stands
      have hrest := stands.tail hpush
      have hstep := text_handOut text hbegin hlonger fun hfresh => by
        have hnext := hrest.head
        rw [handOut_fresh hfresh] at hnext
        exact carries _ _ hlonger hbegin.length_le stands.head hnext
      rw [htext P carries hrest, hstep, joined_cons, String.append_assoc]
      rfl

theorem flush_finished (reads : Reads d allowed text) (context : 1 ≤ d.context)
    {batches : List (List Int)} (known : ∀ id ∈ batches.flatten, allowed id) :
    (flush d (finished d batches)).1 = .ok none := by
  have hwhole : ({} : TextStream).tokens ++ batches.flatten = batches.flatten := rfl
  obtain ⟨texts, after, hfeed, htokens, -⟩ := feed_ok reads context known hwhole (Nat.le_refl _)
  rw [finished, hfeed]
  exact flush_flush reads context (htokens ▸ known)

/-- A stream shows the text of all its tokens when the text goes on between the places where it
stands. -/
theorem shown_eq (reads : Reads d allowed text) (context : 1 ≤ d.context) (nil : text [] = "")
    {batches : List (List Int)} (known : ∀ id ∈ batches.flatten, allowed id) {P : Nat → Prop}
    (carries : Carries text batches.flatten P) (stands : Stands d {} batches P)
    (last : P batches.flatten.length) : shown d batches = .ok (text batches.flatten) := by
  have hwhole : ({} : TextStream).tokens ++ batches.flatten = batches.flatten := rfl
  obtain ⟨texts, after, hfeed, htokens, hle, htext⟩ :=
    feed_ok reads context known hwhole (Nat.le_refl _)
  have hknown : ∀ id ∈ after.tokens, allowed id := htokens ▸ known
  have hafter := stands.last
  have hbegun := htext P carries stands
  rw [hfeed] at hafter
  rw [List.take_zero, nil, String.empty_append] at hbegun
  have hflush := flush_eq reads context hknown
  simp only [shown, hfeed, bind, Except.bind, joined_append]
  by_cases hdone : after.tokens.length ≤ after.emitted
  · rw [if_pos hdone] at hflush
    have hall : batches.flatten.take after.emitted = batches.flatten :=
      List.take_of_length_le (htokens ▸ hdone)
    rw [hflush]
    simp [← hbegun, hall, pure, Except.pure]
  · rw [if_neg hdone] at hflush
    have htake : after.tokens = batches.flatten.take batches.flatten.length := by
      rw [htokens, List.take_length]
    obtain ⟨x, hx, hall⟩ :=
      fresh_of_goesOn htake hle (carries _ _ hle (Nat.le_refl _) hafter last)
    have hhand : (after.handOut text).1.getD "" = x := by
      by_cases hfresh : after.fresh text = []
      · rw [handOut_empty hfresh]
        rw [hfresh] at hx
        exact (String.toList_eq_nil_iff.mp hx.symm).symm
      · rw [handOut_fresh hfresh, hx, Option.getD_some, String.ofList_toList]
    rw [List.take_length] at hall
    rw [hflush]
    simp [hall, hbegun, hhand, pure, Except.pure]

theorem feed_zero (reads : Reads d allowed text) (context : d.context = 0)
    {batches : List (List Int)} (known : ∀ id ∈ batches.flatten, allowed id) (s : TextStream) :
    feed d s batches = (.ok (batches.map fun ids => some (text ids)), s) := by
  induction batches with
  | nil => rfl
  | cons batch batches ih =>
    rw [List.flatten_cons, List.forall_mem_append] at known
    have hpush : push d s batch = (.ok (some (text batch)), s) := by
      rw [push, if_pos context, reads batch known.1]
      rfl
    rw [feed, hpush]
    simp only [ih known.2, List.map_cons]
    rfl

theorem shown_zero (reads : Reads d allowed text) (context : d.context = 0)
    {batches : List (List Int)} (known : ∀ id ∈ batches.flatten, allowed id) :
    shown d batches = .ok (String.join (batches.map text)) := by
  have hjoined : joined (batches.map fun ids => some (text ids)) = String.join (batches.map text) := by
    simp [joined, Function.comp_def]
  simp [shown, feed_zero reads context known, flush, context, joined_append, hjoined, bind,
    Except.bind, pure, Except.pure]

theorem Stands.cons {s s' : TextStream} {batch : List Int} {batches : List (List Int)}
    {P : Nat → Prop} {t : Option String} (pushed : push d s batch = (.ok t, s')) (h : P s.emitted)
    (h' : Stands d s' batches P) : Stands d s (batch :: batches) P := by
  intro k
  cases k with
  | zero => exact h
  | succ k =>
    rw [List.take_succ_cons, feed, pushed]
    exact h' k

theorem feed_cons {s s' after : TextStream} {batch : List Int} {batches : List (List Int)}
    {t : Option String} {texts : List (Option String)} (pushed : push d s batch = (.ok t, s'))
    (fed : feed d s (batch :: batches) = (.ok texts, after)) :
    ∃ more, texts = t :: more ∧ feed d s' batches = (.ok more, after) := by
  rw [feed, pushed] at fed
  obtain ⟨hmap, rfl⟩ := Prod.mk.inj fed
  obtain ⟨more, hmore, rfl⟩ := Outcome.map_eq_ok.mp hmap
  exact ⟨more, rfl, Prod.ext hmore rfl⟩

/-- What a stream finds new that stands at one place when the tokens up to another have come. -/
def freshAt (text : List Int → String) (ids : List Int) (e n : Nat) : List Char :=
  fresh text { tokens := ids.take n, emitted := e }

theorem fresh_eq_freshAt (text : List Int → String) {s : TextStream} (h : s.tokens <+: ids) :
    s.fresh text = freshAt text ids s.emitted s.tokens.length := by
  rw [freshAt, ← List.prefix_iff_eq_take.mp h]

/-- Suppose that a stream which stands in a bad place goes on to show a certain character. If it never
shows it, it never stood in such a place. -/
theorem stands_of_unspoiled (reads : Reads d allowed text) (context : 1 ≤ d.context)
    (known : ∀ id ∈ ids, allowed id) {R P : Nat → Prop} {spoiled : Char}
    (spoils : ∀ e n, R e → ¬ P e → e < n → n ≤ ids.length → spoiled ∈ freshAt text ids e n)
    (reaches : ∀ e n, P e → e ≤ n → n ≤ ids.length → freshAt text ids e n ≠ [] →
      spoiled ∉ freshAt text ids e n → R n)
    (last : R ids.length → P ids.length) {batches : List (List Int)} {s after : TextStream}
    {texts : List (Option String)} {final : Option String}
    (whole : s.tokens ++ batches.flatten = ids) (le : s.emitted ≤ s.tokens.length)
    (begun : R s.emitted) (fed : feed d s batches = (.ok texts, after))
    (flushed : (flush d after).1 = .ok final)
    (unspoiled : spoiled ∉ (joined (texts ++ [final])).toList) : Stands d s batches P := by
  induction batches generalizing s texts with
  | nil =>
    obtain ⟨hok, rfl⟩ := Prod.mk.inj fed
    obtain rfl := Except.ok.inj hok
    have htokens : s.tokens = ids := by simpa using whole
    intro k
    rw [List.take_nil]
    show P s.emitted
    rw [flush_eq reads context (htokens ▸ known)] at flushed
    by_cases hdone : s.tokens.length ≤ s.emitted
    · have hlast : s.emitted = ids.length := by
        rw [htokens] at hdone le
        omega
      rw [hlast] at begun ⊢
      exact last begun
    · rw [if_neg hdone] at flushed
      by_contra hnot
      have hbegin : s.tokens <+: ids := htokens ▸ List.prefix_refl _
      have hfresh := fresh_eq_freshAt text hbegin
      have hspoiled : spoiled ∈ s.fresh text := by
        rw [hfresh, htokens]
        exact spoils _ _ begun hnot (by rw [htokens] at hdone; omega) (Nat.le_refl _)
      rw [handOut_fresh (List.ne_nil_of_mem hspoiled)] at flushed
      obtain rfl := Except.ok.inj flushed
      simp [hspoiled] at unspoiled
  | cons batch batches ih =>
    rw [List.flatten_cons, ← List.append_assoc] at whole
    have hbegin : (s.extend batch).tokens <+: ids := ⟨_, whole⟩
    have hlonger : (s.extend batch).emitted ≤ (s.extend batch).tokens.length := by
      simp only [tokens_extend, emitted_extend, List.length_append]
      omega
    have hpush := push_eq reads context (s := s) fun id hid => known id (hbegin.subset hid)
    have hsame : ∀ {t : Option String}, push d s batch = (.ok t, s.extend batch) →
        Stands d s (batch :: batches) P := by
      intro t hpushed
      obtain ⟨more, rfl, hmore⟩ := feed_cons hpushed fed
      have hunspoiled : spoiled ∉ (joined (more ++ [final])).toList := fun hmem =>
        unspoiled (by simp [hmem])
      have hrest := ih whole hlonger begun hmore hunspoiled
      exact hrest.cons hpushed hrest.head
    by_cases hwait : (s.tokens ++ batch).length - s.emitted < d.context
    · rw [if_pos hwait] at hpush
      exact hsame hpush
    rw [if_neg hwait] at hpush
    by_cases hfresh : (s.extend batch).fresh text = []
    · rw [handOut_empty hfresh] at hpush
      exact hsame hpush
    rw [handOut_fresh hfresh] at hpush
    obtain ⟨more, rfl, hmore⟩ := feed_cons hpush fed
    have hfreshAt := fresh_eq_freshAt text hbegin
    have hnone : spoiled ∉ (s.extend batch).fresh text := fun hmem => unspoiled (by simp [hmem])
    have hunspoiled : spoiled ∉ (joined (more ++ [final])).toList := fun hmem =>
      unspoiled (by simp [hmem])
    have hlater : s.emitted < (s.extend batch).tokens.length := by
      rw [tokens_extend]
      omega
    have hplace : P s.emitted := by
      by_contra hnot
      rw [hfreshAt] at hnone
      exact hnone (spoils _ _ begun hnot hlater hbegin.length_le)
    rw [hfreshAt] at hfresh hnone
    have hreached := reaches _ _ hplace hlonger hbegin.length_le hfresh hnone
    exact (ih whole (Nat.le_refl _) hreached hmore hunspoiled).cons hpush hplace

theorem of_shown {batches : List (List Int)} {streamed : String}
    (h : shown d batches = .ok streamed) :
    ∃ texts after final, feed d {} batches = (.ok texts, after) ∧
      (flush d after).1 = .ok final ∧ streamed = joined (texts ++ [final]) := by
  obtain ⟨texts, htexts, hrest⟩ := Outcome.bind_eq_ok.mp h
  obtain ⟨final, hfinal, heq⟩ := Outcome.bind_eq_ok.mp hrest
  exact ⟨texts, _, final, Prod.ext htexts rfl, hfinal, (Except.ok.inj heq).symm⟩

theorem exists_shown (reads : Reads d allowed text) (context : 1 ≤ d.context)
    {batches : List (List Int)} (known : ∀ id ∈ batches.flatten, allowed id) :
    ∃ streamed, shown d batches = .ok streamed := by
  have hwhole : ({} : TextStream).tokens ++ batches.flatten = batches.flatten := rfl
  obtain ⟨texts, after, hfeed, htokens, -⟩ := feed_ok reads context known hwhole (Nat.le_refl _)
  have hflush := flush_eq reads context (htokens ▸ known : ∀ id ∈ after.tokens, allowed id)
  obtain ⟨final, hfinal⟩ : ∃ final, (flush d after).1 = .ok final := by
    rw [hflush]
    by_cases hdone : after.tokens.length ≤ after.emitted
    · exact ⟨none, by rw [if_pos hdone]⟩
    · exact ⟨_, by rw [if_neg hdone]⟩
  exact ⟨joined (texts ++ [final]),
    by simp [shown, hfeed, hfinal, bind, Except.bind, pure, Except.pure]⟩

end TextStream

end StreamingLM
