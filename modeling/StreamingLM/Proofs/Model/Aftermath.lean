import StreamingLM.Proofs.Cache.Cursor
import StreamingLM.Proofs.Model.Alike

/-!
What a step leaves behind, whether it succeeds or fails. The sizes of the state stay, no layer gains
more than the step, and a layer that was behind the cursor stays behind it.
-/
namespace StreamingLM

open Outcome

variable {α : Type} [Scalar α]

namespace DecodeState

/-- The caches and the table have their sizes, and the position is inside the table. -/
structure Sized (s : DecodeState α) (l : Layout) (layers dim capacity : Nat) : Prop where
  caches : s.caches.Sized l layers
  tracker : ∃ position, s.tracker.Anchored dim capacity position

variable {s : DecodeState α} {l : Layout} {layers dim capacity : Nat}

omit [Scalar α] in
theorem Holds.sized {position held : Nat} {logs : List (List (Entry α))}
    (h : s.Holds l dim capacity position held logs) : s.Sized l logs.length dim capacity :=
  ⟨h.caches.sized, position, h.tracker⟩

theorem Sized.reset (h : s.Sized l layers dim capacity) : s.reset.Sized l layers dim capacity := by
  obtain ⟨position, htracker⟩ := h.tracker
  exact ⟨h.caches.reset, 0, htracker.reset⟩

/-- A step is refused for its length, which changes nothing, or it is prepared in the caches and in
the tracker, or some layer refuses to make room and the tracker has not moved. -/
theorem Sized.prepare (h : s.Sized l layers dim capacity) (hcapacity : l.capacity ≤ capacity)
    (count : Nat) :
    ∃ result after, s.prepare count = (result, after) ∧ after.Sized l layers dim capacity ∧
      ((count = 0 ∨ l.capacity < count) → after = s ∧ ∃ f, result = .error f) ∧
      (1 ≤ count → count ≤ l.capacity →
        s.caches.Prepared count after.caches ∧ s.tracker.prepare count = .ok after.tracker ∧
            (∃ mask, result = .ok mask) ∨
          s.caches.Overrun count after.caches ∧ after.tracker = s.tracker ∧
            ∃ f, result = .error f) := by
  obtain ⟨position, htracker⟩ := h.tracker
  obtain ⟨result, caches, hprepare, hsized, hrefused, hfits⟩ := h.caches.prepare count
  unfold DecodeState.prepare
  rw [hprepare]
  cases result with
  | error f =>
    refine ⟨_, _, rfl, ⟨hsized, h.tracker⟩, fun hbad => ?_, fun hpos hcount => .inr ?_⟩
    · obtain ⟨rfl, -⟩ := hrefused hbad
      exact ⟨rfl, f, rfl⟩
    · obtain ⟨-, mask, hmask⟩ | ⟨hover, -⟩ := hfits hpos hcount
      · cases hmask
      · exact ⟨hover, rfl, f, rfl⟩
  | ok mask =>
    have hgood : ¬(count = 0 ∨ l.capacity < count) := fun hbad => by
      obtain ⟨-, f, hf⟩ := hrefused hbad
      cases hf
    have hpos : 1 ≤ count := by omega
    have hcount : count ≤ l.capacity := by omega
    obtain ⟨tracker, hready, ht⟩ := RotaryTracker.prepare_ready htracker hpos
      (hcount.trans hcapacity)
    simp only [hready]
    refine ⟨_, _, rfl, ⟨hsized, _, ht.anchored⟩, fun hbad => absurd hbad hgood, fun _ _ => .inl ?_⟩
    obtain ⟨hprepared, -⟩ | ⟨-, f, hf⟩ := hfits hpos hcount
    · exact ⟨hprepared, rfl, mask, rfl⟩
    · cases hf

omit [Scalar α] in
theorem Sized.holds (h : s.Sized l layers dim capacity) (nonempty : 0 < layers)
    (consistent : s.caches.ensureConsistent = .ok ()) {rows : Nat} (hrows : rows ≤ l.batch) :
    ∃ position held logs, s.Holds (l.use rows hrows) dim capacity position held logs ∧
      logs.length = layers := by
  obtain ⟨position, htracker⟩ := h.tracker
  obtain ⟨held, logs, hcaches, hlogs⟩ := h.caches.holds nonempty consistent hrows
  exact ⟨position, held, logs, ⟨hcaches, htracker⟩, hlogs⟩

theorem Sized.prepare_consistent (h : s.Sized l layers dim capacity)
    (hcapacity : l.capacity ≤ capacity) (nonempty : 0 < layers)
    (consistent : s.caches.ensureConsistent = .ok ()) {count : Nat} (hpos : 1 ≤ count)
    (hcount : count ≤ l.capacity) :
    ∃ mask ready, s.prepare count = (.ok mask, ready) ∧ ready.Sized l layers dim capacity ∧
      s.caches.Prepared count ready.caches ∧ s.tracker.prepare count = .ok ready.tracker := by
  obtain ⟨position, held, logs, hs, -⟩ := h.holds nonempty consistent (Nat.zero_le _)
  obtain ⟨ready, hprepare, -⟩ := prepare_holds hs hpos hcount hcapacity
  obtain ⟨result, after, hcase, hsized, -, hfits⟩ := h.prepare hcapacity count
  rw [hprepare] at hcase
  obtain ⟨rfl, rfl⟩ := Prod.mk.inj hcase
  obtain ⟨hprepared, htracker, -⟩ | ⟨-, -, f, hf⟩ := hfits hpos hcount
  · exact ⟨_, ready, hprepare, hsized, hprepared, htracker⟩
  · cases hf

theorem prepare_tracker (s : DecodeState α) (count : Int) :
    (s.prepare count).2.tracker = s.tracker ∨
      s.tracker.prepare count = .ok (s.prepare count).2.tracker := by
  unfold DecodeState.prepare
  cases s.caches.prepare count with
  | mk result caches =>
    cases result with
    | error f => exact .inl rfl
    | ok mask =>
      cases s.tracker.prepare count with
      | error f => exact .inl rfl
      | ok tracker => exact .inr rfl

end DecodeState

theorem DecoderBlock.step_sized (b : DecoderBlock α) (batch : Nat) (x : Steps α) {l : Layout}
    {cache : KeyValueCache α} (h : cache.Sized l) (tracker : RotaryTracker α) (mask : Option Mask) :
    (b.step batch x cache tracker mask).2.Sized l ∧
      (b.step batch x cache tracker mask).2.len ≤ cache.len + List.length x := by
  have hstep : (b.step batch x cache tracker mask).2 = (b.attention.stepCached batch
      (mapSteps b.attentionNorm.apply x) cache tracker mask).2 := rfl
  obtain ⟨f, hfails⟩ | ⟨q, k, v, hbrings, hover⟩ :=
    b.attention.stepCached_cases batch (mapSteps b.attentionNorm.apply x) tracker
  · rw [hstep, hfails]
    exact ⟨h, Nat.le_add_right _ _⟩
  · have hforward := h.forward hbrings.shape_eq
    rw [hbrings.keys.2, length_mapSteps] at hforward
    rw [hstep, hover, Attention.snd_overCache]
    exact hforward

namespace Transformer

variable {l : Layout} {layers dim capacity : Nat}

theorem stepBlocks_sized (batch : Nat) (tracker : RotaryTracker α) (mask : Option Mask)
    (blocks : List (DecoderBlock α)) {caches : List (KeyValueCache α)}
    (h : ∀ cache ∈ caches, cache.Sized l) (x : Steps α) :
    (∀ cache ∈ (stepBlocks batch tracker mask blocks caches x).2, cache.Sized l) ∧
      List.Forall₂ (fun cache left => left.len ≤ cache.len + List.length x) caches
        (stepBlocks batch tracker mask blocks caches x).2 := by
  have hstay : ∀ caches : List (KeyValueCache α),
      List.Forall₂ (fun cache left => left.len ≤ cache.len + List.length x) caches caches :=
    fun caches => List.forall₂_same.mpr fun _ _ => Nat.le_add_right _ _
  induction blocks generalizing caches x with
  | nil => exact ⟨h, hstay caches⟩
  | cons b blocks ih =>
    cases caches with
    | nil => exact ⟨h, .nil⟩
    | cons cache caches =>
      obtain ⟨hfirst, hrest⟩ := List.forall_mem_cons.mp h
      obtain ⟨hsized, hgained⟩ := b.step_sized batch x hfirst tracker mask
      unfold stepBlocks
      cases hstep : b.step batch x cache tracker mask with
      | mk result after =>
        rw [hstep] at hsized hgained
        cases result with
        | error f => exact ⟨List.forall_mem_cons.mpr ⟨hsized, hrest⟩, .cons hgained (hstay caches)⟩
        | ok y =>
          have hlength := (b.step_shape hstep).1
          obtain ⟨hall, hmore⟩ := ih hrest y
            fun caches => List.forall₂_same.mpr fun _ _ => Nat.le_add_right _ _
          rw [hlength] at hmore
          exact ⟨List.forall_mem_cons.mpr ⟨hsized, hall⟩, .cons hgained hmore⟩

variable (t : Transformer α) {s : DecodeState α} (batch : Nat) (tokens : List (List Int))

omit [Scalar α] in
theorem length_embed {t : Transformer α} {tokens : List (List Int)} {x : Steps α}
    (ok : t.embed tokens = .ok x) : List.length x = tokens.length :=
  (mapM_eq_ok.mp ok).length_eq.symm

theorem forward_sized (h : s.Sized l layers dim capacity) (mask : Option Mask) :
    ∃ result caches, t.forward s batch tokens mask =
        (result, { s with caches := { s.caches with layers := caches } }) ∧
      DecodeState.Sized { s with caches := { s.caches with layers := caches } } l layers dim
        capacity ∧
      List.Forall₂ (fun cache left => left.len ≤ cache.len + tokens.length) s.caches.layers
        caches := by
  have hstay : List.Forall₂ (fun cache left => left.len ≤ cache.len + tokens.length)
      s.caches.layers s.caches.layers := List.forall₂_same.mpr fun _ _ => Nat.le_add_right _ _
  unfold forward
  by_cases hmany : s.caches.layers.length ≠ t.blocks.length
  · rw [if_pos hmany]
    exact ⟨_, _, rfl, h, hstay⟩
  · rw [if_neg hmany]
    cases hembed : t.embed tokens with
    | error f => exact ⟨_, _, rfl, h, hstay⟩
    | ok x =>
      obtain ⟨hsized, hgained⟩ :=
        stepBlocks_sized batch s.tracker mask t.blocks h.caches.layers x
      rw [length_embed hembed] at hgained
      have hafter : ∀ caches : List (KeyValueCache α), (∀ cache ∈ caches, cache.Sized l) →
          caches.length = s.caches.layers.length →
          DecodeState.Sized { s with caches := { s.caches with layers := caches } } l layers dim
            capacity := fun caches hcaches hlength =>
        ⟨⟨h.caches.window_eq, h.caches.len_nonneg, hlength.trans h.caches.length_eq, hcaches⟩,
          h.tracker⟩
      simp only
      cases hblocks : stepBlocks batch s.tracker mask t.blocks s.caches.layers x with
      | mk result caches =>
        rw [hblocks] at hsized hgained
        cases result with
        | error f => exact ⟨_, _, rfl, hafter caches hsized hgained.length_eq.symm, hgained⟩
        | ok y => exact ⟨_, _, rfl, hafter caches hsized hgained.length_eq.symm, hgained⟩

theorem step_sized (h : s.Sized l layers dim capacity) (hcapacity : l.capacity ≤ capacity) :
    (t.step s batch tokens).2.Sized l layers dim capacity := by
  obtain ⟨result, ready, hprepare, hsized, -⟩ := h.prepare hcapacity tokens.length
  unfold step
  rw [hprepare]
  cases result with
  | error f => exact hsized
  | ok mask =>
    obtain ⟨forwarded, caches, hforward, hafter, -⟩ := t.forward_sized batch tokens hsized mask
    simp only [hforward]
    exact hafter

theorem consistent_of_step {after : DecodeState α} {scores : Steps α}
    (ok : t.step s batch tokens = (.ok scores, after)) :
    after.caches.ensureConsistent = .ok () := by
  unfold step at ok
  split at ok
  · cases ok
  · unfold forward at ok
    split at ok
    · cases ok
    · split at ok
      · cases ok
      · simp only at ok
        split at ok
        · cases ok
        · obtain ⟨hscores, rfl⟩ := Prod.mk.inj ok
          obtain ⟨u, hconsistent, -⟩ := map_eq_ok.mp hscores
          exact hconsistent

theorem forward_tracker (s : DecodeState α) (mask : Option Mask) :
    (t.forward s batch tokens mask).2.tracker = s.tracker := by
  unfold forward
  split
  · rfl
  · split
    · rfl
    · simp only
      split <;> rfl

theorem step_tracker (s : DecodeState α) : (t.step s batch tokens).2.tracker = s.tracker ∨
    s.tracker.prepare tokens.length = .ok (t.step s batch tokens).2.tracker := by
  unfold step
  cases hprepare : s.prepare tokens.length with
  | mk result ready =>
    have hready := s.prepare_tracker tokens.length
    rw [hprepare] at hready
    cases result with
    | error f => exact hready
    | ok mask =>
      simp only [t.forward_tracker]
      exact hready

/-- A step that gives scores has moved the position by its length, and the cursor up to the window. -/
theorem step_advances (h : s.Sized l layers dim capacity) (hcapacity : l.capacity ≤ capacity)
    {scores : Steps α} {after : DecodeState α}
    (ok : t.step s batch tokens = (.ok scores, after)) :
    after.tracker.next = s.tracker.next + tokens.length ∧
      after.caches.len = min (s.caches.len + tokens.length) s.caches.window := by
  obtain ⟨result, ready, hprepare, hsized, hrefused, hfits⟩ := h.prepare hcapacity tokens.length
  rw [step, hprepare] at ok
  cases result with
  | error f => cases ok
  | ok mask =>
    have hgood : ¬(tokens.length = 0 ∨ l.capacity < tokens.length) := fun hbad => by
      obtain ⟨-, f, hf⟩ := hrefused hbad
      cases hf
    obtain ⟨forwarded, caches, hforward, -, -⟩ := t.forward_sized batch tokens hsized mask
    obtain ⟨-, rfl⟩ := Prod.mk.inj (hforward.symm.trans ok)
    obtain ⟨hprepared, htracker, -⟩ | ⟨-, -, f, hf⟩ := hfits (by omega) (by omega)
    · exact ⟨RotaryTracker.next_prepare htracker, hprepared.len_eq⟩
    · cases hf

/-- A layer that was behind the cursor is behind it after a step, whatever became of the step. -/
theorem step_behind (h : s.Sized l layers dim capacity) (hcapacity : l.capacity ≤ capacity)
    (behind : s.caches.Behind 0) : (t.step s batch tokens).2.caches.Behind 0 := by
  obtain ⟨result, ready, hprepare, hsized, hrefused, hfits⟩ := h.prepare hcapacity tokens.length
  by_cases hbad : tokens.length = 0 ∨ l.capacity < tokens.length
  · obtain ⟨rfl, f, rfl⟩ := hrefused hbad
    rw [step, hprepare]
    exact behind
  · obtain ⟨hprepared, -, mask, rfl⟩ | ⟨hover, -, f, rfl⟩ := hfits (by omega) (by omega)
    · obtain ⟨forwarded, caches, hforward, -, hgained⟩ := t.forward_sized batch tokens hsized mask
      simp only [step, hprepare, hforward]
      exact (behind.prepared hprepared).stay (hgained.imp fun cache left hgain => by
        simp only
        omega)
    · rw [step, hprepare]
      exact behind.overrun hover

/-- A step from a state of which some layer is behind the cursor fails. -/
theorem step_fails_of_behind (h : s.Sized l layers dim capacity) (hcapacity : l.capacity ≤ capacity)
    (behind : s.caches.Behind 0) : ∃ f, (t.step s batch tokens).1 = .error f := by
  have hafter := t.step_behind batch tokens h hcapacity behind
  cases hstep : t.step s batch tokens with
  | mk result after =>
    cases result with
    | error f => exact ⟨f, rfl⟩
    | ok scores =>
      rw [hstep] at hafter
      exact absurd (t.consistent_of_step batch tokens hstep) hafter.inconsistent

theorem stepBlocks_misfit {batch : Nat} (many : l.batch < batch) (tracker : RotaryTracker α)
    (mask : Option Mask) {blocks : List (DecoderBlock α)} (hblocks : blocks ≠ [])
    {caches : List (KeyValueCache α)} (hcaches : caches ≠ []) (h : ∀ cache ∈ caches, cache.Sized l)
    (x : Steps α) : ∃ f, stepBlocks batch tracker mask blocks caches x = (.error f, caches) := by
  obtain ⟨b, blocks, rfl⟩ := List.exists_cons_of_ne_nil hblocks
  obtain ⟨cache, caches, rfl⟩ := List.exists_cons_of_ne_nil hcaches
  have hfirst := h cache (by simp)
  have hstep : ∃ f, b.step batch x cache tracker mask = (.error f, cache) := by
    unfold DecoderBlock.step
    obtain ⟨f, hfails⟩ | ⟨q, k, v, hbrings, hover⟩ := b.attention.stepCached_cases batch
      (DecoderBlock.mapSteps b.attentionNorm.apply x) tracker
    · exact ⟨f, by rw [hfails]; rfl⟩
    · obtain ⟨f, hforward⟩ := hfirst.forward_misfit v (hbrings.keys.1.symm ▸ many)
      exact ⟨f, by rw [hover, Attention.overCache, hforward]; rfl⟩
  obtain ⟨f, hstep⟩ := hstep
  exact ⟨f, by rw [stepBlocks, hstep]⟩

/-- When all layers stand at the cursor, a step that fails although its length is right has been
prepared, and no layer has taken in anything; and it fails only for a token without a vector, unless
it has more batch rows than the caches. -/
theorem failed_of_consistent {t : Transformer α} {rows : Nat} {tokens : List (List Int)}
    (fit : t.Fits l layers) (h : s.Sized l layers dim capacity) (hdim : dim ≤ l.dim)
    (hcapacity : l.capacity ≤ capacity) (nonempty : 0 < layers)
    (consistent : s.caches.ensureConsistent = .ok ()) (full : ∀ ids ∈ tokens, ids.length = rows)
    (hpos : 1 ≤ tokens.length) (hcount : tokens.length ≤ l.capacity) {f : Failure}
    {after : DecodeState α} (failed : t.step s rows tokens = (.error f, after)) :
    s.caches.Prepared tokens.length after.caches ∧
      s.tracker.prepare tokens.length = .ok after.tracker ∧
      (rows ≤ l.batch →
        ∃ ids ∈ tokens, ∃ id ∈ ids, ¬(0 ≤ id ∧ id < t.embeddings.length)) := by
  obtain ⟨mask, ready, hprepare, hready, hprepared, htracker⟩ :=
    h.prepare_consistent hcapacity nonempty consistent hpos hcount
  have hlayers : ready.caches.layers.length = t.blocks.length :=
    hready.caches.length_eq.trans fit.length_eq.symm
  cases hembed : t.embed tokens with
  | error g =>
    have hstep : t.step s rows tokens = (.error g, ready) := by
      simp only [step, hprepare, forward, hlayers, hembed, ne_eq, not_true_eq_false, if_false]
    obtain ⟨-, rfl⟩ := Prod.mk.inj (hstep.symm.trans failed)
    refine ⟨hprepared, htracker, fun _ => ?_⟩
    by_contra hknown
    push Not at hknown
    obtain ⟨x, hx⟩ := embed_ok hknown
    rw [hembed] at hx
    cases hx
  | ok x =>
    by_cases hrows : rows ≤ l.batch
    · obtain ⟨position, held, logs, hs, hlogs⟩ := h.holds nonempty consistent hrows
      have fit' : t.Fits (l.use rows hrows) logs.length :=
        ⟨fit.length_eq.trans hlogs.symm, fun b hb =>
          ⟨(fit.blocks b hb).heads_eq, (fit.blocks b hb).dim_eq⟩⟩
      obtain ⟨done, -, -, hok, -⟩ :=
        step_holds fit' hs hdim hcapacity hpos hcount hembed (embed_isStep hembed full)
      have hcontra := congrArg Prod.fst (hok.symm.trans failed)
      cases hcontra
    · have hblocks : t.blocks ≠ [] := List.length_pos_iff.mp (by rw [fit.length_eq]; exact nonempty)
      have hcaches : ready.caches.layers ≠ [] :=
        List.length_pos_iff.mp (by rw [hready.caches.length_eq]; exact nonempty)
      obtain ⟨g, hmisfit⟩ := stepBlocks_misfit (Nat.not_le.mp hrows) ready.tracker mask hblocks
        hcaches hready.caches.layers x
      have hstep : t.step s rows tokens = (.error g, ready) := by
        simp only [step, hprepare, forward, hlayers, hembed, hmisfit, ne_eq, not_true_eq_false,
          if_false]
      obtain ⟨-, rfl⟩ := Prod.mk.inj (hstep.symm.trans failed)
      exact ⟨hprepared, htracker, fun hfew => absurd hfew hrows⟩

end Transformer
end StreamingLM
