import StreamingLM.Proofs.Model.Aftermath
import StreamingLM.Proofs.Model.Engine
import StreamingLM.Proofs.Model.Request

/-!
Steps that fail. A step is prepared before its tokens are looked at, and nothing is taken back: only
a step that is refused for its length leaves the state as it was. Any other failure leaves some layer
behind the cursor for good, so that nothing succeeds until a reset.
-/
namespace StreamingLM

open Outcome

variable {α : Type} [Scalar α]

namespace DecodeState

/-- What use keeps of a state: its sizes, and that all layers stand at the cursor, or that some layer
is behind it. -/
structure Settled (s : DecodeState α) (l : Layout) (layers dim capacity : Nat) : Prop where
  sized : s.Sized l layers dim capacity
  even : s.caches.ensureConsistent = .ok () ∨ s.caches.Behind 0

omit [Scalar α] in
theorem Holds.settled {s : DecodeState α} {l : Layout} {dim capacity position held : Nat}
    {logs : List (List (Entry α))} (h : s.Holds l dim capacity position held logs) :
    s.Settled l logs.length dim capacity := ⟨h.sized, .inl h.caches.consistent⟩

theorem Settled.reset {s : DecodeState α} {l : Layout} {layers dim capacity : Nat}
    (h : s.Settled l layers dim capacity) : s.reset.Settled l layers dim capacity :=
  ⟨h.sized.reset, .inl s.caches.consistent_reset⟩

end DecodeState

namespace Transformer

variable {t : Transformer α} {s : DecodeState α} {l : Layout} {layers dim capacity : Nat}

theorem step_moves (h : s.Sized l layers dim capacity) (hcapacity : l.capacity ≤ capacity)
    (batch : Nat) {tokens : List (List Int)} (hpos : 1 ≤ tokens.length)
    (hcount : tokens.length ≤ l.capacity) :
    (t.step s batch tokens).2.caches.len ≠ s.caches.len ∨
      (t.step s batch tokens).2.tracker.next ≠ s.tracker.next := by
  obtain ⟨result, ready, hprepare, hsized, -, hfits⟩ := h.prepare hcapacity tokens.length
  obtain ⟨-, htracker, mask, rfl⟩ | ⟨hover, -, f, rfl⟩ := hfits hpos hcount
  · have hnext := RotaryTracker.next_prepare htracker
    simp only [step, hprepare, t.forward_tracker]
    exact .inr (by omega)
  · have hcursor := hover.len_eq
    simp only [step, hprepare]
    exact .inl (by omega)

theorem step_refused (h : s.Sized l layers dim capacity) (hcapacity : l.capacity ≤ capacity)
    (batch : Nat) {tokens : List (List Int)}
    (bad : tokens.length = 0 ∨ l.capacity < tokens.length) :
    ∃ f, t.step s batch tokens = (.error f, s) := by
  obtain ⟨result, ready, hprepare, -, hrefused, -⟩ := h.prepare hcapacity tokens.length
  obtain ⟨rfl, f, rfl⟩ := hrefused bad
  exact ⟨f, by rw [step, hprepare]⟩

section Settled

variable {rows : Nat} {tokens : List (List Int)} (fit : t.Fits l layers)
  (h : s.Settled l layers dim capacity) (hdim : dim ≤ l.dim) (hcapacity : l.capacity ≤ capacity)
  (nonempty : 0 < layers) (full : ∀ ids ∈ tokens, ids.length = rows)

include fit h hdim hcapacity nonempty full

theorem failed_behind (hpos : 1 ≤ tokens.length) (hcount : tokens.length ≤ l.capacity) {f : Failure}
    {after : DecodeState α} (failed : t.step s rows tokens = (.error f, after)) :
    after.caches.Behind 0 := by
  obtain consistent | behind := h.even
  · obtain ⟨hprepared, -, -⟩ := failed_of_consistent fit h.sized hdim hcapacity nonempty consistent
      full hpos hcount failed
    have hlayers : s.caches.layers ≠ [] :=
      List.length_pos_iff.mp (by rw [h.sized.caches.length_eq]; exact nonempty)
    exact hprepared.behind consistent hpos hlayers
  · have hafter := t.step_behind rows tokens h.sized hcapacity behind
    rwa [failed] at hafter

theorem step_settled : (t.step s rows tokens).2.Settled l layers dim capacity := by
  refine ⟨t.step_sized rows tokens h.sized hcapacity, ?_⟩
  cases hstep : t.step s rows tokens with
  | mk result after =>
    cases result with
    | ok scores => exact .inl (t.consistent_of_step rows tokens hstep)
    | error f =>
      by_cases hbad : tokens.length = 0 ∨ l.capacity < tokens.length
      · obtain ⟨g, hrefused⟩ := step_refused (t := t) h.sized hcapacity rows hbad
        obtain ⟨-, rfl⟩ := Prod.mk.inj (hstep.symm.trans hrefused)
        exact h.even
      · exact .inr (failed_behind fit h hdim hcapacity nonempty full (by omega) (by omega) hstep)

end Settled

/-- From behind the cursor nothing succeeds, whatever is tried in between. -/
theorem fails_after (h : s.Sized l layers dim capacity) (hcapacity : l.capacity ≤ capacity)
    (behind : s.caches.Behind 0) (between : List (Nat × List (List Int))) (batch : Nat)
    (tokens : List (List Int)) :
    ∃ f, (t.step (t.after s between) batch tokens).1 = .error f := by
  let stuck (s : DecodeState α) : Prop := s.Sized l layers dim capacity ∧ s.caches.Behind 0
  have hstep : ∀ step ∈ between, ∀ s, stuck s → stuck (t.step s step.1 step.2).2 :=
    fun step _ s hs => ⟨t.step_sized step.1 step.2 hs.1 hcapacity,
      t.step_behind step.1 step.2 hs.1 hcapacity hs.2⟩
  have hstart : stuck s := ⟨h, behind⟩
  obtain ⟨hsized, hstuck⟩ := after_keeps hstep hstart
  exact t.step_fails_of_behind batch tokens hsized hcapacity hstuck

end Transformer

namespace Llama

/-- The models that use leads to: by requests, and by steps of the stack on its own, whatever becomes
of them. -/
inductive Used (m₀ : Llama α) : Llama α → Prop where
  | start : Used m₀ m₀
  | asked {m : Llama α} (before : Used m₀ m) (r : Request α) : Used m₀ (r.answer m).2
  | stepped {m : Llama α} (before : Used m₀ m) {t : Transformer α} (ht : m.transformer = .ok t)
      {rows : Nat} {tokens : List (List Int)} (full : ∀ ids ∈ tokens, ids.length = rows) :
      Used m₀ { m with state := (t.step m.state rows tokens).2 }

/-- The state of a model has the sizes of its configuration, and its layers stand at the cursor, or
some layer is behind it. -/
def Settled (m : Llama α) : Prop :=
  m.state.Settled (m.config.layout 0 (Nat.zero_le _)) m.config.layers.toNat
    m.config.transformer.headDim.toNat (m.config.window * 5).toNat

variable {m₀ m : Llama α} {v : Value}

theorem Settled.step (h : m.Settled) (layers : 0 < m.config.layers) {t : Transformer α}
    (ht : m.transformer = .ok t) {rows : Nat} {tokens : List (List Int)}
    (full : ∀ ids ∈ tokens, ids.length = rows) :
    Settled { m with state := (t.step m.state rows tokens).2 } := by
  have fit := Transformer.ofParameters_fits ht (Nat.zero_le m.config.batch.toNat)
  have hlayers : 0 < m.config.layers.toNat := by omega
  exact Transformer.step_settled fit h le_rfl (m.config.capacity_layout_le _) hlayers full

theorem Used.settled (accepted : LlamaConfig.reader v = .valid m₀.config)
    (fresh : DecodeState.ofConfig m₀.config = .ok m₀.state) (used : Used m₀ m) :
    m = { m₀ with state := m.state } ∧ m.Settled := by
  have layers := LlamaConfig.layers_pos accepted
  induction used with
  | start =>
    obtain ⟨-, -, hs⟩ := DecodeState.ofConfig_holds fresh (Nat.zero_le _)
    have hsettled := hs.settled
    rw [List.length_replicate] at hsettled
    exact ⟨rfl, hsettled⟩
  | @asked m before r ih =>
    obtain ⟨hm, hsettled⟩ := ih
    have hconfig : m.config = m₀.config := by rw [hm]
    let settled (s : DecodeState α) : Prop := Settled { m with state := s }
    have hstepped : ∀ t, m.transformer = .ok t → ∀ (ids : List Int) s, settled s →
        settled (t.step s 1 (ids.map fun id => [id])).2 := fun t ht ids s hs =>
      Settled.step hs (hconfig ▸ layers) ht (by simp)
    have hreset : ∀ s : DecodeState α, settled s → settled s.reset :=
      fun s hs => DecodeState.Settled.reset hs
    obtain ⟨hmodel, hkept⟩ := answer_keeps hstepped hreset r hsettled
    exact ⟨hmodel.trans (by rw [hm]), by rw [hmodel]; exact hkept⟩
  | @stepped m before t ht rows tokens full ih =>
    obtain ⟨hm, hsettled⟩ := ih
    have hconfig : m.config = m₀.config := by rw [hm]
    exact ⟨by rw [hm], hsettled.step (hconfig ▸ layers) ht full⟩

/-- A step that fails, in whatever state use has left a model. Refused for its length, it has changed
nothing. Else it has moved the cursor or the position and nothing succeeds after it; and if all layers
stood at the cursor, it failed for a token without a vector, or for more batch rows than there are,
and has left what its preparation left: no layer has taken in anything. -/
theorem Used.failed_step (accepted : LlamaConfig.reader v = .valid m₀.config)
    (fresh : DecodeState.ofConfig m₀.config = .ok m₀.state) (used : Used m₀ m) {t : Transformer α}
    (ht : m.transformer = .ok t) {rows : Nat} {tokens : List (List Int)}
    (full : ∀ ids ∈ tokens, ids.length = rows) {f : Failure} {after : DecodeState α}
    (failed : t.step m.state rows tokens = (.error f, after)) :
    (tokens = [] ∨ m₀.config.window < tokens.length → after = m.state) ∧
    (tokens ≠ [] → tokens.length ≤ m₀.config.window →
      (after.caches.len ≠ m.state.caches.len ∨ after.tracker.next ≠ m.state.tracker.next) ∧
      (∀ between batch later, ∃ g, (t.step (t.after after between) batch later).1 = .error g) ∧
      (m.state.caches.ensureConsistent = .ok () →
        m.state.caches.Prepared tokens.length after.caches ∧
        m.state.tracker.prepare tokens.length = .ok after.tracker ∧
        (rows ≤ m₀.config.batch →
          ∃ ids ∈ tokens, ∃ id ∈ ids, ¬(0 ≤ id ∧ id < t.embeddings.length)))) := by
  obtain ⟨hm, hsettled⟩ := used.settled accepted fresh
  have hconfig : m.config = m₀.config := by rw [hm]
  have layers := LlamaConfig.layers_pos accepted
  rw [← hconfig] at layers ⊢
  have hlayers : 0 < m.config.layers.toNat := by omega
  have hcapacity := m.config.capacity_layout_le (Nat.zero_le _)
  have hwindow : (m.config.layout 0 (Nat.zero_le _)).capacity = m.config.window.toNat := rfl
  have fit := Transformer.ofParameters_fits ht (Nat.zero_le m.config.batch.toNat)
  constructor
  · intro hbad
    have hlength : tokens.length = 0 ∨
        (m.config.layout 0 (Nat.zero_le _)).capacity < tokens.length := by
      obtain rfl | hlong := hbad
      · exact .inl rfl
      · omega
    obtain ⟨g, hrefused⟩ := Transformer.step_refused (t := t) hsettled.sized hcapacity rows hlength
    exact (Prod.mk.inj (failed.symm.trans hrefused)).2
  · intro htokens hshort
    have hpos : 1 ≤ tokens.length := List.length_pos_iff.mpr htokens
    have hcount : tokens.length ≤ (m.config.layout 0 (Nat.zero_le _)).capacity := by omega
    have hmoves := Transformer.step_moves (t := t) hsettled.sized hcapacity rows hpos hcount
    have hsized := t.step_sized rows tokens hsettled.sized hcapacity
    have hbehind := Transformer.failed_behind fit hsettled le_rfl hcapacity hlayers full hpos
      hcount failed
    rw [failed] at hmoves hsized
    refine ⟨hmoves, Transformer.fails_after hsized hcapacity hbehind, fun consistent => ?_⟩
    obtain ⟨hprepared, htracker, hcause⟩ := Transformer.failed_of_consistent fit hsettled.sized
      le_rfl hcapacity hlayers consistent full hpos hcount failed
    exact ⟨hprepared, htracker, fun hrows => hcause (by
      show rows ≤ m.config.batch.toNat
      omega)⟩

/-- A token outside the vocabulary fails the first step of the tiny model, and all that follow. -/
theorem tiny_failed_step : ∃ (m : Llama Float) (t : Transformer Float) (after : DecodeState Float),
    build Parameters.ones .empty tinyConfig = .ok m ∧ m.transformer = .ok t ∧
    t.step m.state 1 [[256]] = (.error .index, after) ∧
    (∀ between batch later, ∃ g, (t.step (t.after after between) batch later).1 = .error g) ∧
    m.state.caches.Prepared 1 after.caches ∧ m.state.tracker.prepare 1 = .ok after.tracker := by
  obtain ⟨m, t, after, hm, ht, hfailed, hconsistent⟩ :
      ∃ (m : Llama Float) (t : Transformer Float) (after : DecodeState Float),
        build Parameters.ones .empty tinyConfig = .ok m ∧ m.transformer = .ok t ∧
        t.step m.state 1 [[256]] = (.error .index, after) ∧
        m.state.caches.ensureConsistent = .ok () := ⟨_, _, _, rfl, rfl, rfl, rfl⟩
  obtain ⟨hconfig, hfresh⟩ := build_fresh hm
  obtain ⟨-, hrest⟩ := Used.failed_step (hconfig ▸ tinyConfig_accepted) (hconfig ▸ hfresh) .start ht
    (by decide) hfailed
  obtain ⟨-, hstuck, hleft⟩ := hrest (by decide) (by rw [hconfig]; decide)
  obtain ⟨hprepared, htracker, -⟩ := hleft hconsistent
  exact ⟨m, t, after, hm, ht, hfailed, hstuck, hprepared, htracker⟩

/-- The failed step has moved the cursor and the position, and a token that could have been decoded
before it cannot be decoded any more. -/
theorem tiny_failure_stays : ∃ (m : Llama Float) (t : Transformer Float)
    (after : DecodeState Float) (scores : Steps Float),
    build Parameters.ones .empty tinyConfig = .ok m ∧ m.transformer = .ok t ∧
    t.step m.state 1 [[256]] = (.error .index, after) ∧
    m.state.caches.len = 0 ∧ after.caches.len = 1 ∧
    m.state.tracker.next = 0 ∧ after.tracker.next = 1 ∧
    (t.step m.state 1 [[104]]).1 = .ok scores ∧
    (t.step after 1 [[104]]).1 = .error (.layerLength 0 1 2) :=
  ⟨_, _, _, _, rfl, rfl, rfl, rfl, rfl, rfl, rfl, rfl, rfl⟩

end Llama
end StreamingLM
