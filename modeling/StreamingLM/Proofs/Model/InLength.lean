import StreamingLM.Proofs.Model.Request

/-!
Failures for a length. Whatever state its calls have left, a model refuses a step of at most its
window for many reasons, but never for its length; and so it is with a generation whose prompt is no
longer than the window.
-/
namespace StreamingLM

/-- Whether a step or a context was refused for its length. -/
def Failure.forLength (f : Failure) : Bool :=
  f.family == .stepLength || f.family == .contextLength

namespace Outcome

variable {β γ : Type}

/-- A check that is not refused for a length: it succeeds, or it fails for another reason. -/
def InLength : Except Failure β → Prop
  | .ok _ => True
  | .error f => f.forLength = false

theorem InLength.of_error {x : Except Failure β} {f : Failure} (h : InLength x)
    (failed : x = .error f) : f.forLength = false := by
  rw [failed] at h
  exact h

theorem InLength.map {x : Except Failure β} (h : InLength x) (f : β → γ) : InLength (x.map f) := by
  cases x <;> exact h

theorem InLength.bind {x : Except Failure β} {f : β → Except Failure γ} (h : InLength x)
    (next : ∀ b, x = .ok b → InLength (f b)) : InLength (x >>= f) := by
  cases x with
  | error e => exact h
  | ok b => exact next b rfl

theorem InLength.mapM {f : β → Except Failure γ} (each : ∀ b, InLength (f b)) (xs : List β) :
    InLength (xs.mapM f) := by
  induction xs with
  | nil => trivial
  | cons x xs ih =>
    rw [List.mapM_cons]
    exact (each x).bind fun y _ => ih.bind fun ys _ => trivial

end Outcome

open Outcome

variable {σ ρ α : Type}

theorem causalMask_inLength (queries keys : Int) : InLength (causalMask queries keys) := by
  unfold causalMask
  split
  · rfl
  · split
    · rfl
    · trivial

namespace KeyValueCache

theorem checkSync_inLength (c : KeyValueCache α) (operation : String) :
    InLength (c.checkSync operation) := by
  unfold checkSync
  split
  · trivial
  · rfl

theorem forward_inLength (c : KeyValueCache α) (k v : Block α) : InLength (c.forward k v).1 := by
  have happend : ∀ (b : SequenceBuffer α) (x : Block α), InLength (b.append x) := by
    intro b x
    unfold SequenceBuffer.append
    split
    · rfl
    · split
      · rfl
      · trivial
  have hkey := happend c.key k
  have hvalue := happend c.value v
  unfold forward join
  cases hk : c.key.append k with
  | error f => exact hkey.of_error hk
  | ok grown =>
    cases hv : c.value.append v with
    | error f => exact hvalue.of_error hv
    | ok more => exact (checkSync_inLength _ _).map _

variable [Scalar α]

theorem evict_inLength (c : KeyValueCache α) (n : Int) : InLength (c.evict n).1 := by
  have hevict : ∀ b : SequenceBuffer α, InLength (b.evict n) := by
    intro b
    unfold SequenceBuffer.evict
    split
    · trivial
    · split
      · rfl
      · trivial
  have hkey := hevict c.key
  have hvalue := hevict c.value
  unfold evict
  cases hk : c.key.evict n with
  | error f => exact hkey.of_error hk
  | ok key =>
    cases hv : c.value.evict n with
    | error f => exact hvalue.of_error hv
    | ok value => exact checkSync_inLength _ _

end KeyValueCache

namespace LayerCacheSet

theorem ensureConsistent_inLength (s : LayerCacheSet α) : InLength s.ensureConsistent := by
  have hfrom : ∀ (i : Nat) (caches : List (KeyValueCache α)),
      InLength (consistentFrom s.len i caches) := by
    intro i caches
    induction caches generalizing i with
    | nil => trivial
    | cons cache caches ih =>
      unfold consistentFrom
      split
      · exact ih (i + 1)
      · rfl
  exact hfrom 0 s.layers

theorem stepMask_inLength (step len : Int) : InLength (stepMask step len) := by
  unfold stepMask
  split
  · trivial
  · exact (causalMask_inLength step len).map some

variable [Scalar α]

theorem evictAll_inLength (n : Int) (caches : List (KeyValueCache α)) :
    InLength (evictAll n caches).1 := by
  induction caches with
  | nil => trivial
  | cons cache caches ih =>
    have hfirst := cache.evict_inLength n
    unfold evictAll
    cases hevict : cache.evict n with
    | mk result left =>
      cases result with
      | error f => exact hfirst.of_error (congrArg Prod.fst hevict)
      | ok u => exact ih

theorem prepare_inLength {s : LayerCacheSet α} {step : Int} (short : step ≤ s.window) :
    InLength (s.prepare step).1 := by
  have hall := evictAll_inLength (s.len + step - s.window) s.layers
  unfold prepare
  rw [if_neg (by omega : ¬s.window < step)]
  split
  · rfl
  · dsimp only
    split
    · exact stepMask_inLength _ _
    · split
      · rename_i f layers hevict
        exact hall.of_error (congrArg Prod.fst hevict)
      · exact stepMask_inLength _ _

theorem prepare_window (s : LayerCacheSet α) (step : Int) :
    (s.prepare step).2.window = s.window := by
  unfold prepare
  split
  · rfl
  · split
    · rfl
    · dsimp only
      split
      · rfl
      · split <;> rfl

end LayerCacheSet

namespace RotaryTracker

variable [Scalar α]

theorem prepare_inLength (t : RotaryTracker α) (count : Int) : InLength (t.prepare count) := by
  unfold prepare
  split
  · rfl
  · split
    · rfl
    · dsimp only
      split <;> trivial

theorem applyBlock_inLength (t : RotaryTracker α) (x : Block α) : InLength (t.applyBlock x) := by
  have hindex : InLength t.index := by
    unfold index
    dsimp only
    split
    · rfl
    · trivial
  have hrows : ∀ i, InLength (t.table.rowsAt i x.slots.length) := by
    intro i
    unfold RotaryTable.rowsAt
    split
    · rfl
    · trivial
  have hrotate : ∀ turns, InLength (t.table.rotateBlock turns x) := by
    intro turns
    unfold RotaryTable.rotateBlock
    split
    · rfl
    · trivial
  exact hindex.bind fun i _ => (hrows i).bind fun turns _ => hrotate turns

end RotaryTracker

variable [Scalar α]

namespace DecodeState

theorem prepare_inLength {s : DecodeState α} {count : Int} (short : count ≤ s.caches.window) :
    InLength (s.prepare count).1 := by
  have hcaches := LayerCacheSet.prepare_inLength short
  have htracker := s.tracker.prepare_inLength count
  unfold prepare
  cases hc : s.caches.prepare count with
  | mk result caches =>
    cases result with
    | error f => exact hcaches.of_error (congrArg Prod.fst hc)
    | ok mask =>
      cases ht : s.tracker.prepare count with
      | error f => exact htracker.of_error ht
      | ok tracker => trivial

theorem prepare_window (s : DecodeState α) (count : Int) :
    (s.prepare count).2.caches.window = s.caches.window := by
  have hwindow := s.caches.prepare_window count
  unfold prepare
  rcases hc : s.caches.prepare count with ⟨f | mask, caches⟩
  · rw [hc] at hwindow
    exact hwindow
  · rw [hc] at hwindow
    dsimp only
    split <;> exact hwindow

end DecodeState

namespace Attention

omit [Scalar α] in
theorem stepMask_inLength (mask : Option Mask) (queries keys : Nat) :
    InLength (stepMask mask queries keys) := by
  unfold stepMask
  split
  · split
    · trivial
    · rfl
  · split
    · trivial
    · exact (causalMask_inLength _ _).map some

theorem stepCached_inLength (a : Attention α) (batch : Nat) (x : List (List (List α)))
    (cache : KeyValueCache α) (tracker : RotaryTracker α) (mask : Option Mask) :
    InLength (a.stepCached batch x cache tracker mask).1 := by
  unfold stepCached
  dsimp only
  have hq := tracker.applyBlock_inLength (project a.wq a.heads a.headDim batch x)
  have hk := tracker.applyBlock_inLength (project a.wk a.keyHeads a.headDim batch x)
  cases hqs : tracker.applyBlock (project a.wq a.heads a.headDim batch x) with
  | error f => exact hq.of_error hqs
  | ok q =>
    cases hks : tracker.applyBlock (project a.wk a.keyHeads a.headDim batch x) with
    | error f => exact hk.of_error hks
    | ok k =>
      have hforward := cache.forward_inLength k (project a.wv a.keyHeads a.headDim batch x)
      dsimp only
      split
      · rename_i f left hjoin
        exact hforward.of_error (congrArg Prod.fst hjoin)
      · exact (stepMask_inLength mask x.length _).map _

end Attention

namespace Transformer

theorem stepBlocks_inLength (batch : Nat) (tracker : RotaryTracker α) (mask : Option Mask)
    (blocks : List (DecoderBlock α)) (caches : List (KeyValueCache α)) (x : Steps α) :
    InLength (stepBlocks batch tracker mask blocks caches x).1 := by
  induction blocks generalizing caches x with
  | nil => trivial
  | cons b blocks ih =>
    cases caches with
    | nil => trivial
    | cons cache caches =>
      have hblock : InLength (b.step batch x cache tracker mask).1 :=
        (b.attention.stepCached_inLength batch _ cache tracker mask).map _
      unfold stepBlocks
      cases hstep : b.step batch x cache tracker mask with
      | mk result left =>
        cases result with
        | error f => exact hblock.of_error (congrArg Prod.fst hstep)
        | ok y => exact ih caches y

variable (t : Transformer α)

omit [Scalar α] in
theorem embed_inLength (tokens : List (List Int)) : InLength (t.embed tokens) := by
  have hone : ∀ id, InLength (t.embedOne id) := by
    intro id
    unfold embedOne
    split
    · rfl
    · split
      · trivial
      · rfl
  exact InLength.mapM (fun row => InLength.mapM hone row) tokens

theorem forward_inLength (s : DecodeState α) (batch : Nat) (tokens : List (List Int))
    (mask : Option Mask) : InLength (t.forward s batch tokens mask).1 := by
  have hembed := t.embed_inLength tokens
  unfold forward
  split
  · rfl
  · cases he : t.embed tokens with
    | error f => exact hembed.of_error he
    | ok x =>
      have hblocks := stepBlocks_inLength batch s.tracker mask t.blocks s.caches.layers x
      dsimp only
      cases hb : (stepBlocks batch s.tracker mask t.blocks s.caches.layers x).1 with
      | error f => exact hblocks.of_error hb
      | ok y => exact (LayerCacheSet.ensureConsistent_inLength _).map _

theorem step_inLength {s : DecodeState α} {tokens : List (List Int)}
    (short : tokens.length ≤ s.caches.window) (batch : Nat) :
    InLength (t.step s batch tokens).1 := by
  have hprepare := DecodeState.prepare_inLength short
  unfold step
  cases hp : s.prepare tokens.length with
  | mk result ready =>
    cases result with
    | error f => exact hprepare.of_error (congrArg Prod.fst hp)
    | ok mask => exact t.forward_inLength ready batch tokens mask

theorem step_window (s : DecodeState α) (batch : Nat) (tokens : List (List Int)) :
    (t.step s batch tokens).2.caches.window = s.caches.window := by
  have hprepare := s.prepare_window tokens.length
  have hforward : ∀ ready mask,
      (t.forward ready batch tokens mask).2.caches.window = ready.caches.window := by
    intro ready mask
    unfold forward
    split
    · rfl
    · split
      · rfl
      · dsimp only
        split <;> rfl
  unfold step
  cases hp : s.prepare tokens.length with
  | mk result ready =>
    rw [hp] at hprepare
    cases result with
    | error f => exact hprepare
    | ok mask => exact (hforward ready mask).trans hprepare

end Transformer

def Sampling.InLength (ρ α : Type) [Sampling ρ α] : Prop :=
  ∀ (s : ρ) (scores : List α), Outcome.InLength (sample s scores)

theorem Sampler.inLength : Sampling.InLength Sampler α := by
  intro s scores
  show Outcome.InLength (s.sample scores)
  cases s with
  | greedy => cases scores <;> trivial
  | nucleus p seed generator =>
    have hmasses : ∀ kept : List (Nat × α), Outcome.InLength (normalised kept) := by
      intro kept
      unfold normalised
      dsimp only
      split
      · rfl
      · split
        · trivial
        · rfl
    exact (hmasses _).bind fun kept _ => trivial
  | scripted tokens played =>
    simp only [Sampler.sample]
    split
    · trivial
    · rfl

namespace Session

theorem prompt_inLength (s : Session σ) (tokens : List Int) : InLength (s.prompt tokens) := by
  have happend : InLength (s.transcript.append tokens) := by
    unfold Transcript.append
    split
    · trivial
    · rfl
  exact happend.bind fun transcript _ => trivial

theorem update_inLength (s : Session σ) (tokens : List Int) : InLength (s.update tokens).1 := by
  have hprompt := s.prompt_inLength tokens
  unfold update
  cases hp : s.prompt tokens with
  | error f => exact hprompt.of_error hp
  | ok recorded =>
    have hsend : InLength (recorded.send (.batch tokens)) := by
      unfold send
      split
      · trivial
      · rfl
    dsimp only
    split
    · trivial
    · cases hs : recorded.send (.batch tokens) with
      | ok sent => trivial
      | error f => exact hsend.of_error hs

theorem close_inLength (d : Detokenizer) (l : Listener σ) (s : Session σ) :
    InLength (s.close d l).1 := by
  unfold close
  split
  · trivial
  · dsimp only
    unfold outcome
    split
    · rfl
    · trivial

end Session

namespace Generation

variable [Sampling ρ α] (d : Detokenizer) (l : Listener σ)

omit [Scalar α] in
theorem choose_inLength (fair : Sampling.InLength ρ α) (pace : Pace) (g : Generation σ ρ α)
    (scores : List α) : InLength (choose d l pace g scores).1 := by
  have hsample := fair g.sampler scores
  unfold choose
  cases hs : Sampling.sample g.sampler scores with
  | error f => exact hsample.of_error hs
  | ok choice => exact (Session.update_inLength _ _).map _

variable (t : Transformer α) (temperature : Float)

theorem step_inLength (fair : Sampling.InLength ρ α) (pace : Pace) {g : Generation σ ρ α}
    {tokens : List Int} (short : tokens.length ≤ g.state.caches.window) :
    InLength (step t d l temperature pace g tokens).1 := by
  have hcolumn : ((tokens.map fun id => [id]).length : Int) ≤ g.state.caches.window := by
    rwa [List.length_map]
  have hpass := t.step_inLength hcolumn 1
  unfold step
  cases hp : t.step g.state 1 (tokens.map fun id => [id]) with
  | mk result state =>
    cases result with
    | error f => exact hpass.of_error (congrArg Prod.fst hp)
    | ok steps => exact choose_inLength d l fair pace _ _

/-- A run over at most a window is not refused for a length: each of its further steps is over a
single token. -/
theorem run_inLength (fair : Sampling.InLength ρ α) (pace : Nat → Pace) (n : Nat)
    {g : Generation σ ρ α} {tokens : List Int} (room : 0 < g.state.caches.window)
    (short : tokens.length ≤ g.state.caches.window) :
    InLength (run t d l temperature pace n g tokens).1 := by
  induction n generalizing g tokens with
  | zero => trivial
  | succ n ih =>
    have hstep := step_inLength d l t temperature fair (pace n) short
    have hwindow := t.step_window g.state 1 (tokens.map fun id => [id])
    rw [← state_step t d l temperature (pace n) g tokens] at hwindow
    unfold run
    split
    · trivial
    · cases hs : step t d l temperature (pace n) g tokens with
      | mk result next =>
        rw [hs] at hstep hwindow
        cases result with
        | error f => exact hstep
        | ok token =>
          dsimp only at hwindow
          have hone : (([token] : List Int).length : Int) ≤ next.state.caches.window := by
            simp only [List.length_singleton]
            omega
          exact ih (hwindow ▸ room) hone

theorem complete_inLength (fair : Sampling.InLength ρ α) (pace : Nat → Pace) (n : Nat)
    {g : Generation σ ρ α} {prompt : List Int} (room : 0 < g.state.caches.window)
    (short : prompt.length ≤ g.state.caches.window) :
    InLength (complete t d l temperature pace n g prompt).1 := by
  have hprompt := g.session.prompt_inLength prompt
  unfold complete
  cases hp : g.session.prompt prompt with
  | error f =>
    have hclosed := g.session.close_inLength d l
    dsimp only
    split
    · exact hclosed.of_error ‹_›
    · exact hprompt.of_error hp
  | ok session =>
    have hrun := run_inLength d l t temperature fair pace n (g := { g with session }) room short
    have hclosed := Session.close_inLength d l
      (run t d l temperature pace n { g with session } prompt).2.session
    dsimp only
    split
    · exact hclosed.of_error ‹_›
    · exact hrun

end Generation

namespace Llama

variable {m : Llama α} {t : Transformer α} {prompt : String} {ids : List Int}

theorem tokenize_of_generationStart {n : Int} {audience : σ} {session : Session σ}
    (ok : m.generationStart prompt n audience = .ok (ids, t, session)) :
    m.tokenize prompt = .ok ids := by
  unfold generationStart at ok
  split at ok
  · cases ok
  · obtain ⟨tokens, htokens, hrest⟩ := bind_eq_ok.mp ok
    split at hrest
    · cases hrest
    · obtain ⟨started, -, hrest⟩ := bind_eq_ok.mp hrest
      obtain ⟨stack, -, htriple⟩ := bind_eq_ok.mp hrest
      cases htriple
      exact htokens

theorem generationStart_inLength (stack : m.transformer = .ok t)
    (tokenized : m.tokenize prompt = .ok ids) (n : Int) (audience : σ) :
    InLength (m.generationStart prompt n audience) := by
  have hsession : ∀ length, InLength (Session.start length audience) := by
    intro length
    have hallocate : InLength (Transcript.allocate length) := by
      unfold Transcript.allocate
      split
      · rfl
      · trivial
    exact hallocate.bind fun transcript _ => trivial
  have htokens : InLength (m.tokenize prompt) := by
    rw [tokenized]
    trivial
  have hstack : InLength m.transformer := by
    rw [stack]
    trivial
  unfold generationStart
  split
  · rfl
  · refine htokens.bind fun tokens _ => ?_
    split
    · rfl
    · exact (hsession _).bind fun session _ => hstack.bind fun t _ => trivial

theorem generatePaced_inLength [Sampling ρ α] (fair : Sampling.InLength ρ α)
    (stack : m.transformer = .ok t) (tokenized : m.tokenize prompt = .ok ids)
    (room : 0 < m.state.caches.window) (short : ids.length ≤ m.state.caches.window)
    (pace : Nat → Pace) (n : Int) (temperature : Float) (sampler : ρ) (l : Listener σ)
    (audience : σ) :
    InLength (m.generatePaced pace prompt n temperature sampler l audience).1 := by
  have hstart := generationStart_inLength stack tokenized n audience
  unfold generatePaced
  cases hs : m.generationStart prompt n audience with
  | error f => exact hstart.of_error hs
  | ok start =>
    obtain ⟨tokens, t', session⟩ := start
    have hsame : tokens = ids :=
      Except.ok.inj ((tokenize_of_generationStart hs).symm.trans tokenized)
    have hfits : tokens.length ≤ m.state.caches.window := hsame ▸ short
    exact (Generation.complete_inLength m.tokenizer.detokenizer l t' temperature fair pace n.toNat
      (g := { state := m.state, session, sampler }) room hfits).map _

end Llama
end StreamingLM
