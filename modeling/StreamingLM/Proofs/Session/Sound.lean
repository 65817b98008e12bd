import StreamingLM.Proofs.Outcome
import StreamingLM.Session.Basic

/-!
Sessions in which nothing goes wrong. When every token that is sent can be decoded and the listener
takes every text, the worker never fails, whatever the rounds in which it empties the channel.
-/
namespace StreamingLM

/-- Lists of allowed tokens can be decoded. -/
def Detokenizer.Decodes (d : Detokenizer) (allowed : Int → Prop) : Prop :=
  ∀ ids : List Int, (∀ id ∈ ids, allowed id) → ∃ text, d.decode ids = .ok text

/-- The listener takes every text. -/
def Listener.Hears {σ : Type} (l : Listener σ) : Prop :=
  ∀ audience text, (l.onText audience text).1 = .ok ()

namespace TextStream

def Sound (allowed : Int → Prop) (s : TextStream) : Prop := ∀ id ∈ s.tokens, allowed id

variable {allowed : Int → Prop} {d : Detokenizer}

theorem decodePending_ok (decodes : d.Decodes allowed) {s : TextStream} (h : s.Sound allowed) :
    ∃ text after, decodePending d s = .ok (text, after) ∧ after.Sound allowed := by
  have hsub : ∀ {ids : List Int}, ids ⊆ s.tokens → ∃ text, d.decode ids = .ok text :=
    fun hids => decodes _ fun id hid => h id (hids hid)
  obtain ⟨whole, hwhole⟩ := hsub (List.drop_subset (s.emitted - overlap) s.tokens)
  obtain ⟨known, hknown⟩ :=
    hsub (List.Subset.trans (List.drop_subset (s.emitted - overlap) _)
      (List.take_subset s.emitted s.tokens))
  simp only [decodePending, hwhole, hknown, bind, Except.bind]
  by_cases hfresh : (whole.toList.drop known.toList.length).isEmpty
  · exact ⟨none, s, by rw [if_pos hfresh]; rfl, h⟩
  · exact ⟨_, { s with emitted := s.tokens.length }, by rw [if_neg hfresh]; rfl, h⟩

theorem push_ok (decodes : d.Decodes allowed) {s : TextStream} (h : s.Sound allowed)
    {tokens : List Int} (new : ∀ id ∈ tokens, allowed id) :
    ∃ text after, push d s tokens = (.ok text, after) ∧ after.Sound allowed := by
  have hlonger : (s.extend tokens).Sound allowed := List.forall_mem_append.mpr ⟨h, new⟩
  obtain ⟨text, htext⟩ := decodes tokens new
  obtain ⟨more, after, hmore, ha⟩ := decodePending_ok decodes hlonger
  unfold push
  by_cases hcontext : d.context = 0
  · exact ⟨some text, s, by rw [if_pos hcontext, htext]; rfl, h⟩
  · by_cases hwait : (s.extend tokens).tokens.length - (s.extend tokens).emitted < d.context
    · exact ⟨none, _, by rw [if_neg hcontext, if_pos hwait], hlonger⟩
    · exact ⟨more, after, by rw [if_neg hcontext, if_neg hwait, hmore], ha⟩

theorem flush_ok (decodes : d.Decodes allowed) {s : TextStream} (h : s.Sound allowed) :
    ∃ text after, flush d s = (.ok text, after) ∧ after.Sound allowed := by
  obtain ⟨text, after, htext, ha⟩ := decodePending_ok decodes h
  unfold flush
  by_cases hnone : d.context = 0 ∨ s.tokens.length ≤ s.emitted
  · exact ⟨none, s, by rw [if_pos hnone], h⟩
  · exact ⟨text, after, by rw [if_neg hnone, htext], ha⟩

end TextStream

namespace ChannelItem

def Brings (allowed : Int → Prop) : ChannelItem → Prop
  | .batch tokens => ∀ id ∈ tokens, allowed id
  | .finish => True

end ChannelItem

namespace Worker

variable {σ : Type} {allowed : Int → Prop} {d : Detokenizer} {l : Listener σ}

/-- The worker has not failed and can go on with what it keeps. -/
structure Sound (allowed : Int → Prop) (w : Worker σ) : Prop where
  failure_eq : w.failure = none
  stream : w.stream.Sound allowed

theorem untilStop_subset (stopIds tokens : List Int) : (untilStop stopIds tokens).1 ⊆ tokens := by
  induction tokens with
  | nil => exact List.Subset.refl _
  | cons t rest ih =>
    unfold untilStop
    by_cases hstop : stopIds.contains t
    · rw [if_pos hstop]
      exact List.nil_subset _
    · rw [if_neg hstop]
      exact List.cons_subset_cons t ih

theorem intake_allowed (stopIds : List Int) {items : List ChannelItem}
    (h : ∀ item ∈ items, item.Brings allowed) (stopped : Bool) :
    ∀ id ∈ (intake stopIds stopped items).1, allowed id := by
  induction items generalizing stopped with
  | nil => simp [intake]
  | cons item items ih =>
    have hrest := ih fun item hitem => h item (List.mem_cons_of_mem _ hitem)
    have hitem := h item (by simp)
    cases item with
    | finish => simp [intake]
    | batch tokens =>
      cases stopped with
      | true => exact hrest true
      | false =>
        exact List.forall_mem_append.mpr
          ⟨fun id hid => hitem id (untilStop_subset _ _ hid), hrest _⟩

theorem intake_open (stopIds : List Int) {items : List ChannelItem} (h : .finish ∉ items)
    (stopped : Bool) : (intake stopIds stopped items).2.2 = false := by
  induction items generalizing stopped with
  | nil => rfl
  | cons item items ih =>
    have hrest := ih fun hitem => h (List.mem_cons_of_mem _ hitem)
    cases item with
    | finish => exact absurd (by simp) h
    | batch tokens =>
      cases stopped with
      | true => exact hrest true
      | false => exact hrest _

theorem deliver_ok (hears : l.Hears) {w : Worker σ} (h : w.Sound allowed) (text : Option String)
    {stream : TextStream} (hs : stream.Sound allowed) :
    ∃ after, deliver l w (.ok text, stream) = (.ok (), after) ∧ after.Sound allowed ∧
      after.alive = w.alive := by
  cases text with
  | none => exact ⟨{ w with stream }, rfl, ⟨h.failure_eq, hs⟩, rfl⟩
  | some text =>
    have hheard := hears w.audience text
    let heard : Worker σ := { w with stream, audience := (l.onText w.audience text).2 }
    simp only [deliver, emit]
    by_cases hempty : text = ""
    · exact ⟨{ w with stream }, by rw [if_pos hempty], ⟨h.failure_eq, hs⟩, rfl⟩
    · exact ⟨heard, by rw [if_neg hempty, hheard], ⟨h.failure_eq, hs⟩, rfl⟩

theorem process_ok (decodes : d.Decodes allowed) (hears : l.Hears) {w : Worker σ}
    (h : w.Sound allowed) {tokens : List Int} (new : ∀ id ∈ tokens, allowed id) :
    ∃ after, process d l w tokens = (.ok (), after) ∧ after.Sound allowed ∧
      after.alive = w.alive := by
  unfold process
  by_cases hnone : tokens.isEmpty
  · exact ⟨w, by rw [if_pos hnone], h, rfl⟩
  · obtain ⟨text, stream, hpush, hs⟩ := TextStream.push_ok decodes h.stream new
    rw [if_neg hnone, hpush]
    exact deliver_ok hears (w := { w with generated := w.generated + tokens.length })
      ⟨h.failure_eq, h.stream⟩ text hs

theorem conclude_sound (decodes : d.Decodes allowed) (hears : l.Hears) {w : Worker σ}
    (h : w.Sound allowed) : (conclude d l w).Sound allowed := by
  obtain ⟨text, stream, hflush, hs⟩ := TextStream.flush_ok decodes h.stream
  obtain ⟨after, hdeliver, ha, -⟩ := deliver_ok hears h text hs
  rw [conclude, hflush, hdeliver]
  exact ⟨ha.failure_eq, ha.stream⟩

theorem round_finish_new (d : Detokenizer) (l : Listener σ) (audience : σ) :
    round d l { audience } [.finish] = exit l { audience } := by
  have hflush : TextStream.flush d {} = (.ok none, {}) := by
    rw [TextStream.flush, if_pos (.inr (Nat.le_refl 0))]
  have hconclude : conclude d l { audience } = exit l { audience } := by
    rw [conclude, hflush]
    rfl
  exact hconclude

/-- A round leaves a sound worker, which goes on unless it has seen the end mark. -/
theorem round_sound (decodes : d.Decodes allowed) (hears : l.Hears) {w : Worker σ}
    (h : w.Sound allowed) {items : List ChannelItem} (new : ∀ item ∈ items, item.Brings allowed) :
    (round d l w items).Sound allowed ∧
      (.finish ∉ items → (round d l w items).alive = w.alive) := by
  unfold round
  by_cases halive : w.alive
  · rw [if_pos halive]
    obtain ⟨after, hprocess, ha, hstill⟩ := process_ok decodes hears
      (w := { w with stopped := (intake d.stopIds w.stopped items).2.1 })
      ⟨h.failure_eq, h.stream⟩ (intake_allowed d.stopIds new w.stopped)
    simp only [hprocess]
    constructor
    · split
      · exact conclude_sound decodes hears ha
      · exact ha
    · intro hopen
      rw [intake_open d.stopIds hopen w.stopped]
      exact hstill
  · rw [if_neg halive]
    exact ⟨h, fun _ => rfl⟩

end Worker

namespace Session

variable {σ : Type} {allowed : Int → Prop} {d : Detokenizer} {l : Listener σ}

/-- The worker is sound and so is what waits in the channel. -/
structure Sound (allowed : Int → Prop) (s : Session σ) : Prop where
  worker : s.worker.Sound allowed
  channel : ∀ item ∈ s.channel, item.Brings allowed

/-- No end mark has been sent, and the worker is still running. -/
structure Open (s : Session σ) : Prop where
  closed_eq : s.closed = false
  alive_eq : s.worker.alive = true
  unmarked : .finish ∉ s.channel

theorem start_ok {length : Int} (h : 0 ≤ length) (audience : σ) (allowed : Int → Prop) :
    ∃ s, start length audience = .ok s ∧ s.Sound allowed ∧ s.Open ∧
      s.transcript = .empty length.toNat := by
  refine ⟨{ transcript := .empty length.toNat, worker := { audience } }, ?_, ?_, ?_, rfl⟩
  · rw [start, Transcript.allocate, if_neg (by omega)]
    rfl
  · exact ⟨⟨rfl, fun _ hid => absurd hid List.not_mem_nil⟩, fun _ h => absurd h List.not_mem_nil⟩
  · exact ⟨rfl, rfl, List.not_mem_nil⟩

theorem of_start {length : Int} {audience : σ} {s : Session σ}
    (ok : start length audience = .ok s) :
    s = { transcript := .empty length.toNat, worker := { audience } } := by
  obtain ⟨transcript, hallocate, hs⟩ := Outcome.bind_eq_ok.mp ok
  unfold Transcript.allocate at hallocate
  split at hallocate
  · cases hallocate
  · cases hallocate
    cases hs
    rfl

theorem close_new (d : Detokenizer) (l : Listener σ) (transcript : Transcript) (audience : σ) :
    ∃ after, close d l { transcript, worker := { audience } } = (.ok (), after) ∧
      after.worker.audience = (l.onComplete audience).2 := by
  let s : Session σ := { transcript, worker := { audience } }
  have hdrain : s.shut.drain d l =
      { transcript, worker := Worker.exit l { audience }, closed := true } := by
    rw [← Worker.round_finish_new d l audience]
    rfl
  have hclose : s.close d l = ((s.shut.drain d l).outcome, s.shut.drain d l) := rfl
  refine ⟨s.shut.drain d l, hclose.trans ?_, ?_⟩
  · rw [hdrain]
    rfl
  · rw [hdrain]
    rfl

theorem work_sound (decodes : d.Decodes allowed) (hears : l.Hears) {s : Session σ}
    (h : s.Sound allowed) (n : Nat) :
    (s.work d l n).Sound allowed ∧ (s.Open → (s.work d l n).Open) := by
  unfold work
  by_cases halive : s.worker.alive
  · rw [if_pos halive]
    obtain ⟨hw, hstill⟩ := Worker.round_sound decodes hears h.worker
      fun item hitem => h.channel item (List.mem_of_mem_take hitem)
    refine ⟨⟨hw, fun item hitem => h.channel item (List.mem_of_mem_drop hitem)⟩, fun hopen => ?_⟩
    refine ⟨hopen.closed_eq, ?_, fun hitem => hopen.unmarked (List.mem_of_mem_drop hitem)⟩
    exact (hstill fun hitem => hopen.unmarked (List.mem_of_mem_take hitem)).trans hopen.alive_eq
  · rw [if_neg halive]
    exact ⟨h, id⟩

theorem work_transcript (s : Session σ) (n : Nat) : (s.work d l n).transcript = s.transcript := by
  unfold work
  split <;> rfl

theorem works_sound (decodes : d.Decodes allowed) (hears : l.Hears) (rounds : List Nat)
    {s : Session σ} (h : s.Sound allowed) :
    (s.works d l rounds).Sound allowed ∧ (s.Open → (s.works d l rounds).Open) := by
  induction rounds generalizing s with
  | nil => exact ⟨h, id⟩
  | cons n rounds ih =>
    obtain ⟨hfirst, hstill⟩ := work_sound decodes hears h n
    obtain ⟨hrest, hopen⟩ := ih hfirst
    exact ⟨hrest, fun hs => hopen (hstill hs)⟩

@[simp] theorem works_transcript (s : Session σ) (rounds : List Nat) :
    (s.works d l rounds).transcript = s.transcript := by
  induction rounds generalizing s with
  | nil => rfl
  | cons n rounds ih => exact (ih _).trans (s.work_transcript n)

theorem prompt_ok {s : Session σ} {tokens : List Int}
    (room : s.transcript.tokens.length + tokens.length ≤ s.transcript.capacity) :
    ∃ transcript, s.prompt tokens = .ok { s with transcript } ∧
      transcript.tokens = s.transcript.tokens ++ tokens ∧
      transcript.capacity = s.transcript.capacity := by
  have hroom : (s.transcript.tokens ++ tokens).length ≤ s.transcript.capacity := by
    rw [List.length_append]
    exact room
  exact ⟨⟨_, _, hroom⟩, by rw [prompt, Transcript.append, dif_pos hroom]; rfl, rfl, rfl⟩

theorem update_ok {s : Session σ} (h : s.Sound allowed) (hopen : s.Open) {tokens : List Int}
    (new : ∀ id ∈ tokens, allowed id)
    (room : s.transcript.tokens.length + tokens.length ≤ s.transcript.capacity) :
    ∃ after, s.update tokens = (.ok (), after) ∧ after.Sound allowed ∧ after.Open ∧
      after.transcript.tokens = s.transcript.tokens ++ tokens ∧
      after.transcript.capacity = s.transcript.capacity := by
  obtain ⟨transcript, hprompt, htokens, hcapacity⟩ := prompt_ok room
  simp only [update, hprompt]
  by_cases hstop : stopped { s with transcript }
  · exact ⟨{ s with transcript }, by rw [if_pos hstop], ⟨h.worker, h.channel⟩,
      ⟨hopen.closed_eq, hopen.alive_eq, hopen.unmarked⟩, htokens, hcapacity⟩
  · rw [if_neg hstop, send, if_pos hopen.alive_eq]
    have hchannel : ∀ item ∈ s.channel ++ [.batch tokens], item.Brings allowed :=
      List.forall_mem_append.mpr ⟨h.channel, List.forall_mem_singleton.mpr new⟩
    exact ⟨_, rfl, ⟨h.worker, hchannel⟩,
      ⟨hopen.closed_eq, hopen.alive_eq, by simp [hopen.unmarked]⟩, htokens, hcapacity⟩

theorem close_ok (decodes : d.Decodes allowed) (hears : l.Hears) {s : Session σ}
    (h : s.Sound allowed) : (s.close d l).1 = .ok () := by
  unfold close
  by_cases hclosed : s.closed
  · rw [if_pos hclosed]
  · have hshut : s.shut.Sound allowed := by
      unfold shut
      rw [if_neg hclosed]
      split
      · exact ⟨h.worker,
          List.forall_mem_append.mpr ⟨h.channel, List.forall_mem_singleton.mpr trivial⟩⟩
      · exact ⟨h.worker, h.channel⟩
    obtain ⟨hdrained, -⟩ := work_sound decodes hears hshut s.shut.channel.length
    rw [if_neg hclosed]
    simp only [drain, outcome, hdrained.worker.failure_eq]

end Session
end StreamingLM
