import StreamingLM.Proofs.Session.Decoder
import StreamingLM.Proofs.Session.Round
import StreamingLM.Proofs.Session.Sound

/-!
A worker whose calls are written down. Up to its end every call goes well but the last one, whose
failure is the worker's; then the listener hears of the end, and nothing more is called.
-/
namespace StreamingLM

/-- A call that a worker makes, and what it came to. -/
inductive Deed where
  | decode (ids : List Int) (result : Except Failure String)
  | onText (text : String) (result : Except Failure Unit)
  | onComplete

namespace Deed

def failure? : Deed → Option Failure
  | decode _ (.error f) => some f
  | onText _ (.error f) => some f
  | _ => none

/-- A call before the end that did not fail. -/
def Clean (deed : Deed) : Prop := deed.failure? = none ∧ deed ≠ .onComplete

/-- Deeds that come to a result: none of them failed, or the last one did. -/
def Reach {α : Type} (deeds : List Deed) : Except Failure α → Prop
  | .ok _ => ∀ deed ∈ deeds, deed.Clean
  | .error f => ∃ before last, deeds = before ++ [last] ∧ (∀ deed ∈ before, deed.Clean) ∧
      last.failure? = some f

/-- A record goes on with deeds that come to a result. -/
def Told {α : Type} (record after : List Deed) (result : Except Failure α) : Prop :=
  ∃ deeds, after = record ++ deeds ∧ Reach deeds result

variable {α β : Type}

theorem Reach.append {deeds more : List Deed} (clean : ∀ deed ∈ deeds, deed.Clean)
    {result : Except Failure α} (h : Reach more result) : Reach (deeds ++ more) result := by
  cases result with
  | ok x => exact List.forall_mem_append.mpr ⟨clean, h⟩
  | error f =>
    obtain ⟨before, last, rfl, hbefore, hlast⟩ := h
    exact ⟨deeds ++ before, last, by simp, List.forall_mem_append.mpr ⟨clean, hbefore⟩, hlast⟩

theorem told_ok (record : List Deed) (x : α) : Told record record (.ok x) :=
  ⟨[], by simp, by simp [Reach]⟩

theorem Told.trans {record middle after : List Deed} {x : α} (h : Told record middle (.ok x))
    {result : Except Failure β} (more : Told middle after result) : Told record after result := by
  obtain ⟨deeds, rfl, hclean⟩ := h
  obtain ⟨rest, rfl, hrest⟩ := more
  exact ⟨deeds ++ rest, by simp, hrest.append hclean⟩

theorem told_decode (record : List Deed) (ids : List Int) (result : Except Failure String) :
    Told record (record ++ [.decode ids result]) result := by
  refine ⟨_, rfl, ?_⟩
  cases result with
  | ok text => simp [Reach, Clean, failure?]
  | error f => exact ⟨[], _, rfl, by simp, rfl⟩

theorem told_onText (record : List Deed) (text : String) (result : Except Failure Unit) :
    Told record (record ++ [.onText text result]) result := by
  refine ⟨_, rfl, ?_⟩
  cases result with
  | ok text => simp [Reach, Clean, failure?]
  | error f => exact ⟨[], _, rfl, by simp, rfl⟩

theorem Reach.last {deeds : List Deed} {result : Except Failure α} (h : Reach deeds result)
    {before after : List Deed} {deed : Deed} {f : Failure} (eq : deeds = before ++ deed :: after)
    (failed : deed.failure? = some f) : after = [] := by
  have hunclean : ¬ deed.Clean := fun hclean => by simp [hclean.1] at failed
  cases result with
  | ok x => exact absurd (h deed (by simp [eq])) hunclean
  | error g =>
    obtain ⟨clean, last, rfl, hclean, -⟩ := h
    obtain hnone | ⟨rest, x, hrest⟩ := after.eq_nil_or_concat
    · exact hnone
    · rw [hrest, List.concat_eq_append, ← List.cons_append, ← List.append_assoc] at eq
      obtain ⟨rfl, -⟩ := List.append_inj' eq rfl
      exact absurd (hclean deed (by simp)) hunclean

theorem findSome?_clean {deeds : List Deed} (clean : ∀ deed ∈ deeds, deed.Clean) :
    deeds.findSome? failure? = none :=
  List.findSome?_eq_none_iff.mpr fun deed hdeed => (clean deed hdeed).1

theorem Reach.findSome? {deeds : List Deed} {result : Except Failure α} : Reach deeds result →
    deeds.findSome? failure? =
      match result with
      | .ok _ => none
      | .error f => some f := by
  intro h
  cases result with
  | ok x => exact findSome?_clean h
  | error f =>
    obtain ⟨before, last, rfl, hbefore, hlast⟩ := h
    simp [List.findSome?_append, findSome?_clean hbefore, hlast]

end Deed

open Deed

variable {σ : Type}

def Decoder.overheard (d : Decoder σ) : Decoder (σ × List Deed) where
  decode a ids :=
    let (result, inner) := d.decode a.1 ids
    (result, (inner, a.2 ++ [.decode ids result]))
  stopIds := d.stopIds
  context := d.context

def Listener.overheard (l : Listener σ) : Listener (σ × List Deed) where
  onText a text :=
    let (result, inner) := l.onText a.1 text
    (result, (inner, a.2 ++ [.onText text result]))
  onComplete a :=
    let (result, inner) := l.onComplete a.1
    (result, (inner, a.2 ++ [.onComplete]))

def Deed.unheard {α : Type} (x : Attempt (σ × List Deed) α) : Attempt σ α := (x.1, x.2.1)

def Worker.unheard (w : Worker (σ × List Deed)) : Worker σ := { w with audience := w.audience.1 }

namespace Decoder

variable (d : Decoder σ) (a : σ × List Deed) (s : TextStream)

theorem unheard_andThen {α β : Type} {x : Attempt (σ × List Deed) α}
    {f : σ × List Deed → α → Attempt (σ × List Deed) β} {g : σ → α → Attempt σ β}
    (second : ∀ a v, unheard (f a v) = g a.1 v) :
    unheard (andThen x f) = andThen (unheard x) g := by
  obtain ⟨result, a⟩ := x
  cases result with
  | error f => rfl
  | ok v => exact second a v

theorem unheard_pending : unheard (d.overheard.pending a s) = d.pending a.1 s :=
  unheard_andThen fun _ _ => unheard_andThen fun _ _ => rfl

theorem unheard_settle (x : Attempt (σ × List Deed) (Option String × TextStream)) :
    ((settle s x).1.1, (settle s x).2) = settle s (unheard x) := by
  obtain ⟨result, a⟩ := x
  cases result <;> rfl

theorem unheard_push (tokens : List Int) :
    ((d.overheard.push a s tokens).1.1, (d.overheard.push a s tokens).2) =
      d.push a.1 s tokens := by
  have hpending := unheard_settle (s.extend tokens) (d.overheard.pending a (s.extend tokens))
  rw [unheard_pending] at hpending
  have hcontext : d.overheard.context = d.context := rfl
  unfold push
  rw [hcontext]
  by_cases hnone : d.context = 0
  · rw [if_pos hnone, if_pos hnone]
    rfl
  · rw [if_neg hnone, if_neg hnone]
    simp only [← hpending]
    split <;> rfl

theorem unheard_flush :
    ((d.overheard.flush a s).1.1, (d.overheard.flush a s).2) = d.flush a.1 s := by
  have hpending := unheard_settle s (d.overheard.pending a s)
  rw [unheard_pending] at hpending
  have hcontext : d.overheard.context = d.context := rfl
  unfold flush
  rw [← hpending, hcontext]
  by_cases hnone : d.context = 0 ∨ s.tokens.length ≤ s.emitted
  · rw [if_pos hnone, if_pos hnone]
  · rw [if_neg hnone, if_neg hnone]

end Decoder

namespace Worker

variable (d : Decoder σ) (l : Listener σ) (w : Worker (σ × List Deed))

def silent (x : Attempt (Worker (σ × List Deed)) Unit) : Attempt (Worker σ) Unit :=
  (x.1, x.2.unheard)

theorem silent_deliver (step : Attempt TextStream (Option String)) :
    silent (deliver l.overheard w step) = deliver l w.unheard step := by
  obtain ⟨result, stream⟩ := step
  cases result with
  | error f => rfl
  | ok text =>
    cases text with
    | none => rfl
    | some text =>
      simp only [deliver, emit]
      split <;> rfl

theorem silent_processWith (tokens : List Int) :
    silent (processWith d.overheard l.overheard w tokens) = processWith d l w.unheard tokens := by
  have hpush := d.unheard_push w.audience w.stream tokens
  unfold processWith
  split
  · rfl
  · rw [silent_deliver]
    simp only [unheard, ← hpush]

theorem unheard_concludeWith :
    (concludeWith d.overheard l.overheard w).unheard = concludeWith d l w.unheard := by
  have hflush := d.unheard_flush w.audience w.stream
  have hend : ∀ x : Attempt (Worker (σ × List Deed)) Unit,
      (endBy l.overheard x).unheard = endBy l (silent x) := by
    rintro ⟨result, w⟩
    cases result <;> rfl
  simp only [concludeWith, hend, silent_deliver]
  simp only [unheard, ← hflush]

theorem unheard_goOn (ended : Bool) (x : Attempt (Worker (σ × List Deed)) Unit) :
    (goOn d.overheard l.overheard ended x).unheard = goOn d l ended (silent x) := by
  obtain ⟨result, w⟩ := x
  cases result with
  | error f => rfl
  | ok u =>
    cases ended with
    | true => exact unheard_concludeWith d l w
    | false => rfl

theorem unheard_roundWith (items : List ChannelItem) :
    (roundWith d.overheard l.overheard w items).unheard = roundWith d l w.unheard items := by
  unfold roundWith
  by_cases halive : w.alive
  · rw [if_pos halive, if_pos (by exact halive)]
    simp only [unheard_goOn, silent_processWith]
    rfl
  · rw [if_neg halive, if_neg (by exact halive)]

end Worker

namespace Decoder

variable (d : Decoder σ) (a : σ × List Deed) (s : TextStream)

theorem decode_told (ids : List Int) :
    Told a.2 (d.overheard.decode a ids).2.2 (d.overheard.decode a ids).1 := told_decode ..

theorem andThen_told {α β : Type} {record : List Deed} {x : Attempt (σ × List Deed) α}
    {f : σ × List Deed → α → Attempt (σ × List Deed) β} (first : Told record x.2.2 x.1)
    (second : ∀ a v, Told a.2 (f a v).2.2 (f a v).1) :
    Told record (andThen x f).2.2 (andThen x f).1 := by
  obtain ⟨result, a⟩ := x
  cases result with
  | error f => exact first
  | ok v => exact first.trans (second a v)

theorem pending_told : Told a.2 (d.overheard.pending a s).2.2 (d.overheard.pending a s).1 :=
  andThen_told (d.decode_told a _) fun a _ =>
    andThen_told (d.decode_told a _) fun a _ => told_ok a.2 _

theorem settle_told {record : List Deed}
    {x : Attempt (σ × List Deed) (Option String × TextStream)} (h : Told record x.2.2 x.1) :
    Told record (settle s x).1.2 (settle s x).2.1 := by
  obtain ⟨result, a⟩ := x
  cases result with
  | ok taken => exact h
  | error f => exact h

theorem push_told (tokens : List Int) :
    Told a.2 (d.overheard.push a s tokens).1.2 (d.overheard.push a s tokens).2.1 := by
  unfold push
  by_cases hcontext : d.overheard.context = 0
  · rw [if_pos hcontext]
    have hdecode := d.decode_told a tokens
    simp only
    cases hresult : (d.overheard.decode a tokens).1 with
    | ok text =>
      rw [hresult] at hdecode
      exact hdecode
    | error f =>
      rw [hresult] at hdecode
      exact hdecode
  · rw [if_neg hcontext]
    simp only
    split
    · exact told_ok _ _
    · exact settle_told _ (d.pending_told a _)

theorem flush_told :
    Told a.2 (d.overheard.flush a s).1.2 (d.overheard.flush a s).2.1 := by
  unfold flush
  split
  · exact told_ok _ _
  · exact settle_told s (d.pending_told a s)

end Decoder

namespace Worker

variable {d : Decoder σ} {l : Listener σ}

def deeds (w : Worker (σ × List Deed)) : List Deed := w.audience.2

theorem emit_told (w : Worker (σ × List Deed)) (text : Option String) :
    Told w.deeds (emit l.overheard w text).2.deeds (emit l.overheard w text).1 := by
  cases text with
  | none => exact told_ok _ _
  | some text =>
    rw [emit]
    by_cases hempty : text = ""
    · rw [if_pos hempty]
      exact told_ok _ _
    · rw [if_neg hempty]
      exact told_onText ..

theorem deliver_told {record : List Deed} {w : Worker (σ × List Deed)}
    {step : Attempt TextStream (Option String)} (h : Told record w.deeds step.1) :
    Told record (deliver l.overheard w step).2.deeds (deliver l.overheard w step).1 := by
  obtain ⟨result, stream⟩ := step
  cases result with
  | error f => exact h
  | ok text => exact h.trans (emit_told { w with stream } text)

theorem processWith_told (w : Worker (σ × List Deed)) (tokens : List Int) :
    Told w.deeds (processWith d.overheard l.overheard w tokens).2.deeds
      (processWith d.overheard l.overheard w tokens).1 := by
  unfold processWith
  split
  · exact told_ok _ _
  · exact deliver_told (d.push_told w.audience w.stream tokens)

theorem processWith_keeps (d : Decoder σ) (l : Listener σ) (w : Worker σ) (tokens : List Int) :
    (processWith d l w tokens).2.failure = w.failure ∧
      (processWith d l w tokens).2.alive = w.alive := by
  unfold processWith
  split
  · exact ⟨rfl, rfl⟩
  · obtain ⟨hf, -, -, ha⟩ := deliver_keeps (l := l)
      { w with
        generated := w.generated + tokens.length
        audience := (d.push w.audience w.stream tokens).1 }
      (d.push w.audience w.stream tokens).2
    exact ⟨hf, ha⟩

def outcome (w : Worker σ) : Except Failure Unit :=
  match w.failure with
  | some f => .error f
  | none => .ok ()

/-- A worker that is running has not failed; one that has ended made no call behind the end, and none
behind a failure. -/
structure Orderly (w : Worker (σ × List Deed)) : Prop where
  running : w.alive = true → w.failure = none ∧ ∀ deed ∈ w.deeds, deed.Clean
  ended : w.alive = false → ∃ deeds, w.deeds = deeds ++ [.onComplete] ∧ Reach deeds w.outcome
  stopped : w.failure ≠ none → w.stopped = true

theorem fail_orderly {w : Worker (σ × List Deed)} {f : Failure}
    (h : Reach w.deeds (.error f : Except Failure Unit)) :
    (fail l.overheard w f).Orderly ∧ (fail l.overheard w f).alive = false ∧
      (fail l.overheard w f).failure ≠ none :=
  ⟨⟨fun halive => by simp [fail, exit] at halive, fun _ => ⟨w.deeds, rfl, h⟩, fun _ => rfl⟩, rfl,
    by simp [fail, exit]⟩

theorem endBy_orderly {x : Attempt (Worker (σ × List Deed)) Unit} (quiet : x.2.failure = none)
    (told : Reach x.2.deeds x.1) :
    (endBy l.overheard x).Orderly ∧ (endBy l.overheard x).alive = false := by
  obtain ⟨result, w⟩ := x
  cases result with
  | error f => exact ⟨(fail_orderly told).1, rfl⟩
  | ok u =>
    have hquiet : (exit l.overheard w).failure = none := quiet
    refine ⟨⟨fun halive => by simp [endBy, exit] at halive, fun _ => ⟨w.deeds, rfl, ?_⟩,
      fun hfailed => absurd hquiet hfailed⟩, rfl⟩
    rw [outcome, endBy, hquiet]
    exact told

theorem concludeWith_orderly {w : Worker (σ × List Deed)} (quiet : w.failure = none)
    (clean : ∀ deed ∈ w.deeds, deed.Clean) :
    (concludeWith d.overheard l.overheard w).Orderly ∧
      (concludeWith d.overheard l.overheard w).alive = false := by
  let flushed : Worker (σ × List Deed) :=
    { w with audience := (d.overheard.flush w.audience w.stream).1 }
  obtain ⟨deeds, hdeeds, hreach⟩ : Told w.deeds _ _ :=
    deliver_told (l := l) (w := flushed) (d.flush_told w.audience w.stream)
  obtain ⟨hf, -, -, -⟩ := deliver_keeps (l := l.overheard) flushed
    (d.overheard.flush w.audience w.stream).2
  exact endBy_orderly (hf.trans quiet) (hdeeds ▸ hreach.append clean)

theorem intake_marked (stopIds : List Int) {items : List ChannelItem} (h : .finish ∈ items)
    (stopped : Bool) : (intake stopIds stopped items).2.2 = true := by
  induction items generalizing stopped with
  | nil => cases h
  | cons item items ih =>
    cases item with
    | finish => cases stopped <;> rfl
    | batch ids =>
      have hrest := ih (by simpa using h)
      cases stopped with
      | true => exact hrest true
      | false => exact hrest _

/-- Behind the accepted tokens a worker in order stays so. It ends at the end mark, and otherwise only
by a failure. -/
theorem goOn_orderly {x : Attempt (Worker (σ × List Deed)) Unit} (quiet : x.2.failure = none)
    (alive : x.2.alive = true) (told : Reach x.2.deeds x.1) (ended : Bool) :
    (goOn d.overheard l.overheard ended x).Orderly ∧
      (ended = true → (goOn d.overheard l.overheard ended x).alive = false) ∧
      (ended = false → (goOn d.overheard l.overheard ended x).alive = false →
        (goOn d.overheard l.overheard ended x).failure ≠ none) := by
  obtain ⟨result, w⟩ := x
  cases result with
  | error f =>
    obtain ⟨horderly, hdead, hfailed⟩ := fail_orderly (l := l) told
    exact ⟨horderly, fun _ => hdead, fun _ _ => hfailed⟩
  | ok u =>
    cases ended with
    | true =>
      obtain ⟨horderly, hdead⟩ := concludeWith_orderly (d := d) (l := l) quiet told
      exact ⟨horderly, fun _ => hdead, by simp⟩
    | false =>
      have hrunning : ¬ w.alive = false := by simpa using alive
      exact ⟨⟨fun _ => ⟨quiet, told⟩, fun hdead => absurd hdead hrunning,
        fun hfailed => absurd quiet hfailed⟩, by simp, fun _ hdead => absurd hdead hrunning⟩

/-- A round keeps a worker in order. It ends at the end mark, and otherwise only by a failure. -/
theorem roundWith_orderly {w : Worker (σ × List Deed)} (h : w.Orderly) (items : List ChannelItem) :
    (roundWith d.overheard l.overheard w items).Orderly ∧
      (.finish ∈ items → (roundWith d.overheard l.overheard w items).alive = false) ∧
      (.finish ∉ items → w.alive = true →
        (roundWith d.overheard l.overheard w items).alive = false →
          (roundWith d.overheard l.overheard w items).failure ≠ none) := by
  unfold roundWith
  by_cases halive : w.alive
  · obtain ⟨hquiet, hclean⟩ := h.running halive
    obtain ⟨deeds, hdeeds, hreach⟩ := processWith_told (d := d) (l := l)
      { w with stopped := (intake d.stopIds w.stopped items).2.1 } (intake d.stopIds w.stopped items).1
    obtain ⟨hf, ha⟩ := processWith_keeps d.overheard l.overheard
      { w with stopped := (intake d.stopIds w.stopped items).2.1 } (intake d.stopIds w.stopped items).1
    obtain ⟨horderly, hended, hopen⟩ := goOn_orderly (d := d) (l := l) (hf.trans hquiet)
      (ha.trans halive) (hdeeds ▸ hreach.append hclean) (intake d.stopIds w.stopped items).2.2
    rw [if_pos halive]
    exact ⟨horderly, fun hmarked => hended (intake_marked d.stopIds hmarked w.stopped),
      fun hunmarked _ => hopen (intake_open d.stopIds hunmarked w.stopped)⟩
  · rw [if_neg halive]
    exact ⟨h, fun _ => eq_false_of_ne_true halive, fun _ hrunning => absurd hrunning halive⟩

end Worker
end StreamingLM
