import StreamingLM.Proofs.Session.Failing
import StreamingLM.Proofs.Session.Through

/-!
What a session reports of the calls that its worker made. A failure of decoding or of showing text
is kept and reported when the session is closed. What a listener raises when it hears of the end is
not kept by anybody.
-/
namespace StreamingLM

variable {σ τ : Type}

namespace Deed

variable {α : Type} {deeds : List Deed} {result : Except Failure α}

/-- A result, or in its place the first failure of decoding or of showing text. -/
def report (deeds : List Deed) (result : Except Failure α) : Except Failure α :=
  match deeds.findSome? failure? with
  | some f => .error (.workerFailed f)
  | none => result

theorem eq_report_iff : result = report deeds result ↔
    ∀ f, deeds.findSome? failure? = some f → result = .error (.workerFailed f) := by
  rw [report]
  cases deeds.findSome? failure? <;> simp

end Deed

namespace Worker

theorem Orderly.failure_eq {w : Worker (σ × List Deed)} (h : w.Orderly) :
    w.failure = w.deeds.findSome? Deed.failure? := by
  cases halive : w.alive with
  | true =>
    obtain ⟨hquiet, hclean⟩ := h.running halive
    rw [hquiet, Deed.findSome?_clean hclean]
  | false =>
    obtain ⟨deeds, hdeeds, hreach⟩ := h.ended halive
    have hend : [Deed.onComplete].findSome? Deed.failure? = none := rfl
    rw [hdeeds, List.findSome?_append, hend, Option.or_none, hreach.findSome?, outcome]
    cases w.failure <;> rfl

end Worker

namespace Session

theorem report_eq {s : Session (σ × List Deed)} (h : s.worker.Orderly) :
    s.outcome = Deed.report s.deeds (.ok ()) := by
  rw [outcome, h.failure_eq]
  rfl

def behind (d : Decoder σ) (l : Listener σ) (s : Session σ) (ms : List Move) : Session σ :=
  ms.foldl (fun s m => (s.moveWith d l m).2) s

variable {d : Decoder σ} {l : Listener σ} {s : Session (σ × List Deed)}

theorem make_after (s : Session σ) (c : Call) :
    ∃ transcript channel, (s.make c).2 = { s with transcript, channel } ∧
      (.finish ∈ channel → .finish ∈ s.channel) := by
  cases c with
  | prompt ids =>
    rw [make]
    cases hprompt : s.prompt ids with
    | error f => exact ⟨s.transcript, s.channel, rfl, id⟩
    | ok after =>
      obtain ⟨transcript, rfl, -⟩ := Exchange.prompt_eq hprompt
      exact ⟨transcript, s.channel, rfl, id⟩
  | update ids =>
    rw [make, update]
    cases hprompt : s.prompt ids with
    | error f => exact ⟨s.transcript, s.channel, rfl, id⟩
    | ok recorded =>
      obtain ⟨transcript, rfl, -⟩ := Exchange.prompt_eq hprompt
      simp only
      split
      · exact ⟨transcript, s.channel, rfl, id⟩
      · split
        · rename_i after hsend
          rw [Exchange.send_eq hsend]
          exact ⟨transcript, s.channel ++ [.batch ids], rfl, by simp⟩
        · exact ⟨transcript, s.channel, rfl, id⟩

theorem Running.move (h : s.Running) (m : Move) :
    (s.moveWith d.overheard l.overheard m).2.Running := by
  cases m with
  | round n => exact h.round n
  | call c =>
    obtain ⟨transcript, channel, hafter, hmark⟩ := make_after s c
    rw [moveWith, hafter]
    exact ⟨h.closed_eq, fun hnew => h.unmarked (hmark hnew), h.orderly, h.failed⟩

theorem Running.behind (h : s.Running) (ms : List Move) :
    (s.behind d.overheard l.overheard ms).Running := by
  induction ms generalizing s with
  | nil => exact h
  | cons m ms ih => exact ih (h.move m)

theorem unheard_moveWith (d : Decoder σ) (l : Listener σ) (s : Session (σ × List Deed)) (m : Move) :
    (s.moveWith d.overheard l.overheard m).2.unheard = (s.unheard.moveWith d l m).2 := by
  cases m with
  | round n => exact unheard_workWith d l s n
  | call c =>
    cases c with
    | update ids => exact (congrArg Prod.snd (update_through Prod.fst s ids)).symm
    | prompt ids =>
      have hprompt : s.unheard.prompt ids = (s.prompt ids).map unheard :=
        prompt_through Prod.fst s ids
      rw [moveWith, moveWith, make, make, hprompt]
      cases s.prompt ids <;> rfl

theorem unheard_behind (d : Decoder σ) (l : Listener σ) (s : Session (σ × List Deed))
    (ms : List Move) :
    (s.behind d.overheard l.overheard ms).unheard = s.unheard.behind d l ms := by
  induction ms generalizing s with
  | nil => rfl
  | cons m ms ih =>
    rw [behind, behind, List.foldl_cons, List.foldl_cons, ← unheard_moveWith]
    exact ih _

theorem behind_patient (d : Decoder σ) (l : Listener σ) : behind d l.patient = behind d l := rfl

theorem closeWith_patient (d : Decoder σ) (l : Listener σ) :
    closeWith d l.patient = closeWith d l := rfl

theorem Running.send_refused (h : s.Running) {item : ChannelItem} {f : Failure}
    (refused : s.send item = .error f) :
    ∃ cause, s.deeds.findSome? Deed.failure? = some cause ∧ f = .workerStopped (some cause) := by
  rw [send] at refused
  split at refused
  · cases refused
  · rename_i hdead
    obtain ⟨cause, hcause⟩ := Option.ne_none_iff_exists'.mp (h.failed (eq_false_of_ne_true hdead))
    cases refused
    exact ⟨cause, h.orderly.failure_eq.symm.trans hcause, by rw [hcause]⟩

/-- Whatever moves there were, refused ones among them, closing reports the first failure of
decoding or of showing text, and nothing else. An end mark that comes too late is refused with that
failure. -/
theorem closeWith_report {length : Int} {audience : σ} {fresh : Session (σ × List Deed)}
    (started : start length (audience, []) = .ok fresh) (d : Decoder σ) (l : Listener σ)
    (ms : List Move) (rounds : List Nat) :
    let s := fresh.behind d.overheard l.overheard ms
    let (result, after) := s.closeWith d.overheard l.overheard rounds
    (s.shut.channel.length ≤ rounds.sum → after.worker.alive = false) ∧
    result = Deed.report after.deeds (.ok ()) ∧
    (∀ f, s.send .finish = .error f →
      ∃ cause, s.deeds.findSome? Deed.failure? = some cause ∧ f = .workerStopped (some cause)) ∧
    (fresh.unheard.behind d l ms).closeWith d l rounds = (result, after.unheard) := by
  have hlength : 0 ≤ length := by
    by_contra hnegative
    rw [start, Transcript.allocate, if_pos (by omega)] at started
    cases started
  obtain ⟨s, hstart, hs, -⟩ := start_running hlength audience
  obtain rfl := Except.ok.inj (hstart.symm.trans started)
  have hbehind := hs.behind (d := d) (l := l) ms
  obtain ⟨hends, horderly, hresult, -⟩ := hbehind.close (d := d) (l := l) rounds
  refine ⟨hends, hresult.trans (report_eq horderly), fun f => hbehind.send_refused, ?_⟩
  rw [← unheard_behind]
  exact unheard_closeWith d l _ rounds

end Session

/-- The record in a listener's state gains every call, with what came of a text. -/
structure Listener.Records (l : Listener τ) (record : τ → List Deed) : Prop where
  onText : ∀ a text, record (l.onText a text).2 = record a ++ [.onText text (l.onText a text).1]
  onComplete : ∀ a, record (l.onComplete a).2 = record a ++ [.onComplete]

/-- A listener whose calls are written down, which collects the text where it did. -/
def Listener.heard (l : Listener σ) : Listener (σ × List Deed) :=
  { l.overheard with collector? := l.collector?.map fun view a => view a.1 }

theorem Listener.heard_over (l : Listener σ) : l.heard.Over l Prod.fst :=
  ⟨fun _ _ => rfl, fun _ => rfl⟩

theorem Listener.heard_records (l : Listener σ) : l.heard.Records Prod.snd :=
  ⟨fun _ _ => rfl, fun _ => rfl⟩

theorem Listener.Records.tee {l : Listener τ} {record : τ → List Deed} (h : l.Records record) :
    l.tee.Records fun a => record a.2 :=
  ⟨fun a text => h.onText a.2 text, fun a => h.onComplete a.2⟩

variable {l : Listener τ} {record : τ → List Deed} {d : Detokenizer}

namespace Worker

def onRecord (record : τ → List Deed) (w : Worker τ) : Option Failure :=
  (record w.audience).findSome? Deed.failure?

/-- A worker that is running has not failed, and the failure on the record is the worker's. -/
structure Honest (record : τ → List Deed) (w : Worker τ) : Prop where
  running : w.alive = true → w.failure = none
  told : ∀ f, w.onRecord record = some f → w.failure = some f

def Covers (record : τ → List Deed) (x : Attempt (Worker τ) Unit) : Prop :=
  ∀ f, x.2.onRecord record = some f → x.1 = .error f

theorem Honest.clean {w : Worker τ} (honest : w.Honest record) (alive : w.alive = true) :
    w.onRecord record = none :=
  Option.eq_none_iff_forall_ne_some.mpr fun f hf => by
    cases (honest.running alive).symm.trans (honest.told f hf)

theorem Covers.clean {u : Unit} {after : Worker τ} (covers : Covers record (.ok u, after)) :
    after.onRecord record = none :=
  Option.eq_none_iff_forall_ne_some.mpr fun f hf => by cases covers f hf

theorem covers_clean {x : Attempt (Worker τ) Unit} (clean : x.2.onRecord record = none) :
    Covers record x := fun f hf => by rw [clean] at hf; cases hf

variable {w : Worker τ}

theorem emit_covers (h : l.Records record) (clean : w.onRecord record = none)
    (text : Option String) : Covers record (emit l w text) := by
  cases text with
  | none => exact covers_clean clean
  | some text =>
    rw [emit]
    split
    · exact covers_clean clean
    · intro f hf
      have hnew :
          [Deed.onText text (l.onText w.audience text).1].findSome? Deed.failure? = some f := by
        simp only [onRecord, h.onText, List.findSome?_append] at hf
        rwa [← onRecord, clean, Option.none_or] at hf
      cases hresult : (l.onText w.audience text).1 with
      | ok u =>
        rw [hresult] at hnew
        cases hnew
      | error g =>
        rw [hresult] at hnew
        cases hnew
        rfl

theorem deliver_covers (h : l.Records record) (clean : w.onRecord record = none)
    (step : Attempt TextStream (Option String)) : Covers record (deliver l w step) := by
  obtain ⟨f | text, stream⟩ := step
  · exact covers_clean clean
  · exact emit_covers h (w := { w with stream }) clean text

theorem process_covers (h : l.Records record) (clean : w.onRecord record = none)
    (tokens : List Int) : Covers record (process d l w tokens) := by
  rw [process]
  split
  · exact covers_clean clean
  · exact deliver_covers h (w := { w with generated := w.generated + tokens.length }) clean _

theorem onRecord_exit (h : l.Records record) (w : Worker τ) :
    (exit l w).onRecord record = w.onRecord record := by
  have hend : [Deed.onComplete].findSome? Deed.failure? = none := rfl
  rw [onRecord, exit, h.onComplete, List.findSome?_append, hend, Option.or_none, onRecord]

theorem endBy_honest (h : l.Records record) {x : Attempt (Worker τ) Unit}
    (covers : Covers record x) : (endBy l x).Honest record := by
  obtain ⟨f | u, w⟩ := x
  · refine ⟨fun halive => by simp [endBy, fail, exit] at halive, fun g hg => ?_⟩
    have hrecorded : w.onRecord record = some g := (onRecord_exit h _).symm.trans hg
    cases covers g hrecorded
    rfl
  · refine ⟨fun halive => by simp [endBy, exit] at halive, fun g hg => ?_⟩
    cases covers g ((onRecord_exit h w).symm.trans hg)

theorem conclude_eq_endBy (d : Detokenizer) (l : Listener τ) (w : Worker τ) :
    conclude d l w = endBy l (deliver l w (w.stream.flush d)) := by
  rw [conclude]
  rcases deliver l w (w.stream.flush d) with ⟨f | u, after⟩ <;> rfl

theorem round_honest (h : l.Records record) (honest : w.Honest record) (items : List ChannelItem) :
    (round d l w items).Honest record := by
  rw [round]
  by_cases halive : w.alive
  · rw [if_pos halive]
    obtain ⟨tokens, stopped, ended⟩ := intake d.stopIds w.stopped items
    have hcovers := process_covers (d := d) h (w := { w with stopped })
      (honest.clean halive) tokens
    obtain ⟨hfailure, -, -⟩ := process_keeps (d := d) (l := l) { w with stopped } tokens
    dsimp only
    generalize process d l { w with stopped } tokens = x at hcovers hfailure ⊢
    obtain ⟨f | u, after⟩ := x
    · exact endBy_honest h hcovers
    · cases ended with
      | true =>
        have hend := endBy_honest h (deliver_covers h hcovers.clean (after.stream.flush d))
        rw [← conclude_eq_endBy] at hend
        exact hend
      | false =>
        exact ⟨fun _ => hfailure.trans (honest.running halive), fun f hf => by cases hcovers f hf⟩
  · rw [if_neg halive]
    exact honest

end Worker

namespace Session

/-- Calls of the driver and rounds of the worker keep a property of sessions. -/
structure Keeps (d : Detokenizer) (l : Listener τ) (P : Session τ → Prop) : Prop where
  make : ∀ {s : Session τ} (c : Call), P s → P (s.make c).2
  work : ∀ {s : Session τ} (n : Nat), P s → P (s.work d l n)

theorem Keeps.works {P : Session τ → Prop} (kept : Keeps d l P) (rounds : List Nat) {s : Session τ}
    (h : P s) : P (s.works d l rounds) := by
  induction rounds generalizing s with
  | nil => exact h
  | cons n rounds ih => exact ih (kept.work n h)

structure Honest (record : τ → List Deed) (s : Session τ) : Prop where
  closed_eq : s.closed = false
  worker : s.worker.Honest record

variable {s : Session τ}

theorem start_honest {length : Int} {audience : τ} (started : start length audience = .ok s)
    (fresh : (record audience).findSome? Deed.failure? = none) : s.Honest record := by
  rw [start] at started
  cases hallocate : Transcript.allocate length with
  | error f =>
    rw [hallocate] at started
    cases started
  | ok transcript =>
    rw [hallocate] at started
    cases started
    exact ⟨rfl, fun _ => rfl, fun f hf => by cases fresh.symm.trans hf⟩

theorem make_honest (honest : s.Honest record) (c : Call) : (s.make c).2.Honest record := by
  obtain ⟨transcript, channel, hafter, -⟩ := make_after s c
  rw [hafter]
  exact ⟨honest.closed_eq, honest.worker⟩

theorem work_honest (h : l.Records record) (honest : s.Honest record) (n : Nat) :
    (s.work d l n).Honest record := by
  rw [work]
  split
  · exact ⟨honest.closed_eq, Worker.round_honest h honest.worker _⟩
  · exact honest

/-- Honesty is kept by whatever happens to an open session. -/
theorem honest_keeps (h : l.Records record) : Keeps d l (Honest record) :=
  ⟨fun c honest => make_honest honest c, fun n honest => work_honest h honest n⟩

theorem close_report (h : l.Records record) (honest : s.Honest record) {f : Failure}
    (failed : (s.close d l).2.worker.onRecord record = some f) :
    (s.close d l).1 = .error (.workerFailed f) := by
  have hshut : s.shut.worker = s.worker ∧ s.shut.closed = true := by
    rw [shut, honest.closed_eq, if_neg Bool.false_ne_true]
    split <;> exact ⟨rfl, rfl⟩
  rw [close, honest.closed_eq, if_neg Bool.false_ne_true] at failed ⊢
  have hworker : (s.shut.drain d l).worker.Honest record := by
    rw [drain, work]
    split
    · exact Worker.round_honest h (hshut.1 ▸ honest.worker) _
    · exact hshut.1 ▸ honest.worker
  simp only [outcome, hworker.told f failed]

end Session
end StreamingLM
