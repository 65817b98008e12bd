import StreamingLM.Proofs.Session.Report

/-!
What a collector of text has at the end of a session: the pieces that it was handed, behind those
that it had before. The whole text is fixed at the first end of all that the collector hears of.
-/
namespace StreamingLM

namespace Collector

/-- With more text, piece by piece. -/
def gain (c : Collector) (texts : List String) : Collector := { c with chunks := c.chunks ++ texts }

/-- The whole text once these pieces have come, and then the end. -/
def owed (c : Collector) (texts : List String) : String :=
  c.result.getD (String.join (c.chunks ++ texts))

@[simp] theorem gain_nil (c : Collector) : c.gain [] = c := by
  rw [gain, List.append_nil]

theorem gain_gain (c : Collector) (texts more : List String) :
    (c.gain texts).gain more = c.gain (texts ++ more) := by
  rw [gain, gain, gain, List.append_assoc]

theorem result_complete (c : Collector) (texts : List String) :
    (c.gain texts).complete.result = some (c.owed texts) := by
  rw [complete, gain, owed]
  cases c.result <;> rfl

theorem text_complete (c : Collector) (texts : List String) :
    (c.gain texts).complete.text = .ok (c.owed texts) := by
  rw [text, result_complete]

end Collector

/-- A collector of text, and the calls that it has received. -/
abbrev Heard := Collector × List Deed

namespace Heard

def told (a : Heard) (texts : List String) : Heard :=
  (a.1.gain texts, a.2 ++ texts.map (Deed.onText · (.ok ())))

def ended (a : Heard) : Heard := (a.1.complete, a.2 ++ [.onComplete])

@[simp] theorem told_nil (a : Heard) : a.told [] = a := by
  rw [told, Collector.gain_nil, List.map_nil, List.append_nil]

theorem told_told (a : Heard) (texts more : List String) :
    (a.told texts).told more = a.told (texts ++ more) := by
  rw [told, told, told, Collector.gain_gain, List.map_append, List.append_assoc]

end Heard

def Listener.scribe : Listener Heard := Listener.collecting.heard

namespace Worker

variable {d : Detokenizer} {w : Worker Heard} {a : Heard}

/-- What has been heard: some pieces of text, and the end once the worker has ended. -/
def Follows (a : Heard) (w : Worker Heard) : Prop :=
  ∃ texts, w.audience = if w.alive then a.told texts else (a.told texts).ended

/-- Only text has been heard on the way. -/
def Tells (a : Heard) (x : Attempt (Worker Heard) Unit) : Prop :=
  ∃ texts, x.2.audience = a.told texts

theorem emit_tells (h : w.audience = a) (text : Option String) :
    Tells a (emit .scribe w text) := by
  subst h
  cases text with
  | none => exact ⟨[], (Heard.told_nil _).symm⟩
  | some text =>
    rw [emit]
    split
    · exact ⟨[], (Heard.told_nil _).symm⟩
    · exact ⟨[text], rfl⟩

theorem deliver_tells (h : w.audience = a) (step : Attempt TextStream (Option String)) :
    Tells a (deliver .scribe w step) := by
  obtain ⟨f | text, stream⟩ := step
  · exact ⟨[], h.trans (Heard.told_nil _).symm⟩
  · exact emit_tells (w := { w with stream }) h text

theorem process_tells (h : w.audience = a) (tokens : List Int) :
    Tells a (process d .scribe w tokens) := by
  rw [process]
  split
  · exact ⟨[], h.trans (Heard.told_nil _).symm⟩
  · exact deliver_tells (w := { w with generated := w.generated + tokens.length }) h _

theorem endBy_follows {x : Attempt (Worker Heard) Unit} (tells : Tells a x) :
    (endBy .scribe x).Follows a := by
  obtain ⟨texts, h⟩ := tells
  refine ⟨texts, ?_⟩
  rw [← h]
  obtain ⟨f | u, w⟩ := x <;> rfl

theorem Tells.trans {texts : List String} {x : Attempt (Worker Heard) Unit}
    (tells : Tells (a.told texts) x) : Tells a x := by
  obtain ⟨more, h⟩ := tells
  exact ⟨texts ++ more, h.trans (a.told_told texts more)⟩

theorem round_follows (follows : w.Follows a) (items : List ChannelItem) :
    (round d .scribe w items).Follows a := by
  rw [round]
  by_cases halive : w.alive
  · obtain ⟨before, hbefore⟩ := follows
    rw [if_pos halive] at hbefore ⊢
    obtain ⟨tokens, stopped, ended⟩ := intake d.stopIds w.stopped items
    have htells : Tells a (process d .scribe { w with stopped } tokens) :=
      (process_tells (w := { w with stopped }) hbefore tokens).trans
    obtain ⟨-, hstill, -⟩ := process_keeps (d := d) (l := .scribe) { w with stopped } tokens
    dsimp only
    generalize process d .scribe { w with stopped } tokens = x at htells hstill ⊢
    obtain ⟨f | u, after⟩ := x
    · exact endBy_follows (x := (.error f, after)) htells
    · obtain ⟨texts, hafter⟩ := htells
      cases ended with
      | true =>
        have hend := endBy_follows (deliver_tells hafter (after.stream.flush d)).trans
        rw [← conclude_eq_endBy] at hend
        exact hend
      | false => exact ⟨texts, hafter.trans (if_pos (hstill.trans halive)).symm⟩
  · rw [if_neg halive]
    exact follows

theorem round_marked {σ : Type} {l : Listener σ} (w : Worker σ) {items : List ChannelItem}
    (marked : .finish ∈ items) : (round d l w items).alive = false := by
  have hend : ∀ x : Attempt (Worker σ) Unit, (endBy l x).alive = false := by
    rintro ⟨f | u, w⟩ <;> rfl
  rw [round]
  by_cases halive : w.alive
  · rw [if_pos halive]
    dsimp only
    rw [intake_marked d.stopIds marked w.stopped]
    split
    · rfl
    · rw [if_pos rfl, conclude_eq_endBy]
      exact hend _
  · rw [if_neg halive]
    exact eq_false_of_ne_true halive

end Worker

namespace Session

variable {d : Detokenizer} {s : Session Heard} {a : Heard}

/-- An open session with what has been heard in it. -/
structure Follows (a : Heard) (s : Session Heard) : Prop where
  closed_eq : s.closed = false
  worker : s.worker.Follows a

theorem start_follows {length : Int} (started : start length a = .ok s) : s.Follows a := by
  rw [of_start started]
  exact ⟨rfl, [], (Heard.told_nil a).symm⟩

theorem follows_keeps (d : Detokenizer) (a : Heard) : Keeps d .scribe (Follows a) where
  make {s} c h := by
    obtain ⟨transcript, channel, hafter, -⟩ := make_after s c
    rw [hafter]
    exact ⟨h.closed_eq, h.worker⟩
  work n h := by
    rw [work]
    split
    · exact ⟨h.closed_eq, Worker.round_follows h.worker _⟩
    · exact h

theorem close_follows (h : s.Follows a) :
    ∃ texts, (s.close d .scribe).2.worker.audience = (a.told texts).ended := by
  have hended : ∀ w : Worker Heard, w.Follows a → w.alive = false →
      ∃ texts, w.audience = (a.told texts).ended := by
    rintro w ⟨texts, hheard⟩ hdead
    exact ⟨texts, by rw [hheard, hdead, if_neg Bool.false_ne_true]⟩
  rw [close, h.closed_eq, if_neg Bool.false_ne_true]
  by_cases halive : s.worker.alive
  · have hshut : s.shut = { s with closed := true, channel := s.channel ++ [.finish] } := by
      rw [shut, h.closed_eq, if_neg Bool.false_ne_true, if_pos halive]
    have hdrain : (s.shut.drain d .scribe).worker =
        s.worker.round d .scribe (s.channel ++ [.finish]) := by
      rw [hshut, drain, work, if_pos (by exact halive), List.take_length]
    dsimp only
    rw [hdrain]
    exact hended _ (Worker.round_follows h.worker _) (Worker.round_marked _ (by simp))
  · have hdrain : (s.shut.drain d .scribe).worker = s.worker := by
      rw [shut, h.closed_eq, if_neg Bool.false_ne_true, if_neg halive, drain, work,
        if_neg (by exact halive)]
    dsimp only
    rw [hdrain]
    exact hended _ h.worker (eq_false_of_ne_true halive)

end Session
end StreamingLM
