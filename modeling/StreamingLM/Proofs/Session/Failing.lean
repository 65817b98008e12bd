import Mathlib.Algebra.GroupWithZero.Nat
import StreamingLM.Proofs.Session.Interleaving
import StreamingLM.Proofs.Session.Overheard
import StreamingLM.Session.Recorder
import StreamingLM.Tokenizer.Decoder

/-!
Sessions whose decoder or listener may fail at any call. The driver notices nothing but the stop flag
until it closes the session; then it is told the failure, once, and the listener has heard of the end.
-/
namespace StreamingLM

variable {σ : Type}

namespace Session

/-- What happens to an open session: a call of its driver, or a round of its worker over so many
items. -/
inductive Move where
  | call (c : Call)
  | round (n : Nat)
  deriving DecidableEq, Repr

def Move.tokens : Move → List Int
  | call c => c.tokens
  | round _ => []

def make (s : Session σ) : Call → Attempt (Session σ) Unit
  | .prompt ids =>
    match s.prompt ids with
    | .ok s => (.ok (), s)
    | .error f => (.error f, s)
  | .update ids => s.update ids

def moveWith (d : Decoder σ) (l : Listener σ) (s : Session σ) : Move → Attempt (Session σ) Unit
  | .call c => s.make c
  | .round n => (.ok (), s.workWith d l n)

def movesWith (d : Decoder σ) (l : Listener σ) (s : Session σ) :
    List Move → Attempt (Session σ) Unit
  | [] => (.ok (), s)
  | m :: ms =>
    match s.moveWith d l m with
    | (.error f, s) => (.error f, s)
    | (.ok (), s) => movesWith d l s ms

def deeds (s : Session (σ × List Deed)) : List Deed := s.worker.deeds

/-- A session before it is closed: its worker has ended only if it has failed. -/
structure Running (s : Session (σ × List Deed)) : Prop where
  closed_eq : s.closed = false
  unmarked : .finish ∉ s.channel
  orderly : s.worker.Orderly
  failed : s.worker.alive = false → s.worker.failure ≠ none

namespace Running

variable {d : Decoder σ} {l : Listener σ} {s : Session (σ × List Deed)}

theorem stopped (h : s.Running) {f : Failure} (failed : s.deeds.findSome? Deed.failure? = some f) :
    s.stopped = true := by
  refine h.orderly.stopped (h.failed (eq_false_of_ne_true fun halive => ?_))
  have hclean := Deed.findSome?_clean (h.orderly.running halive).2
  rw [deeds, hclean] at failed
  cases failed

theorem update (h : s.Running) {ids : List Int}
    (room : s.transcript.tokens.length + ids.length ≤ s.transcript.capacity) :
    ∃ transcript channel, s.update ids = (.ok (), { s with transcript, channel }) ∧
      transcript.tokens = s.transcript.tokens ++ ids ∧
      transcript.capacity = s.transcript.capacity ∧ .finish ∉ channel ∧
      (s.stopped = true → channel = s.channel) := by
  obtain ⟨transcript, hprompt, htokens, hcapacity⟩ := prompt_ok room
  simp only [Session.update, hprompt]
  by_cases hstopped : s.stopped = true
  · exact ⟨transcript, s.channel, if_pos hstopped, htokens, hcapacity, h.unmarked, fun _ => rfl⟩
  · have halive : s.worker.alive = true := by
      by_contra hdead
      exact hstopped (h.orderly.stopped (h.failed (eq_false_of_ne_true hdead)))
    refine ⟨transcript, s.channel ++ [.batch ids], ?_, htokens, hcapacity, ?_,
      fun hraised => absurd hraised hstopped⟩
    · rw [if_neg (by exact hstopped), send, if_pos (by exact halive)]
    · simp [h.unmarked]

theorem call (h : s.Running) (c : Call)
    (room : s.transcript.tokens.length + c.tokens.length ≤ s.transcript.capacity) :
    ∃ after, s.make c = (.ok (), after) ∧ after.Running ∧
      after.transcript.tokens = s.transcript.tokens ++ c.tokens ∧
      after.transcript.capacity = s.transcript.capacity := by
  cases c with
  | prompt ids =>
    obtain ⟨transcript, hprompt, htokens, hcapacity⟩ := @prompt_ok _ s ids room
    exact ⟨{ s with transcript }, by rw [make, hprompt],
      ⟨h.closed_eq, h.unmarked, h.orderly, h.failed⟩, htokens, hcapacity⟩
  | update ids =>
    obtain ⟨transcript, channel, hupdate, htokens, hcapacity, hunmarked, -⟩ := h.update room
    exact ⟨{ s with transcript, channel }, hupdate,
      ⟨h.closed_eq, hunmarked, h.orderly, h.failed⟩, htokens, hcapacity⟩

theorem round (h : s.Running) (n : Nat) : (s.workWith d.overheard l.overheard n).Running := by
  unfold workWith
  by_cases halive : s.worker.alive
  · obtain ⟨horderly, -, hfailed⟩ :=
      Worker.roundWith_orderly (d := d) (l := l) h.orderly (s.channel.take n)
    rw [if_pos halive]
    exact ⟨h.closed_eq, fun hitem => h.unmarked (List.mem_of_mem_drop hitem), horderly,
      hfailed (fun hitem => h.unmarked (List.mem_of_mem_take hitem)) halive⟩
  · rw [if_neg halive]
    exact h

end Running

theorem transcript_workWith (d : Decoder σ) (l : Listener σ) (s : Session σ) (n : Nat) :
    (s.workWith d l n).transcript = s.transcript := by
  unfold workWith
  split <;> rfl

theorem closed_workWith (d : Decoder σ) (l : Listener σ) (s : Session σ) (n : Nat) :
    (s.workWith d l n).closed = s.closed := by
  unfold workWith
  split <;> rfl

theorem Running.moves {d : Decoder σ} {l : Listener σ} {ms : List Move}
    {s : Session (σ × List Deed)} (h : s.Running)
    (room : s.transcript.tokens.length + (ms.flatMap Move.tokens).length ≤ s.transcript.capacity) :
    ∃ after, s.movesWith d.overheard l.overheard ms = (.ok (), after) ∧ after.Running ∧
      after.transcript.tokens = s.transcript.tokens ++ ms.flatMap Move.tokens ∧
      after.transcript.capacity = s.transcript.capacity := by
  induction ms generalizing s with
  | nil => exact ⟨s, rfl, h, by simp, rfl⟩
  | cons m ms ih =>
    rw [List.flatMap_cons, List.length_append] at room
    cases m with
    | round n =>
      have hsame := transcript_workWith d.overheard l.overheard s n
      rw [← hsame] at room ⊢
      exact ih (h.round n) (by simpa [Move.tokens] using room)
    | call c =>
      obtain ⟨next, hmake, hnext, htokens, hcapacity⟩ :=
        h.call c (by simp only [Move.tokens] at room; omega)
      obtain ⟨after, hmoves, hafter, hall, hstill⟩ := ih hnext (by
        rw [htokens, hcapacity, List.length_append]
        simp only [Move.tokens] at room
        omega)
      refine ⟨after, ?_, hafter, ?_, hstill.trans hcapacity⟩
      · simpa [movesWith, moveWith, hmake] using hmoves
      · rw [hall, htokens, List.append_assoc]
        rfl

/-- Rounds keep the worker in order, and leave it running only if none has come to the end mark. -/
theorem worksWith_orderly {d : Decoder σ} {l : Listener σ} (rounds : List Nat)
    {s : Session (σ × List Deed)} (h : s.worker.Orderly) :
    (s.worksWith d.overheard l.overheard rounds).worker.Orderly ∧
      (s.worksWith d.overheard l.overheard rounds).closed = s.closed ∧
      ((s.worksWith d.overheard l.overheard rounds).worker.alive = true →
        s.worker.alive = true ∧ .finish ∉ s.channel.take rounds.sum) := by
  induction rounds generalizing s with
  | nil => exact ⟨h, rfl, fun halive => ⟨halive, by simp⟩⟩
  | cons n rounds ih =>
    by_cases halive : s.worker.alive
    · obtain ⟨horderly, hmarked, -⟩ :=
        Worker.roundWith_orderly (d := d) (l := l) h (s.channel.take n)
      have hwork : s.workWith d.overheard l.overheard n =
          { s with
            worker := s.worker.roundWith d.overheard l.overheard (s.channel.take n)
            channel := s.channel.drop n } := if_pos halive
      obtain ⟨hrest, hclosed, hopen⟩ := ih (s := s.workWith d.overheard l.overheard n)
        (by rw [hwork]; exact horderly)
      refine ⟨hrest, hclosed.trans (closed_workWith _ _ s n), fun hlast => ⟨halive, ?_⟩⟩
      obtain ⟨hstill, hunmarked⟩ := hopen hlast
      rw [hwork] at hstill hunmarked
      rw [List.sum_cons, List.take_add, List.mem_append, not_or]
      refine ⟨fun hitem => ?_, hunmarked⟩
      exact absurd ((hmarked hitem).symm.trans hstill) (by simp)
    · have hwork : s.workWith d.overheard l.overheard n = s := if_neg halive
      have hsame : s.worksWith d.overheard l.overheard (n :: rounds) =
          s.worksWith d.overheard l.overheard rounds := by
        rw [worksWith, List.foldl_cons, hwork]
        rfl
      rw [hsame]
      obtain ⟨hrest, hclosed, hopen⟩ := ih h
      exact ⟨hrest, hclosed, fun hlast => absurd (hopen hlast).1 halive⟩

theorem start_running {length : Int} (h : 0 ≤ length) (audience : σ) :
    ∃ s, start length (audience, []) = .ok s ∧ s.Running ∧ s.transcript = .empty length.toNat := by
  refine ⟨{ transcript := .empty length.toNat, worker := { audience := (audience, []) } },
    ?_, ⟨rfl, List.not_mem_nil, ⟨fun _ => ⟨rfl, fun _ hdeed => absurd hdeed List.not_mem_nil⟩,
      by simp, by simp⟩, by simp⟩, rfl⟩
  rw [start, Transcript.allocate, if_neg (by omega)]
  rfl

theorem Running.close {d : Decoder σ} {l : Listener σ} {s : Session (σ × List Deed)}
    (h : s.Running) (rounds : List Nat) :
    let (result, after) := s.closeWith d.overheard l.overheard rounds
    (s.shut.channel.length ≤ rounds.sum → after.worker.alive = false) ∧
    after.worker.Orderly ∧ result = after.outcome ∧ after.closed = true := by
  have hshut : s.shut.worker = s.worker ∧ s.shut.closed = true ∧
      (s.worker.alive = true → .finish ∈ s.shut.channel) := by
    unfold shut
    rw [h.closed_eq, if_neg Bool.false_ne_true]
    split
    · simp
    · rename_i hdead
      exact ⟨rfl, rfl, fun halive => absurd halive hdead⟩
  obtain ⟨hworker, hclosed, hmarked⟩ := hshut
  obtain ⟨horderly, hstill, hopen⟩ := worksWith_orderly (d := d) (l := l) rounds
    (s := s.shut) (hworker ▸ h.orderly)
  have hclose : s.closeWith d.overheard l.overheard rounds =
      ((s.shut.worksWith d.overheard l.overheard rounds).outcome,
        s.shut.worksWith d.overheard l.overheard rounds) := by
    rw [closeWith, h.closed_eq, if_neg Bool.false_ne_true]
  rw [hclose]
  refine ⟨fun hall => eq_false_of_ne_true fun hlast => ?_, horderly, rfl, hstill.trans hclosed⟩
  obtain ⟨halive, hunmarked⟩ := hopen hlast
  rw [List.take_of_length_le hall] at hunmarked
  exact hunmarked (hmarked (hworker ▸ halive))

def unheard (s : Session (σ × List Deed)) : Session σ := { s with worker := s.worker.unheard }

section

variable (d : Decoder σ) (l : Listener σ) (s : Session (σ × List Deed))

theorem unheard_workWith (n : Nat) :
    (s.workWith d.overheard l.overheard n).unheard = s.unheard.workWith d l n := by
  unfold workWith
  by_cases halive : s.worker.alive
  · rw [if_pos halive, if_pos (by exact halive), unheard, Worker.unheard_roundWith]
    rfl
  · rw [if_neg halive, if_neg (by exact halive)]

theorem unheard_worksWith (rounds : List Nat) :
    (s.worksWith d.overheard l.overheard rounds).unheard = s.unheard.worksWith d l rounds := by
  induction rounds generalizing s with
  | nil => rfl
  | cons n rounds ih =>
    rw [worksWith, worksWith, List.foldl_cons, List.foldl_cons, ← unheard_workWith]
    exact ih _

theorem unheard_shut : s.shut.unheard = s.unheard.shut := by
  by_cases hclosed : s.closed
  · simp [shut, unheard, hclosed]
  · by_cases halive : s.worker.alive <;> simp [shut, unheard, Worker.unheard, hclosed, halive]

/-- Closing reports the same and leaves the same session, whether or not the calls are written down. -/
theorem unheard_closeWith (rounds : List Nat) :
    let (result, after) := s.closeWith d.overheard l.overheard rounds
    s.unheard.closeWith d l rounds = (result, after.unheard) := by
  unfold closeWith
  by_cases hclosed : s.closed
  · rw [if_pos hclosed, if_pos (by exact hclosed)]
  · rw [if_neg hclosed, if_neg (by exact hclosed)]
    simp only [← unheard_shut, ← unheard_worksWith]
    rfl

end

def spelling : Decoder Recorder := Detokenizer.decoder { decode := Detokenizer.characters }

/-- The worker takes each token by itself, and has ended when the driver records the last one. -/
def spelled : List Move :=
  [.call (.prompt [120]), .call (.update [97]), .round 1, .call (.update [98]), .round 1,
    .call (.update [99])]

end Session
end StreamingLM
