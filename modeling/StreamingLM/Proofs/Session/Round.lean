import Mathlib.Data.List.Induction
import Mathlib.Data.List.TakeWhile
import StreamingLM.Session.Basic

/-!
One round of a worker. What it accepts is told by the tokens of its items alone; and as long as
nothing fails, the worker is the one that was handed the accepted tokens list by list.
-/
namespace StreamingLM

namespace ChannelItem

def tokens : ChannelItem → List Int
  | batch ids => ids
  | finish => []

end ChannelItem

namespace Detokenizer

def stops (d : Detokenizer) (id : Int) : Bool := d.stopIds.contains id

def beforeStop (d : Detokenizer) (ids : List Int) : List Int := ids.takeWhile (!d.stops ·)

@[simp] theorem beforeStop_nil (d : Detokenizer) : d.beforeStop [] = [] := rfl

theorem beforeStop_eq_self {d : Detokenizer} {ids : List Int} (h : ids.any d.stops = false) :
    d.beforeStop ids = ids := by
  rw [beforeStop, List.takeWhile_eq_self_iff]
  intro id hid
  have hall := List.any_eq_false.mp h id hid
  simpa using hall

theorem beforeStop_append (d : Detokenizer) (ids more : List Int) :
    d.beforeStop (ids ++ more) =
      if ids.any d.stops then d.beforeStop ids else ids ++ d.beforeStop more := by
  induction ids with
  | nil => simp
  | cons id ids ih =>
    rw [List.any_cons]
    by_cases hstop : d.stops id
    · simp [beforeStop, hstop]
    · simp only [beforeStop] at ih ⊢
      simp only [List.cons_append, List.takeWhile_cons, hstop, ih]
      by_cases hany : ids.any d.stops <;> simp [hany]

end Detokenizer

namespace Worker

variable {σ : Type} {d : Detokenizer} {l : Listener σ}

theorem untilStop_eq (d : Detokenizer) (ids : List Int) :
    untilStop d.stopIds ids = (d.beforeStop ids, ids.any d.stops) := by
  induction ids with
  | nil => rfl
  | cons id ids ih =>
    have hstops : d.stopIds.contains id = d.stops id := rfl
    by_cases hstop : d.stops id
    · rw [untilStop, hstops, if_pos hstop]
      simp [Detokenizer.beforeStop, hstop]
    · rw [untilStop, hstops, if_neg hstop, ih]
      simp [Detokenizer.beforeStop, hstop]

theorem intake_stopped (stopIds : List Int) (items : List ChannelItem) :
    (intake stopIds true items).1 = [] ∧ (intake stopIds true items).2.1 = true := by
  induction items with
  | nil => exact ⟨rfl, rfl⟩
  | cons item items ih =>
    cases item with
    | finish => exact ⟨rfl, rfl⟩
    | batch ids => exact ih

theorem intake_running (d : Detokenizer) {items : List ChannelItem} (h : .finish ∉ items)
    (rest : List ChannelItem) (last : rest = [] ∨ rest = [.finish]) :
    (intake d.stopIds false (items ++ rest)).1 = d.beforeStop (items.flatMap ChannelItem.tokens) ∧
    (intake d.stopIds false (items ++ rest)).2.1 =
      (items.flatMap ChannelItem.tokens).any d.stops := by
  induction items with
  | nil => obtain rfl | rfl := last <;> exact ⟨rfl, rfl⟩
  | cons item items ih =>
    obtain ⟨hitem, hitems⟩ := not_or.mp (mt List.mem_cons.mpr h)
    cases item with
    | finish => exact absurd rfl hitem
    | batch ids =>
      rw [List.flatMap_cons, List.any_append, Detokenizer.beforeStop_append, ChannelItem.tokens]
      simp only [List.cons_append, intake, untilStop_eq]
      by_cases hany : ids.any d.stops
      · obtain ⟨htokens, hstopped⟩ := intake_stopped d.stopIds (items ++ rest)
        simp [hany, htokens, hstopped]
      · obtain ⟨htokens, hstopped⟩ := ih hitems
        simp only [Bool.not_eq_true] at hany
        simp [hany, htokens, hstopped, Detokenizer.beforeStop_eq_self hany]

theorem intake_ended (stopIds : List Int) {items : List ChannelItem} (h : .finish ∉ items)
    (stopped : Bool) (rest : List ChannelItem) (last : rest = [] ∨ rest = [.finish]) :
    (intake stopIds stopped (items ++ rest)).2.2 = !rest.isEmpty := by
  induction items generalizing stopped with
  | nil => obtain rfl | rfl := last <;> cases stopped <;> rfl
  | cons item items ih =>
    obtain ⟨hitem, hitems⟩ := not_or.mp (mt List.mem_cons.mpr h)
    cases item with
    | finish => exact absurd rfl hitem
    | batch ids => cases stopped <;> exact ih hitems _

theorem emit_keeps (w : Worker σ) (text : Option String) :
    (emit l w text).2.failure = w.failure ∧ (emit l w text).2.stopped = w.stopped ∧
      (emit l w text).2.generated = w.generated ∧ (emit l w text).2.alive = w.alive := by
  cases text with
  | none => exact ⟨rfl, rfl, rfl, rfl⟩
  | some text =>
    rw [emit]
    by_cases hempty : text = ""
    · rw [if_pos hempty]
      exact ⟨rfl, rfl, rfl, rfl⟩
    · rw [if_neg hempty]
      exact ⟨rfl, rfl, rfl, rfl⟩

theorem deliver_keeps (w : Worker σ) (step : Attempt TextStream (Option String)) :
    (deliver l w step).2.failure = w.failure ∧ (deliver l w step).2.stopped = w.stopped ∧
      (deliver l w step).2.generated = w.generated ∧ (deliver l w step).2.alive = w.alive := by
  obtain ⟨result, stream⟩ := step
  cases result with
  | error f => exact ⟨rfl, rfl, rfl, rfl⟩
  | ok text => exact emit_keeps { w with stream } text

def flag (w : Worker σ) (stopped : Bool) : Worker σ := { w with stopped }

@[simp] theorem stopped_flag (w : Worker σ) (b : Bool) : (w.flag b).stopped = b := rfl

@[simp] theorem flag_flag (w : Worker σ) (b c : Bool) : (w.flag b).flag c = w.flag c := rfl

@[simp] theorem alive_flag (w : Worker σ) (b : Bool) : (w.flag b).alive = w.alive := rfl

@[simp] theorem generated_flag (w : Worker σ) (b : Bool) : (w.flag b).generated = w.generated := rfl

theorem process_flag (w : Worker σ) (b : Bool) (ids : List Int) :
    process d l (w.flag b) ids = ((process d l w ids).1, (process d l w ids).2.flag b) := by
  unfold process flag
  by_cases hnone : ids.isEmpty
  · rw [if_pos hnone, if_pos hnone]
  · rw [if_neg hnone, if_neg hnone]
    simp only [deliver]
    split
    · rename_i text _
      cases text with
      | none => rfl
      | some text =>
        simp only [emit]
        split <;> rfl
    · rfl

theorem process_keeps (w : Worker σ) (ids : List Int) :
    (process d l w ids).2.failure = w.failure ∧ (process d l w ids).2.alive = w.alive ∧
      (process d l w ids).2.generated = w.generated + ids.length := by
  unfold process
  by_cases hnone : ids.isEmpty
  · rw [if_pos hnone]
    exact ⟨rfl, rfl, by simp [List.isEmpty_iff.mp hnone]⟩
  · rw [if_neg hnone]
    obtain ⟨hf, -, hg, ha⟩ := deliver_keeps (l := l)
      { w with generated := w.generated + ids.length } (w.stream.push d ids)
    exact ⟨hf, ha, hg⟩

theorem conclude_keeps {w : Worker σ} (quiet : (conclude d l w).failure = none) :
    w.failure = none ∧ (conclude d l w).stopped = w.stopped ∧
      (conclude d l w).generated = w.generated ∧ (conclude d l w).alive = false := by
  obtain ⟨hf, hs, hg, -⟩ := deliver_keeps (l := l) w (w.stream.flush d)
  rw [conclude] at quiet ⊢
  revert quiet hf hs hg
  cases deliver l w (w.stream.flush d) with
  | mk result after =>
    cases result with
    | ok u => exact fun quiet hf hs hg => ⟨hf.symm.trans quiet, hs, hg, rfl⟩
    | error f => exact fun quiet => by cases quiet

theorem round_eq {w : Worker σ} (alive : w.alive) {items : List ChannelItem}
    (quiet : (round d l w items).failure = none) :
    round d l w items =
      let taken := intake d.stopIds w.stopped items
      let after := (process d l w taken.1).2.flag taken.2.1
      if taken.2.2 then conclude d l after else after := by
  have hprocess := process_flag (d := d) (l := l) w
    (intake d.stopIds w.stopped items).2.1 (intake d.stopIds w.stopped items).1
  rw [flag] at hprocess
  simp only [round, if_pos alive, hprocess] at quiet ⊢
  revert quiet
  cases (process d l w (intake d.stopIds w.stopped items).1).1 with
  | ok u => exact fun _ => rfl
  | error f => exact fun quiet => by cases quiet

theorem round_keeps {w : Worker σ} (alive : w.alive) {items : List ChannelItem}
    (quiet : (round d l w items).failure = none) :
    w.failure = none ∧
      (round d l w items).stopped = (intake d.stopIds w.stopped items).2.1 ∧
      (round d l w items).alive = !(intake d.stopIds w.stopped items).2.2 := by
  have hround := round_eq alive quiet
  obtain ⟨hf, ha, -⟩ := process_keeps (d := d) (l := l) w (intake d.stopIds w.stopped items).1
  rw [hround] at quiet ⊢
  by_cases hended : (intake d.stopIds w.stopped items).2.2
  · simp only [if_pos hended] at quiet ⊢
    obtain ⟨hfailure, hstopped, -, hdead⟩ := conclude_keeps quiet
    exact ⟨hf.symm.trans hfailure, hstopped, by rw [hdead, hended]; rfl⟩
  · simp only [if_neg hended] at quiet ⊢
    exact ⟨hf.symm.trans quiet, rfl, by simp [ha, alive, hended]⟩

/-- A failure is never forgotten. -/
theorem quiet_of_round {w : Worker σ} {items : List ChannelItem}
    (quiet : (round d l w items).failure = none) : w.failure = none := by
  by_cases halive : w.alive
  · exact (round_keeps halive quiet).1
  · rwa [round, if_neg halive] at quiet

/-- A new worker that has been handed lists of tokens one after the other. -/
def fed (d : Detokenizer) (l : Listener σ) (audience : σ) (batches : List (List Int)) : Worker σ :=
  batches.foldl (fun w batch => (process d l w batch).2) { audience }

@[simp] theorem fed_nil (audience : σ) : fed d l audience [] = { audience } := rfl

theorem fed_append (audience : σ) (batches : List (List Int)) (batch : List Int) :
    fed d l audience (batches ++ [batch]) = (process d l (fed d l audience batches) batch).2 := by
  rw [fed, List.foldl_append, ← fed]
  rfl

/-- The lists handed to the decoder behind a round; an empty one is not handed on. -/
def logged (batches : List (List Int)) (accepted : List Int) : List (List Int) :=
  if accepted.isEmpty then batches else batches ++ [accepted]

theorem flatten_logged (batches : List (List Int)) (accepted : List Int) :
    (logged batches accepted).flatten = batches.flatten ++ accepted := by
  rw [logged]
  by_cases hnone : accepted.isEmpty
  · rw [if_pos hnone, List.isEmpty_iff.mp hnone, List.append_nil]
  · rw [if_neg hnone, List.flatten_append, List.flatten_singleton]

theorem fed_logged (audience : σ) (batches : List (List Int)) (accepted : List Int) :
    fed d l audience (logged batches accepted) =
      (process d l (fed d l audience batches) accepted).2 := by
  rw [logged]
  by_cases hnone : accepted.isEmpty
  · rw [if_pos hnone, process, if_pos hnone]
  · rw [if_neg hnone, fed_append]

/-- Behind a round without a failure the worker is the one that was handed the accepted tokens too;
if the round ends it, it has concluded. -/
theorem round_fed {w : Worker σ} {audience : σ} {batches : List (List Int)}
    (h : w = (fed d l audience batches).flag w.stopped) (alive : w.alive) {items : List ChannelItem}
    (quiet : (round d l w items).failure = none) :
    let after := (fed d l audience (logged batches (intake d.stopIds w.stopped items).1)).flag
      (round d l w items).stopped
    ((round d l w items).alive = true → round d l w items = after) ∧
      ((round d l w items).alive = false → round d l w items = conclude d l after) := by
  obtain ⟨-, hflag, halive⟩ := round_keeps alive quiet
  have hround := round_eq alive quiet
  have hprocess : (process d l w (intake d.stopIds w.stopped items).1).2.flag
        (round d l w items).stopped =
      (fed d l audience (logged batches (intake d.stopIds w.stopped items).1)).flag
        (round d l w items).stopped := by
    have hfed : ∀ ids, process d l w ids =
        process d l ((fed d l audience batches).flag w.stopped) ids :=
      fun ids => congrArg (process d l · ids) h
    rw [hfed, process_flag, flag_flag, fed_logged]
  simp only [← hflag, hprocess] at hround
  constructor
  · intro hgo
    rw [hgo, Bool.true_eq, Bool.not_eq_true'] at halive
    exact hround.trans (if_neg (by simp [halive]))
  · intro hdead
    rw [hdead, Bool.false_eq, Bool.not_eq_false'] at halive
    exact hround.trans (if_pos halive)

theorem fed_keeps (audience : σ) (batches : List (List Int)) :
    (fed d l audience batches).failure = none ∧ (fed d l audience batches).alive = true ∧
      (fed d l audience batches).generated = batches.flatten.length := by
  induction batches using List.reverseRecOn with
  | nil => exact ⟨rfl, rfl, rfl⟩
  | append_singleton batches batch ih =>
    obtain ⟨hf, ha, hg⟩ := ih
    obtain ⟨hf', ha', hg'⟩ := process_keeps (d := d) (l := l) (fed d l audience batches) batch
    rw [fed_append]
    exact ⟨hf'.trans hf, ha'.trans ha, by rw [hg', hg]; simp⟩

end Worker
end StreamingLM
