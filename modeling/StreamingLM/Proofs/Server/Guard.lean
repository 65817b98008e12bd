import Mathlib.Data.List.ReduceOption
import StreamingLM.Proofs.Server.Interleaving

/-!
What the lock of an actor sees to. The mark is put once, and nothing comes behind it; from the lock of
the ending call on nothing is accepted.
-/
namespace StreamingLM

variable {σ ρ : Type}

@[simp] def Duty.items : Duty σ ρ → List (Option (Request σ ρ))
  | waiting => []
  | holding item => [item]
  | running r | replying r _ => [some r]
  | draining | ended => [none]

theorem map_some_reduceOption {α : Type} {l : List (Option α)} (h : none ∉ l) :
    l.reduceOption.map some = l := by
  induction l with
  | nil => rfl
  | cons x l ih =>
    cases x with
    | none => simp at h
    | some r => simpa using ih (by simpa using h)

def Actor.flow (a : Actor σ ρ) : List (Option (Request σ ρ)) := a.duty.items ++ a.queue

theorem Actor.Turn.flow {a a' : Actor σ ρ} {e : Event σ ρ} (h : a.Turn e a') :
    a'.flow = a.flow ∨ (∃ r, a.flow = some r :: a'.flow) ∨ a.duty = .draining ∧ a.queue ≠ [] := by
  cases h with
  | fetch duty queue => simp [Actor.flow, duty, queue]
  | halt duty => simp [Actor.flow, duty]
  | begin duty reply => simp [Actor.flow, duty]
  | skip duty reply => simp [Actor.flow, duty]
  | execute duty => simp [Actor.flow, duty, Actor.execute]
  | answer duty => simp [Actor.flow, duty, Actor.answer]
  | discard duty queue => simp [duty, queue]
  | finish duty queue => simp [Actor.flow, duty]

namespace Reception

/-- What the lock sees to: there is one mark at most, and nothing behind it. -/
structure Guarded (f : Reception σ ρ) : Prop where
  closed_eq : f.actor.closed = f.exit.shut
  inside_iff : f.lock = some .unloading ↔ f.exit.inside = true
  admitted : ∀ action, f.lock = some (.admitted action) → f.exit.shut = false
  unmarked : f.exit.sealed = false → none ∉ f.actor.flow
  marked : f.exit.sealed = true → ∃ rs : List (Request σ ρ), f.actor.flow = rs.map some ++ [none]
  returned : f.exit = .returned → f.actor.duty = .ended

namespace Guarded

theorem init (server : σ) : (⟨{ server }, none, .before⟩ : Reception σ ρ).Guarded :=
  ⟨rfl, by simp [Exit.inside], by simp, by simp [Actor.flow], by simp [Exit.sealed],
    by simp⟩

theorem queue_nil {f : Reception σ ρ} (h : f.Guarded) (duty : f.actor.duty.items = [none]) :
    f.actor.queue = [] := by
  have hflow : f.actor.flow = none :: f.actor.queue := by rw [Actor.flow, duty]; rfl
  cases hsealed : f.exit.sealed with
  | false => exact absurd (by simp [hflow]) (h.unmarked hsealed)
  | true =>
    obtain ⟨rs, hrs⟩ := h.marked hsealed
    cases rs with
    | nil => simpa [hflow] using hrs
    | cons r rs => simp [hflow] at hrs

theorem turn {f : Reception σ ρ} (h : f.Guarded) {e : Event σ ρ} {actor : Actor σ ρ}
    (turn : f.actor.Turn e actor) : ({ f with actor } : Reception σ ρ).Guarded := by
  have hflow : actor.flow = f.actor.flow ∨ ∃ r, f.actor.flow = some r :: actor.flow := by
    obtain hsame | hdone | ⟨hdraining, hleft⟩ := turn.flow
    · exact .inl hsame
    · exact .inr hdone
    · exact absurd (h.queue_nil (by rw [hdraining]; rfl)) hleft
  refine ⟨turn.closed.trans h.closed_eq, h.inside_iff, h.admitted, fun hsealed hnone => ?_,
    fun hsealed => ?_, fun hreturned => ?_⟩
  · refine h.unmarked hsealed ?_
    obtain hsame | ⟨r, hr⟩ := hflow
    · exact hsame ▸ hnone
    · exact hr ▸ List.mem_cons_of_mem _ hnone
  · obtain ⟨rs, hrs⟩ := h.marked hsealed
    obtain hsame | ⟨r, hr⟩ := hflow
    · exact ⟨rs, hsame.trans hrs⟩
    · cases rs with
      | nil => simp [hr] at hrs
      | cons s rs => exact ⟨rs, (List.cons.inj (hr.symm.trans hrs)).2⟩
  · exact absurd (h.returned hreturned) turn.not_ended

theorem step {unload : σ → σ} {f f' : Reception σ ρ} (h : f.Guarded) {e : Event σ ρ}
    (step : Step unload f e f') : f'.Guarded := by
  have hheld : ∀ {holder : Holder σ ρ}, f.lock = some holder → holder ≠ .unloading →
      f.exit.inside = false := fun hholder hcaller => by
    refine eq_false_of_ne_true fun hinside => hcaller ?_
    exact Option.some.inj (hholder.symm.trans (h.inside_iff.mpr hinside))
  cases step with
  | enter action free =>
    have hinside : ¬ f.exit.inside = true := by simp [← h.inside_iff, free]
    exact ⟨h.closed_eq, by simpa using hinside, by simp, h.unmarked, h.marked, h.returned⟩
  | @pass action holder unbarred =>
    exact ⟨h.closed_eq, by simp [hheld holder], fun _ _ => h.closed_eq.symm.trans unbarred,
      h.unmarked, h.marked, h.returned⟩
  | @refuse action holder barred =>
    exact ⟨h.closed_eq, by simp [hheld holder], by simp, h.unmarked, h.marked, h.returned⟩
  | @accept action holder =>
    have hshut := h.admitted action holder
    have hsealed : f.exit.sealed = false := Exit.sealed_of_shut hshut
    refine ⟨h.closed_eq, by simp [hheld holder], by simp, fun _ => ?_, by simp [hsealed], h.returned⟩
    have hflow := h.unmarked hsealed
    simpa [Actor.flow, Actor.accept] using hflow
  | @leave result holder =>
    exact ⟨h.closed_eq, by simp [hheld holder], by simp, h.unmarked, h.marked, h.returned⟩
  | cancel ticket reply =>
    rw [Actor.cancel_pending reply]
    exact ⟨h.closed_eq, h.inside_iff, h.admitted, h.unmarked, h.marked, h.returned⟩
  | turn turn => exact h.turn turn
  | lock free exit =>
    have hunmarked := h.unmarked (by rw [exit]; rfl)
    exact ⟨by rw [h.closed_eq, exit]; rfl, by simp [Exit.inside], by simp, fun _ => hunmarked,
      by simp [Exit.sealed], by simp⟩
  | bar exit unbarred =>
    have hunmarked := h.unmarked (by rw [exit]; rfl)
    have hlock := h.inside_iff.mpr (by rw [exit]; rfl)
    exact ⟨rfl, by simpa [Exit.inside] using hlock, by simp [hlock], fun _ => hunmarked,
      by simp [Exit.sealed], by simp⟩
  | mark exit =>
    have hunmarked := h.unmarked (by rw [exit]; rfl)
    have hlock := h.inside_iff.mpr (by rw [exit]; rfl)
    refine ⟨by simp [Actor.mark, h.closed_eq, exit, Exit.shut], by simpa [Exit.inside] using hlock,
      by simp [hlock], by simp [Exit.sealed], fun _ => ⟨f.actor.flow.reduceOption, ?_⟩, by simp⟩
    rw [map_some_reduceOption hunmarked, Actor.flow, Actor.flow, List.append_assoc]
    rfl
  | unlock exit =>
    have hmarked := h.marked (by rw [exit]; rfl)
    exact ⟨by rw [h.closed_eq, exit]; rfl, by simp [Exit.inside], by simp, by simp [Exit.sealed],
      fun _ => hmarked, by simp⟩
  | release exit duty =>
    have hmarked := h.marked (by rw [exit]; rfl)
    have hinside := h.inside_iff
    have hadmitted := h.admitted
    rw [exit] at hinside hadmitted
    exact ⟨by simp [Actor.release, h.closed_eq, exit, Exit.shut], hinside, hadmitted,
      by simp [Exit.sealed], fun _ => hmarked, fun _ => duty⟩

theorem run {unload : σ → σ} {es : List (Event σ ρ)} {f f' : Reception σ ρ} (h : f.Guarded)
    (run : Run unload es f f') : f'.Guarded := by
  induction run with
  | nil => exact h
  | step run next ih => exact (ih h).step next

theorem behind {f : Reception σ ρ} (h : f.Guarded) {before after : List (Option (Request σ ρ))}
    (flow : f.actor.flow = before ++ none :: after) : after = [] := by
  cases hsealed : f.exit.sealed with
  | false => exact absurd (by simp [flow]) (h.unmarked hsealed)
  | true =>
    obtain ⟨rs, hrs⟩ := h.marked hsealed
    rw [flow] at hrs
    obtain rfl | ⟨init, x, rfl⟩ := after.eq_nil_or_concat
    · rfl
    · rw [List.concat_eq_append, ← List.cons_append, ← List.append_assoc] at hrs
      obtain ⟨hinit, -⟩ := List.append_inj' hrs rfl
      have hmem : none ∈ rs.map some := by rw [← hinit]; simp
      simp at hmem

theorem released {unload : σ → σ} {es : List (Event σ ρ)} {f f' : Reception σ ρ} (h : f.Guarded)
    (returned : f.exit = .returned) (run : Run unload es f f') :
    f'.exit = .returned ∧ ∀ e ∈ es, e.byThread = false := by
  induction run with
  | nil => exact ⟨returned, by simp⟩
  | @step es e f g f' run next ih =>
    obtain ⟨hexit, hbefore⟩ := ih h returned
    have hended := (h.run run).returned hexit
    refine ⟨?_, fun e' he' => ?_⟩
    · cases next <;> simp_all
    · obtain hold | hnew := List.mem_append.mp he'
      · exact hbefore e' hold
      · obtain rfl := List.mem_singleton.mp hnew
        cases next with
        | turn turn => exact absurd hended turn.not_ended
        | _ => rfl

/-- Before the ending call has the lock, it is free for it, or the submission that has it goes on. -/
theorem admits {unload : σ → σ} {f : Reception σ ρ} (h : f.Guarded) (before : f.exit = .before) :
    ∃ e f', Step unload f e f' ∧ (e = .lock ∨ e.bySubmission = true) := by
  cases hlock : f.lock with
  | none => exact ⟨_, _, .lock hlock before, .inl rfl⟩
  | some holder =>
    cases holder with
    | entering action =>
      have hopen : f.actor.closed = false := by rw [h.closed_eq, before]; rfl
      exact ⟨_, _, .pass hlock hopen, .inr rfl⟩
    | admitted action => exact ⟨_, _, .accept hlock, .inr rfl⟩
    | leaving result => exact ⟨_, _, .leave hlock, .inr rfl⟩
    | unloading =>
      have hinside := h.inside_iff.mp hlock
      rw [before] at hinside
      cases hinside

end Guarded

variable {unload : σ → σ} {es : List (Event σ ρ)} {f f' : Reception σ ρ} {e : Event σ ρ}

/-- The ending call has had the lock, and no submission that holds it was let in. -/
structure Refusing (f : Reception σ ρ) : Prop where
  begun : f.exit ≠ .before
  admitted : ∀ action, f.lock ≠ some (.admitted action)
  leaving : ∀ result, f.lock = some (.leaving result) → result = .error .actorClosed

/-- Once the ending call has had the lock nothing is accepted, and every submission is told so. -/
theorem Refusing.step (h : f.Refusing) (guarded : f.Guarded) (next : Step unload f e f') :
    f'.Refusing ∧ e.accepted? = none ∧ ∀ result ∈ e.told?, result = .error .actorClosed := by
  obtain ⟨hbegun, hadmitted, hleaving⟩ := h
  cases next with
  | enter action free => exact ⟨⟨hbegun, by simp, by simp⟩, rfl, by simp⟩
  | @pass action holder unbarred =>
    have hinside : f.exit.inside = false := by
      refine eq_false_of_ne_true fun hinside => ?_
      rw [guarded.inside_iff.mpr hinside] at holder
      cases holder
    have hshut := guarded.closed_eq.symm.trans unbarred
    cases hexit : f.exit <;> simp_all [Exit.inside, Exit.shut]
  | refuse holder barred => exact ⟨⟨hbegun, by simp, by simp [eq_comm]⟩, rfl, by simp⟩
  | @accept action holder => exact absurd holder (hadmitted action)
  | @leave result holder =>
    exact ⟨⟨hbegun, by simp, by simp⟩, rfl, by simpa using hleaving result holder⟩
  | cancel ticket reply => exact ⟨⟨hbegun, hadmitted, hleaving⟩, rfl, by simp⟩
  | turn turn =>
    refine ⟨⟨hbegun, hadmitted, hleaving⟩, ?_, ?_⟩
    · cases turn <;> rfl
    · cases turn <;> simp
  | lock free exit => exact ⟨⟨by simp, by simp, by simp⟩, rfl, by simp⟩
  | bar exit unbarred => exact ⟨⟨by simp, hadmitted, hleaving⟩, rfl, by simp⟩
  | mark exit => exact ⟨⟨by simp, hadmitted, hleaving⟩, rfl, by simp⟩
  | unlock exit => exact ⟨⟨by simp, by simp, by simp⟩, rfl, by simp⟩
  | release exit duty => exact ⟨⟨by simp, hadmitted, hleaving⟩, rfl, by simp⟩

theorem Refusing.run (h : f.Refusing) (guarded : f.Guarded) (run : Run unload es f f') :
    f'.Refusing ∧ accepted es = [] ∧ ∀ result ∈ told es, result = .error .actorClosed := by
  induction run with
  | nil => exact ⟨h, rfl, by simp [told]⟩
  | step run next ih =>
    obtain ⟨hrefusing, haccepted, htold⟩ := ih h guarded
    obtain ⟨hnext, hnone, hlast⟩ := hrefusing.step (guarded.run run) next
    refine ⟨hnext, by rw [accepted_concat, haccepted, hnone]; rfl, fun result hresult => ?_⟩
    rw [told_concat, List.mem_append, Option.mem_toList] at hresult
    exact hresult.elim (htold result) (hlast result)

end Reception
end StreamingLM
