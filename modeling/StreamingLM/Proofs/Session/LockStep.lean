import StreamingLM.Proofs.Session.Round
import StreamingLM.Proofs.Session.Sound

/-!
A session whose worker takes each token at once. Nothing waits in its channel, and its stop flag and
its count are those of the tokens sampled so far.
-/
namespace StreamingLM

variable {σ : Type} {allowed : Int → Prop} {d : Detokenizer} {l : Listener σ}

namespace Worker

theorem round_counts {w : Worker σ} (alive : w.alive) (running : w.stopped = false) {ids : List Int}
    (quiet : (round d l w [.batch ids]).failure = none) :
    (round d l w [.batch ids]).stopped = ids.any d.stops ∧
      (round d l w [.batch ids]).generated = w.generated + (d.beforeStop ids).length := by
  have hmarks : ChannelItem.finish ∉ [.batch ids] := by simp
  obtain ⟨htokens, hstopped⟩ := intake_running d hmarks [] (.inl rfl)
  have hended := intake_open d.stopIds hmarks false
  simp only [List.append_nil, List.flatMap_singleton, ChannelItem.tokens] at htokens hstopped
  have hround := round_eq alive quiet
  obtain ⟨-, -, hgenerated⟩ := process_keeps (d := d) (l := l) w (d.beforeStop ids)
  simp only [running, htokens, hstopped, hended] at hround
  rw [hround]
  exact ⟨rfl, hgenerated⟩

theorem round_finish {w : Worker σ} (alive : w.alive)
    (quiet : (round d l w [.finish]).failure = none) :
    (round d l w [.finish]).generated = w.generated := by
  have hround := round_eq alive quiet
  have hintake : intake d.stopIds w.stopped [.finish] = ([], w.stopped, true) := by
    cases w.stopped <;> rfl
  simp only [hintake] at hround
  rw [hround] at quiet ⊢
  obtain ⟨-, -, hgenerated, -⟩ := conclude_keeps quiet
  exact hgenerated

end Worker

namespace Session

/-- The worker has taken everything, and has stopped and counted as the tokens sampled so far say. -/
structure Followed (d : Detokenizer) (s : Session σ) (sampled : List Int) : Prop where
  channel_eq : s.channel = []
  stopped_eq : s.stopped = sampled.any d.stops
  generated_eq : s.generated = (d.beforeStop sampled).length

theorem of_prompt {s after : Session σ} {tokens : List Int} (ok : s.prompt tokens = .ok after) :
    ∃ transcript, after = { s with transcript } ∧
      transcript.tokens = s.transcript.tokens ++ tokens := by
  obtain ⟨transcript, happend, hafter⟩ := Outcome.bind_eq_ok.mp ok
  cases hafter
  exact ⟨transcript, rfl, (Transcript.tokens_append happend).1⟩

theorem Followed.prompt {s after : Session σ} {sampled tokens : List Int}
    (h : s.Followed d sampled) (ok : s.prompt tokens = .ok after) : after.Followed d sampled := by
  obtain ⟨transcript, rfl, -⟩ := of_prompt ok
  exact ⟨h.channel_eq, h.stopped_eq, h.generated_eq⟩

theorem start_followed {length : Int} {audience : σ} {s : Session σ}
    (ok : start length audience = .ok s) : s.Followed d [] ∧ s.transcript.tokens = [] := by
  obtain ⟨transcript, hallocate, hs⟩ := Outcome.bind_eq_ok.mp ok
  cases hs
  refine ⟨⟨rfl, rfl, rfl⟩, ?_⟩
  unfold Transcript.allocate at hallocate
  split at hallocate
  · cases hallocate
  · cases hallocate
    rfl

/-- As long as it has not stopped, an open session records tokens for which there is room and sends
them on. -/
theorem update_running {s : Session σ} (hopen : s.Open) (running : s.stopped = false)
    {tokens : List Int} {after : Session σ} (ok : s.update tokens = (.ok (), after)) :
    after.transcript.tokens = s.transcript.tokens ++ tokens ∧ after.worker = s.worker ∧
      after.channel = s.channel ++ [.batch tokens] := by
  unfold update at ok
  cases hprompt : s.prompt tokens with
  | error f =>
    rw [hprompt] at ok
    cases ok
  | ok recorded =>
    obtain ⟨transcript, rfl, htokens⟩ := of_prompt hprompt
    have hrunning : stopped { s with transcript } = false := running
    simp only [hprompt, hrunning, send, hopen.alive_eq, if_true, Bool.false_eq_true, if_false] at ok
    cases ok
    exact ⟨htokens, rfl, rfl⟩

/-- A token that is recorded and taken at once: the worker stops if it is a stop token, and counts it
if it is none. -/
theorem Followed.token (decodes : d.Decodes allowed) (hears : l.Hears) {s : Session σ}
    {sampled : List Int} (h : s.Followed d sampled) (sound : s.Sound allowed) (hopen : s.Open)
    (running : sampled.any d.stops = false) {token : Int} (known : allowed token)
    {after : Session σ} (ok : s.update [token] = (.ok (), after)) :
    (after.works d l [1]).Followed d (sampled ++ [token]) ∧
      (after.works d l [1]).transcript.tokens = s.transcript.tokens ++ [token] := by
  obtain ⟨htokens, hworker, hchannel⟩ := update_running hopen (h.stopped_eq.trans running) ok
  rw [h.channel_eq, List.nil_append] at hchannel
  have halive : after.worker.alive = true := by rw [hworker, hopen.alive_eq]
  have hrunning : after.worker.stopped = false := by rw [hworker]; exact h.stopped_eq.trans running
  have hbrings : ∀ item ∈ [.batch [token]], ChannelItem.Brings allowed item := by
    simpa [ChannelItem.Brings] using known
  obtain ⟨hround, -⟩ :=
    Worker.round_sound decodes hears (w := after.worker) (hworker ▸ sound.worker) hbrings
  obtain ⟨hstopped, hgenerated⟩ := Worker.round_counts halive hrunning hround.failure_eq
  have hwork : after.works d l [1] =
      { after with worker := after.worker.round d l [.batch [token]], channel := [] } := by
    simp only [works, List.foldl_cons, List.foldl_nil, work, halive, if_true, hchannel]
    rfl
  rw [hwork]
  refine ⟨⟨rfl, ?_, ?_⟩, htokens⟩
  · rw [stopped, hstopped, List.any_append, running, Bool.false_or]
  · have hcount : after.worker.generated = sampled.length := by
      rw [hworker, ← d.beforeStop_eq_self running]
      exact h.generated_eq
    rw [generated, hgenerated, hcount, d.beforeStop_append, running, if_neg Bool.false_ne_true,
      List.length_append]

theorem Followed.close (decodes : d.Decodes allowed) (hears : l.Hears) {s : Session σ}
    {sampled : List Int} (h : s.Followed d sampled) (sound : s.Sound allowed) (hopen : s.Open) :
    (s.close d l).2.transcript = s.transcript ∧ (s.close d l).2.generated = s.generated := by
  have hbrings : ∀ item ∈ [.finish], ChannelItem.Brings allowed item := by simp [ChannelItem.Brings]
  obtain ⟨hround, -⟩ := Worker.round_sound decodes hears sound.worker hbrings
  have hclose : (s.close d l).2 =
      { s with worker := s.worker.round d l [.finish], channel := [], closed := true } := by
    simp [Session.close, shut, drain, work, hopen.closed_eq, hopen.alive_eq, h.channel_eq]
  rw [hclose]
  exact ⟨rfl, Worker.round_finish hopen.alive_eq hround.failure_eq⟩

end Session
end StreamingLM
