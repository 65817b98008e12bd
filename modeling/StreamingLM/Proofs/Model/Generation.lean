import StreamingLM.Model.Generation
import StreamingLM.Proofs.Model.Steady
import StreamingLM.Proofs.Session.Sound

/-!
A generation under way. As long as each row of scores gets a known token, every step leaves room for
the steps to come, and only a prompt longer than the window makes the run fail.
-/
namespace StreamingLM

theorem bestFrom_lt {α : Type} [Scalar α] {best : Nat × α} {i : Nat} (h : best.1 < i)
    (xs : List α) : (bestFrom best i xs).1 < i + xs.length := by
  induction xs generalizing best i with
  | nil => exact h
  | cons x xs ih =>
    have hnext : (if beats x best.2 then (i, x) else best).1 < i + 1 := by
      split
      · exact Nat.lt_succ_self i
      · exact Nat.lt_succ_of_lt h
    have hrest := ih hnext
    rw [List.length_cons]
    exact Nat.lt_of_lt_of_eq hrest (by omega)

theorem argmax_lt {α : Type} [Scalar α] {scores : List α} (h : scores ≠ []) :
    ∃ i, argmax scores = .ok i ∧ i < scores.length := by
  cases scores with
  | nil => exact absurd rfl h
  | cons x xs =>
    have hfirst : ((0, x) : Nat × α).1 < 1 := Nat.one_pos
    have hbest := bestFrom_lt hfirst xs
    exact ⟨_, rfl, by rw [List.length_cons]; omega⟩

theorem Generation.length_tempered {α : Type} [Scalar α] (temperature : Float) (row : List α) :
    (tempered temperature row).length = row.length := by
  unfold tempered
  split
  · simp [softmaxAt, softmax, length_softmaxPresent]
  · rfl

namespace Sampling

variable {ρ : Type}

/-- Among the scores of all tokens at a temperature, good choosers choose a known one and stay good. -/
def Keeps (α : Type) [Scalar α] [Sampling ρ α] (c : LlamaConfig) (temperature : Float)
    (good : ρ → Prop) : Prop :=
  ∀ s, good s → ∀ row : List α, row.length = c.vocabSize.toNat →
    ∃ token next, sample s (Generation.tempered temperature row) = .ok (token, next) ∧
      c.Knows token ∧ good next

/-- The chooser gives a known token, now and later. -/
def Draws (α : Type) [Scalar α] [Sampling ρ α] (c : LlamaConfig) (temperature : Float)
    (sampler : ρ) : Prop :=
  ∃ good : ρ → Prop, good sampler ∧ Keeps α c temperature good

theorem greedy_draws (α : Type) [Scalar α] {c : LlamaConfig} (h : 0 < c.vocabSize)
    (temperature : Float) : Draws α c temperature Sampler.greedy := by
  refine ⟨fun s => s = .greedy, rfl, ?_⟩
  rintro s rfl row hrow
  have hscores := (Generation.length_tempered temperature row).trans hrow
  have hsome : Generation.tempered temperature row ≠ [] := List.length_pos_iff.mp (by omega)
  obtain ⟨i, hi, hlt⟩ := argmax_lt hsome
  have hsample : sample Sampler.greedy (Generation.tempered temperature row) =
      (argmax (Generation.tempered temperature row)).map fun i => ((i : Int), _) := rfl
  exact ⟨i, .greedy, by rw [hsample, hi]; rfl, ⟨by omega, by omega⟩, rfl⟩

theorem scripted_draws (α : Type) [Scalar α] {c : LlamaConfig} {tokens : List Int}
    (h : tokens ≠ []) (known : ∀ id ∈ tokens, c.Knows id) (played : Nat) (temperature : Float) :
    Draws α c temperature (Sampler.scripted tokens played) := by
  refine ⟨fun s => ∃ played, s = .scripted tokens played, ⟨played, rfl⟩, ?_⟩
  rintro s ⟨played, rfl⟩ row -
  have hturn : played % tokens.length < tokens.length :=
    Nat.mod_lt played (List.length_pos_iff.mpr h)
  have hsample : sample (Sampler.scripted tokens played) (Generation.tempered temperature row) =
      .ok (tokens[played % tokens.length], .scripted tokens (played + 1)) := by
    simp only [sample, Sampler.sample, List.getElem?_eq_getElem hturn]
  exact ⟨_, _, hsample, known _ (List.getElem_mem hturn), played + 1, rfl⟩

end Sampling

theorem Transformer.Scored.length_last {α : Type} {count vocab : Nat} {steps : Steps α}
    (h : Scored 1 count vocab steps) (hcount : 1 ≤ count) :
    (Tensor.rowAt (steps.getLast?.getD []) 0).length = vocab := by
  have hlen := h.isStep.length_eq
  obtain ⟨front, last, rfl⟩ : ∃ front last, steps = front ++ [last] :=
    List.eq_nil_or_concat' steps |>.resolve_left (by rintro rfl; simp at hlen; omega)
  have hlast : last ∈ front ++ [last] := by simp
  obtain ⟨v, rfl⟩ := List.length_eq_one_iff.mp (h.isStep.full last hlast)
  have hv : v.length = vocab := h.scores _ hlast v (by simp)
  simpa [Tensor.rowAt] using hv

variable {σ ρ α : Type} [Scalar α]

namespace Generation

variable [Sampling ρ α]

/-- Each row of scores that a run hands to its chooser gets a known token. -/
def Chooses (t : Transformer α) (d : Detokenizer) (l : Listener σ) (temperature : Float)
    (pace : Nat → Pace) (known : Int → Prop) : Nat → Generation σ ρ α → List Int → Prop
  | 0, _, _ => True
  | n + 1, g, tokens =>
    g.session.stopped = false → ∀ steps state,
      t.step g.state 1 (tokens.map fun id => [id]) = (.ok steps, state) →
        ∃ token sampler,
          Sampling.sample g.sampler (lastScores temperature steps) = .ok (token, sampler) ∧
            known token ∧ ∀ next, step t d l temperature (pace n) g tokens = (.ok token, next) →
              Chooses t d l temperature pace known n next [token]

/-- A generation that can go on for `left` more tokens. -/
structure Sound (g : Generation σ ρ α) (c : LlamaConfig) (single : 0 < c.batch) (left : Nat) :
    Prop where
  state : g.state.Steady c single
  session : g.session.Sound c.Knows
  isOpen : g.session.Open
  room : g.session.transcript.tokens.length + left ≤ g.session.transcript.capacity

variable {c : LlamaConfig} {single : 0 < c.batch} {d : Detokenizer} {l : Listener σ}

omit [Scalar α] in
theorem choose_sound (decodes : d.Decodes c.Knows) (hears : l.Hears) (pace : Pace)
    {g : Generation σ ρ α} {left : Nat} (h : g.Sound c single (left + 1)) {scores : List α}
    {token : Int} {sampler : ρ} (sampled : Sampling.sample g.sampler scores = .ok (token, sampler))
    (known : c.Knows token) :
    ∃ after, choose d l pace g scores = (.ok token, after) ∧ after.Sound c single left ∧
      after.sampler = sampler := by
  have hroom := h.room
  obtain ⟨hbefore, hopen⟩ := Session.works_sound decodes hears pace.before h.session
  have hnew : ∀ id ∈ [token], c.Knows id := by simpa using known
  have hone : (g.session.works d l pace.before).transcript.tokens.length + [token].length ≤
      (g.session.works d l pace.before).transcript.capacity := by
    rw [Session.works_transcript, List.length_singleton]
    omega
  obtain ⟨session, hupdate, hs, hstill, htokens, hcapacity⟩ :=
    Session.update_ok hbefore (hopen h.isOpen) hnew hone
  obtain ⟨hafter, hlast⟩ := Session.works_sound decodes hears pace.after hs
  simp only [choose, sampled, hupdate]
  refine ⟨_, rfl, ⟨h.state, hafter, hlast hstill, ?_⟩, rfl⟩
  simp only [Session.works_transcript] at htokens hcapacity ⊢
  rw [htokens, hcapacity, List.length_append, List.length_singleton]
  omega

variable {t : Transformer α}

/-- A step succeeds when its row of scores gets a known token. -/
theorem step_sound (fit : t.Fits (c.solo single) c.layers.toNat)
    (speaks : t.Speaks c.vocabSize.toNat) (decodes : d.Decodes c.Knows) (hears : l.Hears)
    {temperature : Float} {pace : Nat → Pace} {n left : Nat} {g : Generation σ ρ α}
    (h : g.Sound c single (left + 1)) {ids : List Int} (nonempty : ids ≠ [])
    (short : ids.length ≤ c.window) (known : ∀ id ∈ ids, c.Knows id)
    (running : g.session.stopped = false)
    (chooses : Chooses t d l temperature pace c.Knows (n + 1) g ids) :
    ∃ token after, step t d l temperature (pace n) g ids = (.ok token, after) ∧ c.Knows token ∧
      after.Sound c single left ∧ Chooses t d l temperature pace c.Knows n after [token] := by
  obtain ⟨steps, state, hstep, hstate, -⟩ :=
    Transformer.step_steady fit speaks h.state nonempty short known
  obtain ⟨token, sampler, hsample, hknown, hlater⟩ := chooses running steps state hstep
  have hnext : Sound { g with state } c single (left + 1) := ⟨hstate, h.session, h.isOpen, h.room⟩
  obtain ⟨after, hchoose, ha, -⟩ := choose_sound decodes hears (pace n) hnext hsample hknown
  have hran : step t d l temperature (pace n) g ids = (.ok token, after) := by
    simp only [step, hstep, hchoose]
  exact ⟨token, after, hran, hknown, ha, hlater after hran⟩

omit [Scalar α] [Sampling ρ α] in
theorem Sound.mono {g : Generation σ ρ α} {left fewer : Nat} (h : g.Sound c single left)
    (less : fewer ≤ left) : g.Sound c single fewer :=
  ⟨h.state, h.session, h.isOpen, (Nat.add_le_add_left less _).trans h.room⟩

omit [Scalar α] in
theorem length_singleton_le {ids : List Int} {window : Int} (nonempty : ids ≠ [])
    (short : ids.length ≤ window) (token : Int) : (([token] : List Int).length : Int) ≤ window := by
  have hpos := List.length_pos_iff.mpr nonempty
  simp only [List.length_singleton]
  omega

/-- A run over a prompt of at most a window succeeds. -/
theorem run_sound (fit : t.Fits (c.solo single) c.layers.toNat)
    (speaks : t.Speaks c.vocabSize.toNat) (decodes : d.Decodes c.Knows) (hears : l.Hears)
    {temperature : Float} {pace : Nat → Pace} {n : Nat} {g : Generation σ ρ α}
    (h : g.Sound c single n) {ids : List Int} (nonempty : ids ≠ [])
    (short : ids.length ≤ c.window) (known : ∀ id ∈ ids, c.Knows id)
    (chooses : Chooses t d l temperature pace c.Knows n g ids) :
    ∃ after, run t d l temperature pace n g ids = (.ok (), after) ∧ after.Sound c single 0 := by
  induction n generalizing g ids with
  | zero => exact ⟨g, rfl, h⟩
  | succ n ih =>
    by_cases hstop : g.session.stopped
    · exact ⟨g, by rw [run, if_pos hstop], h.mono (Nat.zero_le _)⟩
    · obtain ⟨token, next, hstep, hknown, hn, hlater⟩ := step_sound fit speaks decodes hears h
        nonempty short known (Bool.not_eq_true _ ▸ hstop) chooses
      obtain ⟨after, hrun, ha⟩ := ih hn (List.cons_ne_nil token [])
        (length_singleton_le nonempty short token) (by simpa using hknown) hlater
      exact ⟨after, by rw [run, if_neg hstop, hstep]; exact hrun, ha⟩

/-- A chooser that gives known tokens gives them to every row of a run. -/
theorem Sound.chooses (fit : t.Fits (c.solo single) c.layers.toNat)
    (speaks : t.Speaks c.vocabSize.toNat) (decodes : d.Decodes c.Knows) (hears : l.Hears)
    {temperature : Float} {good : ρ → Prop} (keeps : Sampling.Keeps α c temperature good)
    (pace : Nat → Pace) {n : Nat} {g : Generation σ ρ α} (h : g.Sound c single n)
    (hgood : good g.sampler) {ids : List Int} (nonempty : ids ≠ []) (short : ids.length ≤ c.window)
    (known : ∀ id ∈ ids, c.Knows id) : Chooses t d l temperature pace c.Knows n g ids := by
  induction n generalizing g ids with
  | zero => trivial
  | succ n ih =>
    intro running steps state hstep
    obtain ⟨steps', state', hstep', hstate, hscored⟩ :=
      Transformer.step_steady fit speaks h.state nonempty short known
    obtain ⟨rfl, rfl⟩ : steps = steps' ∧ state = state' := by simpa using hstep.symm.trans hstep'
    have hrow := hscored.length_last (List.length_pos_iff.mpr nonempty)
    obtain ⟨token, sampler, hsample, hknown, hnext⟩ := keeps g.sampler hgood _ hrow
    change Sampling.sample g.sampler (lastScores temperature steps) = _ at hsample
    refine ⟨token, sampler, hsample, hknown, fun next hran => ?_⟩
    have hready : Sound { g with state } c single (n + 1) := ⟨hstate, h.session, h.isOpen, h.room⟩
    obtain ⟨after, hchoose, ha, hsampler⟩ :=
      choose_sound decodes hears (pace n) hready hsample hknown
    obtain rfl : after = next := by
      simpa [step, hstep, hchoose] using hran
    exact ih ha (hsampler ▸ hnext) (List.cons_ne_nil token [])
      (length_singleton_le nonempty short token) (by simpa using hknown)

theorem chooses_tooLong {g : Generation σ ρ α} {ids : List Int}
    (long : g.state.caches.window < ids.length) (temperature : Float) (pace : Nat → Pace)
    (known : Int → Prop) (n : Nat) : Chooses t d l temperature pace known n g ids := by
  have hcolumn : g.state.caches.window < ((ids.map fun id => [id]).length : Nat) := by
    rwa [List.length_map]
  cases n with
  | zero => trivial
  | succ n =>
    intro _ steps state hstep
    rw [Transformer.step_tooLong hcolumn] at hstep
    cases hstep

/-- A run over a longer prompt ends at its first step, with nothing changed. -/
theorem run_tooLong {g : Generation σ ρ α} (running : g.session.stopped = false)
    (temperature : Float) (pace : Nat → Pace) {n : Nat} (hn : 0 < n) {ids : List Int}
    (long : g.state.caches.window < ids.length) :
    run t d l temperature pace n g ids =
      (.error (.stepTooLong ids.length g.state.caches.window), g) := by
  obtain ⟨n, rfl⟩ := Nat.exists_eq_add_of_lt hn
  have hcolumn : g.state.caches.window < ((ids.map fun id => [id]).length : Nat) := by
    rwa [List.length_map]
  have hstep := Transformer.step_tooLong (t := t) hcolumn 1
  rw [List.length_map] at hstep
  rw [Nat.zero_add, run, running, if_neg Bool.false_ne_true, step, hstep]

omit [Scalar α] [Sampling ρ α] in
theorem Sound.record {g : Generation σ ρ α} {prompt : List Int} {left : Nat}
    (h : g.Sound c single (prompt.length + left)) :
    ∃ session, g.session.prompt prompt = .ok session ∧ Sound { g with session } c single left := by
  have hroom := h.room
  have hfits : g.session.transcript.tokens.length + prompt.length ≤
      g.session.transcript.capacity := by omega
  obtain ⟨transcript, hprompt, htokens, hcapacity⟩ := Session.prompt_ok hfits
  have hleft : transcript.tokens.length + left ≤ transcript.capacity := by
    rw [htokens, hcapacity, List.length_append]
    omega
  exact ⟨{ g.session with transcript }, hprompt, h.state,
    ⟨h.session.worker, h.session.channel⟩,
    ⟨h.isOpen.closed_eq, h.isOpen.alive_eq, h.isOpen.unmarked⟩, hleft⟩

theorem complete_eq (decodes : d.Decodes c.Knows) (hears : l.Hears) (temperature : Float)
    (pace : Nat → Pace) (n : Nat) {g after : Generation σ ρ α} {prompt : List Int}
    {session : Session σ} {result : Except Failure Unit} (recorded : g.session.prompt prompt = .ok session)
    (ran : run t d l temperature pace n { g with session } prompt = (result, after))
    (h : after.session.Sound c.Knows) :
    complete t d l temperature pace n g prompt =
      (result, { after with session := (after.session.close d l).2 }) := by
  have hclose := Session.close_ok decodes hears h
  simp only [complete, recorded, ran, hclose]

theorem complete_sound (fit : t.Fits (c.solo single) c.layers.toNat)
    (speaks : t.Speaks c.vocabSize.toNat) (decodes : d.Decodes c.Knows) (hears : l.Hears)
    {temperature : Float} {pace : Nat → Pace} {n : Nat} {g : Generation σ ρ α} {prompt : List Int}
    (h : g.Sound c single (prompt.length + n)) (nonempty : prompt ≠ [])
    (short : prompt.length ≤ c.window) (known : ∀ id ∈ prompt, c.Knows id)
    (chooses : ∀ session, g.session.prompt prompt = .ok session →
      Chooses t d l temperature pace c.Knows n { g with session } prompt) :
    ∃ after, complete t d l temperature pace n g prompt = (.ok (), after) ∧
      after.state.Steady c single := by
  obtain ⟨session, hprompt, hs⟩ := h.record
  obtain ⟨after, hrun, ha⟩ := run_sound fit speaks decodes hears hs nonempty short known
    (chooses session hprompt)
  exact ⟨_, complete_eq decodes hears temperature pace n hprompt hrun ha.session, ha.state⟩

/-- In a new session a prompt longer than the window changes nothing: the listener hears of the end,
and whatever it does then, the length is what comes up. -/
theorem complete_tooLong (temperature : Float) (pace : Nat → Pace) {n : Nat} (hn : 0 < n)
    {g : Generation σ ρ α} {length : Int} {audience : σ}
    (started : Session.start length audience = .ok g.session) {prompt : List Int}
    (room : prompt.length ≤ length) (long : g.state.caches.window < prompt.length) :
    ∃ session, complete t d l temperature pace n g prompt =
        (.error (.stepTooLong prompt.length g.state.caches.window), { g with session }) ∧
      session.worker.audience = (l.onComplete audience).2 := by
  obtain ⟨state, session, sampler, draws⟩ := g
  obtain rfl := Session.of_start started
  have hroom : (Transcript.empty length.toNat).tokens.length + prompt.length ≤ length.toNat := by
    rw [Transcript.tokens_empty, List.length_nil]
    omega
  obtain ⟨transcript, hprompt, -, -⟩ := Session.prompt_ok
    (s := { transcript := .empty length.toNat, worker := { audience } }) hroom
  obtain ⟨after, hclose, hafter⟩ := Session.close_new d l transcript audience
  have hrun := run_tooLong (t := t) (d := d) (l := l)
    (g := ⟨state, { transcript, worker := { audience } }, sampler, draws⟩) rfl temperature pace hn
    long
  exact ⟨after, by simp only [complete, hprompt, hrun, hclose], hafter⟩

end Generation
end StreamingLM
