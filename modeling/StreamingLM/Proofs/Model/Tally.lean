import StreamingLM.Proofs.Model.Engine
import StreamingLM.Proofs.Model.FailedStep
import StreamingLM.Proofs.Session.LockStep

/-!
What a generation adds up to when its worker takes each token at once: the choices, the transcript,
the count, the passes through the stack, and how far the position and the cursor move. All of them are
told by the sampled tokens.
-/
namespace StreamingLM

open Outcome

variable {σ ρ α : Type} [Scalar α]

namespace Detokenizer

/-- Tokens up to and with the first stop token, which comes among the first `n`, or `n` tokens of
which none is a stop token. -/
structure UpToStop (d : Detokenizer) (n : Nat) (ids : List Int) : Prop where
  length_eq : ids.length = (ids.findIdx? d.stops).elim n (· + 1)
  length_le : ids.length ≤ n

variable {d : Detokenizer} {n : Nat} {id : Int} {ids : List Int}

theorem upToStop_nil (d : Detokenizer) : d.UpToStop 0 [] := ⟨rfl, Nat.le_refl 0⟩

theorem UpToStop.stop (h : d.stops id) : d.UpToStop (n + 1) [id] :=
  ⟨by simp [List.findIdx?_cons, h], by simp⟩

theorem UpToStop.cons (h : d.UpToStop n ids) (runs : ¬d.stops id) : d.UpToStop (n + 1) (id :: ids) where
  length_eq := by
    rw [List.findIdx?_cons, if_neg runs, List.length_cons, h.length_eq]
    cases ids.findIdx? d.stops <;> rfl
  length_le := Nat.succ_le_succ h.length_le

theorem UpToStop.ne_nil (h : d.UpToStop n ids) (hn : 0 < n) : ids ≠ [] := by
  rintro rfl
  have hlength : 0 = n := h.length_eq
  omega

end Detokenizer

namespace DecodeState

/-- The position has moved by so many tokens, and the cursor by as many up to the window. -/
structure Advanced (s : DecodeState α) (window : Int) (count : Nat) (after : DecodeState α) : Prop where
  next_eq : after.tracker.next = s.tracker.next + count
  len_eq : after.caches.len = min (s.caches.len + count) window

omit [Scalar α] in
theorem Advanced.trans {s t u : DecodeState α} {window : Int} {m n : Nat}
    (h : s.Advanced window m t) (h' : t.Advanced window n u) : s.Advanced window (m + n) u where
  next_eq := by rw [h'.next_eq, h.next_eq]; omega
  len_eq := by rw [h'.len_eq, h.len_eq]; omega

omit [Scalar α] in
theorem Steady.advanced_zero {s : DecodeState α} {c : LlamaConfig} {single : 0 < c.batch}
    (h : s.Steady c single) (hw : 0 < c.window) : s.Advanced c.window 0 s := by
  obtain ⟨position, held, logs, -, hs⟩ := h
  have hlen := hs.caches.len_eq
  have hroom : held + 0 ≤ c.window.toNat := hs.caches.room
  exact ⟨by omega, by omega⟩

theorem Steady.advanced {s after : DecodeState α} {c : LlamaConfig} {single : 0 < c.batch}
    (h : s.Steady c single) (hw : 0 < c.window) {t : Transformer α} {batch : Nat}
    {tokens : List (List Int)} {scores : Steps α}
    (ok : t.step s batch tokens = (.ok scores, after)) :
    s.Advanced c.window tokens.length after := by
  obtain ⟨position, held, logs, -, hs⟩ := h
  obtain ⟨hnext, hlen⟩ := t.step_advances batch tokens hs.sized (c.capacity_layout_le _) ok
  have hwindow : s.caches.window = c.window.toNat := hs.caches.window_eq
  exact ⟨hnext, by omega⟩

end DecodeState

namespace Generation

variable [Sampling ρ α] {c : LlamaConfig} {single : 0 < c.batch}
  {t : Transformer α} {d : Detokenizer} {l : Listener σ}

/-- What a run whose first step is over `tokens` has added when it sampled `new`. -/
structure Added (window : Int) (tokens new : List Int) (passes : List (Pass α))
    (g after : Generation σ ρ α) : Prop where
  draws : after.draws.map Draw.token = g.draws.map Draw.token ++ new
  transcript : after.session.transcript.tokens = g.session.transcript.tokens ++ new
  passed : passes.map Pass.tokens = (tokens :: new.map fun id => [id]).dropLast
  state : g.state.Advanced window (passes.flatMap Pass.tokens).length after.state

omit [Scalar α] [Sampling ρ α] in
theorem Added.none {g : Generation σ ρ α} (h : g.state.Steady c single) (hw : 0 < c.window)
    (tokens : List Int) : Added c.window tokens [] [] g g :=
  ⟨by simp, by simp, rfl, h.advanced_zero hw⟩

omit [Scalar α] [Sampling ρ α] in
theorem Added.cons {window : Int} {g next after : Generation σ ρ α} {tokens new : List Int}
    {token : Int} {passes : List (Pass α)} {pass : Pass α} (htokens : pass.tokens = tokens)
    (draws : next.draws.map Draw.token = g.draws.map Draw.token ++ [token])
    (transcript : next.session.transcript.tokens = g.session.transcript.tokens ++ [token])
    (state : g.state.Advanced window tokens.length next.state)
    (rest : Added window [token] new passes next after) :
    Added window tokens (token :: new) (pass :: passes) g after where
  draws := by rw [rest.draws, draws, List.append_assoc, List.singleton_append]
  transcript := by rw [rest.transcript, transcript, List.append_assoc, List.singleton_append]
  passed := by rw [List.map_cons, rest.passed, htokens, List.map_cons, List.dropLast_cons_cons]
  state := by
    rw [List.flatMap_cons, List.length_append, htokens]
    exact state.trans rest.state

theorem length_fed (prompt : List Int) {new : List Int} (h : new ≠ []) :
    (prompt :: new.dropLast.map fun id => [id]).flatten.length = prompt.length + new.length - 1 := by
  have hpos := List.length_pos_iff.mpr h
  rw [List.flatten_cons, ← List.flatMap_def, List.flatMap_singleton', List.length_append,
    List.length_dropLast]
  omega

section Run

variable (fit : t.Fits (c.solo single) c.layers.toNat) (speaks : t.Speaks c.vocabSize.toNat)
  (decodes : d.Decodes c.Knows) (hears : l.Hears) {temperature : Float}

include fit speaks decodes hears

theorem step_adds {g : Generation σ ρ α} {left : Nat} (h : g.Sound c single (left + 1))
    {sampled : List Int} (followed : g.session.Followed d sampled)
    (running : sampled.any d.stops = false) {ids : List Int} (nonempty : ids ≠ [])
    (short : ids.length ≤ c.window) (known : ∀ id ∈ ids, c.Knows id) {n : Nat}
    (chooses : Chooses t d l temperature (fun _ => .lockStep) c.Knows (n + 1) g ids) :
    ∃ token after, step t d l temperature .lockStep g ids = (.ok token, after) ∧ c.Knows token ∧
      Chooses t d l temperature (fun _ => .lockStep) c.Knows n after [token] ∧
      after.Sound c single left ∧ after.session.Followed d (sampled ++ [token]) ∧
      after.draws.map Draw.token = g.draws.map Draw.token ++ [token] ∧
      after.session.transcript.tokens = g.session.transcript.tokens ++ [token] ∧
      g.state.Advanced c.window ids.length after.state := by
  have hgo : g.session.stopped = false := followed.stopped_eq.trans running
  obtain ⟨token, after, hstep, hknown, ha, hlater⟩ :=
    step_sound fit speaks decodes hears h nonempty short known hgo chooses
  obtain ⟨steps, session, hmoved, hupdate, hsession, hdraws⟩ := step_eq_ok hstep
  obtain ⟨hfollowed, htranscript⟩ :=
    followed.token decodes hears h.session h.isOpen running hknown hupdate
  have hw : 0 < c.window := by
    have hpos := List.length_pos_iff.mpr nonempty
    omega
  have hadvanced := h.state.advanced hw hmoved
  rw [List.length_map] at hadvanced
  have hlast : after.session = session.works d l [1] := hsession
  rw [← hlast] at hfollowed htranscript
  exact ⟨token, after, hstep, hknown, hlater, ha, hfollowed, by simp [hdraws], htranscript,
    hadvanced⟩

/-- A run in lock step samples up to the first stop token, or as many tokens as it may. -/
theorem run_adds (n : Nat) {g : Generation σ ρ α} (h : g.Sound c single n)
    {sampled : List Int} (followed : g.session.Followed d sampled)
    (running : sampled.any d.stops = false) {ids : List Int} (nonempty : ids ≠ [])
    (short : ids.length ≤ c.window) (known : ∀ id ∈ ids, c.Knows id)
    (chooses : Chooses t d l temperature (fun _ => .lockStep) c.Knows n g ids) :
    ∃ after new, run t d l temperature (fun _ => .lockStep) n g ids = (.ok (), after) ∧
      after.Sound c single 0 ∧ after.session.Followed d (sampled ++ new) ∧ d.UpToStop n new ∧
      Added c.window ids new (passes t d l temperature (fun _ => .lockStep) n g ids) g after := by
  have hpos := List.length_pos_iff.mpr nonempty
  induction n generalizing g sampled ids with
  | zero =>
    exact ⟨g, [], rfl, h, by simpa using followed, d.upToStop_nil, .none h.state (by omega) ids⟩
  | succ n ih =>
    obtain ⟨token, next, hstep, hknown, hlater, hn, hfollowed, hdraws, htranscript, hstate⟩ :=
      step_adds fit speaks decodes hears h followed running nonempty short known chooses
    have hgo : g.session.stopped = false := followed.stopped_eq.trans running
    simp only [run, passes, hgo, Bool.false_eq_true, if_false, hstep]
    by_cases hstop : d.stops token
    · have hstopped : next.session.stopped = true := by
        rw [hfollowed.stopped_eq, List.any_append, List.any_cons, hstop]
        simp
      have hrest : run t d l temperature (fun _ => .lockStep) n next [token] = (.ok (), next) ∧
          passes t d l temperature (fun _ => .lockStep) n next [token] = [] := by
        cases n with
        | zero => exact ⟨rfl, rfl⟩
        | succ n => simp [run, passes, hstopped]
      rw [hrest.1, hrest.2]
      exact ⟨next, [token], rfl, hn.mono (Nat.zero_le n), hfollowed, .stop hstop,
        .cons rfl hdraws htranscript hstate (.none hn.state (by omega) [token])⟩
    · have hrunning : (sampled ++ [token]).any d.stops = false := by
        simpa [running] using hstop
      have hone : (([token] : List Int).length : Int) ≤ c.window := by
        rw [List.length_singleton]
        omega
      obtain ⟨after, new, hrun, ha, hafter, hupto, hadded⟩ :=
        ih hn hfollowed hrunning (List.cons_ne_nil token []) hone (by simpa using hknown) hlater
          Nat.one_pos
      rw [List.append_assoc, List.singleton_append] at hafter
      exact ⟨after, token :: new, hrun, ha, hafter, hupto.cons hstop,
        .cons rfl hdraws htranscript hstate hadded⟩

theorem complete_adds {n : Nat} (hn : 0 < n) {g : Generation σ ρ α} {prompt : List Int}
    (h : g.Sound c single (prompt.length + n)) (followed : g.session.Followed d [])
    (nonempty : prompt ≠ []) (short : prompt.length ≤ c.window)
    (known : ∀ id ∈ prompt, c.Knows id)
    (chooses : ∀ session, g.session.prompt prompt = .ok session →
      Chooses t d l temperature (fun _ => .lockStep) c.Knows n { g with session } prompt) :
    ∃ after new session, g.session.prompt prompt = .ok session ∧
      complete t d l temperature (fun _ => .lockStep) n g prompt = (.ok (), after) ∧
      after.session.generated = (d.beforeStop new).length ∧ d.UpToStop n new ∧
      after.session.transcript.tokens = g.session.transcript.tokens ++ prompt ++ new ∧
      after.draws.map Draw.token = g.draws.map Draw.token ++ new ∧
      (passes t d l temperature (fun _ => .lockStep) n { g with session } prompt).map Pass.tokens =
        prompt :: new.dropLast.map (fun id => [id]) ∧
      g.state.Advanced c.window (prompt.length + new.length - 1) after.state := by
  obtain ⟨session, hprompt, hs⟩ := h.record
  obtain ⟨ran, new, hrun, hran, hafter, hupto, hadded⟩ := run_adds fit speaks decodes hears n hs
    (followed.prompt hprompt) rfl nonempty short known (chooses session hprompt)
  obtain ⟨htranscript, hgenerated⟩ := hafter.close decodes hears hran.session hran.isOpen
  have hcomplete := complete_eq decodes hears temperature (fun _ => .lockStep) n hprompt hrun
    hran.session
  have hnew := hupto.ne_nil hn
  have hpassed := hadded.passed
  rw [List.dropLast_cons_of_ne_nil (by simpa using hnew), ← List.map_dropLast] at hpassed
  have hadvanced := hadded.state
  rw [List.flatMap_def, hpassed, length_fed prompt hnew] at hadvanced
  obtain ⟨transcript, rfl, hrecorded⟩ := Session.of_prompt hprompt
  refine ⟨_, new, _, hprompt, hcomplete, hgenerated.trans hafter.generated_eq, hupto, ?_,
    hadded.draws, hpassed, hadvanced⟩
  rw [htranscript, hadded.transcript, hrecorded]

end Run

end Generation

namespace Llama

variable {c : LlamaConfig} {m₀ m : Llama α}

/-- The models that steps of the stack lead to, all of them successful, and resets. -/
inductive Unbroken (m₀ : Llama α) : Llama α → Prop where
  | start : Unbroken m₀ m₀
  | stepped {m : Llama α} (before : Unbroken m₀ m) {t : Transformer α} (ht : m.transformer = .ok t)
      {rows : Nat} {tokens : List (List Int)} (full : ∀ ids ∈ tokens, ids.length = rows)
      {scores : Steps α} {after : DecodeState α}
      (ok : t.step m.state rows tokens = (.ok scores, after)) :
      Unbroken m₀ { m with state := after }
  | reset {m : Llama α} (before : Unbroken m₀ m) : Unbroken m₀ m.reset

theorem Unbroken.used (h : Unbroken m₀ m) : Used m₀ m := by
  induction h with
  | start => exact .start
  | @stepped m before t ht rows tokens full scores after ok ih =>
    have hafter := ih.stepped ht full
    rwa [ok] at hafter
  | reset before ih =>
    exact ih.asked .reset

theorem Unbroken.consistent (fresh : DecodeState.ofConfig m₀.config = .ok m₀.state)
    (h : Unbroken m₀ m) : m.state.caches.ensureConsistent = .ok () := by
  cases h with
  | start =>
    obtain ⟨-, -, hs⟩ := DecodeState.ofConfig_holds fresh (Nat.zero_le _)
    exact hs.caches.consistent
  | stepped before ht full ok => exact Transformer.consistent_of_step _ _ _ ok
  | reset before => exact LayerCacheSet.consistent_reset _

theorem Unbroken.sound {fresh : Filling α} (fills : fresh.Fills) {d : Directory α} {v : Value}
    (accepted : LlamaConfig.reader v = .valid c) (built : build fresh d c = .ok m₀)
    (h : Unbroken m₀ m) : ∃ single, m.Sound c single := by
  have single := LlamaConfig.batch_pos accepted
  have layers := LlamaConfig.layers_pos accepted
  have hbuilt := build_sound fills built single
  obtain ⟨rfl, hfresh⟩ := build_fresh built
  obtain ⟨hm, hsettled⟩ := h.used.settled accepted hfresh
  have hrows : 1 ≤ (m₀.config.layout 0 (Nat.zero_le _)).batch := by
    show 1 ≤ m₀.config.batch.toNat
    omega
  have hlayers : 0 < m₀.config.layers.toNat := by omega
  have hconsistent := h.consistent hfresh
  rw [hm] at hsettled ⊢
  obtain ⟨position, held, logs, hs, hlogs⟩ := hsettled.sized.holds hlayers hconsistent hrows
  exact ⟨single, rfl, hbuilt.window_pos, hbuilt.shapes, position, held, logs, hlogs, hs⟩

section Generate

variable [Sampling ρ α]

/-- A run that succeeds has made successful steps only. -/
theorem Unbroken.run {t : Transformer α} (ht : m.transformer = .ok t) {d : Detokenizer}
    {l : Listener σ} {temperature : Float} {pace : Nat → Pace} {n : Nat} {g after : Generation σ ρ α}
    {ids : List Int} (h : Unbroken m₀ { m with state := g.state })
    (ok : Generation.run t d l temperature pace n g ids = (.ok (), after)) :
    Unbroken m₀ { m with state := after.state } := by
  induction n generalizing g ids with
  | zero =>
    cases ok
    exact h
  | succ n ih =>
    unfold Generation.run at ok
    split at ok
    · cases ok
      exact h
    · cases hstep : Generation.step t d l temperature (pace n) g ids with
      | mk result next =>
        rw [hstep] at ok
        cases result with
        | error f => cases ok
        | ok token =>
          obtain ⟨steps, -, hmoved, -⟩ := Generation.step_eq_ok hstep
          have hfull : ∀ row ∈ ids.map fun id => [id], row.length = 1 := by simp
          exact ih (h.stepped ht hfull hmoved) ok

theorem Unbroken.generated (h : Unbroken m₀ m) {pace : Nat → Pace} {prompt : String} {n : Int}
    {temperature : Float} {sampler : ρ} {l : Listener σ} {audience : σ} {count : Nat}
    {after : Generated σ α}
    (ok : m.generatePaced pace prompt n temperature sampler l audience = (.ok count, after)) :
    Unbroken m₀ after.model := by
  unfold generatePaced at ok
  split at ok
  · cases ok
  · rename_i tokens t session hstart
    obtain ⟨ht, -⟩ := of_generationStart hstart
    cases hcomplete : Generation.complete t m.tokenizer.detokenizer l temperature pace n.toNat
      { state := m.state, session, sampler } tokens with
    | mk result g =>
      rw [hcomplete] at ok
      obtain ⟨hresult, rfl⟩ := Prod.mk.inj ok
      obtain ⟨u, rfl, -⟩ := map_eq_ok.mp hresult
      obtain ⟨recorded, ran, -, hrun, hstate⟩ := Generation.complete_eq_ok hcomplete
      rw [hstate]
      exact Unbroken.run ht h hrun

/-- After steps that all succeeded and resets, a generation in lock step over a prompt of at most a
window samples up to and with the first stop token, or as many tokens as it may. It counts the tokens
before the first stop token, its transcript is the prompt and the sampled tokens, and all of these but
the last sampled one have gone through the stack, which moved the position by as many and the cursor
too, up to the window. -/
theorem Unbroken.generate_tally {fresh : Filling α} (fills : fresh.Fills) {d : Directory α}
    {v : Value} (accepted : LlamaConfig.reader v = .valid c) (built : build fresh d c = .ok m₀)
    (used : Unbroken m₀ m) {prompt : String} {ids : List Int}
    (tokenized : m.tokenize prompt = .ok ids) (known : ∀ id ∈ ids, c.Knows id) (nonempty : ids ≠ [])
    (short : ids.length ≤ c.window) {l : Listener σ} (fair : m.Fair c l) {n : Int} (hn : 1 ≤ n)
    {temperature : Float} {sampler : ρ} {audience : σ}
    (chooses : m.Chooses c (fun _ => .lockStep) prompt n temperature sampler l audience) :
    let call := m.generate prompt n temperature sampler l audience
    let transcript := m.transcript (fun _ => .lockStep) prompt n temperature sampler l audience
    let passes := m.passes (fun _ => .lockStep) prompt n temperature sampler l audience
    let sampled := call.2.draws.map Draw.token
    let steps := ids.length + sampled.length - 1
    sampled.length = (sampled.findIdx? m.tokenizer.detokenizer.stops).elim n.toNat (· + 1) ∧
    sampled.length ≤ n ∧
    call.1 = .ok (m.tokenizer.detokenizer.beforeStop sampled).length ∧
    transcript = ids ++ sampled ∧
    passes.map Pass.tokens = ids :: sampled.dropLast.map (fun id => [id]) ∧
    call.2.model.state.tracker.next = m.state.tracker.next + steps ∧
    call.2.model.state.caches.len = min (m.state.caches.len + steps) c.window := by
  obtain ⟨single, hm⟩ := used.sound fills accepted built
  obtain ⟨t, session, hstart, fit, speaks, hg⟩ :=
    generationStart_ok hm tokenized nonempty hn audience sampler
  obtain ⟨hfollowed, hempty⟩ := Session.start_followed (of_generationStart hstart).2
  have hpos : 0 < n.toNat := by omega
  obtain ⟨after, sampled, recorded, hprompt, hcomplete, hgenerated, hupto, htranscript, hdraws,
    hpassed, hadvanced⟩ := Generation.complete_adds fit speaks fair.decodes fair.hears hpos hg
      hfollowed nonempty short known fun recorded => chooses ids t session recorded hstart
  have hmost := hupto.length_le
  simp only [hempty, List.nil_append] at htranscript
  simp only [generate, generatePaced, passes, transcript, hstart, hprompt, hcomplete, hdraws,
    List.map_nil, List.nil_append]
  exact ⟨hupto.length_eq, by omega, by rw [hgenerated]; rfl, htranscript, hpassed,
    hadvanced.next_eq, hadvanced.len_eq⟩

end Generate

/-- The tiny model after a generation that has overrun its window. Of nine tokens it may sample, it
samples two, since the second ends the text; one of them goes through the stack. -/
theorem tiny_generate_tally : ∃ (m : Llama Float) (used : Generated Collector Float),
    build Parameters.ones .empty tinyConfig = .ok m ∧
    m.generate "a" 3 0 (Sampler.scripted [65] 0) Listener.collecting {} = (.ok 3, used) ∧
    let call := used.model.generate "hi" 9 0 (Sampler.scripted [65, 2] 0) Listener.collecting {}
    let passes := used.model.passes (fun _ => .lockStep) "hi" 9 0 (Sampler.scripted [65, 2] 0)
      Listener.collecting {}
    call.2.draws.map Draw.token = [65, 2] ∧ call.1 = .ok 1 ∧
      passes.map Pass.tokens = [[104, 105], [65]] ∧
      call.2.model.state.tracker.next = used.model.state.tracker.next + 3 ∧
      call.2.model.state.caches.len = min (used.model.state.caches.len + 3) 2 := by
  obtain ⟨m, used, hm, hused, hbytes, hdraws⟩ : ∃ (m : Llama Float) (used : Generated Collector Float),
      build Parameters.ones .empty tinyConfig = .ok m ∧
      m.generate "a" 3 0 (Sampler.scripted [65] 0) Listener.collecting {} = (.ok 3, used) ∧
      used.model.tokenizer = .bytes ∧
      (used.model.generate "hi" 9 0 (Sampler.scripted [65, 2] 0) Listener.collecting
        {}).2.draws.map Draw.token = [65, 2] := ⟨_, _, rfl, rfl, rfl, rfl⟩
  have hunbroken : Unbroken m used.model := Unbroken.generated .start hused
  have htwo : used.model.tokenize "hi" = .ok [104, 105] := by
    rw [tokenize, hbytes]
    rfl
  have hfair : used.model.Fair tinyConfig .collecting := bytes_fair hbytes tinyConfig
  have hdraws' : Sampling.Draws Float tinyConfig 0 (Sampler.scripted [65, 2] 0) :=
    Sampling.scripted_draws Float (by decide) (by decide) 0 0
  obtain ⟨single, hsound⟩ := hunbroken.sound Parameters.ones_fills tinyConfig_accepted hm
  have hchooses :=
    hsound.chooses hfair hdraws' htwo (by decide) (fun _ => .lockStep) 9 ({} : Collector)
  obtain ⟨-, -, hresult, -, hpassed, hnext, hlen⟩ := hunbroken.generate_tally Parameters.ones_fills
    tinyConfig_accepted hm htwo (by decide) (by decide) (by decide) hfair (by decide) hchooses
  rw [hdraws] at hresult hpassed hnext hlen
  rw [hbytes] at hresult
  exact ⟨m, used, hm, hused, hdraws, hresult, hpassed, hnext, hlen⟩

end Llama
end StreamingLM
