import StreamingLM.Proofs.Config.Accepted
import StreamingLM.Proofs.Model.Generation

/-!
The engine over any sequence of calls. Whatever earlier calls left behind, a call that is given
known tokens fails for one of the reasons that its caller can see, and never in the caches, the
rotary table or the transcript.
-/
namespace StreamingLM

variable {σ ρ α : Type} [Scalar α]

namespace Llama

/-- A model that can go on. -/
structure Sound (m : Llama α) (c : LlamaConfig) (single : 0 < c.batch) : Prop where
  config_eq : m.config = c
  window_pos : 0 < c.window
  shapes : ∃ shapes, c.transformer.parameters = .ok shapes ∧ m.weights.HasShapes shapes
  state : m.state.Steady c single

variable {c : LlamaConfig} {single : 0 < c.batch} {m : Llama α}

theorem build_sound {fresh : Filling α} (fills : fresh.Fills) {d : Directory α}
    (ok : build fresh d c = .ok m) (single : 0 < c.batch) : m.Sound c single := by
  obtain ⟨shapes, hshapes, hrest⟩ := Outcome.bind_eq_ok.mp ok
  obtain ⟨tokenizer, -, hrest⟩ := Outcome.bind_eq_ok.mp hrest
  obtain ⟨state, hstate, hm⟩ := Outcome.bind_eq_ok.mp hrest
  have hrows : 1 ≤ c.batch.toNat := by omega
  obtain ⟨hw, -, -⟩ := DecodeState.ofConfig_holds hstate hrows
  cases hm
  exact ⟨rfl, hw, ⟨shapes, hshapes, fills shapes⟩, DecodeState.ofConfig_steady hstate single⟩

theorem Sound.reset (h : m.Sound c single) : m.reset.Sound c single :=
  ⟨h.config_eq, h.window_pos, h.shapes, h.state.reset⟩

theorem Sound.transformer (h : m.Sound c single) :
    ∃ t, m.transformer = .ok t ∧ t.Fits (c.solo single) c.layers.toNat ∧
      t.Speaks c.vocabSize.toNat := by
  obtain ⟨shapes, hshapes, hweights⟩ := h.shapes
  obtain ⟨t, ht⟩ := Transformer.ofParameters_ok hshapes m.weights
  have hrows : 1 ≤ c.batch.toNat := by omega
  refine ⟨t, by rw [Llama.transformer, h.config_eq, ht], Transformer.ofParameters_fits ht hrows, ?_⟩
  exact Transformer.ofParameters_speaks hshapes hweights ht

omit [Scalar α] in
theorem Sound.window_eq (h : m.Sound c single) : m.state.caches.window = c.window := by
  obtain ⟨position, held, logs, -, hs⟩ := h.state
  have hcapacity : ((c.solo single).capacity : Int) = c.window :=
    Int.toNat_of_nonneg (Int.le_of_lt h.window_pos)
  rw [hs.caches.window_eq, hcapacity]

/-- What a call is given does not fail: known tokens can be decoded, and the listener takes every
text. -/
structure Fair (m : Llama α) (c : LlamaConfig) (l : Listener σ) : Prop where
  decodes : m.tokenizer.detokenizer.Decodes c.Knows
  hears : l.Hears

/-- Each row of scores that a call hands to its chooser gets a known token. -/
def Chooses [Sampling ρ α] (m : Llama α) (c : LlamaConfig) (pace : Nat → Pace) (prompt : String)
    (n : Int) (temperature : Float) (sampler : ρ) (l : Listener σ) (audience : σ) : Prop :=
  ∀ ids t session recorded, m.generationStart prompt n audience = .ok (ids, t, session) →
    session.prompt ids = .ok recorded →
      Generation.Chooses t m.tokenizer.detokenizer l temperature pace c.Knows n.toNat
        { state := m.state, session := recorded, sampler } ids

def generateFailure (window : Int) (ids : List Int) (n : Int) : Option Failure :=
  if n ≤ 0 then some (.badSampleLength n)
  else if ids = [] then some .emptyPrompt
  else if window < ids.length then some (.stepTooLong ids.length window)
  else none

/-- How scoring a text fails, if it does. -/
def scoreFailure (window : Int) (ids : List Int) : Option Failure :=
  if ids.length < 2 then some .scoreTooShort
  else if window < ids.length then some (.stepTooLong ids.length window)
  else none

section Generate

variable [Sampling ρ α] {prompt : String} {ids : List Int}

theorem generate_refused (m : Llama α) (pace : Nat → Pace) (prompt : String) {n : Int} (h : n ≤ 0)
    (temperature : Float) (sampler : ρ) (l : Listener σ) (audience : σ) :
    m.generatePaced pace prompt n temperature sampler l audience =
      (.error (.badSampleLength n), { model := m, audience }) := by
  simp only [generatePaced, generationStart, if_pos h]

theorem generate_empty (tokenized : m.tokenize prompt = .ok []) (pace : Nat → Pace) {n : Int}
    (h : 0 < n) (temperature : Float) (sampler : ρ) (l : Listener σ) (audience : σ) :
    m.generatePaced pace prompt n temperature sampler l audience =
      (.error .emptyPrompt, { model := m, audience }) := by
  have hn : ¬n ≤ 0 := by omega
  simp only [generatePaced, generationStart, if_neg hn, tokenized, bind, Except.bind]
  rfl

omit [Sampling ρ α] in
theorem generationStart_eq {t : Transformer α} (stack : m.transformer = .ok t)
    (tokenized : m.tokenize prompt = .ok ids) (nonempty : ids ≠ []) {n : Int} (hn : 0 < n)
    {audience : σ} {session : Session σ}
    (started : Session.start (ids.length + n) audience = .ok session) :
    m.generationStart prompt n audience = .ok (ids, t, session) := by
  have hids : ids.isEmpty = false := by simpa using nonempty
  simp only [generationStart, if_neg (by omega : ¬n ≤ 0), tokenized, bind, Except.bind, hids,
    started, stack]
  rfl

omit [Sampling ρ α] in
theorem generationStart_ok (h : m.Sound c single) (tokenized : m.tokenize prompt = .ok ids)
    (nonempty : ids ≠ []) {n : Int} (hn : 0 < n) (audience : σ) (sampler : ρ) :
    ∃ t session, m.generationStart prompt n audience = .ok (ids, t, session) ∧
      t.Fits (c.solo single) c.layers.toNat ∧ t.Speaks c.vocabSize.toNat ∧
      Generation.Sound ⟨m.state, session, sampler, []⟩ c single (ids.length + n.toNat) := by
  obtain ⟨t, ht, hfit, hspeaks⟩ := h.transformer
  have hlength : (0 : Int) ≤ ids.length + n := by omega
  obtain ⟨session, hstart, hs, hopen, htranscript⟩ := Session.start_ok hlength audience c.Knows
  have hroom : session.transcript.tokens.length + (ids.length + n.toNat) ≤
      session.transcript.capacity := by
    rw [htranscript]
    simp only [Transcript.empty, List.length_nil]
    omega
  exact ⟨t, session, generationStart_eq ht tokenized nonempty hn hstart, hfit, hspeaks, h.state, hs,
    hopen, hroom⟩

/-- A chooser that gives known tokens gives them to every row of a call. -/
theorem Sound.chooses (h : m.Sound c single) {l : Listener σ} (fair : m.Fair c l)
    {temperature : Float} {sampler : ρ} (draws : Sampling.Draws α c temperature sampler)
    (tokenized : m.tokenize prompt = .ok ids) (known : ∀ id ∈ ids, c.Knows id) (pace : Nat → Pace)
    (n : Int) (audience : σ) : m.Chooses c pace prompt n temperature sampler l audience := by
  obtain ⟨good, hgood, keeps⟩ := draws
  intro ids' t session recorded hstart hprompt
  by_cases hn : n ≤ 0
  · rw [generationStart, if_pos hn] at hstart
    cases hstart
  have nonempty : ids ≠ [] := by
    rintro rfl
    simp [generationStart, if_neg hn, tokenized, bind, Except.bind] at hstart
  obtain ⟨t', session', hstart', fit, speaks, hg⟩ :=
    generationStart_ok h tokenized nonempty (Int.not_le.mp hn) audience sampler
  obtain ⟨rfl, rfl, rfl⟩ : ids = ids' ∧ t' = t ∧ session' = session := by
    simpa using hstart'.symm.trans hstart
  obtain ⟨recorded', hprompt', hs⟩ := hg.record
  obtain rfl : recorded' = recorded := Except.ok.inj (hprompt'.symm.trans hprompt)
  by_cases hlong : c.window < ids.length
  · have hover : m.state.caches.window < ids.length := h.window_eq ▸ hlong
    exact Generation.chooses_tooLong hover temperature pace c.Knows n.toNat
  · exact hs.chooses fit speaks fair.decodes fair.hears keeps pace hgood nonempty
      (Int.not_lt.mp hlong) known

theorem generate_ok (h : m.Sound c single) {sampler : ρ} {l : Listener σ} (fair : m.Fair c l)
    (tokenized : m.tokenize prompt = .ok ids) (known : ∀ id ∈ ids, c.Knows id)
    (nonempty : ids ≠ []) {n : Int} (hn : 0 < n) (short : ids.length ≤ c.window)
    {pace : Nat → Pace} {temperature : Float} {audience : σ}
    (chooses : m.Chooses c pace prompt n temperature sampler l audience) :
    ∃ count after,
      m.generatePaced pace prompt n temperature sampler l audience = (.ok count, after) ∧
      after.model.Sound c single := by
  obtain ⟨t, session, hstart, fit, speaks, hg⟩ :=
    generationStart_ok h tokenized nonempty hn audience sampler
  obtain ⟨after, hcomplete, ha⟩ := Generation.complete_sound fit speaks fair.decodes fair.hears
    hg nonempty short known fun recorded => chooses ids t session recorded hstart
  refine ⟨after.session.generated, _, by simp only [generatePaced, hstart, hcomplete]; rfl, ?_⟩
  exact ⟨h.config_eq, h.window_pos, h.shapes, ha⟩

/-- A prompt longer than the window is refused in any state, with nothing changed. The listener hears
of the end and of no text. -/
theorem generate_tooLong {t : Transformer α} (stack : m.transformer = .ok t)
    (room : 0 < m.state.caches.window) (tokenized : m.tokenize prompt = .ok ids) {n : Int}
    (hn : 0 < n) (long : m.state.caches.window < ids.length) (pace : Nat → Pace)
    (temperature : Float) (sampler : ρ) (l : Listener σ) (audience : σ) :
    m.generatePaced pace prompt n temperature sampler l audience =
      (.error (.stepTooLong ids.length m.state.caches.window),
        { model := m, audience := (l.onComplete audience).2 }) := by
  have nonempty : ids ≠ [] := by
    rintro rfl
    simp only [List.length_nil] at long
    omega
  have hlength : (0 : Int) ≤ ids.length + n := by omega
  obtain ⟨session, hsession, -⟩ := Session.start_ok hlength audience fun _ => True
  have hstart := generationStart_eq stack tokenized nonempty hn hsession
  have hpos : 0 < n.toNat := by omega
  obtain ⟨after, hcomplete, hafter⟩ := Generation.complete_tooLong (t := t)
    (d := m.tokenizer.detokenizer) (l := l) (g := { state := m.state, session, sampler })
    temperature pace hpos hsession (by omega) long
  simp only [generatePaced, hstart, hcomplete, hafter]
  rfl

/-- Every call leaves a sound model, and fails as foreseen or not at all. -/
theorem generate_outcome (h : m.Sound c single) {sampler : ρ} {l : Listener σ} (fair : m.Fair c l)
    (tokenized : m.tokenize prompt = .ok ids) (known : ∀ id ∈ ids, c.Knows id) {pace : Nat → Pace}
    {n : Int} {temperature : Float} {audience : σ}
    (chooses : m.Chooses c pace prompt n temperature sampler l audience) :
    ∃ result after,
      m.generatePaced pace prompt n temperature sampler l audience = (result, after) ∧
      after.model.Sound c single ∧
      ∀ f, result = .error f ↔ generateFailure c.window ids n = some f := by
  unfold generateFailure
  by_cases hn : n ≤ 0
  · rw [if_pos hn, generate_refused m pace prompt hn]
    exact ⟨_, _, rfl, h, by simp⟩
  · have hpos : 0 < n := Int.not_le.mp hn
    rw [if_neg hn]
    by_cases hids : ids = []
    · subst hids
      rw [if_pos rfl, generate_empty tokenized pace hpos]
      exact ⟨_, _, rfl, h, by simp⟩
    · rw [if_neg hids]
      by_cases hlong : c.window < ids.length
      · obtain ⟨t, ht, -, -⟩ := h.transformer
        have hwindow := h.window_eq
        have hroom : 0 < m.state.caches.window := hwindow ▸ h.window_pos
        have hover : m.state.caches.window < ids.length := hwindow ▸ hlong
        have hrefused :=
          generate_tooLong ht hroom tokenized hpos hover pace temperature sampler l audience
        rw [hwindow] at hrefused
        rw [if_pos hlong]
        exact ⟨_, _, hrefused, h, by simp⟩
      · obtain ⟨count, after, hok, ha⟩ := generate_ok h fair tokenized known hids hpos
          (Int.not_lt.mp hlong) chooses
        rw [if_neg hlong]
        exact ⟨_, _, hok, ha, by simp⟩

end Generate

theorem score_outcome (h : m.Sound c single) {text : String} {ids : List Int}
    (tokenized : m.tokenize text = .ok ids) (known : ∀ id ∈ ids, c.Knows id) (f : Failure) :
    m.score text = .error f ↔ scoreFailure c.window ids = some f := by
  obtain ⟨t, ht, fit, speaks⟩ := h.transformer
  obtain ⟨steps, hsteps⟩ := Transformer.forwardMasked_steady fit speaks h.state known
  simp only [score, tokenized, bind, Except.bind, h.window_eq, ht, hsteps, scoreFailure]
  by_cases hshort : ids.length < 2
  · rw [if_pos hshort, if_pos hshort]
    simp
  · rw [if_neg hshort, if_neg hshort]
    by_cases hlong : c.window < ids.length
    · rw [if_pos hlong, if_pos hlong]
      simp
    · rw [if_neg hlong, if_neg hlong]
      simp [pure, Except.pure]

/-- The models that calls lead to, from one that was just built from an accepted configuration.
Scoring is not among them: it leaves the model as it is. -/
inductive Reachable (fresh : Filling α) (d : Directory α) (c : LlamaConfig) : Llama α → Prop where
  | built {v : Value} {m : Llama α} (accepted : LlamaConfig.reader v = .valid c)
      (ok : build fresh d c = .ok m) : Reachable fresh d c m
  | generated {σ ρ : Type} [Sampling ρ α] {m : Llama α} (before : Reachable fresh d c m)
      {prompt : String} {ids : List Int} (tokenized : m.tokenize prompt = .ok ids)
      (known : ∀ id ∈ ids, c.Knows id) {l : Listener σ} (fair : m.Fair c l) {pace : Nat → Pace}
      {n : Int} {temperature : Float} {sampler : ρ} {audience : σ}
      (chooses : m.Chooses c pace prompt n temperature sampler l audience) :
      Reachable fresh d c (m.generatePaced pace prompt n temperature sampler l audience).2.model
  | reset {m : Llama α} (before : Reachable fresh d c m) : Reachable fresh d c m.reset

theorem Reachable.accepted {fresh : Filling α} {d : Directory α} (h : Reachable fresh d c m) :
    ∃ v, LlamaConfig.reader v = .valid c := by
  induction h with
  | built accepted ok => exact ⟨_, accepted⟩
  | generated before tokenized known fair chooses ih => exact ih
  | reset before ih => exact ih

theorem Reachable.sound {fresh : Filling α} (fills : fresh.Fills) {d : Directory α}
    (h : Reachable fresh d c m) : ∃ single, m.Sound c single := by
  induction h with
  | built accepted ok =>
    have single := LlamaConfig.batch_pos accepted
    exact ⟨single, build_sound fills ok single⟩
  | generated before tokenized known fair chooses ih =>
    obtain ⟨single, hm⟩ := ih
    obtain ⟨result, after, hcall, ha, -⟩ := generate_outcome hm fair tokenized known chooses
    exact ⟨single, by rw [hcall]; exact ha⟩
  | reset before ih =>
    obtain ⟨single, hm⟩ := ih
    exact ⟨single, hm.reset⟩

/-- In whatever state earlier calls left the model, a call on known tokens fails exactly for the
reasons that can be seen from outside: a length that is not positive, a prompt without tokens, or a
text longer than the window. -/
theorem Reachable.fails_as_foreseen [Sampling ρ α] {fresh : Filling α} (fills : fresh.Fills)
    {d : Directory α} (h : Reachable fresh d c m) {prompt : String} {ids : List Int}
    (tokenized : m.tokenize prompt = .ok ids) (known : ∀ id ∈ ids, c.Knows id) {l : Listener σ}
    (fair : m.Fair c l) {pace : Nat → Pace} {n : Int} {temperature : Float} {sampler : ρ}
    {audience : σ} (chooses : m.Chooses c pace prompt n temperature sampler l audience)
    (f : Failure) :
    ((m.generatePaced pace prompt n temperature sampler l audience).1 = .error f ↔
      generateFailure c.window ids n = some f) ∧
    (m.score prompt = .error f ↔ scoreFailure c.window ids = some f) := by
  obtain ⟨single, hm⟩ := h.sound fills
  obtain ⟨result, after, hcall, -, hfails⟩ := generate_outcome hm fair tokenized known chooses
  rw [hcall]
  exact ⟨hfails f, score_outcome hm tokenized known f⟩

/-- A window of two positions, and tokens that are bytes. -/
def tinyConfig : LlamaConfig :=
  { width := 4, hidden := 4, layers := 1, heads := 2, vocabSize := 256, window := 2 }

theorem tinyConfig_accepted :
    LlamaConfig.reader (.dict [(.text "d_model", .int 4), (.text "hidden_size", .int 4),
      (.text "n_layers", .int 1), (.text "n_heads", .int 2), (.text "vocab_size", .int 256),
      (.text "max_seq_len", .int 2)]) = .valid tinyConfig := rfl

omit [Scalar α] in
theorem bytes_fair {m : Llama α} (h : m.tokenizer = .bytes) (c : LlamaConfig) :
    m.Fair c Listener.collecting where
  decodes ids _ := ⟨_, by rw [h]; rfl⟩
  hears _ _ := rfl

theorem tokenizer_generate [Sampling ρ α] (m : Llama α) (pace : Nat → Pace) (prompt : String)
    (n : Int) (temperature : Float) (sampler : ρ) (l : Listener σ) (audience : σ) :
    (m.generatePaced pace prompt n temperature sampler l audience).2.model.tokenizer =
      m.tokenizer := by
  unfold generatePaced
  split <;> rfl

/-- What a generation of nine tokens, whose worker stays idle to the end, makes of the model. -/
def overrun (m : Llama α) : Llama α :=
  (m.generatePaced (fun _ => {}) "hi" 9 0 Sampler.greedy Listener.collecting {}).2.model

/-- A prompt of three tokens is too long for the tiny model, also after a generation that has
overrun its window. -/
theorem tiny_fails_as_foreseen : ∃ m : Llama Float,
    build Parameters.ones .empty tinyConfig = .ok m ∧
    (m.overrun.generate "hey" 1 0 Sampler.greedy Listener.collecting {}).1 =
      .error (.stepTooLong 3 2) ∧
    m.overrun.score "hey" = .error (.stepTooLong 3 2) := by
  obtain ⟨m, hm, hbytes⟩ : ∃ m : Llama Float,
      build Parameters.ones .empty tinyConfig = .ok m ∧ m.tokenizer = .bytes := ⟨_, rfl, rfl⟩
  have hvocab : 0 < tinyConfig.vocabSize := by decide
  have htwo : m.tokenize "hi" = .ok [104, 105] := by
    rw [tokenize, hbytes]
    rfl
  have hstill : m.overrun.tokenizer = .bytes := (tokenizer_generate m _ _ _ _ _ _ _).trans hbytes
  have hthree : m.overrun.tokenize "hey" = .ok [104, 101, 121] := by
    rw [tokenize, hstill]
    rfl
  have hbuilt : Reachable Parameters.ones .empty tinyConfig m := .built tinyConfig_accepted hm
  have hdraws := Sampling.greedy_draws Float hvocab 0
  have hfair : m.Fair tinyConfig .collecting := bytes_fair hbytes tinyConfig
  obtain ⟨single, hm'⟩ := hbuilt.sound Parameters.ones_fills
  have hused : Reachable Parameters.ones .empty tinyConfig m.overrun :=
    hbuilt.generated htwo (by decide) hfair
      (hm'.chooses hfair hdraws htwo (by decide) (fun _ => {}) 9 {})
  have hlater : m.overrun.Fair tinyConfig .collecting := bytes_fair hstill tinyConfig
  obtain ⟨single, hm''⟩ := hused.sound Parameters.ones_fills
  have hfails := hused.fails_as_foreseen Parameters.ones_fills hthree (by decide) hlater
    (hm''.chooses hlater hdraws hthree (by decide) (fun _ => .lockStep) 1 {}) (.stepTooLong 3 2)
  exact ⟨m, hm, hfails.1.mpr rfl, hfails.2.mpr rfl⟩

end Llama
end StreamingLM
