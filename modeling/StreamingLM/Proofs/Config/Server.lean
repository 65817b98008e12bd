import Mathlib.Algebra.Group.Int.Defs
import StreamingLM.Config.Server
import StreamingLM.Proofs.Config.Accepted
import StreamingLM.Proofs.Number.Order
import StreamingLM.Sampling

/-!
What can be run with accepted settings of a server. Main statement: the bound on the mass holds for
every number, a model comes of the settings exactly when their window is within the limit of the
preset, and a seed of 64 bits gives a sampler.
-/
namespace StreamingLM

namespace Reader

theorem naturalInt_nonneg {v : Value} {n : Int} (ok : naturalInt v = .valid n) : 0 ≤ n := by
  obtain ⟨-, hrule⟩ := Validated.keeping_eq_valid.mp ok
  split at hrule
  · cases hrule
  · omega

theorem mass_valid {v : Value} {x : Float} (ok : mass v = .valid x) : ¬x ≤ 0.0 ∧ ¬1.0 < x := by
  obtain ⟨-, hrule⟩ := Validated.keeping_eq_valid.mp ok
  split at hrule
  · cases hrule
  · split at hrule
    · cases hrule
    · exact ⟨‹_›, ‹_›⟩

end Reader

namespace LlamaConfig

variable {width hidden layers heads vocabSize window batch : Int} {shared limit : Option Int}
  {eps : Float} {rotary : RotaryConfig} {cache : CacheConfig} {tokenizer : TokenizerConfig}

theorem reader_fields {entries : List (Value × Value)}
    (hwidth : Reader.withDefault .positiveInt 4096 "d_model" entries = .valid width)
    (hhidden : Reader.required .positiveInt "hidden_size" entries = .valid hidden)
    (hlayers : Reader.withDefault .positiveInt 32 "n_layers" entries = .valid layers)
    (hheads : Reader.withDefault .positiveInt 32 "n_heads" entries = .valid heads)
    (hshared : Reader.withDefault (.optional .positiveInt) none "n_kv_heads" entries =
      .valid shared)
    (hvocab : Reader.required .positiveInt "vocab_size" entries = .valid vocabSize)
    (heps : Reader.withDefault .positiveReal 1e-5 "norm_eps" entries = .valid eps)
    (hrotary : Reader.withDefault RotaryConfig.reader {} "rope" entries = .valid rotary)
    (hwindow : Reader.withDefault .positiveInt 128 "max_seq_len" entries = .valid window)
    (hbatch : Reader.withDefault .positiveInt 1 "max_batch_size" entries = .valid batch)
    (hlimit : Reader.withDefault (.optional .positiveInt) none "max_context_len" entries =
      .valid limit)
    (hcache : Reader.withDefault CacheConfig.reader {} "cache" entries = .valid cache)
    (htokenizer : Reader.withDefault TokenizerConfig.reader .byte "tokenizer" entries =
      .valid tokenizer) :
    reader (.dict entries) = (Validated.valid ⟨width, hidden, layers, heads, shared, vocabSize, eps,
      rotary, window, batch, limit, cache, tokenizer⟩).keeping windowRule := by
  simp only [reader, Reader.model, hwidth, hhidden, hlayers, hheads, hshared, hvocab, heps, hrotary,
    hwindow, hbatch, hlimit, hcache, htokenizer]
  rfl

end LlamaConfig

namespace Preset

/-- The longest context that an architecture supports; the one for tests has no limit. -/
def contextLimit : Preset → Option Int
  | llama3_2_1b_test => none
  | llama3_2_1b | llama3_2_3b | llama3_1_8b => some 131072
  | llama3_8b => some 8192
  | tinyLlama => some 2048

/-- With a window and a strategy of its own, a preset is a model up to the rule on the window. -/
theorem config_eq (p : Preset) (path : String) {window : Int} (pos : 0 < window)
    (strategy : CacheStrategy) :
    ∃ m : LlamaConfig, m.window = window ∧ m.cache.strategy = strategy ∧
      m.contextLimit = p.contextLimit ∧
      p.config path
          [(.text "max_seq_len", .int window), (.text "cache", (CacheConfig.mk strategy).dump)] =
        ((Validated.valid m).keeping LlamaConfig.windowRule).toExcept "LlamaConfig" := by
  have hwindow := Reader.positiveInt_ok pos
  have hcache : CacheConfig.reader (CacheConfig.mk strategy).dump = .valid ⟨strategy⟩ := by
    cases strategy <;> rfl
  cases p
  all_goals
    refine ⟨_, ?_, ?_, ?_, congrArg (Validated.toExcept "LlamaConfig") (LlamaConfig.reader_fields
      rfl rfl rfl rfl rfl rfl rfl rfl (Reader.withDefault_found rfl hwindow) rfl rfl
      (Reader.withDefault_found rfl hcache) rfl)⟩
    all_goals rfl

end Preset
namespace Sampler

theorem ofSettings_ok (temperature : Float) {p : Float} {seed : Int} (bounds : 0.0 < p ∧ p ≤ 1.0)
    (chosen : seed ≠ 0) (natural : 0 ≤ seed) (short : seed < 2 ^ 64) (fresh : Int) :
    ∃ s, ofSettings (.real temperature) (.real p) seed fresh = .ok s := by
  have hseed : -(Nat.pow 2 63 : Int) ≤ seed ∧ seed < (Nat.pow 2 64 : Int) := by
    refine ⟨Int.le_trans (by decide) natural, ?_⟩
    exact_mod_cast short
  have hmass : ofMass (.real p) seed = .ok (nucleus p seed (Generator.ofSeed seed)) := by
    simp only [ofMass, realOf, Value.number?, bind, Except.bind, if_pos bounds, if_pos hseed]
    rfl
  simp only [ofSettings, Rule.sign, Value.number?, bind, Except.bind, if_neg chosen, hmass]
  split
  · exact ⟨_, rfl⟩
  · exact ⟨_, rfl⟩

end Sampler

namespace LlamaServerConfig

theorem settings_valid {v : Value} {c : LlamaServerConfig} (ok : reader v = .valid c) :
    ∃ entries, Reader.withDefault .mass 0.9 "top_p" entries = .valid c.topP ∧
      Reader.withDefault .positiveInt 1024 "max_seq_len" entries = .valid c.window ∧
      Reader.withDefault .naturalInt 0 "seed" entries = .valid c.seed ∧ presetRule c = none ∧
      Reader.withDefault .positiveInt 128 "sample_len" entries = .valid c.sampleLength ∧
      Reader.withDefault .nonnegativeReal 0.0 "temperature" entries = .valid c.temperature := by
  cases v with
  | dict entries =>
    obtain ⟨hfields, hrule⟩ := Validated.keeping_eq_valid.mp ok
    simp only [Validated.seq_eq_valid, Validated.map_eq_valid] at hfields
    obtain ⟨_, _, ⟨_, _, ⟨_, _, hfront, hseed, rfl⟩, -, rfl⟩, -, rfl⟩ := hfields
    obtain ⟨_, _, ⟨_, _, hfront, hwindow, rfl⟩, hlength, rfl⟩ := hfront
    obtain ⟨_, _, ⟨_, _, ⟨_, _, hfront, -, rfl⟩, hmass, rfl⟩, htemperature, rfl⟩ := hfront
    obtain ⟨_, _, ⟨_, _, ⟨_, -, rfl⟩, -, rfl⟩, -, rfl⟩ := hfront
    exact ⟨entries, hmass, hwindow, hseed, hrule, hlength, htemperature⟩
  | _ => cases ok

theorem sampleLength_pos {v : Value} {c : LlamaServerConfig} (ok : reader v = .valid c) :
    0 < c.sampleLength := by
  obtain ⟨entries, -, -, -, -, hlength, -⟩ := settings_valid ok
  exact Reader.withDefault_pos hlength (by decide)

theorem mass_bounds {v : Value} {c : LlamaServerConfig} (ok : reader v = .valid c)
    (number : c.topP.isNaN = false) : 0.0 < c.topP ∧ c.topP ≤ 1.0 := by
  obtain ⟨entries, hmass, -⟩ := settings_valid ok
  have hbounds : ¬c.topP ≤ 0.0 ∧ ¬1.0 < c.topP := by
    obtain hdefault | ⟨w, hw⟩ := Reader.withDefault_valid hmass
    · rw [hdefault]
      decide
    · exact Reader.mass_valid hw
  exact ⟨Double.lt_of_not_le number (by decide) hbounds.1,
    Double.le_of_not_lt (by decide) number hbounds.2⟩

theorem presetRule_eq_none {c : LlamaServerConfig} (keeps : presetRule c = none) :
    ∃ p, Preset.ofName? c.preset = some p := by
  rw [presetRule] at keeps
  split at keeps
  · cases keeps
  · exact ⟨_, ‹_›⟩

theorem model_eq {v : Value} {c : LlamaServerConfig} (ok : reader v = .valid c) :
    ∃ (p : Preset) (m : LlamaConfig), Preset.ofName? c.preset = some p ∧ m.window = c.window ∧
      m.cache.strategy = c.strategy ∧ m.contextLimit = p.contextLimit ∧
      c.model = ((Validated.valid m).keeping LlamaConfig.windowRule).toExcept "LlamaConfig" := by
  obtain ⟨entries, -, hwindow, -, hrule, -⟩ := settings_valid ok
  obtain ⟨p, hp⟩ := presetRule_eq_none hrule
  have hpos := Reader.withDefault_pos hwindow (by decide)
  obtain ⟨m, hm, hstrategy, hlimit, hconfig⟩ :=
    p.config_eq (c.tokenizerPath.getD "") hpos c.strategy
  refine ⟨p, m, hp, hm, hstrategy, hlimit, ?_⟩
  rw [model, hp]
  exact hconfig

theorem window_of_model {v : Value} {c : LlamaServerConfig} (ok : reader v = .valid c)
    {m : LlamaConfig} (built : c.model = .ok m) : m.window = c.window := by
  obtain ⟨p, settings, -, hwindow, -, -, hmodel⟩ := model_eq ok
  rw [hmodel, Validated.keeping] at built
  split at built
  · cases built
    exact hwindow
  · cases built

/-- Accepted settings can be run. Their mass is above zero and at most one, unless it is no number.
A model comes of them exactly when the window is within the limit of the preset; beyond it, the rule
of the model is reported. With a seed of its own in 64 bits there is a sampler. -/
theorem accepted_runs {v : Value} {c : LlamaServerConfig} (ok : reader v = .valid c) :
    (c.topP.isNaN = false → 0.0 < c.topP ∧ c.topP ≤ 1.0) ∧
    (∃ p, Preset.ofName? c.preset = some p ∧
      ((∀ limit, p.contextLimit = some limit → c.window ≤ limit) →
        ∃ m, c.model = .ok m ∧ m.window = c.window ∧ m.cache.strategy = c.strategy) ∧
      ∀ limit, p.contextLimit = some limit → limit < c.window →
        c.model = .error (.invalid "LlamaConfig" [⟨[], .broken (.windowTooLong limit c.window)⟩])) ∧
    ∀ fresh, c.topP.isNaN = false → c.seed ≠ 0 → c.seed < 2 ^ 64 →
      ∃ s, Sampler.ofSettings (.real c.temperature) (.real c.topP) c.seed fresh = .ok s := by
  obtain ⟨entries, -, -, hseed, -⟩ := settings_valid ok
  obtain ⟨p, m, hp, hwindow, hstrategy, hlimit, hmodel⟩ := model_eq ok
  refine ⟨mass_bounds ok, ⟨p, hp, fun within => ⟨m, ?_, hwindow, hstrategy⟩,
    fun limit some tooLong => ?_⟩, fun fresh number chosen short => ?_⟩
  · have hrule : LlamaConfig.windowRule m = none := by
      rw [LlamaConfig.windowRule, hlimit, hwindow]
      split
      · have hwithin := within _ ‹_›
        exact if_neg (by omega)
      · rfl
    rw [hmodel, Validated.keeping, hrule]
    rfl
  · rw [hmodel, Validated.keeping, LlamaConfig.windowRule, hlimit, some, hwindow]
    simp only [if_pos tooLong]
    rfl
  · have hnatural : 0 ≤ c.seed := by
      obtain hdefault | ⟨w, hw⟩ := Reader.withDefault_valid hseed
      · exact hdefault ▸ Int.le_refl 0
      · exact Reader.naturalInt_nonneg hw
    exact Sampler.ofSettings_ok c.temperature (mass_bounds ok number) chosen hnatural short fresh

/-- Settings of the smallest published architecture, which supports 2048 positions. -/
def tinyPayload (window : Int) : Value := .dict
  [(.text "preset", .text "tiny_llama"), (.text "tokenizer_path", .text "tokenizer.json"),
    (.text "top_p", .real 0.5), (.text "temperature", .real 0.8),
    (.text "max_seq_len", .int window), (.text "seed", .int 3)]

/-- A window of all positions can be run. -/
theorem tinyPayload_runs : ∃ c, reader (tinyPayload 2048) = .valid c ∧
    (0.0 < c.topP ∧ c.topP ≤ 1.0) ∧ (∃ m, c.model = .ok m ∧ m.window = 2048) ∧
    ∃ s, Sampler.ofSettings (.real c.temperature) (.real c.topP) c.seed 0 = .ok s := by
  obtain ⟨c, hc⟩ : ∃ c, reader (tinyPayload 2048) = .valid c := ⟨_, rfl⟩
  obtain ⟨hmass, ⟨p, hp, hmodel, -⟩, hsampler⟩ := accepted_runs hc
  cases hc
  cases hp
  obtain ⟨m, hm, hwindow, -⟩ := hmodel (by decide)
  exact ⟨_, rfl, hmass (by decide), ⟨m, hm, hwindow⟩,
    hsampler 0 (by decide) (by decide) (by decide)⟩

/-- One position more is accepted too, and no model comes of it. -/
theorem tinyPayload_tooLong :
    ∃ c, reader (tinyPayload 2049) = .valid c ∧ ¬∃ m, c.model = .ok m := by
  obtain ⟨c, hc⟩ : ∃ c, reader (tinyPayload 2049) = .valid c := ⟨_, rfl⟩
  refine ⟨c, hc, ?_⟩
  rintro ⟨m, hm⟩
  cases hc
  cases hm

end LlamaServerConfig
end StreamingLM
