import StreamingLM.Schema

/-!
Settings of the rotary position encoding: its base, and the stretching of its slow frequencies that
lets a model address a longer context than it was trained on.
-/
namespace StreamingLM

/-- Stretching of frequencies by parts: slow ones are divided by `scaleFactor`, fast ones are kept,
and those between the two cutoffs are blended. -/
structure FrequencyScaling where
  scaleFactor : Float := 8.0
  lowFactor : Float := 1.0
  highFactor : Float := 4.0
  oldContext : Int := 8192

namespace FrequencyScaling

def factorOrder (s : FrequencyScaling) : Option Violation :=
  if s.highFactor ≤ s.lowFactor then some (.factorOrder s.highFactor s.lowFactor) else none

def reader : Reader FrequencyScaling := .model fun entries =>
  (mk <$> Reader.withDefault .positiveReal 8.0 "scale_factor" entries
    <*> Reader.withDefault .positiveReal 1.0 "low_freq_factor" entries
    <*> Reader.withDefault .positiveReal 4.0 "high_freq_factor" entries
    <*> Reader.withDefault .positiveInt 8192 "old_context_len" entries).keeping factorOrder

def dump (s : FrequencyScaling) : Value := .dict
  [(.text "scale_factor", .real s.scaleFactor), (.text "low_freq_factor", .real s.lowFactor),
    (.text "high_freq_factor", .real s.highFactor), (.text "old_context_len", .int s.oldContext)]

end FrequencyScaling

/-- Base of the frequencies, and their stretching if there is any. -/
structure RotaryConfig where
  theta : Float := 10000.0
  scaled : Option FrequencyScaling := none

namespace RotaryConfig

def reader : Reader RotaryConfig := .model fun entries =>
  mk <$> Reader.withDefault .positiveReal 10000.0 "theta" entries
    <*> Reader.withDefault (.optional FrequencyScaling.reader) none "scaled" entries

def dump (c : RotaryConfig) : Value := .dict
  [(.text "theta", .real c.theta), (.text "scaled", (c.scaled.map (·.dump)).getD .null)]

end RotaryConfig
end StreamingLM
