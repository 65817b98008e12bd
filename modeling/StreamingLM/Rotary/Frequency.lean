import StreamingLM.Config.Rotary
import StreamingLM.Scalar

/-!
The inverse frequencies of the rotary encoding, and their stretching by parts.
-/
namespace StreamingLM

structure StretchFactors (α : Type) where
  scale : α
  low : α
  high : α
  context : α

variable {α : Type} [Scalar α]

def FrequencyScaling.factors (s : FrequencyScaling) : StretchFactors α where
  scale := Scalar.ofFloat s.scaleFactor
  low := Scalar.ofFloat s.lowFactor
  high := Scalar.ofFloat s.highFactor
  context := Scalar.ofInt s.oldContext

namespace StretchFactors

def tau : α := Scalar.ofFloat 6.283185307179586

/-- Where a wavelength lies between the cutoffs: zero at the long one, one at the short one. -/
def blend (s : StretchFactors α) (wavelength : α) : α :=
  (s.context / wavelength - s.low) / (s.high - s.low)

def blended (s : StretchFactors α) (wavelength freq : α) : α :=
  let smooth := s.blend wavelength
  (Scalar.one - smooth) * freq / s.scale + smooth * freq

/-- Keep a fast frequency, divide a slow one, and blend the two results in between; `turn` is the
angle of a full turn. -/
def stretchBy (turn : α) (s : StretchFactors α) (freq : α) : α :=
  let wavelength := turn / freq
  if Scalar.lt wavelength (s.context / s.high) then freq
  else if Scalar.lt (s.context / s.low) wavelength then freq / s.scale
  else s.blended wavelength freq

def stretch (s : StretchFactors α) (freq : α) : α := s.stretchBy tau freq

end StretchFactors

/-- The inverse frequency of each pair of rotated dimensions, before stretching. -/
def baseFrequencies (theta : α) (rotaryDim : Nat) : List α :=
  (List.range (rotaryDim / 2)).map fun (i : Nat) =>
    Scalar.one / Scalar.pow theta (Scalar.ofInt (2 * i) / Scalar.ofInt rotaryDim)

def RotaryConfig.frequencies (c : RotaryConfig) (rotaryDim : Nat) : List α :=
  let base := baseFrequencies (Scalar.ofFloat c.theta) rotaryDim
  match c.scaled with
  | some s => base.map s.factors.stretch
  | none => base

end StreamingLM
