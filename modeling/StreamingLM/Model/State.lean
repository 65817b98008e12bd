import StreamingLM.Cache.LayerSet
import StreamingLM.Layer.Attention

/-!
The state of decoding: the caches of all layers and the position. A step is prepared in both before
any layer runs.
-/
namespace StreamingLM

structure DecodeState (α : Type) where
  caches : LayerCacheSet α
  tracker : RotaryTracker α

namespace DecodeState

variable {α : Type} [Scalar α]

def ofConfig (c : LlamaConfig) : Except Failure (DecodeState α) := do
  let caches ← LayerCacheSet.ofConfig c
  return { caches, tracker := ← RotaryTracker.ofConfig c }

/-- Make room for a step and advance by it. What the caches did stays when the tracker refuses. -/
def prepare (s : DecodeState α) (count : Int) : Attempt (DecodeState α) (Option Mask) :=
  match s.caches.prepare count with
  | (.error f, caches) => (.error f, { s with caches })
  | (.ok mask, caches) =>
    match s.tracker.prepare count with
    | .error f => (.error f, { s with caches })
    | .ok tracker => (.ok mask, { caches, tracker })

/-- Advance by a step without making room for it. -/
def advance (s : DecodeState α) (count : Int) : Attempt (DecodeState α) Unit :=
  match s.tracker.prepare count with
  | .error f => (.error f, s)
  | .ok tracker => (.ok (), { s with tracker })

def reset (s : DecodeState α) : DecodeState α :=
  { caches := s.caches.reset, tracker := s.tracker.reset }

end DecodeState

namespace Attention

variable {α : Type} [Scalar α]

/-- The extent of a tensor along its second axis, which counts positions. -/
def stepLength (x : Tensor α) : Except Failure Nat :=
  match x.shape with
  | _ :: n :: _ => .ok n
  | _ => .error .index

/-- Attend against the cache of the first layer of a state, in the step that was prepared. -/
def onFirst (a : Attention α) (s : DecodeState α) (tracker : Option (RotaryTracker α))
    (x : Tensor α) (mask : Option Mask) : Attempt (DecodeState α) (Tensor α) :=
  let (result, cache) := a.forward x s.caches.layers.head? tracker mask none
  (result, { s with caches := { s.caches with layers := cache.toList ++ s.caches.layers.drop 1 } })

def step (a : Attention α) (s : DecodeState α) (x : Tensor α) :
    Attempt (DecodeState α) (Tensor α) :=
  match stepLength x with
  | .error f => (.error f, s)
  | .ok n =>
    match s.prepare n with
    | (.error f, s) => (.error f, s)
    | (.ok mask, s) => a.onFirst s (some s.tracker) x mask

def unmaskedStep (a : Attention α) (s : DecodeState α) (x : Tensor α) :
    Attempt (DecodeState α) (Tensor α) :=
  match stepLength x with
  | .error f => (.error f, s)
  | .ok n =>
    match s.advance n with
    | (.error f, s) => (.error f, s)
    | (.ok (), s) => a.onFirst s (some s.tracker) x none

end Attention
end StreamingLM
