import StreamingLM.Model.State
import StreamingLM.Proofs.Cache.Window
import StreamingLM.Proofs.Rotary.Anchor

/-!
States of decoding. Between steps the caches are even and the table is anchored, which is what a
step needs to be prepared in both.
-/
namespace StreamingLM

variable {α : Type} [Scalar α]

namespace DecodeState

/-- The caches are even and the table is anchored at the position reached. -/
structure Holds (s : DecodeState α) (l : Layout) (dim capacity position held : Nat)
    (logs : List (List (Entry α))) : Prop where
  caches : s.caches.Holds l held 0 logs
  tracker : s.tracker.Anchored dim capacity position

theorem prepare_holds {s : DecodeState α} {l : Layout} {dim capacity position held : Nat}
    {logs : List (List (Entry α))} (h : s.Holds l dim capacity position held logs)
    {count : Nat} (hpos : 1 ≤ count) (hcount : count ≤ l.capacity)
    (hcapacity : l.capacity ≤ capacity) :
    let kept := LayerCacheSet.kept l.capacity held count
    ∃ ready : DecodeState α,
      s.prepare count = (.ok (LayerCacheSet.maskOf count (kept + count)), ready) ∧
      s.tracker.prepare count = .ok ready.tracker ∧
      ready.caches.Holds l kept count (logs.map (·.drop (held - kept))) ∧
      ready.tracker.Ready dim capacity position count := by
  intro kept
  obtain ⟨caches, hprepare, hc⟩ := LayerCacheSet.prepare_holds h.caches hpos hcount
  obtain ⟨tracker, htracker, ht⟩ := RotaryTracker.prepare_ready h.tracker hpos
    (hcount.trans hcapacity)
  exact ⟨⟨caches, tracker⟩, by simp only [prepare, hprepare, htracker, kept], htracker, hc, ht⟩

theorem prepare_tooLong {s : DecodeState α} {count : Int} (long : s.caches.window < count) :
    s.prepare count = (.error (.stepTooLong count s.caches.window), s) := by
  have hlong : s.caches.prepare count =
      (.error (.stepTooLong count s.caches.window), s.caches) := by
    rw [LayerCacheSet.prepare, if_pos long]
  simp only [prepare, hlong]

theorem Holds.reset {s : DecodeState α} {l : Layout} {dim capacity position held : Nat}
    {logs : List (List (Entry α))} (h : s.Holds l dim capacity position held logs) :
    s.reset.Holds l dim capacity 0 0 (logs.map fun _ => []) where
  caches := h.caches.reset
  tracker := h.tracker.reset

end DecodeState

end StreamingLM
