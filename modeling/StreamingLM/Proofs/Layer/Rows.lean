import StreamingLM.Layer.Attention
import StreamingLM.Proofs.Layer.CachedStep
import StreamingLM.Proofs.Outcome

/-!
What a layer does in a step, whatever becomes of it. Either its queries and keys cannot be rotated,
which does not depend on the cache and leaves it as it is, or they are brought to the cache in blocks
that have the sizes of the step.
-/
namespace StreamingLM

open Outcome

variable {α : Type}

theorem RotaryTable.length_of_rowsAt {t : RotaryTable α} {index : Int} {count : Nat}
    {rows : List (List (Turn α))} (ok : t.rowsAt index count = .ok rows) : rows.length = count := by
  unfold rowsAt at ok
  split at ok
  · cases ok
  · have hcapacity : t.rows.length = t.capacity := rfl
    cases ok
    rw [List.length_take, List.length_drop]
    omega

variable [Scalar α]

/-- A rotated block has the sizes of the block, and each of its positions has those that it had. -/
theorem RotaryTracker.applyBlock_keeps {t : RotaryTracker α} {x y : Block α}
    (ok : t.applyBlock x = .ok y) :
    y.shape = x.shape ∧ ∀ rows : Nat, (∀ slot ∈ x.slots, slot.length = rows) →
      ∀ slot ∈ y.slots, slot.length = rows := by
  obtain ⟨index, -, hrest⟩ := bind_eq_ok.mp ok
  obtain ⟨turns, hturns, hrotate⟩ := bind_eq_ok.mp hrest
  have hlength := RotaryTable.length_of_rowsAt hturns
  unfold RotaryTable.rotateBlock at hrotate
  split at hrotate
  · cases hrotate
  · cases hrotate
    refine ⟨by simp [Block.shape, hlength], fun rows full slot hslot => ?_⟩
    obtain ⟨i, hi, rfl⟩ := List.mem_iff_getElem.mp hslot
    simp only [List.getElem_zipWith, Turn.length_rotateSlot]
    exact full _ (List.getElem_mem _)

namespace Attention

/-- Rotated queries and keys, and values, of the sizes of a step. -/
structure Brings (batch : Nat) (x : List (List (List α))) (q k v : Block α) : Prop where
  queries : q.batch = batch ∧ q.slots.length = x.length
  keys : k.batch = batch ∧ k.slots.length = x.length
  shape_eq : k.shape = v.shape
  full : ∀ rows : Nat, (∀ r ∈ x, r.length = rows) →
    (∀ slot ∈ k.slots, slot.length = rows) ∧ ∀ slot ∈ v.slots, slot.length = rows

/-- The cache takes in keys and values, and queries attend to what it then holds. -/
def overCache (a : Attention α) (q k v : Block α) (count : Nat) (mask : Option Mask)
    (cache : KeyValueCache α) : Attempt (KeyValueCache α) (List (List (List α))) :=
  match cache.forward k v with
  | (.error f, cache) => (.error f, cache)
  | (.ok (keys, values), cache) =>
    ((stepMask mask count keys.slots.length).map fun m => a.output (a.attend q keys values m), cache)

variable (a : Attention α)

theorem project_keeps (l : Linear α) (heads dim batch : Nat) (x : List (List (List α))) :
    (project l heads dim batch x).slots.length = x.length ∧
      ∀ rows : Nat, (∀ r ∈ x, r.length = rows) →
        ∀ slot ∈ (project l heads dim batch x).slots, slot.length = rows := by
  refine ⟨List.length_map _, fun rows full slot hslot => ?_⟩
  obtain ⟨r, hr, rfl⟩ := List.mem_map.mp hslot
  rw [length_projectRows]
  exact full r hr

theorem stepCached_cases (batch : Nat) (x : List (List (List α))) (tracker : RotaryTracker α) :
    (∃ f, ∀ cache mask, a.stepCached batch x cache tracker mask = (.error f, cache)) ∨
      ∃ q k v, Brings batch x q k v ∧ ∀ cache mask,
        a.stepCached batch x cache tracker mask = a.overCache q k v x.length mask cache := by
  cases hq : tracker.applyBlock (project a.wq a.heads a.headDim batch x) with
  | error f => exact .inl ⟨f, fun cache mask => by simp only [stepCached, hq]⟩
  | ok q =>
    cases hk : tracker.applyBlock (project a.wk a.keyHeads a.headDim batch x) with
    | error f => exact .inl ⟨f, fun cache mask => by simp only [stepCached, hq, hk]⟩
    | ok k =>
      obtain ⟨hqshape, -⟩ := RotaryTracker.applyBlock_keeps hq
      obtain ⟨hkshape, hkfull⟩ := RotaryTracker.applyBlock_keeps hk
      have hkeys := project_keeps a.wk a.keyHeads a.headDim batch x
      have hvalues := project_keeps a.wv a.keyHeads a.headDim batch x
      simp only [Block.shape, project, List.cons.injEq, List.length_map, and_true] at hqshape hkshape
      refine .inr ⟨q, k, project a.wv a.keyHeads a.headDim batch x,
        ⟨⟨hqshape.1, hqshape.2.2.1⟩, ⟨hkshape.1, hkshape.2.2.1⟩, ?_, fun rows full =>
          ⟨hkfull rows (hkeys.2 rows full), hvalues.2 rows full⟩⟩,
        fun cache mask => by simp only [stepCached, hq, hk]; rfl⟩
      simp only [Block.shape, project, List.length_map, hkshape]

theorem snd_overCache (q k v : Block α) (count : Nat) (mask : Option Mask)
    (cache : KeyValueCache α) :
    (a.overCache q k v count mask cache).2 = (cache.forward k v).2 := by
  unfold overCache
  split <;> simp_all

theorem overCache_shape {q k v : Block α} {count : Nat} {mask : Option Mask}
    {cache : KeyValueCache α} {y : List (List (List α))}
    (ok : (a.overCache q k v count mask cache).1 = .ok y) :
    y.length = q.slots.length ∧ ∀ r ∈ y, r.length = q.batch := by
  unfold overCache at ok
  split at ok
  · cases ok
  · obtain ⟨m, -, rfl⟩ := map_eq_ok.mp ok
    refine ⟨by simp [output, attend], fun r hr => ?_⟩
    simp only [output, attend, List.mem_map] at hr
    obtain ⟨slot, ⟨query, -, rfl⟩, rfl⟩ := hr
    simp [outputRows, attendSlot]

end Attention
end StreamingLM
