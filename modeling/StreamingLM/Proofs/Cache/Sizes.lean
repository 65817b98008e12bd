import StreamingLM.Proofs.Cache.History

/-!
What no operation on the cache of a layer changes, whether it succeeds or is refused: the sizes of
the storage, and that there are as many keys as values.
-/
namespace StreamingLM

def Layout.use (l : Layout) (rows : Nat) (h : rows ≤ l.batch) : Layout := { l with rows, rows_le := h }

namespace SequenceBuffer

variable {α : Type}

/-- The storage of two buffers has the same sizes, whatever it holds. -/
structure SameSizes (b b' : SequenceBuffer α) : Prop where
  batch_eq : b.batch = b'.batch
  heads_eq : b.heads = b'.heads
  dim_eq : b.dim = b'.dim
  capacity_eq : b.capacity = b'.capacity

/-- The storage has the sizes of a layout. -/
structure Sized (b : SequenceBuffer α) (l : Layout) : Prop where
  batch_eq : b.batch = l.batch
  heads_eq : b.heads = l.heads
  dim_eq : b.dim = l.dim
  capacity_eq : b.capacity = l.capacity

variable {b b' b'' : SequenceBuffer α} {l : Layout}

theorem SameSizes.symm (h : b.SameSizes b') : b'.SameSizes b :=
  ⟨h.batch_eq.symm, h.heads_eq.symm, h.dim_eq.symm, h.capacity_eq.symm⟩

theorem SameSizes.trans (h : b.SameSizes b') (h' : b'.SameSizes b'') : b.SameSizes b'' :=
  ⟨h.batch_eq.trans h'.batch_eq, h.heads_eq.trans h'.heads_eq, h.dim_eq.trans h'.dim_eq,
    h.capacity_eq.trans h'.capacity_eq⟩

theorem Sized.sameSizes (h : b.Sized l) (h' : b'.Sized l) : b.SameSizes b' :=
  ⟨h.batch_eq.trans h'.batch_eq.symm, h.heads_eq.trans h'.heads_eq.symm,
    h.dim_eq.trans h'.dim_eq.symm, h.capacity_eq.trans h'.capacity_eq.symm⟩

theorem Sized.of_sameSizes (h : b.Sized l) (same : b'.SameSizes b) : b'.Sized l :=
  ⟨same.batch_eq.trans h.batch_eq, same.heads_eq.trans h.heads_eq, same.dim_eq.trans h.dim_eq,
    same.capacity_eq.trans h.capacity_eq⟩

theorem Holds.sized {content : List (Slot α)} (h : b.Holds l content) : b.Sized l :=
  ⟨h.batch_eq, h.heads_eq, h.dim_eq, h.capacity_eq⟩

theorem Sized.holds (h : b.Sized l) {rows : Nat} (hrows : rows ≤ l.batch) :
    b.Holds (l.use rows hrows) (b.history.map (·.take rows)) :=
  ⟨h.batch_eq, h.heads_eq, h.dim_eq, h.capacity_eq, rfl⟩

theorem Sized.reset (h : b.Sized l) : b.reset.Sized l :=
  ⟨h.batch_eq, h.heads_eq, h.dim_eq, h.capacity_eq⟩

structure Takes (b : SequenceBuffer α) (x : Block α) : Prop where
  fits : ¬(x.batch > b.batch ∨ x.heads ≠ b.heads ∨ x.dim ≠ b.dim)
  room : b.len + x.slots.length ≤ b.capacity

theorem takes_iff (same : b.SameSizes b') (len_eq : b.len = b'.len) (x : Block α) :
    b.Takes x ↔ b'.Takes x := by
  constructor <;> intro h <;> obtain ⟨hfits, hroom⟩ := h
  · exact ⟨by rwa [← same.batch_eq, ← same.heads_eq, ← same.dim_eq],
      by rwa [← same.capacity_eq, ← len_eq]⟩
  · exact ⟨by rwa [same.batch_eq, same.heads_eq, same.dim_eq], by rwa [same.capacity_eq, len_eq]⟩

theorem append_refused (same : b.SameSizes b') (len_eq : b.len = b'.len) {x : Block α}
    (h : ¬b.Takes x) : ∃ f, b.append x = .error f ∧ b'.append x = .error f := by
  have hcapacity := same.capacity_eq
  by_cases hfits : x.batch > b.batch ∨ x.heads ≠ b.heads ∨ x.dim ≠ b.dim
  · have hfits' : x.batch > b'.batch ∨ x.heads ≠ b'.heads ∨ x.dim ≠ b'.dim := by
      rwa [same.batch_eq, same.heads_eq, same.dim_eq] at hfits
    have hshape : b.shape = b'.shape := by
      rw [shape, shape, same.batch_eq, same.heads_eq, same.dim_eq, same.capacity_eq]
    exact ⟨_, by rw [append, if_pos hfits], by rw [append, if_pos hfits', hshape]⟩
  · have hfits' : ¬(x.batch > b'.batch ∨ x.heads ≠ b'.heads ∨ x.dim ≠ b'.dim) := by
      rwa [same.batch_eq, same.heads_eq, same.dim_eq] at hfits
    have hroom : b.capacity < b.len + x.slots.length := Nat.not_le.mp fun hroom => h ⟨hfits, hroom⟩
    refine ⟨_, by rw [append, if_neg hfits, dif_pos hroom], ?_⟩
    rw [append, if_neg hfits', dif_pos (by omega), len_eq, hcapacity]

theorem append_taken {x : Block α} (h : b.Takes x) :
    ∃ grown, b.append x = .ok (grown, grown.view x.batch) ∧ grown.SameSizes b ∧
      grown.len = b.len + x.slots.length ∧
      grown.history =
        b.history ++ (overwriteAll x.slots (b.storage.drop b.len)).take x.slots.length := by
  obtain ⟨grown, hok, hbatch, hheads, hdim, hcapacity, hhistory⟩ := append_fits h.fits h.room
  have hlen := congrArg List.length hhistory
  have htail : x.slots.length ≤ (b.storage.drop b.len).length := by
    rw [List.length_drop]
    exact Nat.le_sub_of_add_le' h.room
  rw [List.length_append, List.length_take, length_overwriteAll, length_history, length_history,
    Nat.min_eq_left htail] at hlen
  exact ⟨grown, hok, ⟨hbatch, hheads, hdim, hcapacity⟩, hlen, hhistory⟩

variable [Scalar α]

theorem evict_cases (b : SequenceBuffer α) (n : Int) :
    (b.len : Int) < n ∧ b.evict n = .error (.evictTooMany n b.len) ∨
      n ≤ b.len ∧ ∃ shorter, b.evict n = .ok shorter ∧ shorter.SameSizes b ∧
        shorter.history = b.history.drop n.toNat := by
  unfold evict
  by_cases hnone : n ≤ 0
  · refine .inr ⟨by omega, b, if_pos hnone, ⟨rfl, rfl, rfl, rfl⟩, ?_⟩
    rw [Int.toNat_of_nonpos hnone, List.drop_zero]
  · by_cases hmany : (b.len : Int) < n
    · exact .inl ⟨hmany, by rw [if_neg hnone, dif_pos hmany]⟩
    · rw [if_neg hnone, dif_neg hmany]
      refine .inr ⟨Int.not_lt.mp hmany, _, rfl, ⟨rfl, rfl, rfl, ?_⟩, b.take_compacted n.toNat⟩
      exact b.length_compacted n.toNat (by omega)

end SequenceBuffer

namespace KeyValueCache

variable {α : Type}

/-- Keys and values are stored in the sizes of a layout, and there are as many of the ones as of the
others. -/
structure Sized (c : KeyValueCache α) (l : Layout) : Prop where
  key : c.key.Sized l
  value : c.value.Sized l
  sync : c.key.len = c.value.len

variable {c : KeyValueCache α} {l : Layout}

theorem Holds.sized {entries : List (Entry α)} (h : c.Holds l entries) : c.Sized l :=
  ⟨h.key.sized, h.value.sized, by rw [h.key.len_eq, h.value.len_eq, List.length_map, List.length_map]⟩

theorem Sized.holds (h : c.Sized l) {rows : Nat} (hrows : rows ≤ l.batch) :
    ∃ entries, c.Holds (l.use rows hrows) entries ∧ entries.length = c.len := by
  let keys := c.key.history.map (·.take rows)
  let values := c.value.history.map (·.take rows)
  have hkeys : keys.length = c.len := by simp [keys, KeyValueCache.len]
  have hvalues : values.length = c.len := by simp [values, KeyValueCache.len, h.sync]
  have hfst : (keys.zip values).map (·.1) = keys := List.map_fst_zip (by omega)
  have hsnd : (keys.zip values).map (·.2) = values := List.map_snd_zip (by omega)
  refine ⟨keys.zip values, ⟨hfst.symm ▸ h.key.holds hrows, hsnd.symm ▸ h.value.holds hrows⟩, ?_⟩
  rw [List.length_zip, hkeys, hvalues, Nat.min_self]

theorem Sized.reset (h : c.Sized l) : c.reset.Sized l := ⟨h.key.reset, h.value.reset, rfl⟩

theorem Sized.checkSync (h : c.Sized l) (operation : String) : c.checkSync operation = .ok () := by
  simp [KeyValueCache.checkSync, inSync, h.sync]

theorem Sized.forward (h : c.Sized l) {k v : Block α} (same : k.shape = v.shape) :
    (c.forward k v).2.Sized l ∧ (c.forward k v).2.len ≤ c.len + k.slots.length := by
  simp only [Block.shape, List.cons.injEq, and_true] at same
  obtain ⟨hbatch, hheads, hlen, hdim⟩ := same
  have hboth := SequenceBuffer.takes_iff (h.key.sameSizes h.value) h.sync k
  unfold KeyValueCache.forward
  by_cases htakes : c.key.Takes k
  · have hvtakes : c.value.Takes v := by
      obtain ⟨hfits, hroom⟩ := hboth.mp htakes
      exact ⟨by rwa [← hbatch, ← hheads, ← hdim], by rwa [← hlen]⟩
    obtain ⟨key, hkey, hk, hklen, -⟩ := SequenceBuffer.append_taken htakes
    obtain ⟨value, hvalue, hv, hvlen, -⟩ := SequenceBuffer.append_taken hvtakes
    simp only [join, hkey, hvalue]
    exact ⟨⟨h.key.of_sameSizes hk, h.value.of_sameSizes hv, by rw [hklen, hvlen, h.sync, hlen]⟩,
      Nat.le_of_eq hklen⟩
  · obtain ⟨f, hkey, -⟩ := SequenceBuffer.append_refused (h.key.sameSizes h.key) rfl htakes
    simp only [join, hkey]
    exact ⟨h, Nat.le_add_right _ _⟩

theorem Sized.forward_misfit (h : c.Sized l) {k : Block α} (v : Block α) (many : l.batch < k.batch) :
    ∃ f, c.forward k v = (.error f, c) := by
  have hmany : k.batch > c.key.batch := by rw [h.key.batch_eq]; exact many
  exact ⟨_, by rw [KeyValueCache.forward, SequenceBuffer.append, if_pos (.inl hmany)]; rfl⟩

/-- The oldest `n` keys and values are gone, and there were so many. -/
structure Dropped (c : KeyValueCache α) (n : Int) (after : KeyValueCache α) : Prop where
  many : n ≤ c.len
  key_eq : after.key.history = c.key.history.drop n.toNat
  value_eq : after.value.history = c.value.history.drop n.toNat

theorem Dropped.len_eq {n : Int} {after : KeyValueCache α} (h : c.Dropped n after) :
    after.len = c.len - n.toNat := by
  simpa [KeyValueCache.len] using congrArg List.length h.key_eq

theorem Dropped.none {n : Int} (h : n ≤ 0) : c.Dropped n c where
  many := by omega
  key_eq := by rw [Int.toNat_of_nonpos h, List.drop_zero]
  value_eq := by rw [Int.toNat_of_nonpos h, List.drop_zero]

variable [Scalar α]

theorem Sized.evict (h : c.Sized l) (n : Int) :
    (∃ f, c.evict n = (.error f, c)) ∨
      ∃ shorter, c.evict n = (.ok (), shorter) ∧ shorter.Sized l ∧ c.Dropped n shorter := by
  have hsync := h.sync
  unfold KeyValueCache.evict
  obtain ⟨hmany, hkey⟩ | ⟨hfew, key, hkey, hk, hkept⟩ := c.key.evict_cases n
  · exact .inl ⟨_, by rw [hkey]⟩
  · obtain ⟨hmany, -⟩ | ⟨-, value, hvalue, hv, hvkept⟩ := c.value.evict_cases n
    · omega
    · have hlens := congrArg List.length hkept
      have hvlens := congrArg List.length hvkept
      rw [List.length_drop, SequenceBuffer.length_history, SequenceBuffer.length_history]
        at hlens hvlens
      have hshorter : (⟨key, value⟩ : KeyValueCache α).Sized l :=
        ⟨h.key.of_sameSizes hk, h.value.of_sameSizes hv, by simp only; omega⟩
      refine .inr ⟨⟨key, value⟩, ?_, hshorter, hfew, hkept, hvkept⟩
      simp only [hkey, hvalue, hshorter.checkSync]

end KeyValueCache

end StreamingLM
