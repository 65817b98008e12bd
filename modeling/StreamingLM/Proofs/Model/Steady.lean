import StreamingLM.Proofs.Model.Shape

/-!
States of decoding that a model can be left in. From every one of them a step of at most a window
of known tokens succeeds, a longer one is refused, and scoring needs nothing but known tokens.
-/
namespace StreamingLM

namespace LlamaConfig

/-- A token of the vocabulary. -/
def Knows (c : LlamaConfig) (id : Int) : Prop := 0 ≤ id ∧ id < c.vocabSize

instance (c : LlamaConfig) (id : Int) : Decidable (c.Knows id) :=
  inferInstanceAs (Decidable (_ ∧ _))

/-- The sizes of the caches when one sequence is decoded. -/
def solo (c : LlamaConfig) (single : 0 < c.batch) : Layout := c.layout 1 (by omega)

end LlamaConfig

variable {α : Type} [Scalar α]

namespace DecodeState

def Steady (s : DecodeState α) (c : LlamaConfig) (single : 0 < c.batch) : Prop :=
  ∃ (position held : Nat) (logs : List (List (Entry α))), logs.length = c.layers.toNat ∧
    s.Holds (c.solo single) (c.solo single).dim (c.window * 5).toNat position held logs

theorem ofConfig_steady {c : LlamaConfig} {s : DecodeState α} (ok : ofConfig c = .ok s)
    (single : 0 < c.batch) : s.Steady c single := by
  have hrows : 1 ≤ c.batch.toNat := by omega
  obtain ⟨-, -, h⟩ := ofConfig_holds ok hrows
  exact ⟨0, 0, _, by simp, h⟩

theorem Steady.reset {s : DecodeState α} {c : LlamaConfig} {single : 0 < c.batch}
    (h : s.Steady c single) : s.reset.Steady c single := by
  obtain ⟨position, held, logs, hlogs, hs⟩ := h
  exact ⟨0, 0, _, by simpa using hlogs, hs.reset⟩

end DecodeState

namespace Transformer

/-- Each position of the scores has, for each batch row, a score for each token. -/
structure Scored (rows count vocab : Nat) (x : Steps α) : Prop where
  isStep : IsStep rows count x
  scores : ∀ vectors ∈ x, ∀ v ∈ vectors, v.length = vocab

theorem scores_scored {t : Transformer α} {vocab rows count : Nat} (speaks : t.Speaks vocab)
    {x : Steps α} (h : IsStep rows count x) : Scored rows count vocab (t.scores x) := by
  refine ⟨⟨?_, DecoderBlock.rows_mapSteps _ h.full⟩, ?_⟩
  · rw [scores, DecoderBlock.length_mapSteps, h.length_eq]
  · intro vectors hvectors v hv
    obtain ⟨old, -, rfl⟩ := List.mem_map.mp hvectors
    obtain ⟨w, -, rfl⟩ := List.mem_map.mp hv
    exact speaks.output _

variable {c : LlamaConfig} {single : 0 < c.batch} {t : Transformer α} {s : DecodeState α}

theorem embed_column (speaks : t.Speaks c.vocabSize.toNat) {ids : List Int}
    (known : ∀ id ∈ ids, c.Knows id) :
    ∃ x, t.embed (ids.map fun id => [id]) = .ok x ∧
      IsStep 1 (ids.map fun id => [id]).length x := by
  have hknown : ∀ row ∈ ids.map fun id => [id],
      ∀ id ∈ row, 0 ≤ id ∧ id < t.embeddings.length := by
    intro row hrow id hid
    obtain ⟨i, hi, rfl⟩ := List.mem_map.mp hrow
    obtain rfl := List.mem_singleton.mp hid
    have hone : 0 ≤ id ∧ id < c.vocabSize := known id hi
    rw [speaks.embeddings]
    omega
  obtain ⟨x, hx⟩ := embed_ok hknown
  exact ⟨x, hx, embed_isStep hx (by simp)⟩

theorem step_steady (fit : t.Fits (c.solo single) c.layers.toNat)
    (speaks : t.Speaks c.vocabSize.toNat) (h : s.Steady c single) {ids : List Int}
    (nonempty : ids ≠ []) (short : ids.length ≤ c.window) (known : ∀ id ∈ ids, c.Knows id) :
    ∃ steps after, t.step s 1 (ids.map fun id => [id]) = (.ok steps, after) ∧
      after.Steady c single ∧ Scored 1 ids.length c.vocabSize.toNat steps := by
  obtain ⟨position, held, logs, hlogs, hs⟩ := h
  have hpos : 1 ≤ ids.length := List.length_pos_iff.mpr nonempty
  have hlen : (ids.map fun id => [id]).length = ids.length := List.length_map ..
  have hcount : ids.length ≤ c.window.toNat := by omega
  have hcapacity : c.window.toNat ≤ (c.window * 5).toNat := by omega
  obtain ⟨x, hx, hstep⟩ := embed_column speaks known
  obtain ⟨after, -, -, hok, hover, hafter⟩ := step_holds (hlogs ▸ fit) hs le_rfl hcapacity
    (hlen ▸ hpos) (hlen ▸ hcount) hx hstep
  refine ⟨_, after, hok, ⟨_, _, _, ?_, hafter⟩, hlen ▸ scores_scored speaks hover⟩
  rw [length_stepLogs, List.length_map, hlogs]

/-- A step longer than the window is refused in any state, and nothing has changed. -/
theorem step_tooLong {tokens : List (List Int)} (long : s.caches.window < tokens.length)
    (batch : Nat) :
    t.step s batch tokens = (.error (.stepTooLong tokens.length s.caches.window), s) := by
  rw [step, DecodeState.prepare_tooLong long]

theorem forwardMasked_steady (fit : t.Fits (c.solo single) c.layers.toNat)
    (speaks : t.Speaks c.vocabSize.toNat) (h : s.Steady c single) {ids : List Int}
    (known : ∀ id ∈ ids, c.Knows id) :
    ∃ steps, t.forwardMasked s.tracker.table 1 (ids.map fun id => [id]) = .ok steps := by
  obtain ⟨position, held, logs, -, hs⟩ := h
  obtain ⟨x, hx, hstep⟩ := embed_column speaks known
  exact ⟨_, forwardMasked_eq fit (le_of_eq hs.tracker.dim_eq) hx hstep⟩

end Transformer
end StreamingLM
