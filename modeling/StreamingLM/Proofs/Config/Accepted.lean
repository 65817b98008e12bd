import StreamingLM.Config.Model

/-!
What is known of settings that a reader has accepted.
-/
namespace StreamingLM

namespace Validated

variable {α β : Type}

@[simp] theorem map_valid (f : α → β) (a : α) : f <$> valid a = valid (f a) := rfl

@[simp] theorem seq_valid (f : α → β) (a : α) : valid f <*> valid a = valid (f a) := rfl

@[simp] theorem under_valid (name : String) (a : α) : under name (valid a) = valid a := rfl

theorem map_eq_valid {f : α → β} {x : Validated α} {b : β} :
    f <$> x = .valid b ↔ ∃ a, x = .valid a ∧ f a = b := by
  cases x <;> simp [Functor.map, map]

theorem seq_eq_valid {f : Validated (α → β)} {x : Validated α} {b : β} :
    f <*> x = .valid b ↔ ∃ g a, f = .valid g ∧ x = .valid a ∧ g a = b := by
  cases f <;> cases x <;> simp [Seq.seq, seq]

theorem keeping_eq_valid {x : Validated α} {rule : α → Option Violation} {a : α} :
    x.keeping rule = .valid a ↔ x = .valid a ∧ rule a = none := by
  cases x with
  | invalid issues => simp [keeping]
  | valid b =>
    cases h : rule b with
    | none =>
      simp only [keeping, h, valid.injEq]
      constructor
      · rintro rfl
        exact ⟨rfl, h⟩
      · exact fun hb => hb.1
    | some broken =>
      simp only [keeping, h, complain, valid.injEq, reduceCtorEq, false_iff, not_and]
      rintro rfl hnone
      rw [h] at hnone
      cases hnone

theorem under_eq_valid {name : String} {x : Validated α} {a : α} :
    x.under name = .valid a ↔ x = .valid a := by
  cases x <;> simp [under]

end Validated

namespace Reader

section Fields

variable {α : Type} {reader : Reader α} {default a : α} {name : String}
  {entries : List (Value × Value)} {v : Value}

theorem withDefault_valid (ok : withDefault reader default name entries = .valid a) :
    a = default ∨ ∃ v, reader v = .valid a := by
  unfold withDefault at ok
  split at ok
  · exact .inr ⟨_, Validated.under_eq_valid.mp ok⟩
  · cases ok
    exact .inl rfl

theorem withDefault_found (found : Value.lookup entries name = some v) (ok : reader v = .valid a) :
    withDefault reader default name entries = .valid a := by
  rw [withDefault, found]
  exact Validated.under_eq_valid.mpr ok

theorem required_valid (ok : required reader name entries = .valid a) :
    ∃ v, reader v = .valid a := by
  unfold required at ok
  split at ok
  · exact ⟨_, Validated.under_eq_valid.mp ok⟩
  · cases ok

end Fields

section Positive

variable {name : String} {entries : List (Value × Value)} {v : Value} {n default : Int} {x : Float}

theorem positiveInt_pos (ok : positiveInt v = .valid n) : 0 < n := by
  obtain ⟨-, hrule⟩ := Validated.keeping_eq_valid.mp ok
  unfold positive at hrule
  split at hrule
  · cases hrule
  · omega

theorem positiveInt_ok (pos : 0 < n) : positiveInt (.int n) = .valid n := by
  refine Validated.keeping_eq_valid.mpr ⟨rfl, ?_⟩
  rw [positive, if_neg (by omega)]

theorem withDefault_pos (ok : withDefault positiveInt default name entries = .valid n)
    (h : 0 < default) : 0 < n := by
  rcases withDefault_valid ok with rfl | ⟨v, hv⟩
  · exact h
  · exact positiveInt_pos hv

theorem required_pos (ok : required positiveInt name entries = .valid n) : 0 < n := by
  obtain ⟨v, hv⟩ := required_valid ok
  exact positiveInt_pos hv

theorem optional_pos
    (ok : withDefault (optional positiveInt) none name entries = .valid (some n)) : 0 < n := by
  rcases withDefault_valid ok with hnone | ⟨v, hv⟩
  · cases hnone
  · cases v with
    | null => cases hv
    | _ =>
      obtain ⟨m, hm, heq⟩ := Validated.map_eq_valid.mp hv
      cases heq
      exact positiveInt_pos hm

theorem positiveReal_not_le (ok : positiveReal v = .valid x) : ¬x ≤ 0.0 := by
  obtain ⟨-, hrule⟩ := Validated.keeping_eq_valid.mp ok
  split at hrule
  · cases hrule
  · assumption

theorem withDefault_not_le {default : Float}
    (ok : withDefault positiveReal default name entries = .valid x) (h : ¬default ≤ 0.0) :
    ¬x ≤ 0.0 := by
  rcases withDefault_valid ok with rfl | ⟨v, hv⟩
  · exact h
  · exact positiveReal_not_le hv

end Positive

end Reader

namespace LlamaConfig

/-- Each setting of a model is what its reader makes of the entries of a mapping. -/
structure ReadFrom (c : LlamaConfig) (entries : List (Value × Value)) : Prop where
  width : Reader.withDefault .positiveInt 4096 "d_model" entries = .valid c.width
  hidden : Reader.required .positiveInt "hidden_size" entries = .valid c.hidden
  layers : Reader.withDefault .positiveInt 32 "n_layers" entries = .valid c.layers
  heads : Reader.withDefault .positiveInt 32 "n_heads" entries = .valid c.heads
  sharedHeads :
    Reader.withDefault (.optional .positiveInt) none "n_kv_heads" entries = .valid c.sharedHeads
  vocabSize : Reader.required .positiveInt "vocab_size" entries = .valid c.vocabSize
  normEps : Reader.withDefault .positiveReal 1e-5 "norm_eps" entries = .valid c.normEps
  window : Reader.withDefault .positiveInt 128 "max_seq_len" entries = .valid c.window
  batch : Reader.withDefault .positiveInt 1 "max_batch_size" entries = .valid c.batch

theorem settings_valid {v : Value} {c : LlamaConfig} (ok : reader v = .valid c) :
    ∃ entries, c.ReadFrom entries := by
  cases v with
  | dict entries =>
    obtain ⟨hfields, -⟩ := Validated.keeping_eq_valid.mp ok
    simp only [Validated.seq_eq_valid, Validated.map_eq_valid] at hfields
    obtain ⟨_, _, ⟨_, _, ⟨_, _, ⟨_, _, hfront, hbatch, rfl⟩, -, rfl⟩, -, rfl⟩, -, rfl⟩ := hfields
    obtain ⟨_, _, ⟨_, _, ⟨_, _, ⟨_, _, hfront, hvocab, rfl⟩, heps, rfl⟩, -, rfl⟩, hwindow, rfl⟩ := hfront
    obtain ⟨_, _, ⟨_, _, hfront, hheads, rfl⟩, hshared, rfl⟩ := hfront
    obtain ⟨_, _, ⟨_, _, ⟨_, hwidth, rfl⟩, hhidden, rfl⟩, hlayers, rfl⟩ := hfront
    exact ⟨entries, hwidth, hhidden, hlayers, hheads, hshared, hvocab, heps, hwindow, hbatch⟩
  | _ => cases ok

theorem batch_pos {v : Value} {c : LlamaConfig} (ok : reader v = .valid c) : 0 < c.batch := by
  obtain ⟨entries, read⟩ := settings_valid ok
  exact Reader.withDefault_pos read.batch (by decide)

theorem layers_pos {v : Value} {c : LlamaConfig} (ok : reader v = .valid c) : 0 < c.layers := by
  obtain ⟨entries, read⟩ := settings_valid ok
  exact Reader.withDefault_pos read.layers (by decide)

theorem vocabSize_pos {v : Value} {c : LlamaConfig} (ok : reader v = .valid c) :
    0 < c.vocabSize := by
  obtain ⟨entries, read⟩ := settings_valid ok
  exact Reader.required_pos read.vocabSize

end LlamaConfig
end StreamingLM
