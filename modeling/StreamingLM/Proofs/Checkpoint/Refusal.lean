import StreamingLM.Proofs.Checkpoint.Loading

/-!
Loads that fail. Tensors are copied before they are judged, so a load that is refused for a name or a
shape has already overwritten every parameter that was offered a tensor of its own shape. Main
statement: what such a load reports and what it leaves, and that only one that lacks names to be
translated leaves the parameters alone for certain.
-/
namespace StreamingLM
namespace Checkpoint

variable {α : Type} {p state : Parameters α}

/-- The tensor that a parameter is offered in its own shape, if there is one. -/
def offered (state : Parameters α) (entry : String × Tensor α) : Option (Tensor α) :=
  (state.lookup entry.1).filter fun new => new.shape = entry.2.shape

theorem install_eq (p state : Parameters α) :
    install p state = p.map fun entry => (entry.1, (offered state entry).getD entry.2) := by
  refine List.map_congr_left fun entry _ => ?_
  obtain ⟨name, old⟩ := entry
  simp only [installOne, offered]
  cases state.lookup name with
  | none => rfl
  | some new => by_cases hshape : new.shape = old.shape <;> simp [Option.filter, hshape]

theorem install_eq_self_iff : install p state = p ↔
    ∀ entry ∈ p, ∀ new, offered state entry = some new → new = entry.2 := by
  rw [install_eq]
  nth_rewrite 2 [← List.map_id p]
  rw [List.map_inj_left]
  refine forall₂_congr fun entry _ => ?_
  cases offered state entry <;> simp [Prod.ext_iff]

theorem misshapen_iff : misshapen p state = true ↔
    ∃ entry ∈ p, ∃ new, state.lookup entry.1 = some new ∧ new.shape ≠ entry.2.shape := by
  rw [misshapen, List.any_eq_true]
  refine exists_congr fun entry => and_congr_right fun _ => ?_
  obtain ⟨name, old⟩ := entry
  dsimp only
  cases state.lookup name <;> simp

theorem mem_missing {name : String} : name ∈ missing p state ↔
    name ∈ p.map Prod.fst ∧ name ∉ state.map Prod.fst := by
  rw [missing, List.mem_filter, Bool.not_eq_true', Bool.eq_false_iff, ne_eq, has_iff]

theorem home_mem {all : List String} (root : "" ∈ all) (name : String) : home all name ∈ all := by
  have hfold : ∀ (scopes : List String) (best : String), best ∈ all → scopes ⊆ all →
      scopes.foldl (fun best scope =>
        if scope.isPrefixOf name && best.length < scope.length then scope else best) best ∈ all := by
    intro scopes
    induction scopes with
    | nil => exact fun best hbest _ => hbest
    | cons scope scopes ih =>
      intro best hbest hall
      rw [List.cons_subset] at hall
      refine ih _ ?_ hall.2
      dsimp only
      split
      · exact hall.1
      · exact hbest
  exact hfold all "" root (List.Subset.refl all)

theorem root_mem_allScopes (p : Parameters α) : "" ∈ allScopes p := by
  have hfold : ∀ scopes seen : List String, "" ∈ seen →
      "" ∈ scopes.foldl (fun seen scope =>
        if seen.contains scope then seen else seen ++ [scope]) seen := by
    intro scopes
    induction scopes with
    | nil => exact fun seen hseen => hseen
    | cons scope scopes ih =>
      intro seen hseen
      refine ih _ ?_
      dsimp only
      split
      · exact hseen
      · exact List.mem_append_left _ hseen
  exact hfold _ [""] (List.mem_singleton_self "")

theorem mem_unexpected {name : String} : name ∈ unexpected p state ↔
    name ∈ state.map Prod.fst ∧ name ∉ p.map Prod.fst := by
  have hextra : name ∈ (state.map Prod.fst).filter (fun name => !has p name) ↔
      name ∈ state.map Prod.fst ∧ name ∉ p.map Prod.fst := by
    rw [List.mem_filter, Bool.not_eq_true', Bool.eq_false_iff, ne_eq, has_iff]
  rw [← hextra, unexpected, List.mem_flatMap]
  constructor
  · rintro ⟨scope, -, hname⟩
    exact (List.mem_filter.mp hname).1
  · intro hname
    exact ⟨_, home_mem (root_mem_allScopes p) name, List.mem_filter.mpr ⟨hname, by simp⟩⟩

/-- What is wrong with tensors for parameters: one of them has another shape, or else some names are
missing or left over. -/
inductive Unfit (p own : Parameters α) : Failure → Prop
  | shapes {entry : String × Tensor α} {new : Tensor α} (parameter : entry ∈ p)
      (found : own.lookup entry.1 = some new) (other : new.shape ≠ entry.2.shape) :
      Unfit p own .tensorShapes
  | names {missing extra : List String}
      (missing_iff : ∀ name, name ∈ missing ↔ name ∈ p.map Prod.fst ∧ name ∉ own.map Prod.fst)
      (extra_iff : ∀ name, name ∈ extra ↔ name ∈ own.map Prod.fst ∧ name ∉ p.map Prod.fst)
      (some : missing ≠ [] ∨ extra ≠ []) : Unfit p own (.tensorNames missing extra)

/-- Loading reports what is wrong, after it has installed what fits. -/
theorem load_eq_error {own after : Parameters α} {f : Failure}
    (failed : load p own = (.error f, after)) : after = install p own ∧ Unfit p own f := by
  simp only [load, Prod.mk.injEq] at failed
  obtain ⟨hresult, hafter⟩ := failed
  refine ⟨hafter.symm, ?_⟩
  by_cases hshapes : misshapen p own = true
  · rw [if_pos hshapes] at hresult
    cases hresult
    obtain ⟨entry, hentry, new, hfound, hother⟩ := misshapen_iff.mp hshapes
    exact .shapes hentry hfound hother
  · rw [if_neg hshapes] at hresult
    by_cases hnames : (missing p own).isEmpty && (unexpected p own).isEmpty
    · rw [if_pos hnames] at hresult
      cases hresult
    · rw [if_neg hnames] at hresult
      cases hresult
      refine .names (fun name => mem_missing) (fun name => mem_unexpected) ?_
      by_contra hnone
      push Not at hnone
      simp [hnone] at hnames

def ownNamed (state : Parameters α) :
    Option (List (String × String)) → Except Failure (Parameters α)
  | none => .ok state
  | some names => rename state names

theorem loadNamed_eq (p state : Parameters α) (names : Option (List (String × String))) :
    loadNamed p state names =
      match ownNamed state names with
      | .ok own => load p own
      | .error f => (.error f, p) := by
  cases names with
  | none => rfl
  | some names =>
    rw [loadNamed, ownNamed]
    cases rename state names <;> rfl

theorem ownNamed_eq_error {names : Option (List (String × String))} {f : Failure}
    (failed : ownNamed state names = .error f) :
    ∃ mapping, names = some mapping ∧ (∃ entry ∈ mapping, entry.1 ∉ state.map Prod.fst) ∧
      f = .tensorsMissing (((mapping.map Prod.fst).filter fun name => !has state name).take 5) := by
  cases names with
  | none => cases failed
  | some mapping =>
    rw [ownNamed, rename] at failed
    dsimp only at failed
    split at failed
    · cases failed
    · rename_i hlacking
      cases failed
      refine ⟨mapping, rfl, ?_, rfl⟩
      obtain ⟨name, hname⟩ := List.exists_mem_of_ne_nil _ (mt List.isEmpty_iff.mpr hlacking)
      obtain ⟨hmem, habsent⟩ := List.mem_filter.mp hname
      obtain ⟨entry, hentry, rfl⟩ := List.mem_map.mp hmem
      rw [Bool.not_eq_true', Bool.eq_false_iff, ne_eq, has_iff] at habsent
      exact ⟨entry, hentry, habsent⟩

/-- A load that fails reports which names it lacks for a translation, and then leaves the parameters
as they were, or else what is wrong with the tensors under own names. By then every parameter that
was offered a tensor of its own shape holds it, and every other one its old value; so the parameters
are as they were exactly if what they were offered is what they had. -/
theorem loadNamed_failed {names : Option (List (String × String))} {f : Failure}
    {after : Parameters α} (failed : loadNamed p state names = (.error f, after)) :
    f.family = .load ∧
    ((∃ mapping, names = some mapping ∧ (∃ entry ∈ mapping, entry.1 ∉ state.map Prod.fst) ∧
        f = .tensorsMissing
          (((mapping.map Prod.fst).filter fun name => !has state name).take 5) ∧ after = p) ∨
      ∃ own, ownNamed state names = .ok own ∧ Unfit p own f ∧
        after = p.map (fun entry => (entry.1, (offered own entry).getD entry.2)) ∧
        (after = p ↔ ∀ entry ∈ p, ∀ new, offered own entry = some new → new = entry.2)) := by
  rw [loadNamed_eq] at failed
  cases hown : ownNamed state names with
  | error g =>
    rw [hown] at failed
    cases failed
    obtain ⟨mapping, hmapping, hlacks, rfl⟩ := ownNamed_eq_error hown
    exact ⟨rfl, .inl ⟨mapping, hmapping, hlacks, rfl, rfl⟩⟩
  | ok own =>
    rw [hown] at failed
    obtain ⟨rfl, hunfit⟩ := load_eq_error failed
    have hfamily : f.family = .load := by cases hunfit <;> rfl
    exact ⟨hfamily, .inr ⟨own, rfl, hunfit, install_eq p own, install_eq_self_iff⟩⟩

def twoOnes : Parameters Float := [("a", ⟨[1], #[1.0]⟩), ("b", ⟨[1], #[1.0]⟩)]

/-- Of two tensors under other names one has another shape. The load fails for it, and the other one
is there. -/
theorem twoOnes_failed :
    let state : Parameters Float := [("x", ⟨[1], #[2.0]⟩), ("y", ⟨[2], #[2.0, 2.0]⟩)]
    let names := some [("x", "a"), ("y", "b")]
    ∃ own after, loadNamed twoOnes state names = (.error .tensorShapes, after) ∧
      ownNamed state names = .ok own ∧ Unfit twoOnes own .tensorShapes ∧
      after = [("a", ⟨[1], #[2.0]⟩), ("b", ⟨[1], #[1.0]⟩)] := by
  intro state names
  obtain ⟨own, hown, after, hload⟩ : ∃ own, ownNamed state names = .ok own ∧
      ∃ after, loadNamed twoOnes state names = (.error .tensorShapes, after) := ⟨_, rfl, _, rfl⟩
  obtain ⟨-, ⟨_, -, -, hlacking, -⟩ | ⟨own', hown', hunfit, hafter, -⟩⟩ := loadNamed_failed hload
  · cases hlacking
  · cases hown.symm.trans hown'
    refine ⟨own, after, hload, hown, hunfit, hafter.trans ?_⟩
    cases hown
    rfl

/-- Of two parameters one is missing. The load fails for it, and the other one has changed. -/
theorem twoOnes_overwritten :
    let state : Parameters Float := [("a", ⟨[1], #[2.0]⟩)]
    ∃ f after, loadNamed twoOnes state none = (.error f, after) ∧ after ≠ twoOnes := by
  intro state
  have hmissing : missing twoOnes state = ["b"] := rfl
  have hshapes : misshapen twoOnes state = false := rfl
  refine ⟨.tensorNames ["b"] (unexpected twoOnes state), install twoOnes state, ?_, fun hsame => ?_⟩
  · rw [loadNamed, load, hmissing, hshapes]
    rfl
  · have hfirst := congrArg (fun p => (p.tensor "a").data[0]?.map (· == 1.0)) hsame
    revert hfirst
    decide

end Checkpoint
end StreamingLM
