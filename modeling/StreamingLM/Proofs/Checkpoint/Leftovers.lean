import StreamingLM.Proofs.Checkpoint.Refusal

/-!
Tensors of a checkpoint that no parameter asks for. Main statement: under own names a load succeeds
only if every tensor becomes that of a parameter, and tells what is left over. Under published names
tensors are picked by their names before anything is compared, so what is left over is dropped
without a word.
-/
namespace StreamingLM
namespace Checkpoint

open Parameters

variable {α : Type} {p state : Parameters α}

/-- A load that succeeds has found a tensor of the right shape for every parameter, and nothing
else. -/
theorem load_found (ok : (load p state).1 = .ok ()) :
    (∀ entry ∈ p, ∃ new, state.lookup entry.1 = some new ∧ new.shape = entry.2.shape) ∧
      ∀ name ∈ state.map Prod.fst, name ∈ p.map Prod.fst := by
  simp only [load] at ok
  split at ok
  · cases ok
  · rename_i hshapes
    split at ok
    · rename_i hnames
      rw [Bool.and_eq_true, List.isEmpty_iff, List.isEmpty_iff, List.eq_nil_iff_forall_not_mem,
        List.eq_nil_iff_forall_not_mem] at hnames
      constructor
      · intro entry hentry
        have hfound : entry.1 ∈ state.map Prod.fst := by
          by_contra hlacking
          exact hnames.1 _ (mem_missing.mpr ⟨List.mem_map_of_mem hentry, hlacking⟩)
        obtain ⟨new, hnew⟩ := Option.isSome_iff_exists.mp (has_iff.mpr hfound)
        refine ⟨new, hnew, ?_⟩
        by_contra hother
        exact hshapes (misshapen_iff.mpr ⟨entry, hentry, new, hnew, hother⟩)
      · intro name hname
        by_contra hextra
        exact hnames.2 _ (mem_unexpected.mpr ⟨hname, hextra⟩)
    · cases ok

theorem load_ok_iff (hp : (p.map Prod.fst).Nodup) (distinct : (state.map Prod.fst).Nodup) :
    (load p state).1 = .ok () ↔ state.Perm (load p state).2 := by
  constructor
  · intro ok
    obtain ⟨hfound, hall⟩ := load_found ok
    have hinstall : install p state = (p.map Prod.fst).map fun name => (name, state.tensor name) := by
      rw [install_eq, List.map_map]
      refine List.map_congr_left fun entry hentry => ?_
      obtain ⟨new, hnew, hshape⟩ := hfound entry hentry
      simp [offered, tensor, hnew, Option.filter, hshape]
    have hnames : (state.map Prod.fst).Perm (p.map Prod.fst) := by
      refine (List.perm_ext_iff_of_nodup distinct hp).mpr fun name => ⟨hall name, fun hname => ?_⟩
      obtain ⟨entry, hentry, rfl⟩ := List.mem_map.mp hname
      obtain ⟨new, hnew, -⟩ := hfound entry hentry
      exact has_iff.mp (Option.isSome_of_eq_some hnew)
    calc state
      _ = (state.map Prod.fst).map fun name => (name, state.tensor name) :=
        (map_tensor distinct).symm
      _ |>.Perm ((p.map Prod.fst).map fun name => (name, state.tensor name)) := hnames.map _
      _ = (load p state).2 := hinstall.symm
  · intro whole
    have hshapes : (load p state).2.HasShapes (p.map fun entry => (entry.1, entry.2.shape)) :=
      install_hasShapes rfl state
    rw [load_whole (by rwa [List.map_map]) rfl hshapes whole]

theorem load_extra {name : String} (present : name ∈ state.map Prod.fst)
    (unknown : name ∉ p.map Prod.fst) :
    (load p state).1 = .error .tensorShapes ∨
      ∃ missing extra, (load p state).1 = .error (.tensorNames missing extra) ∧ name ∈ extra := by
  rcases hloaded : load p state with ⟨f | _, after⟩
  · cases (load_eq_error hloaded).2 with
    | shapes => exact .inl rfl
    | names _ extra_iff => exact .inr ⟨_, _, rfl, (extra_iff name).mpr ⟨present, unknown⟩⟩
  · exact absurd ((load_found (by rw [hloaded])).2 name present) unknown

/-- The tensors that a stack asks for by their published names. -/
def known (layers : Nat) (state : Parameters α) : Parameters α :=
  state.filter fun entry => entry.1 ∈ (publishedNames layers).map Prod.fst

variable {layers : Nat}

theorem lookup_known {name : String} (h : name ∈ (publishedNames layers).map Prod.fst)
    (state : Parameters α) : (known layers state).lookup name = state.lookup name := by
  induction state with
  | nil => rfl
  | cons entry state ih =>
    obtain ⟨other, t⟩ := entry
    rw [known, List.filter_cons]
    by_cases hsame : name = other
    · subst hsame
      rw [if_pos (decide_eq_true h), List.lookup_cons_self, List.lookup_cons_self]
    · rw [List.lookup_cons, beq_false_of_ne hsame, ← ih]
      split
      · rw [List.lookup_cons, beq_false_of_ne hsame, known]
      · rw [known]

theorem has_known {name : String} (h : name ∈ (publishedNames layers).map Prod.fst)
    (state : Parameters α) : has (known layers state) name = has state name := by
  rw [has, has, lookup_known h]

theorem tensor_known {name : String} (h : name ∈ (publishedNames layers).map Prod.fst)
    (state : Parameters α) : (known layers state).tensor name = state.tensor name := by
  rw [tensor, tensor, lookup_known h]

theorem embeddingName_mem (layers : Nat) :
    embeddingName ∈ (publishedNames layers).map Prod.fst := by
  simp [publishedNames]

theorem headName_mem (layers : Nat) : headName ∈ (publishedNames layers).map Prod.fst := by
  simp [publishedNames]

theorem known_tie (state : Parameters α) : known layers (tie state) = tie (known layers state) := by
  have htied : isTied (known layers state) = isTied state := by
    rw [isTied, isTied, has_known (headName_mem layers), has_known (embeddingName_mem layers)]
  rw [tie, tie, htied, tensor_known (embeddingName_mem layers)]
  split
  · have hhead : decide (headName ∈ (publishedNames layers).map Prod.fst) = true :=
      decide_eq_true (headName_mem layers)
    rw [known, List.filter_append, List.filter_singleton, hhead]
    rfl
  · rfl

theorem tie_distinct (distinct : (state.map Prod.fst).Nodup) :
    ((tie state).map Prod.fst).Nodup := by
  rw [tie]
  split
  · rename_i htied
    rw [isTied, Bool.and_eq_true, Bool.not_eq_true', Bool.eq_false_iff, ne_eq, has_iff] at htied
    rw [List.map_append, List.nodup_append]
    refine ⟨distinct, List.nodup_singleton _, fun name hname other hother => ?_⟩
    rw [List.mem_singleton.mp hother]
    rintro rfl
    exact htied.1 hname
  · exact distinct

theorem rename_known (state : Parameters α) :
    rename (known layers state) (publishedNames layers) = rename state (publishedNames layers) := by
  have hlacking : ((publishedNames layers).map Prod.fst).filter
        (fun name => !has (known layers state) name) =
      ((publishedNames layers).map Prod.fst).filter fun name => !has state name :=
    List.filter_congr fun name hname => by rw [has_known hname]
  rw [rename, rename, hlacking]
  refine if_congr Iff.rfl (congrArg Except.ok ?_) rfl
  refine List.foldl_ext _ _ _ fun done entry hentry => ?_
  dsimp only
  rw [tensor_known (List.mem_map_of_mem hentry)]

theorem rename_eq_ok {names : List (String × String)} {own : Parameters α}
    (ok : rename state names = .ok own) : ∀ entry ∈ names, entry.1 ∈ state.map Prod.fst := by
  intro entry hentry
  rw [rename] at ok
  dsimp only at ok
  split at ok
  · rename_i hlacking
    by_contra habsent
    rw [List.isEmpty_iff, List.filter_eq_nil_iff] at hlacking
    refine hlacking entry.1 (List.mem_map_of_mem hentry) ?_
    rw [Bool.not_eq_true', Bool.eq_false_iff, ne_eq, has_iff]
    exact habsent
  · cases ok

theorem rename_distinct {own : Parameters α}
    (ok : rename state (publishedNames layers) = .ok own) : (own.map Prod.fst).Nodup := by
  rw [rename_ok (rename_eq_ok ok) (own_nodup layers)] at ok
  cases ok
  rw [List.map_map]
  exact own_nodup layers

/-- Tensors of which none is left over are all parameters under their published names, if under own
names they are all parameters. -/
theorem perm_published {own after : Parameters α} (distinct : (state.map Prod.fst).Nodup)
    (only : ∀ entry ∈ state, entry.1 ∈ (publishedNames layers).map Prod.fst)
    (renamed : rename state (publishedNames layers) = .ok own) (whole : own.Perm after) :
    state.Perm (published layers after) := by
  have hafter : (after.map Prod.fst).Nodup :=
    (whole.map Prod.fst).nodup_iff.mp (rename_distinct renamed)
  have hpresent := rename_eq_ok renamed
  rw [rename_ok hpresent (own_nodup layers)] at renamed
  cases renamed
  have hnames : (state.map Prod.fst).Perm ((publishedNames layers).map Prod.fst) := by
    refine (List.perm_ext_iff_of_nodup distinct (published_nodup layers)).mpr fun name => ?_
    rw [List.mem_map, List.mem_map]
    constructor
    · rintro ⟨entry, hentry, rfl⟩
      exact List.mem_map.mp (only entry hentry)
    · rintro ⟨entry, hentry, rfl⟩
      exact List.mem_map.mp (hpresent entry hentry)
  have hpublished : published layers after =
      ((publishedNames layers).map Prod.fst).map fun name => (name, state.tensor name) := by
    rw [published, List.map_map]
    refine List.map_congr_left fun entry hentry => Prod.ext rfl ?_
    exact tensor_of_mem hafter (whole.mem_iff.mp (List.mem_map.mpr ⟨entry, hentry, rfl⟩))
  rw [hpublished]
  exact (List.Perm.of_eq (map_tensor distinct).symm).trans (hnames.map _)

/-- A load under published names succeeds only if all tensors that are asked for become those of
parameters. -/
theorem loadNamed_known (hp : (p.map Prod.fst).Nodup) (distinct : (state.map Prod.fst).Nodup)
    (ok : (loadNamed p (known layers (tie state)) (some (publishedNames layers))).1 = .ok ()) :
    (known layers (tie state)).Perm (published layers
      (loadNamed p (known layers (tie state)) (some (publishedNames layers))).2) := by
  have hdistinct : ((known layers (tie state)).map Prod.fst).Nodup :=
    (tie_distinct distinct).sublist (List.filter_sublist.map Prod.fst)
  have honly : ∀ entry ∈ known layers (tie state),
      entry.1 ∈ (publishedNames layers).map Prod.fst := fun entry hentry =>
    of_decide_eq_true (List.mem_filter.mp hentry).2
  rw [loadNamed] at ok ⊢
  cases hown : rename (known layers (tie state)) (publishedNames layers) with
  | error f => simp [hown] at ok
  | ok own =>
    rw [hown] at ok
    exact perm_published hdistinct honly hown ((load_ok_iff hp (rename_distinct hown)).mp ok)

end Checkpoint

namespace Llama

open Checkpoint Parameters

variable {α : Type} {m : Llama α} {shapes : List (String × List Nat)} {p state : Parameters α}
  {d : Directory α} {path : String}

theorem loadWeights_known (hread : Checkpoint.read d path = .ok state)
    (embedding : Checkpoint.has state embeddingName = true) :
    m.loadWeights d path =
      let layers := m.config.layers.toNat
      let loaded := loadNamed m.weights (known layers (tie state)) (some (publishedNames layers))
      (loaded.1, { m with weights := loaded.2 }) := by
  rw [loadWeights, hread]
  simp only [embedding, loadNamed, rename_known]
  rfl

theorem loadWeights_of_known (hshapes : m.config.transformer.parameters = .ok shapes)
    (hm : m.weights.HasShapes shapes) (hp : p.HasShapes shapes)
    (hread : Checkpoint.read d path = .ok state)
    (embedding : Checkpoint.has state embeddingName = true)
    (whole : (known m.config.layers.toNat (tie state)).Perm (published m.config.layers.toNat p)) :
    m.loadWeights d path = (.ok (), { m with weights := p }) := by
  have hnames := own_perm hshapes
  have hdistinct := hnames.nodup_iff.mp (own_nodup _)
  obtain ⟨own, hown, hperm⟩ :=
    rename_published (hp.names ▸ hdistinct) (hp.names ▸ hnames) whole
  rw [loadWeights_known hread embedding]
  simp only [loadNamed, hown, load_whole hdistinct hm hp hperm]

/-- Under own names a load succeeds exactly if the tensors of the checkpoint are the parameters
afterwards, and one that no parameter has is reported. Under published names it succeeds exactly if
those that are asked for are, after the embedding has stood in for a missing last matrix; so what
else a checkpoint holds changes neither the outcome nor the report. -/
theorem loadWeights_leftovers (hshapes : m.config.transformer.parameters = .ok shapes)
    (hm : m.weights.HasShapes shapes) (hread : Checkpoint.read d path = .ok state)
    (distinct : (state.map Prod.fst).Nodup) :
    let layers := m.config.layers.toNat
    let loaded := m.loadWeights d path
    (Checkpoint.has state embeddingName = false →
      (loaded.1 = .ok () ↔ state.Perm loaded.2.weights) ∧
      ∀ name ∈ state.map Prod.fst, name ∉ shapes.map Prod.fst →
        loaded.1 = .error .tensorShapes ∨
          ∃ missing extra, loaded.1 = .error (.tensorNames missing extra) ∧ name ∈ extra) ∧
    (Checkpoint.has state embeddingName = true →
      (loaded.1 = .ok () ↔ (known layers (tie state)).Perm (published layers loaded.2.weights)) ∧
      ∀ d' path' state', Checkpoint.read d' path' = .ok state' →
        known layers state' = known layers state → m.loadWeights d' path' = loaded) := by
  have hnames := own_perm hshapes
  have hdistinct : (m.weights.map Prod.fst).Nodup :=
    hm.names ▸ hnames.nodup_iff.mp (own_nodup _)
  refine ⟨fun hown => ?_, fun hpublished => ?_⟩
  · rw [loadWeights_plain hread hown]
    refine ⟨load_ok_iff hdistinct distinct, fun name hname hextra => load_extra hname ?_⟩
    rwa [hm.names]
  · have hafter := loadWeights_hasShapes hm d path
    refine ⟨⟨fun ok => ?_, fun whole => ?_⟩, fun d' path' state' hread' same => ?_⟩
    · rw [loadWeights_known hread hpublished] at ok ⊢
      exact loadNamed_known hdistinct distinct ok
    · rw [loadWeights_of_known hshapes hm hafter hread hpublished whole]
    · have hpublished' : Checkpoint.has state' embeddingName = true := by
        rw [← has_known (embeddingName_mem m.config.layers.toNat), same,
          has_known (embeddingName_mem _), hpublished]
      rw [loadWeights_known hread' hpublished', loadWeights_known hread hpublished]
      simp only [known_tie, same]

def thirdLayer : String × Tensor Float :=
  ("model.layers.2.mlp.up_proj.weight", ⟨[3, 2], Array.replicate 6 2⟩)

theorem thirdLayer_unasked : thirdLayer.1 ∉ (publishedNames 2).map Prod.fst ∧
    thirdLayer.1 ∉ (publishedNames 2).map Prod.snd := by
  decide +kernel

theorem known_published (layers : Nat) (p : Parameters α) :
    known layers (published layers p) = published layers p := by
  refine List.filter_eq_self.mpr fun entry hentry => decide_eq_true ?_
  rw [← published_fst layers p]
  exact List.mem_map_of_mem hentry

theorem known_thirdLayer {entries : Parameters Float} :
    known 2 (entries ++ [thirdLayer]) = known 2 entries := by
  rw [known, List.filter_append, List.filter_singleton, decide_eq_false thirdLayer_unasked.1]
  exact List.append_nil _

theorem twoLayers_shapes : ∃ (m : Llama Float) (shapes : List (String × List Nat)),
    build Parameters.ones .empty twoLayers = .ok m ∧
      m.config.transformer.parameters = .ok shapes ∧ m.config.layers.toNat = 2 ∧
      m.weights.HasShapes shapes ∧ (twos shapes).HasShapes shapes := by
  obtain ⟨m, hm⟩ : ∃ m : Llama Float, build Parameters.ones .empty twoLayers = .ok m := ⟨_, rfl⟩
  obtain ⟨shapes, hshapes⟩ : ∃ shapes, twoLayers.transformer.parameters = .ok shapes := ⟨_, rfl⟩
  obtain ⟨hconfig, hweights⟩ := build_hasShapes Parameters.ones_fills hm hshapes
  refine ⟨m, shapes, hm, hconfig ▸ hshapes, hconfig ▸ rfl, hweights, ?_⟩
  rw [HasShapes, twos, List.map_map]
  exact List.map_id shapes

theorem read_w (entries : Parameters α) :
    Checkpoint.read (.ofFiles [("w", .tensors entries)]) "w" = .ok entries := by
  have hname : Path.name "w" = "w" := by
    rw [Path.name, parts_w]
    rfl
  have hindex : isIndex "w" = false := by
    rw [isIndex, hname]
    rfl
  have hending : Path.ending "w" = "" := by
    rw [Path.ending, hname]
    rfl
  simp only [Checkpoint.read, find_w, hindex, readTensors, hending]
  rfl

/-- Under own names a tensor of a third layer is reported to a model of two. Under published names
the model loads the same with it and without it. -/
theorem thirdLayer_leftover : ∃ (m : Llama Float) (shapes : List (String × List Nat)),
    build Parameters.ones .empty twoLayers = .ok m ∧
      let load := fun entries => m.loadWeights (.ofFiles [("w", .tensors entries)]) "w"
      ((load (twos shapes ++ [thirdLayer])).1 = .error .tensorShapes ∨
        ∃ missing extra, (load (twos shapes ++ [thirdLayer])).1 = .error (.tensorNames missing extra) ∧
          thirdLayer.1 ∈ extra) ∧
      load (published 2 (twos shapes) ++ [thirdLayer]) = load (published 2 (twos shapes)) := by
  obtain ⟨m, shapes, hm, hshapes, hlayers, hweights, htwos⟩ := twoLayers_shapes
  have hnames := own_perm hshapes
  refine ⟨m, shapes, hm, ?_, ?_⟩
  · have hnew : thirdLayer.1 ∉ shapes.map Prod.fst := by
      rw [← hnames.mem_iff]
      exact hlayers ▸ thirdLayer_unasked.2
    have hdistinct : ((twos shapes ++ [thirdLayer]).map Prod.fst).Nodup := by
      rw [List.map_append, htwos.names, List.nodup_append]
      refine ⟨hnames.nodup_iff.mp (own_nodup _), List.nodup_singleton _, ?_⟩
      rintro name hname _ hother rfl
      exact hnew (List.mem_singleton.mp hother ▸ hname)
    have hown : Checkpoint.has (twos shapes ++ [thirdLayer]) embeddingName = false := by
      rw [Bool.eq_false_iff, ne_eq, has_iff, List.map_append, htwos.names, List.mem_append,
        ← hnames.mem_iff]
      exact not_or.mpr ⟨embeddingName_not_own _, by decide⟩
    exact ((loadWeights_leftovers hshapes hweights (read_w _) hdistinct).1 hown).2 _ (by simp) hnew
  · have hpublished : Checkpoint.has (published 2 (twos shapes)) embeddingName = true :=
      has_embedding (headless_subset _ _)
    have hleftovers := loadWeights_leftovers hshapes hweights (read_w _)
      (published_distinct 2 (twos shapes))
    exact (hleftovers.2 hpublished).2 _ _ _ (read_w _) (hlayers ▸ known_thirdLayer)

/-- Of a checkpoint of three layers, under published names, a model of two takes what it asks for
and reports nothing. -/
theorem thirdLayer_dropped : ∃ (m : Llama Float) (shapes : List (String × List Nat)),
    build Parameters.ones .empty twoLayers = .ok m ∧
      m.config.transformer.parameters = .ok shapes ∧ m.config.layers.toNat = 2 ∧
      thirdLayer.1 ∉ (publishedNames 2).map Prod.fst ∧
      let file := published 2 (twos shapes) ++ [thirdLayer]
      m.loadWeights (.ofFiles [("w", .tensors file)]) "w" =
        (.ok (), { m with weights := twos shapes }) := by
  obtain ⟨m, shapes, hm, hshapes, hlayers, hweights, htwos⟩ := twoLayers_shapes
  have hwhole : known m.config.layers.toNat (published 2 (twos shapes) ++ [thirdLayer]) =
      published m.config.layers.toNat (twos shapes) := by
    rw [hlayers, known_thirdLayer, known_published]
  have hembedding :
      Checkpoint.has (published 2 (twos shapes) ++ [thirdLayer]) embeddingName = true := by
    rw [← has_known (embeddingName_mem m.config.layers.toNat), hwhole]
    exact has_embedding (headless_subset _ _)
  refine ⟨m, shapes, hm, hshapes, hlayers, thirdLayer_unasked.1, ?_⟩
  refine loadWeights_of_known hshapes hweights htwos (read_w _) hembedding ?_
  rw [known_tie, hwhole, tie_published (.refl _)]

end Llama
end StreamingLM
