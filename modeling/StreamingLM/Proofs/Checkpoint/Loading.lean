import StreamingLM.Checkpoint.Install
import StreamingLM.Model.Llama
import StreamingLM.Proofs.Checkpoint.Names

/-!
Loading a whole checkpoint. Main statement: whatever a model held before, it holds the tensors of
the checkpoint afterwards, each as it was stored, whether they came under own names or under
published ones, and also if the last matrix was left out there for being the embedding.
-/
namespace StreamingLM

variable {α : Type}

namespace Parameters

variable {p q : Parameters α}

theorem lookup_eq_some_iff (distinct : (p.map Prod.fst).Nodup) {name : String} {t : Tensor α} :
    p.lookup name = some t ↔ (name, t) ∈ p := by
  rw [List.lookup_eq_some_iff]
  constructor
  · rintro ⟨before, after, rfl, -⟩
    simp
  · intro hmem
    obtain ⟨before, after, rfl⟩ := List.append_of_mem hmem
    refine ⟨before, after, rfl, fun entry hentry => ?_⟩
    rw [List.map_append, List.nodup_append] at distinct
    have hother := distinct.2.2 entry.1 (List.mem_map_of_mem hentry) name (by simp)
    simpa using hother.symm

theorem lookup_perm (distinct : (q.map Prod.fst).Nodup) (h : p.Perm q) (name : String) :
    p.lookup name = q.lookup name := by
  have hp : (p.map Prod.fst).Nodup := (h.map Prod.fst).nodup_iff.mpr distinct
  refine Option.ext fun t => ?_
  rw [lookup_eq_some_iff hp, lookup_eq_some_iff distinct, h.mem_iff]

theorem tensor_of_mem (distinct : (p.map Prod.fst).Nodup) {name : String} {t : Tensor α}
    (h : (name, t) ∈ p) : p.tensor name = t := by
  rw [tensor, (lookup_eq_some_iff distinct).mpr h, Option.getD_some]

theorem map_tensor (distinct : (p.map Prod.fst).Nodup) :
    (p.map Prod.fst).map (fun name => (name, p.tensor name)) = p := by
  rw [List.map_map]
  refine List.map_congr_left (g := id) (fun entry hentry => ?_) |>.trans (List.map_id p)
  exact Prod.ext rfl (tensor_of_mem distinct hentry)

theorem HasShapes.names {shapes : List (String × List Nat)} (h : p.HasShapes shapes) :
    p.map Prod.fst = shapes.map Prod.fst := by
  rw [← h, List.map_map]
  rfl

theorem HasShapes.counterpart {old : Parameters α} {shapes : List (String × List Nat)}
    (hold : old.HasShapes shapes) (hp : p.HasShapes shapes) :
    List.Forall₂ (fun a b => a.1 = b.1 ∧ a.2.shape = b.2.shape) old p := by
  have hboth := List.forall₂_eq_eq_eq ▸ hold.trans hp.symm
  rw [List.forall₂_map_left_iff, List.forall₂_map_right_iff] at hboth
  exact hboth.imp fun a b same => Prod.mk.inj same

end Parameters

namespace Checkpoint

open Parameters

theorem has_iff {state : Parameters α} {name : String} :
    has state name = true ↔ name ∈ state.map Prod.fst := by
  rw [has, List.lookup_isSome_iff, List.mem_map]
  exact exists_congr fun entry => and_congr_right' (beq_iff_eq.trans eq_comm)

theorem install_hasShapes {old : Parameters α} {shapes : List (String × List Nat)}
    (h : old.HasShapes shapes) (state : Parameters α) : (install old state).HasShapes shapes := by
  rw [← h, HasShapes, install, List.map_map]
  refine List.map_congr_left fun entry _ => Prod.ext rfl ?_
  simp only [Function.comp_apply, installOne]
  split
  · split
    · assumption
    · rfl
  · rfl

theorem install_found {old p state : Parameters α}
    (pairs : List.Forall₂ (fun a b => a.1 = b.1 ∧ a.2.shape = b.2.shape) old p)
    (found : ∀ entry ∈ p, state.lookup entry.1 = some entry.2) :
    install old state = p ∧ misshapen old state = false := by
  induction pairs with
  | nil => exact ⟨rfl, rfl⟩
  | @cons a b olds news same _ ih =>
    obtain ⟨name, old⟩ := a
    obtain ⟨_, new⟩ := b
    obtain ⟨rfl, hshape⟩ := same
    rw [List.forall_mem_cons] at found
    obtain ⟨hfirst, hrest⟩ := found
    obtain ⟨hinstall, hshapes⟩ := ih hrest
    constructor
    · have hone : installOne state name old = new := by
        rw [installOne, hfirst]
        exact if_pos hshape.symm
      exact congrArg₂ List.cons (Prod.ext rfl hone) hinstall
    · rw [misshapen, List.any_cons, ← misshapen, hshapes, Bool.or_false]
      simp only [hfirst]
      exact decide_eq_false fun other => other hshape.symm

theorem load_whole {old p state : Parameters α} {shapes : List (String × List Nat)}
    (distinct : (shapes.map Prod.fst).Nodup) (hold : old.HasShapes shapes) (hp : p.HasShapes shapes)
    (whole : state.Perm p) : load old state = (.ok (), p) := by
  have hnames : old.map Prod.fst = p.map Prod.fst := hold.names.trans hp.names.symm
  have hdistinct : (p.map Prod.fst).Nodup := hp.names ▸ distinct
  have hfound : ∀ entry ∈ p, state.lookup entry.1 = some entry.2 := fun entry hentry => by
    rw [lookup_perm hdistinct whole]
    exact (lookup_eq_some_iff hdistinct).mpr hentry
  obtain ⟨hinstall, hshapes⟩ := install_found (hold.counterpart hp) hfound
  have hmissing : missing old state = [] := by
    refine List.filter_eq_nil_iff.mpr fun name hname => ?_
    have hmem : name ∈ state.map Prod.fst := (whole.map Prod.fst).mem_iff.mpr (hnames ▸ hname)
    simp [has_iff.mpr hmem]
  have hextra : unexpected old state = [] := by
    have hnone : (state.map Prod.fst).filter (fun name => !has old name) = [] := by
      refine List.filter_eq_nil_iff.mpr fun name hname => ?_
      have hmem : name ∈ old.map Prod.fst := hnames ▸ (whole.map Prod.fst).mem_iff.mp hname
      simp [has_iff.mpr hmem]
    simp [unexpected, hnone]
  simp [load, hinstall, hshapes, hmissing, hextra]

theorem set_fresh {done : Parameters α} {name : String} (fresh : name ∉ done.map Prod.fst)
    (t : Tensor α) : set name t done = done ++ [(name, t)] := by
  induction done with
  | nil => rfl
  | cons entry done ih =>
    rw [List.map_cons, List.mem_cons, not_or] at fresh
    rw [set, if_neg (Ne.symm fresh.1), ih fresh.2, List.cons_append]

theorem foldl_set (names : List (String × String)) (f : String → Tensor α) (done : Parameters α)
    (distinct : (done.map Prod.fst ++ names.map Prod.snd).Nodup) :
    names.foldl (fun done (source, target) => set target (f source) done) done =
      done ++ names.map fun (source, target) => (target, f source) := by
  induction names generalizing done with
  | nil => simp
  | cons entry names ih =>
    obtain ⟨source, target⟩ := entry
    rw [List.map_cons, ← List.singleton_append, ← List.append_assoc] at distinct
    have hfresh : target ∉ done.map Prod.fst := by
      have hfront := (List.nodup_append.mp distinct).1
      exact fun hmem => (List.nodup_append.mp hfront).2.2 target hmem target (by simp) rfl
    simp only [List.foldl_cons, set_fresh hfresh]
    rw [ih _ (by simpa using distinct), List.append_assoc]
    rfl

theorem rename_ok {state : Parameters α} {names : List (String × String)}
    (present : ∀ entry ∈ names, entry.1 ∈ state.map Prod.fst)
    (distinct : (names.map Prod.snd).Nodup) : rename state names =
      .ok (names.map fun (source, target) => (target, state.tensor source)) := by
  have hmissing : (names.map (·.1)).filter (fun name => !has state name) = [] := by
    refine List.filter_eq_nil_iff.mpr fun name hname => ?_
    obtain ⟨entry, hentry, rfl⟩ := List.mem_map.mp hname
    simp [has_iff.mpr (present entry hentry)]
  have hfold := foldl_set names state.tensor [] (by simpa using distinct)
  rw [rename, hmissing, List.nil_append] at *
  simp [hfold]

def published (layers : Nat) (p : Parameters α) : Parameters α :=
  (publishedNames layers).map fun (name, own) => (name, p.tensor own)

def headless (layers : Nat) (p : Parameters α) : Parameters α :=
  (published layers p).filter fun entry => entry.1 ≠ headName

theorem published_fst (layers : Nat) (p : Parameters α) :
    (published layers p).map Prod.fst = (publishedNames layers).map Prod.fst := by
  rw [published, List.map_map]
  rfl

theorem mem_published {layers : Nat} {p : Parameters α} {name own : String}
    (h : (name, own) ∈ publishedNames layers) : (name, p.tensor own) ∈ published layers p :=
  List.mem_map.mpr ⟨_, h, rfl⟩

theorem published_distinct (layers : Nat) (p : Parameters α) :
    ((published layers p).map Prod.fst).Nodup := by
  rw [published_fst]
  exact published_nodup layers

theorem rename_published {layers : Nat} {p state : Parameters α}
    (distinct : (p.map Prod.fst).Nodup)
    (names : ((publishedNames layers).map Prod.snd).Perm (p.map Prod.fst))
    (whole : state.Perm (published layers p)) :
    ∃ own, rename state (publishedNames layers) = .ok own ∧ own.Perm p := by
  have hpresent : ∀ entry ∈ publishedNames layers, entry.1 ∈ state.map Prod.fst := by
    intro entry hentry
    rw [(whole.map Prod.fst).mem_iff, published_fst]
    exact List.mem_map_of_mem hentry
  have hfound : ∀ entry ∈ publishedNames layers, state.tensor entry.1 = p.tensor entry.2 := by
    intro entry hentry
    rw [tensor, lookup_perm (published_distinct layers p) whole, ← tensor]
    exact tensor_of_mem (published_distinct layers p) (mem_published hentry)
  refine ⟨_, rename_ok hpresent (own_nodup layers), ?_⟩
  have hown : (publishedNames layers).map (fun (source, target) => (target, state.tensor source)) =
      ((publishedNames layers).map Prod.snd).map fun name => (name, p.tensor name) := by
    rw [List.map_map]
    exact List.map_congr_left fun entry hentry => Prod.ext rfl (hfound entry hentry)
  rw [hown]
  exact (names.map _).trans (.of_eq (map_tensor distinct))

theorem tie_published {layers : Nat} {p state : Parameters α}
    (whole : state.Perm (published layers p)) : tie state = state := by
  have hhead : has state headName = true := by
    rw [has_iff, (whole.map Prod.fst).mem_iff, published_fst]
    simp [publishedNames]
  simp [tie, isTied, hhead]

theorem published_eq (layers : Nat) (p : Parameters α) :
    published layers p = headless layers p ++ [(headName, p.tensor "output.weight")] := by
  obtain ⟨front, hfront⟩ : ∃ front : Parameters α,
      published layers p = front ++ [(headName, p.tensor "output.weight")] :=
    ⟨_, by rw [published, publishedNames, List.map_append]; rfl⟩
  have hdistinct := published_distinct layers p
  have hothers : ∀ entry ∈ front, decide (entry.1 ≠ headName) = true := by
    intro entry hentry
    rw [hfront, List.map_append, List.nodup_append] at hdistinct
    exact decide_eq_true (hdistinct.2.2 entry.1 (List.mem_map_of_mem hentry) headName (by simp))
  rw [headless, hfront, List.filter_append, List.filter_eq_self.mpr hothers]
  simp

theorem embedding_mem (layers : Nat) (p : Parameters α) :
    (embeddingName, p.tensor "tok_embeddings.weight") ∈ headless layers p := by
  have hother : embeddingName ≠ headName := by decide
  exact List.mem_filter.mpr ⟨mem_published (by simp [publishedNames]), decide_eq_true hother⟩

theorem tie_headless {layers : Nat} {p state : Parameters α}
    (tied : p.tensor "output.weight" = p.tensor "tok_embeddings.weight")
    (rest : state.Perm (headless layers p)) : (tie state).Perm (published layers p) := by
  have hdistinct : ((headless layers p).map Prod.fst).Nodup :=
    (published_distinct layers p).sublist (List.filter_sublist.map Prod.fst)
  have hfound : state.tensor embeddingName = p.tensor "tok_embeddings.weight" := by
    rw [tensor, lookup_perm hdistinct rest, ← tensor]
    exact tensor_of_mem hdistinct (embedding_mem layers p)
  have hhas : has state embeddingName = true :=
    has_iff.mpr ((rest.map Prod.fst).mem_iff.mpr (List.mem_map_of_mem (embedding_mem layers p)))
  have hhead : has state headName = false := by
    rw [Bool.eq_false_iff, ne_eq, has_iff, (rest.map Prod.fst).mem_iff]
    intro hmem
    obtain ⟨entry, hentry, hname⟩ := List.mem_map.mp hmem
    exact of_decide_eq_true (List.mem_filter.mp hentry).2 hname
  have hadded : tie state = state ++ [(headName, p.tensor "output.weight")] := by
    rw [tie, isTied, hhas, hhead, hfound, tied]
    rfl
  rw [hadded, published_eq]
  exact rest.append_right _

theorem has_embedding {layers : Nat} {p state : Parameters α} (rest : headless layers p ⊆ state) :
    has state embeddingName = true :=
  has_iff.mpr (List.mem_map_of_mem (rest (embedding_mem layers p)))

theorem headless_subset (layers : Nat) (p : Parameters α) :
    headless layers p ⊆ published layers p :=
  List.filter_subset_self _

/-- Whole parameters, in any order: under own names, or under published ones, of which that of the
last matrix may be left out if this is the embedding. -/
inductive Stores (layers : Nat) (p state : Parameters α) : Prop
  | own (whole : state.Perm p)
  | published (whole : state.Perm (published layers p))
  | tied (same : p.tensor "output.weight" = p.tensor "tok_embeddings.weight")
      (rest : state.Perm (headless layers p))

theorem read_tensors {d : Directory α} {path : String} {entries : Parameters α}
    (found : d.find path = some (.tensors entries)) (single : isIndex path = false) :
    ∃ state, read d path = .ok state ∧ state.Perm entries := by
  rw [read, found]
  simp only [single, readTensors]
  refine ⟨_, rfl, ?_⟩
  split
  · exact List.mergeSort_perm _ _
  · exact .refl _

end Checkpoint

namespace Llama

open Checkpoint Parameters

variable {m : Llama α} {shapes : List (String × List Nat)} {p state : Parameters α}
  {d : Directory α} {path : String}

theorem build_hasShapes [Scalar α] {fresh : Filling α} (fills : fresh.Fills) {c : LlamaConfig}
    (ok : build fresh d c = .ok m) (hshapes : c.transformer.parameters = .ok shapes) :
    m.config = c ∧ m.weights.HasShapes shapes := by
  obtain ⟨own, hown, hrest⟩ := Outcome.bind_eq_ok.mp ok
  obtain ⟨tokenizer, -, hrest⟩ := Outcome.bind_eq_ok.mp hrest
  obtain ⟨state, -, hm⟩ := Outcome.bind_eq_ok.mp hrest
  cases hm
  cases hshapes.symm.trans hown
  exact ⟨rfl, fills shapes⟩

theorem loadWeights_hasShapes (h : m.weights.HasShapes shapes) (d : Directory α) (path : String) :
    (m.loadWeights d path).2.weights.HasShapes shapes := by
  have hnamed : ∀ (state : Parameters α) names,
      (loadNamed m.weights state (some names)).2.HasShapes shapes := by
    intro state names
    simp only [loadNamed]
    cases rename state names with
    | error f => exact h
    | ok own => exact install_hasShapes h own
  rw [loadWeights]
  cases Checkpoint.read d path with
  | error f => exact h
  | ok state =>
    by_cases hpublished : Checkpoint.has state embeddingName = true
    · simp only [hpublished]
      exact hnamed _ _
    · simp only [hpublished]
      exact install_hasShapes h state

theorem loadWeights_plain (hread : Checkpoint.read d path = .ok state)
    (own : Checkpoint.has state embeddingName = false) :
    m.loadWeights d path =
      ((load m.weights state).1, { m with weights := (load m.weights state).2 }) := by
  rw [loadWeights, hread]
  simp only [own]
  rfl

theorem loadWeights_own (hshapes : m.config.transformer.parameters = .ok shapes)
    (hm : m.weights.HasShapes shapes) (hp : p.HasShapes shapes)
    (hread : Checkpoint.read d path = .ok state) (whole : state.Perm p) :
    m.loadWeights d path = (.ok (), { m with weights := p }) := by
  have hnames := own_perm hshapes
  have hdistinct := hnames.nodup_iff.mp (own_nodup _)
  have hown : Checkpoint.has state embeddingName = false := by
    rw [Bool.eq_false_iff, ne_eq, has_iff, (whole.map Prod.fst).mem_iff, hp.names, ← hnames.mem_iff]
    exact embeddingName_not_own _
  rw [loadWeights_plain hread hown, load_whole hdistinct hm hp whole]

theorem loadWeights_published (hshapes : m.config.transformer.parameters = .ok shapes)
    (hm : m.weights.HasShapes shapes) (hp : p.HasShapes shapes)
    (hread : Checkpoint.read d path = .ok state)
    (embedding : Checkpoint.has state embeddingName = true)
    (whole : (tie state).Perm (published m.config.layers.toNat p)) :
    m.loadWeights d path = (.ok (), { m with weights := p }) := by
  have hnames := own_perm hshapes
  have hdistinct := hnames.nodup_iff.mp (own_nodup _)
  obtain ⟨own, hown, hperm⟩ :=
    rename_published (hp.names ▸ hdistinct) (hp.names ▸ hnames) whole
  rw [loadWeights, hread]
  simp only [embedding, loadNamed, hown, load_whole hdistinct hm hp hperm]
  rfl

/-- For any number of layers neither way of naming is ambiguous, and the own names are those of the
parameters. A model into which parameters are loaded holds exactly these, whichever way they were
named, and nothing else of it changes. -/
theorem loadWeights_stored (hshapes : m.config.transformer.parameters = .ok shapes) :
    (∀ layers, ((publishedNames layers).map Prod.fst).Nodup ∧
      ((publishedNames layers).map Prod.snd).Nodup) ∧
    ((publishedNames m.config.layers.toNat).map Prod.snd).Perm (shapes.map Prod.fst) ∧
    ∀ p, m.weights.HasShapes shapes → p.HasShapes shapes → ∀ d path state,
      Checkpoint.read d path = .ok state → Stores m.config.layers.toNat p state →
        m.loadWeights d path = (.ok (), { m with weights := p }) := by
  refine ⟨fun layers => ⟨published_nodup layers, own_nodup layers⟩, own_perm hshapes, ?_⟩
  intro p hm hp d path state hread stores
  cases stores with
  | own whole => exact loadWeights_own hshapes hm hp hread whole
  | published whole =>
    have hembedding := has_embedding fun _ h => whole.mem_iff.mpr (headless_subset _ p h)
    exact loadWeights_published hshapes hm hp hread hembedding ((tie_published whole).symm ▸ whole)
  | tied same rest =>
    have hembedding := has_embedding fun _ h => rest.mem_iff.mpr h
    exact loadWeights_published hshapes hm hp hread hembedding (tie_headless same rest)

def twoLayers : LlamaConfig :=
  { width := 2, hidden := 3, layers := 2, heads := 1, vocabSize := 2, window := 1 }

def twos (shapes : List (String × List Nat)) : Parameters Float :=
  shapes.map fun (name, shape) => (name, ⟨shape, Array.replicate (Tensor.size shape) 2⟩)

theorem parts_w : Path.parts "w" = ["w"] := by
  rw [Path.parts, String.splitOn, String.splitOnAux, String.splitOnAux]
  rfl

theorem find_w (entries : Parameters α) :
    (Directory.ofFiles [("w", .tensors entries)]).find "w" = some (.tensors entries) := by
  have hclean : Path.clean "w" = "w" := by
    rw [Path.clean, parts_w]
    rfl
  simp only [Directory.find, hclean, Directory.ofFiles, List.map_cons, parts_w]
  rfl

/-- Twos replace ones, from three files. -/
theorem twoLayers_loaded : ∃ (m : Llama Float) (shapes : List (String × List Nat)),
    build Parameters.ones .empty twoLayers = .ok m ∧ twoLayers.transformer.parameters = .ok shapes ∧
      ∀ entries ∈ [twos shapes, published 2 (twos shapes), headless 2 (twos shapes)],
        m.loadWeights (.ofFiles [("w", .tensors entries)]) "w" =
          (.ok (), { m with weights := twos shapes }) := by
  obtain ⟨m, hm⟩ : ∃ m : Llama Float, build Parameters.ones .empty twoLayers = .ok m := ⟨_, rfl⟩
  obtain ⟨shapes, hshapes⟩ : ∃ shapes, twoLayers.transformer.parameters = .ok shapes := ⟨_, rfl⟩
  obtain ⟨hconfig, hweights⟩ := build_hasShapes Parameters.ones_fills hm hshapes
  have htwos : (twos shapes).HasShapes shapes := by
    rw [HasShapes, twos, List.map_map]
    exact List.map_id shapes
  have hsame :
      (twos shapes).tensor "output.weight" = (twos shapes).tensor "tok_embeddings.weight" := by
    cases hshapes
    rfl
  obtain ⟨-, -, hload⟩ := loadWeights_stored (m := m) (hconfig ▸ hshapes)
  have hlayers : m.config.layers.toNat = 2 := hconfig ▸ rfl
  rw [hlayers] at hload
  refine ⟨m, shapes, hm, hshapes, fun entries hentries => ?_⟩
  have hsingle : isIndex "w" = false := by
    rw [isIndex, Path.name, parts_w]
    rfl
  obtain ⟨state, hread, hperm⟩ := read_tensors (find_w entries) hsingle
  refine hload (twos shapes) hweights htwos _ _ state hread ?_
  simp only [List.mem_cons, List.not_mem_nil, or_false] at hentries
  obtain rfl | rfl | rfl := hentries
  · exact .own hperm
  · exact .published hperm
  · exact .tied hsame hperm

end Llama
end StreamingLM
