import Mathlib
import StreamingLM.Checkpoint.File
import StreamingLM.Proofs.Checkpoint.Loading
import StreamingLM.Proofs.Outcome
import StreamingLM.Proofs.Text.Order

/-!
Checkpoints that are spread over several files. Main statement: whatever the files of a directory hold,
reading an index comes to an end; the result is the disjoint union of the files that it lists, in
whatever order and however often; and apart from files that cannot be read, it is refused exactly for
a listed file that is missing or an index itself, or for a name that two of them share.
-/
namespace StreamingLM

variable {α : Type}

/-- Every file of tensors has names of their own for them. -/
def Directory.Named (d : Directory α) : Prop :=
  ∀ path entries, d.find path = some (.tensors entries) → (entries.map Prod.fst).Nodup

namespace Checkpoint

theorem nodup_eraseDups (names : List String) : names.eraseDups.Nodup := by
  induction hn : names.length using Nat.strong_induction_on generalizing names with
  | h n ih =>
    cases names with
    | nil => simp
    | cons name names =>
      rw [List.eraseDups_cons, List.nodup_cons]
      refine ⟨by simp [List.mem_eraseDups], ih _ ?_ _ rfl⟩
      rw [← hn]
      exact Nat.lt_succ_of_le (List.length_filter_le _ _)

def distinct (names : List String) : List String :=
  names.eraseDups.mergeSort fun a b => a ≤ b

theorem mem_distinct {names : List String} {name : String} :
    name ∈ distinct names ↔ name ∈ names := by
  rw [distinct, List.mem_mergeSort, List.mem_eraseDups]

theorem nodup_distinct (names : List String) : (distinct names).Nodup :=
  (List.mergeSort_perm _ _).nodup_iff.mpr (nodup_eraseDups names)

theorem pairwise_distinct (names : List String) : (distinct names).Pairwise (· ≤ ·) :=
  pairwise_mergeSort_names _

theorem distinct_congr {names names' : List String} (same : ∀ name, name ∈ names ↔ name ∈ names') :
    distinct names = distinct names' := by
  have hperm : (distinct names).Perm (distinct names') :=
    (List.perm_ext_iff_of_nodup (nodup_distinct _) (nodup_distinct _)).mpr fun name => by
      rw [mem_distinct, mem_distinct, same]
  exact hperm.eq_of_pairwise (fun _ _ _ _ => String.le_antisymm) (pairwise_distinct _)
    (pairwise_distinct _)

/-- A path leads to an index, a JSON object that lists files by these names. -/
structure Indexes (d : Directory α) (path : String) (names : List String) : Prop where
  named : isIndex path = true
  listed : ∃ contents index entries, d.find path = some (.bytes contents) ∧
    readJson contents = .ok index ∧ index.get? "weight_map" = some (.dict entries) ∧
      entries.map Prod.snd = names.map .text

theorem shards_eq {path : String} {index : Value} {entries : List (Value × Value)}
    {names : List String} (found : index.get? "weight_map" = some (.dict entries))
    (texts : entries.map Prod.snd = names.map .text) : shards path index = .ok (distinct names) := by
  cases index with
  | dict fields =>
    simp only [shards, found]
    refine Outcome.bind_eq_ok.mpr ⟨names, Outcome.mapM_eq_ok.mpr ?_, rfl⟩
    have hpairs := List.forall₂_eq_eq_eq ▸ texts
    rw [List.forall₂_map_left_iff, List.forall₂_map_right_iff] at hpairs
    exact hpairs.imp fun entry name hname => by rw [hname]
  | _ => cases found

variable {d : Directory α} {path : String} {names : List String}

theorem Indexes.read_eq (h : Indexes d path names) :
    read d path = (distinct names).foldlM (addShard d path) [] := by
  obtain ⟨contents, index, entries, hfind, hjson, hmap, htexts⟩ := h.listed
  simp only [read, hfind, h.named, if_true, readIndex, hjson, shards_eq hmap htexts, bind,
    Except.bind]

def always {β : Type} (x : Except Failure β) : ExceptT Failure Option β := ExceptT.mk (some x)

def indexIn (path : String) : FileContent α → Except Failure Value
  | .bytes contents => readJson contents
  | .folder => .error (.fault .directory path)
  | .tensors _ => .error (.fault .badUtf8 path)

theorem readIndex_eq (d : Directory α) (path : String) (content : FileContent α) :
    readIndex d path content = indexIn path content >>= fun index =>
      shards path index >>= fun names => names.foldlM (addShard d path) [] := by
  cases content <;> rfl

/-- Reading as it calls itself: every file that an index lists is read like a checkpoint of its own.
Calls that go deeper than allowed give nothing. -/
def readNested (d : Directory α) : Nat → String → ExceptT Failure Option (Parameters α)
  | 0, _ => ExceptT.mk none
  | depth + 1, path =>
    match d.find path with
    | none => always (.error (.checkpointMissing (Path.clean path)))
    | some content =>
      if isIndex path then do
        let index ← always (indexIn path content)
        (← always (shards path index)).foldlM (fun state shard => do
          let place := Path.beside path shard
          if isIndex place then always (.error (.nestedShardIndex shard))
          else always (merge state (← readNested d depth place))) []
      else always (readTensors path content)

theorem always_bind {β γ : Type} (x : Except Failure β) (f : β → Except Failure γ) :
    always (x >>= f) = always x >>= fun a => always (f a) := by
  cases x <;> rfl

theorem always_foldlM {β γ : Type} (f : β → γ → Except Failure β) (xs : List γ) (b : β) :
    xs.foldlM (fun b x => always (f b x)) b = always (xs.foldlM f b) := by
  induction xs generalizing b with
  | nil => rfl
  | cons x xs ih =>
    rw [List.foldlM_cons, List.foldlM_cons, always_bind]
    exact bind_congr fun b' => ih b'

theorem readOne_eq (d : Directory α) {path : String} (file : isIndex path = false) :
    readOne d path = read d path := by
  rw [readOne, read]
  cases d.find path with
  | none => rfl
  | some content => simp only [file, if_neg Bool.false_ne_true]

theorem readNested_file (d : Directory α) (depth : Nat) {path : String}
    (file : isIndex path = false) : readNested d (depth + 1) path = always (read d path) := by
  rw [readNested, read]
  cases d.find path with
  | none => rfl
  | some content => simp only [file, if_neg Bool.false_ne_true]

/-- An index among the listed files is refused by its name, so calls go no deeper than from an index
to a file of tensors, also where indexes list themselves or each other. -/
theorem readNested_eq (d : Directory α) (depth : Nat) (path : String) :
    readNested d (depth + 2) path = always (read d path) := by
  cases hindex : isIndex path with
  | false => exact readNested_file d (depth + 1) hindex
  | true =>
    have hshard : ∀ (state : Parameters α) (shard : String),
        (if isIndex (Path.beside path shard) then always (.error (.nestedShardIndex shard))
          else readNested d (depth + 1) (Path.beside path shard) >>= fun more =>
            always (merge state more)) = always (addShard d path state shard) := by
      intro state shard
      rw [addShard]
      cases hplace : isIndex (Path.beside path shard) with
      | true => rfl
      | false =>
        simp only [if_neg Bool.false_ne_true, readNested_file d depth hplace, readOne_eq d hplace]
        exact (always_bind _ _).symm
    rw [readNested, read]
    cases hfind : d.find path with
    | none => rfl
    | some content =>
      simp only [hindex, if_true, hshard, readIndex_eq]
      rw [always_bind]
      refine bind_congr fun index => ?_
      rw [always_bind]
      exact bind_congr fun names => always_foldlM _ _ _

theorem merge_cons (state more : Parameters α) (name : String) (t : Tensor α) :
    merge state ((name, t) :: more) =
      if has state name then .error (.duplicateTensor name)
      else merge (state ++ [(name, t)]) more := by
  rw [merge, List.foldlM_cons, has]
  by_cases hname : (state.lookup name).isSome
  · simp only [hname, if_true]
    rfl
  · simp only [hname, if_neg Bool.false_ne_true]
    rfl

theorem merge_eq_ok {state more out : Parameters α} (distinct : (state.map Prod.fst).Nodup) :
    merge state more = .ok out ↔
      ((state ++ more).map Prod.fst).Nodup ∧ out = state ++ more := by
  induction more generalizing state with
  | nil =>
    rw [List.append_nil]
    exact ⟨fun h => ⟨distinct, (Except.ok.inj h).symm⟩, fun h => congrArg Except.ok h.2.symm⟩
  | cons entry more ih =>
    obtain ⟨name, t⟩ := entry
    rw [merge_cons]
    by_cases hname : name ∈ state.map Prod.fst
    · rw [if_pos (has_iff.mpr hname)]
      refine iff_of_false (by simp) fun h => ?_
      rw [List.map_append] at h
      exact List.disjoint_of_nodup_append h.1 hname (by simp)
    · rw [if_neg (fun h => hname (has_iff.mp h)), List.append_cons state (name, t) more]
      refine ih ?_
      rw [List.map_append, List.nodup_append']
      exact ⟨distinct, by simp, by simpa using hname⟩

theorem merge_eq_error {state more : Parameters α} {f : Failure}
    (failed : merge state more = .error f) : ∃ name, f = .duplicateTensor name := by
  induction more generalizing state with
  | nil => cases failed
  | cons entry more ih =>
    rw [merge_cons] at failed
    split at failed
    · exact ⟨entry.1, (Except.error.inj failed).symm⟩
    · exact ih failed

def readShard (d : Directory α) (path shard : String) : Except Failure (Parameters α) :=
  if isIndex (Path.beside path shard) then .error (.nestedShardIndex shard)
  else read d (Path.beside path shard)

theorem addShard_eq (d : Directory α) (path : String) (state : Parameters α) (shard : String) :
    addShard d path state shard = readShard d path shard >>= merge state := by
  rw [addShard, readShard]
  cases hplace : isIndex (Path.beside path shard) with
  | true => rfl
  | false => simp only [if_neg Bool.false_ne_true, readOne_eq d hplace]

/-- Files are added one by one exactly if all can be read and all names in them are different. -/
theorem foldlM_eq_ok {state out : Parameters α} {shards : List String}
    (distinct : (state.map Prod.fst).Nodup) :
    shards.foldlM (addShard d path) state = .ok out ↔
      ∃ files, shards.mapM (readShard d path) = .ok files ∧
        ((state ++ files.flatten).map Prod.fst).Nodup ∧ out = state ++ files.flatten := by
  induction shards generalizing state with
  | nil =>
    constructor
    · intro h
      obtain rfl := Except.ok.inj h
      exact ⟨[], rfl, by simpa using distinct, by simp⟩
    · rintro ⟨files, hfiles, -, rfl⟩
      obtain rfl := Except.ok.inj hfiles
      simp [pure, Except.pure]
  | cons shard shards ih =>
    rw [List.foldlM_cons, List.mapM_cons, addShard_eq]
    constructor
    · intro h
      obtain ⟨next, hnext, hrest⟩ := Outcome.bind_eq_ok.mp h
      obtain ⟨file, hfile, hmerge⟩ := Outcome.bind_eq_ok.mp hnext
      obtain ⟨hdistinct, rfl⟩ := (merge_eq_ok distinct).mp hmerge
      obtain ⟨files, hfiles, hall, rfl⟩ := (ih hdistinct).mp hrest
      rw [List.append_assoc, ← List.flatten_cons] at hall
      refine ⟨file :: files, ?_, hall, by rw [List.flatten_cons, List.append_assoc]⟩
      exact Outcome.bind_eq_ok.mpr ⟨file, hfile, Outcome.bind_eq_ok.mpr ⟨files, hfiles, rfl⟩⟩
    · rintro ⟨_, hmany, hall, rfl⟩
      obtain ⟨file, hfile, hrest⟩ := Outcome.bind_eq_ok.mp hmany
      obtain ⟨files, hfiles, heq⟩ := Outcome.bind_eq_ok.mp hrest
      cases heq
      rw [List.flatten_cons, ← List.append_assoc] at hall
      have hdistinct : ((state ++ file).map Prod.fst).Nodup := by
        rw [List.map_append] at hall
        exact (List.nodup_append'.mp hall).1
      refine Outcome.bind_eq_ok.mpr ⟨state ++ file, Outcome.bind_eq_ok.mpr ⟨file, hfile, ?_⟩, ?_⟩
      · exact (merge_eq_ok distinct).mpr ⟨hdistinct, rfl⟩
      · exact (ih hdistinct).mpr ⟨files, hfiles, hall, by rw [List.flatten_cons, List.append_assoc]⟩

/-- What is reported of files that are added is a name that occurs twice, or what is wrong with one of
them. -/
theorem foldlM_eq_error {state : Parameters α} {shards : List String} {f : Failure}
    (failed : shards.foldlM (addShard d path) state = .error f) :
    (∃ name, f = .duplicateTensor name) ∨ ∃ shard ∈ shards, readShard d path shard = .error f := by
  induction shards generalizing state with
  | nil => cases failed
  | cons shard shards ih =>
    rw [List.foldlM_cons, addShard_eq] at failed
    cases hfile : readShard d path shard with
    | error e =>
      rw [hfile] at failed
      exact .inr ⟨shard, by simp, by rw [hfile]; exact failed⟩
    | ok file =>
      rw [hfile] at failed
      change (merge state file >>= fun next => shards.foldlM (addShard d path) next) = .error f at failed
      cases hmerge : merge state file with
      | error e =>
        rw [hmerge] at failed
        obtain rfl := Except.error.inj failed
        exact .inl (merge_eq_error hmerge)
      | ok next =>
        rw [hmerge] at failed
        obtain h | ⟨other, hmem, hother⟩ := ih failed
        · exact .inl h
        · exact .inr ⟨other, List.mem_cons_of_mem _ hmem, hother⟩

/-- An index lists a file, which is no index, and these are its tensors. -/
structure Shard (d : Directory α) (path : String) (names : List String) (name : String)
    (tensors : Parameters α) : Prop where
  listed : name ∈ names
  file : isIndex (Path.beside path name) = false
  contents : read d (Path.beside path name) = .ok tensors

theorem readShard_eq_ok {shard : String} {tensors : Parameters α} :
    readShard d path shard = .ok tensors ↔
      isIndex (Path.beside path shard) = false ∧ read d (Path.beside path shard) = .ok tensors := by
  rw [readShard]
  cases isIndex (Path.beside path shard) <;> simp

theorem Shard.distinct {name : String} {tensors : Parameters α} (h : Shard d path names name tensors)
    (named : d.Named) : (tensors.map Prod.fst).Nodup := by
  have hread := h.contents
  rw [read] at hread
  cases hfind : d.find (Path.beside path name) with
  | none =>
    rw [hfind] at hread
    cases hread
  | some content =>
    simp only [hfind, h.file, if_neg Bool.false_ne_true] at hread
    cases content with
    | tensors entries =>
      obtain rfl := Except.ok.inj hread
      have hentries := named _ _ hfind
      split
      · exact ((List.mergeSort_perm _ _).map Prod.fst).nodup_iff.mpr hentries
      · exact hentries
    | folder => cases hread
    | bytes contents =>
      rw [readTensors] at hread
      split at hread
      · cases hread
      · split at hread <;> cases hread

def Shared (d : Directory α) (path : String) (names : List String) : Prop :=
  ∃ a b tensors more, Shard d path names a tensors ∧ Shard d path names b more ∧ a ≠ b ∧
    ¬(tensors.map Prod.fst).Disjoint (more.map Prod.fst)

def tensorsOf (d : Directory α) (path name : String) : Parameters α :=
  match read d (Path.beside path name) with
  | .ok tensors => tensors
  | .error _ => []

theorem Shard.tensorsOf_eq {name : String} {tensors : Parameters α}
    (h : Shard d path names name tensors) : tensorsOf d path name = tensors := by
  rw [tensorsOf, h.contents]

def AllRead (d : Directory α) (path : String) (names : List String) : Prop :=
  ∀ name ∈ names, ∃ tensors, Shard d path names name tensors

theorem AllRead.shard (all : AllRead d path names) {name : String} (listed : name ∈ names) :
    Shard d path names name (tensorsOf d path name) := by
  obtain ⟨tensors, h⟩ := all name listed
  rwa [h.tensorsOf_eq]

theorem mapM_readShard {files : List (Parameters α)} :
    (distinct names).mapM (readShard d path) = .ok files ↔
      AllRead d path names ∧ files = (distinct names).map (tensorsOf d path) := by
  constructor
  · intro h
    have hshards : List.Forall₂ (fun name file => name ∈ distinct names ∧
        readShard d path name = .ok file) (distinct names) files :=
      (List.forall₂_and_left _ _).mpr ⟨fun _ => id, Outcome.mapM_eq_ok.mp h⟩
    have hfiles : List.Forall₂ (Shard d path names) (distinct names) files :=
      hshards.imp fun name file ⟨hmem, hread⟩ =>
        ⟨mem_distinct.mp hmem, (readShard_eq_ok.mp hread).1, (readShard_eq_ok.mp hread).2⟩
    refine ⟨fun name hname => ?_, ?_⟩
    · obtain ⟨file, -, hfile⟩ := Outcome.exists_of_forall₂ hfiles (mem_distinct.mpr hname)
      exact ⟨file, hfile⟩
    · rw [← List.forall₂_eq_eq_eq, List.forall₂_map_right_iff]
      exact hfiles.flip.imp fun file name hfile => hfile.tensorsOf_eq.symm
  · rintro ⟨hall, rfl⟩
    rw [Outcome.mapM_eq_ok, List.forall₂_map_right_iff, List.forall₂_same]
    intro name hname
    have hshard := hall.shard (mem_distinct.mp hname)
    exact readShard_eq_ok.mpr ⟨hshard.file, hshard.contents⟩

theorem AllRead.nodup_iff (all : AllRead d path names) (named : d.Named) :
    (((distinct names).flatMap (tensorsOf d path)).map Prod.fst).Nodup ↔
      ¬Shared d path names := by
  rw [List.flatMap_def, List.map_flatten, List.map_map, List.nodup_flatten, List.pairwise_map]
  constructor
  · rintro ⟨-, hapart⟩ ⟨a, b, tensors, more, ha, hb, hne, hcommon⟩
    have hsymm : Std.Symm fun a b => ((List.map Prod.fst ∘ tensorsOf d path) a).Disjoint
        ((List.map Prod.fst ∘ tensorsOf d path) b) := ⟨fun _ _ => List.disjoint_symm⟩
    have hdisjoint := hapart.forall (mem_distinct.mpr ha.listed) (mem_distinct.mpr hb.listed) hne
    simp only [Function.comp_apply, ha.tensorsOf_eq, hb.tensorsOf_eq] at hdisjoint
    exact hcommon hdisjoint
  · intro hshared
    refine ⟨?_, (nodup_distinct names).pairwise_of_forall_ne fun a ha b hb hne => ?_⟩
    · intro file hfile
      obtain ⟨name, hname, rfl⟩ := List.mem_map.mp hfile
      exact (all.shard (mem_distinct.mp hname)).distinct named
    · by_contra hcommon
      exact hshared ⟨a, b, _, _, all.shard (mem_distinct.mp ha), all.shard (mem_distinct.mp hb),
        hne, hcommon⟩

/-- Reading an index succeeds exactly if all listed files can be read and no two of them share a name,
and the result is what they hold together. -/
theorem Indexes.read_eq_ok (h : Indexes d path names) (named : d.Named) {state : Parameters α} :
    read d path = .ok state ↔ AllRead d path names ∧ ¬Shared d path names ∧
      state = (distinct names).flatMap (tensorsOf d path) := by
  rw [h.read_eq, foldlM_eq_ok (by simp)]
  simp only [mapM_readShard, List.nil_append]
  constructor
  · rintro ⟨_, ⟨hall, rfl⟩, hdistinct, rfl⟩
    rw [← List.flatMap_def] at hdistinct ⊢
    exact ⟨hall, (hall.nodup_iff named).mp hdistinct, rfl⟩
  · rintro ⟨hall, hshared, rfl⟩
    refine ⟨_, ⟨hall, rfl⟩, ?_, List.flatMap_def ..⟩
    rw [← List.flatMap_def]
    exact (hall.nodup_iff named).mpr hshared

/-- What is reported of an index is a name that two files share, or what is wrong with one file. -/
theorem Indexes.read_eq_error (h : Indexes d path names) {f : Failure}
    (failed : read d path = .error f) :
    (∃ name, f = .duplicateTensor name) ∨ ∃ name ∈ names, readShard d path name = .error f := by
  rw [h.read_eq] at failed
  obtain hname | ⟨name, hmem, hfile⟩ := foldlM_eq_error failed
  · exact .inl hname
  · exact .inr ⟨name, mem_distinct.mp hmem, hfile⟩

def Readable (d : Directory α) (path : String) (names : List String) : Prop :=
  ∀ name ∈ names, isIndex (Path.beside path name) = false →
    d.find (Path.beside path name) ≠ none →
      ∃ tensors, read d (Path.beside path name) = .ok tensors

theorem Readable.family_eq (readable : Readable d path names) {name : String} {f : Failure}
    (listed : name ∈ names) (failed : readShard d path name = .error f) : f.family = .load := by
  rw [readShard] at failed
  cases hplace : isIndex (Path.beside path name) with
  | true =>
    rw [hplace] at failed
    obtain rfl := Except.error.inj failed
    rfl
  | false =>
    rw [hplace, if_neg Bool.false_ne_true] at failed
    cases hfind : d.find (Path.beside path name) with
    | none =>
      rw [read, hfind] at failed
      obtain rfl := Except.error.inj failed
      rfl
    | some content =>
      obtain ⟨tensors, hread⟩ := readable name listed hplace (by simp [hfind])
      rw [hread] at failed
      cases failed

/-- What is read has every name that a listed file has, with the tensor of that file. -/
theorem Indexes.lookup_iff (h : Indexes d path names) (named : d.Named) {state : Parameters α}
    (ok : read d path = .ok state) :
    (state.map Prod.fst).Nodup ∧ ∀ key t, state.lookup key = some t ↔
      ∃ name tensors, Shard d path names name tensors ∧ tensors.lookup key = some t := by
  obtain ⟨hall, hshared, rfl⟩ := (h.read_eq_ok named).mp ok
  have hdistinct := (hall.nodup_iff named).mpr hshared
  refine ⟨hdistinct, fun key t => ?_⟩
  rw [Parameters.lookup_eq_some_iff hdistinct, List.mem_flatMap]
  constructor
  · rintro ⟨name, hname, hmem⟩
    have hshard := hall.shard (mem_distinct.mp hname)
    exact ⟨name, _, hshard, (Parameters.lookup_eq_some_iff (hshard.distinct named)).mpr hmem⟩
  · rintro ⟨name, tensors, hshard, hlookup⟩
    refine ⟨name, mem_distinct.mpr hshard.listed, ?_⟩
    rw [hshard.tensorsOf_eq]
    exact (Parameters.lookup_eq_some_iff (hshard.distinct named)).mp hlookup

/-- What is read depends on which files are listed, and on what is in files that are no indexes. -/
theorem Indexes.read_congr (h : Indexes d path names) {d' : Directory α} {names' : List String}
    (h' : Indexes d' path names') (same : ∀ name, name ∈ names' ↔ name ∈ names)
    (files : ∀ place, isIndex place = false → d'.find place = d.find place) :
    read d' path = read d path := by
  have hadd : addShard d' path = addShard d path := by
    funext state shard
    rw [addShard_eq, addShard_eq, readShard, readShard]
    cases hplace : isIndex (Path.beside path shard) with
    | true => rfl
    | false =>
      have hread : read d' (Path.beside path shard) = read d (Path.beside path shard) := by
        rw [read, read, files _ hplace, hplace]
        simp only [if_neg Bool.false_ne_true]
      rw [hread]
  rw [h.read_eq, h'.read_eq, hadd, distinct_congr same]

theorem Indexes.family_eq (h : Indexes d path names) (readable : Readable d path names) {f : Failure}
    (failed : read d path = .error f) : f.family = .load := by
  obtain ⟨name, rfl⟩ | ⟨name, hname, hfile⟩ := h.read_eq_error failed
  · rfl
  · exact readable.family_eq hname hfile

/-- If its files can be read, an index is refused exactly for one that is missing or an index itself,
or for two that share a name. -/
theorem Indexes.refused_iff (h : Indexes d path names) (named : d.Named)
    (readable : Readable d path names) :
    (∃ f, read d path = .error f) ↔
      (∃ name ∈ names, d.find (Path.beside path name) = none) ∨
      (∃ name ∈ names, isIndex (Path.beside path name) = true) ∨ Shared d path names := by
  constructor
  · rintro ⟨f, hf⟩
    by_contra hnone
    simp only [not_or, not_exists, not_and] at hnone
    obtain ⟨hthere, hfile, hshared⟩ := hnone
    have hall : AllRead d path names := by
      intro name hname
      have hplace := Bool.eq_false_iff.mpr (hfile name hname)
      obtain ⟨tensors, hread⟩ := readable name hname hplace (hthere name hname)
      exact ⟨tensors, hname, hplace, hread⟩
    rw [(h.read_eq_ok named).mpr ⟨hall, hshared, rfl⟩] at hf
    cases hf
  · intro hbad
    cases hread : read d path with
    | error f => exact ⟨f, rfl⟩
    | ok state =>
      obtain ⟨hall, hshared, -⟩ := (h.read_eq_ok named).mp hread
      obtain ⟨name, hname, hmissing⟩ | ⟨name, hname, hindex⟩ | hboth := hbad
      · obtain ⟨tensors, hshard⟩ := hall name hname
        have hcontents := hshard.contents
        rw [read, hmissing] at hcontents
        cases hcontents
      · obtain ⟨tensors, hshard⟩ := hall name hname
        exact absurd hindex (by simp [hshard.file])
      · exact absurd hboth hshared

/-- Reading an index is a disjoint union. However the files of a directory list each other, calls are
at most two deep. What is read has every name that a listed file has, with the tensor of that file, of
which there is one only. The order and the repetition of the list do not matter, nor do other indexes.
If the listed files that are there can be read, a failure is one of loading, and it arises exactly if a
listed file is missing or an index, or two of them share a name. -/
theorem index_union (h : Indexes d path names) (named : d.Named) :
    (∀ depth, readNested d (depth + 2) path = always (read d path)) ∧
    (∀ state, read d path = .ok state →
      AllRead d path names ∧ ¬Shared d path names ∧ (state.map Prod.fst).Nodup ∧
        ∀ key t, state.lookup key = some t ↔
          ∃ name tensors, Shard d path names name tensors ∧ tensors.lookup key = some t) ∧
    (∀ (d' : Directory α) (names' : List String), Indexes d' path names' →
      (∀ name, name ∈ names' ↔ name ∈ names) →
      (∀ place, isIndex place = false → d'.find place = d.find place) →
        read d' path = read d path) ∧
    (Readable d path names →
      (∀ f, read d path = .error f → f.family = .load) ∧
      ((∃ f, read d path = .error f) ↔
        (∃ name ∈ names, d.find (Path.beside path name) = none) ∨
        (∃ name ∈ names, isIndex (Path.beside path name) = true) ∨ Shared d path names)) := by
  refine ⟨fun depth => readNested_eq d depth path, fun state hstate => ?_,
    fun _ _ h' same files => h.read_congr h' same files, fun readable => ⟨?_, ?_⟩⟩
  · obtain ⟨hall, hshared, -⟩ := (h.read_eq_ok named).mp hstate
    exact ⟨hall, hshared, h.lookup_iff named hstate⟩
  · exact fun f => h.family_eq readable
  · exact h.refused_iff named readable

def listing : List Nat := Utf8.encode
  "\x7b\"weight_map\": \x7b\"b\": \"y.pt\", \"a\": \"x.pt\", \"c\": \"y.pt\"\x7d\x7d"

def xTensors : Parameters Float := [("a", ⟨[1], #[1]⟩)]

def yTensors : Parameters Float := [("b", ⟨[1], #[2]⟩), ("c", ⟨[1], #[3]⟩)]

def spreadFiles : List (String × FileContent Float) :=
  [("m.index.json", .bytes listing), ("x.pt", .tensors xTensors), ("y.pt", .tensors yTensors)]

def spread : Directory Float := fun path => spreadFiles.lookup path

theorem parts_index : Path.parts "m.index.json" = ["m.index.json"] := by
  rw [Path.parts, String.splitOn]
  iterate 13 rw [String.splitOnAux]
  rfl

theorem parts_x : Path.parts "x.pt" = ["x.pt"] := by
  rw [Path.parts, String.splitOn]
  iterate 5 rw [String.splitOnAux]
  rfl

theorem parts_y : Path.parts "y.pt" = ["y.pt"] := by
  rw [Path.parts, String.splitOn]
  iterate 5 rw [String.splitOnAux]
  rfl

theorem spread_indexes : Indexes spread "m.index.json" ["y.pt", "x.pt", "y.pt"] where
  named := by
    rw [isIndex, Path.name, parts_index]
    decide +kernel
  listed := by
    have hjson : readJson listing = .ok (.dict [(.text "weight_map", .dict
        [(.text "b", .text "y.pt"), (.text "a", .text "x.pt"), (.text "c", .text "y.pt")])]) := by
      cbv
    have hfind : spread.find "m.index.json" = some (.bytes listing) := by
      rw [Directory.find, Path.clean, parts_index]
      rfl
    exact ⟨listing, _, _, hfind, hjson, rfl, rfl⟩

theorem spread_named : spread.Named := by
  intro path entries hfind
  obtain ⟨before, after, hfiles, -⟩ := List.lookup_eq_some_iff.mp hfind
  have hmem : (Path.clean path, FileContent.tensors entries) ∈ spreadFiles := by
    rw [hfiles]
    simp
  simp only [spreadFiles, List.mem_cons, List.not_mem_nil, or_false, Prod.mk.injEq, reduceCtorEq,
    and_false, false_or, FileContent.tensors.injEq] at hmem
  obtain ⟨-, rfl⟩ | ⟨-, rfl⟩ := hmem
  · decide
  · decide

theorem place_x : Path.beside "m.index.json" "x.pt" = "x.pt" := by
  rw [Path.beside, if_neg (by decide), parts_index, parts_x]
  rfl

theorem place_y : Path.beside "m.index.json" "y.pt" = "y.pt" := by
  rw [Path.beside, if_neg (by decide), parts_index, parts_y]
  rfl

theorem file_x : isIndex (Path.beside "m.index.json" "x.pt") = false ∧
    read spread (Path.beside "m.index.json" "x.pt") = .ok xTensors := by
  rw [place_x]
  have hfile : isIndex "x.pt" = false := by
    rw [isIndex, Path.name, parts_x]
    decide +kernel
  have hfind : spread.find "x.pt" = some (.tensors xTensors) := by
    rw [Directory.find, Path.clean, parts_x]
    rfl
  refine ⟨hfile, ?_⟩
  rw [read, hfind]
  simp only [hfile, readTensors, Path.ending, Path.name, parts_x]
  rfl

theorem file_y : isIndex (Path.beside "m.index.json" "y.pt") = false ∧
    read spread (Path.beside "m.index.json" "y.pt") = .ok yTensors := by
  rw [place_y]
  have hfile : isIndex "y.pt" = false := by
    rw [isIndex, Path.name, parts_y]
    decide +kernel
  have hfind : spread.find "y.pt" = some (.tensors yTensors) := by
    rw [Directory.find, Path.clean, parts_y]
    rfl
  refine ⟨hfile, ?_⟩
  rw [read, hfind]
  simp only [hfile, readTensors, Path.ending, Path.name, parts_y]
  rfl

theorem mem_listed {name : String} (listed : name ∈ ["y.pt", "x.pt", "y.pt"]) :
    name = "x.pt" ∨ name = "y.pt" := by
  simp only [List.mem_cons, List.not_mem_nil, or_false] at listed
  tauto

theorem shard_spread {name : String} {tensors : Parameters Float}
    (h : Shard spread "m.index.json" ["y.pt", "x.pt", "y.pt"] name tensors) :
    name = "x.pt" ∧ tensors = xTensors ∨ name = "y.pt" ∧ tensors = yTensors := by
  have hread := h.contents
  obtain rfl | rfl := mem_listed h.listed
  · rw [file_x.2] at hread
    exact .inl ⟨rfl, (Except.ok.inj hread).symm⟩
  · rw [file_y.2] at hread
    exact .inr ⟨rfl, (Except.ok.inj hread).symm⟩

theorem disjoint_xy : (xTensors.map Prod.fst).Disjoint (yTensors.map Prod.fst) := by
  simp [xTensors, yTensors]

/-- Two files without a name in common are joined. -/
theorem spread_union : Indexes spread "m.index.json" ["y.pt", "x.pt", "y.pt"] ∧ spread.Named ∧
    ∃ state, read spread "m.index.json" = .ok state ∧ (state.map Prod.fst).Nodup ∧
      state.lookup "a" = some ⟨[1], #[1]⟩ ∧ state.lookup "c" = some ⟨[1], #[3]⟩ := by
  obtain ⟨-, hok, -, hfail⟩ := index_union spread_indexes spread_named
  have hplaces : ∀ name ∈ ["y.pt", "x.pt", "y.pt"],
      isIndex (Path.beside "m.index.json" name) = false ∧
        ∃ tensors, read spread (Path.beside "m.index.json" name) = .ok tensors := by
    intro name hname
    obtain rfl | rfl := mem_listed hname
    · exact ⟨file_x.1, xTensors, file_x.2⟩
    · exact ⟨file_y.1, yTensors, file_y.2⟩
  obtain ⟨-, hiff⟩ := hfail fun name hname _ _ => (hplaces name hname).2
  cases hread : read spread "m.index.json" with
  | error f =>
    exfalso
    obtain ⟨name, hname, hmissing⟩ | ⟨name, hname, hindex⟩ | hshared := hiff.mp ⟨f, hread⟩
    · obtain ⟨-, tensors, hfile⟩ := hplaces name hname
      rw [read, hmissing] at hfile
      cases hfile
    · simp [(hplaces name hname).1] at hindex
    · obtain ⟨a, b, tensors, more, ha, hb, hne, hcommon⟩ := hshared
      obtain ⟨rfl, rfl⟩ | ⟨rfl, rfl⟩ := shard_spread ha <;>
        obtain ⟨rfl, rfl⟩ | ⟨rfl, rfl⟩ := shard_spread hb
      · exact hne rfl
      · exact hcommon disjoint_xy
      · exact hcommon (List.disjoint_symm disjoint_xy)
      · exact hne rfl
  | ok state =>
    obtain ⟨-, -, hdistinct, hkeys⟩ := hok state hread
    refine ⟨spread_indexes, spread_named, state, rfl, hdistinct, ?_, ?_⟩
    · rw [hkeys]
      exact ⟨"x.pt", xTensors, ⟨by simp, file_x.1, file_x.2⟩, rfl⟩
    · rw [hkeys]
      exact ⟨"y.pt", yTensors, ⟨by simp, file_y.1, file_y.2⟩, rfl⟩

end Checkpoint
end StreamingLM
