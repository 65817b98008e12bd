import Mathlib.Data.List.Nodup
import Mathlib.Data.List.Perm.Basic
import StreamingLM.Checkpoint.Names
import StreamingLM.Proofs.Model.Shape

/-!
The two ways to name the tensors of a stack, for any number of layers: no two tensors share a name
of either way, and the own names are those that the parts of the stack give to their parameters.
-/
namespace StreamingLM
namespace Checkpoint

def numbered (scope : String) (i : Nat) (part : String) : String :=
  scope ++ toString i ++ "." ++ part

theorem toList_numbered (scope : String) (i : Nat) (part : String) :
    (numbered scope i part).toList = scope.toList ++ (Nat.toDigits 10 i ++ '.' :: part.toList) := by
  simp [numbered]

theorem prefix_numbered (scope : String) (i : Nat) (part : String) :
    scope.toList <+: (numbered scope i part).toList :=
  ⟨_, (toList_numbered scope i part).symm⟩

theorem takeWhile_digits (i : Nat) (rest : List Char) :
    (Nat.toDigits 10 i ++ '.' :: rest).takeWhile (· ≠ '.') = Nat.toDigits 10 i := by
  have hdigits : ∀ c ∈ Nat.toDigits 10 i, decide (c ≠ '.') = true := by
    intro c hc
    have hdigit := Nat.isDigit_of_mem_toDigits (by decide) (by decide) hc
    refine decide_eq_true ?_
    rintro rfl
    exact absurd hdigit (by decide)
  rw [List.takeWhile_append_of_pos hdigits, List.takeWhile_cons_of_neg (by decide), List.append_nil]

theorem numbered_inj {scope : String} {i j : Nat} {a b : String} :
    numbered scope i a = numbered scope j b ↔ i = j ∧ a = b := by
  refine ⟨fun same => ?_, fun ⟨hnumber, hpart⟩ => by rw [hnumber, hpart]⟩
  have hlists : Nat.toDigits 10 i ++ '.' :: a.toList = Nat.toDigits 10 j ++ '.' :: b.toList := by
    have hall := congrArg String.toList same
    rw [toList_numbered, toList_numbered] at hall
    exact List.append_cancel_left hall
  have hdigits := congrArg (List.takeWhile (· ≠ '.')) hlists
  rw [takeWhile_digits, takeWhile_digits] at hdigits
  rw [hdigits] at hlists
  have hpart := (List.cons.inj (List.append_cancel_left hlists)).2
  refine ⟨?_, String.toList_inj.mp hpart⟩
  rw [← Nat.ofDigitChars_ten_toDigits (n := i), hdigits, Nat.ofDigitChars_ten_toDigits]

def framed (first : List String) (scope : String) (parts last : List String) (layers : Nat) :
    List String :=
  first ++ (List.range layers).flatMap (fun i => parts.map (numbered scope i)) ++ last

theorem prefix_of_mem {scope name : String} {parts : List String} {layers : Nat}
    (h : name ∈ (List.range layers).flatMap fun i => parts.map (numbered scope i)) :
    scope.toList <+: name.toList := by
  obtain ⟨i, -, hi⟩ := List.mem_flatMap.mp h
  obtain ⟨part, -, rfl⟩ := List.mem_map.mp hi
  exact prefix_numbered scope i part

/-- The names are distinct if those around the blocks are, and those within a block, and none around
the blocks looks like one of a block. -/
theorem framed_nodup {first last parts : List String} {scope : String}
    (around : (first ++ last).Nodup) (within : parts.Nodup)
    (apart : ∀ name ∈ first ++ last, ¬scope.toList <+: name.toList) (layers : Nat) :
    (framed first scope parts last layers).Nodup := by
  have hblocks : ((List.range layers).flatMap fun i => parts.map (numbered scope i)).Nodup := by
    have hpairs := List.Nodup.product (List.nodup_range (n := layers)) within
    have hnames := hpairs.map (f := fun pair => numbered scope pair.1 pair.2) fun x y same =>
      Prod.ext (numbered_inj.mp same).1 (numbered_inj.mp same).2
    simpa [SProd.sprod, List.product, List.map_flatMap, Function.comp_def] using hnames
  have hfront : (framed first scope parts last layers).Perm
      (first ++ last ++ (List.range layers).flatMap fun i => parts.map (numbered scope i)) := by
    rw [framed, List.append_assoc, List.append_assoc]
    exact List.perm_append_comm.append_left first
  rw [hfront.nodup_iff, List.nodup_append]
  refine ⟨around, hblocks, fun name hname other hother => ?_⟩
  rintro rfl
  exact apart name hname (prefix_of_mem hother)

theorem published_names (layers : Nat) : (publishedNames layers).map Prod.fst =
    framed ["model.embed_tokens.weight", "model.norm.weight"] "model.layers."
      (blockNames.map Prod.fst) ["lm_head.weight"] layers := by
  simp only [publishedNames, List.map_append, List.map_flatMap, namesOfBlock, List.map_map]
  rfl

theorem own_names (layers : Nat) : (publishedNames layers).map Prod.snd =
    framed ["tok_embeddings.weight", "norm.weight"] "layers." (blockNames.map Prod.snd)
      ["output.weight"] layers := by
  simp only [publishedNames, List.map_append, List.map_flatMap, namesOfBlock, List.map_map]
  rfl

theorem published_nodup (layers : Nat) : ((publishedNames layers).map Prod.fst).Nodup := by
  rw [published_names]
  exact framed_nodup (by decide) (by decide) (by decide) layers

theorem own_nodup (layers : Nat) : ((publishedNames layers).map Prod.snd).Nodup := by
  rw [own_names]
  exact framed_nodup (by decide) (by decide) (by decide) layers

theorem embeddingName_not_own (layers : Nat) :
    embeddingName ∉ (publishedNames layers).map Prod.snd := by
  rw [own_names, framed, List.mem_append, List.mem_append, or_right_comm, ← List.mem_append]
  rintro (haround | hblock)
  · exact absurd haround (by decide)
  · exact absurd (prefix_of_mem hblock) (by decide)

theorem attention_names {c : AttentionConfig} {shapes : List (String × List Nat)}
    (ok : (LayerConfig.attention c).parameters = .ok shapes) :
    shapes.map Prod.fst = ["wq.weight", "wk.weight", "wv.weight", "wo.weight"] := by
  rw [LayerConfig.parameters] at ok
  split at ok
  · cases ok
  · split at ok
    · cases ok
    · rw [LayerConfig.named_ok ok]
      rfl

theorem norm_names {c : NormConfig} {shapes : List (String × List Nat)}
    (ok : (LayerConfig.norm c).parameters = .ok shapes) : shapes.map Prod.fst = ["weight"] := by
  rw [LayerConfig.named_ok ok]
  rfl

theorem gated_names {c : GatedConfig} (plain : c.bias = false) {shapes : List (String × List Nat)}
    (ok : (LayerConfig.gated c).parameters = .ok shapes) :
    shapes.map Prod.fst = ["w_gate.weight", "w_up.weight", "w_down.weight"] := by
  simp only [LayerConfig.parameters, plain] at ok
  rw [LayerConfig.named_ok ok]
  rfl

theorem within_names (scope : String) {params : List (String × List Nat)} {names : List String}
    (h : params.map Prod.fst = names) :
    (within scope params).map Prod.fst = names.map (scope ++ ·) := by
  subst h
  simp [within]

theorem map_layerScope (i : Nat) (part : String) (names : List String) :
    names.map (TransformerConfig.layerScope i ++ part ++ ·) =
      (names.map (part ++ ·)).map (numbered "layers." i) := by
  rw [List.map_map]
  refine List.map_congr_left fun name _ => ?_
  exact String.append_assoc

theorem block_names {c : TransformerConfig} {i : Nat} {shapes : List (String × List Nat)}
    (ok : c.blockParameters i = .ok shapes) :
    (shapes.map Prod.fst).Perm ((blockNames.map Prod.snd).map (numbered "layers." i)) := by
  obtain ⟨config, -, hrest⟩ := Outcome.bind_eq_ok.mp ok
  obtain ⟨attention, hattention, hrest⟩ := Outcome.bind_eq_ok.mp hrest
  obtain ⟨norm, hnorm, hrest⟩ := Outcome.bind_eq_ok.mp hrest
  obtain ⟨feedForward, hfeedForward, hrest⟩ := Outcome.bind_eq_ok.mp hrest
  cases hrest
  simp only [List.map_append, within_names _ (attention_names hattention),
    within_names _ (norm_names hnorm), within_names _ (gated_names rfl hfeedForward),
    map_layerScope]
  rw [← List.map_append, ← List.map_append, ← List.map_append]
  have horder : (["attention.wq.weight", "attention.wk.weight", "attention.wv.weight",
      "attention.wo.weight", "attention_norm.weight", "feed_forward.w_gate.weight",
      "feed_forward.w_up.weight", "feed_forward.w_down.weight", "ffn_norm.weight"]).Perm
      (blockNames.map Prod.snd) := by decide
  exact horder.map (numbered "layers." i)

theorem own_perm {c : TransformerConfig} {shapes : List (String × List Nat)}
    (ok : c.parameters = .ok shapes) :
    ((publishedNames c.layers.toNat).map Prod.snd).Perm (shapes.map Prod.fst) := by
  obtain ⟨vocabulary, hvocabulary, hrest⟩ := Outcome.bind_eq_ok.mp ok
  obtain ⟨blocks, hblocks, hrest⟩ := Outcome.bind_eq_ok.mp hrest
  obtain ⟨norm, hnorm, hrest⟩ := Outcome.bind_eq_ok.mp hrest
  obtain ⟨output, houtput, hrest⟩ := Outcome.bind_eq_ok.mp hrest
  cases hrest
  have hparts : (blocks.flatten.map Prod.fst).Perm
      ((List.range c.layers.toNat).flatMap fun i =>
        (blockNames.map Prod.snd).map (numbered "layers." i)) := by
    rw [List.map_flatten]
    refine List.Perm.flatten_congr ?_
    rw [List.forall₂_map_left_iff, List.forall₂_map_right_iff]
    exact (Outcome.mapM_eq_ok.mp hblocks).flip.imp fun block i => block_names
  rw [own_names, framed, LayerConfig.named_ok hvocabulary, LayerConfig.named_ok houtput]
  simp only [List.map_append, within_names _ (norm_names hnorm)]
  refine List.Perm.append_right _ (List.Perm.cons _ ?_)
  exact (hparts.symm.cons _).trans (List.perm_append_singleton _ _).symm

end Checkpoint
end StreamingLM
