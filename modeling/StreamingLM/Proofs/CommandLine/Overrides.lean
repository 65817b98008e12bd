import Mathlib
import StreamingLM.CommandLine.Command
import StreamingLM.Proofs.Config.Merged
import StreamingLM.Proofs.Text.Order

/-!
Settings on a command line. Main statement: they override those of the file or the default ones and
nothing else, the rules hold for the result, and options that a model has no settings for are refused
together, by their names in order.
-/
namespace StreamingLM
namespace Command

open CommandLine
open LlamaServerConfig (adjustable Adjusts)

/-- What can be set on the command line of a run, and the kinds of the values. -/
def runSettings : List (String × ValueKind) :=
  [("prompt", .text), ("system", .text), ("config", .text)] ++ adjustable

theorem run_sets {o : Opt} {kind : ValueKind} (sets : runGrammar.Sets o kind) :
    (o.key, kind) ∈ runSettings := by
  have hall : ∀ o ∈ runGrammar.options, ∀ kind ∈ [ValueKind.text, .int, .real],
      o.effect = .set kind → (o.key, kind) ∈ runSettings := by decide
  exact hall o sets.1 kind (by cases kind <;> simp) sets.2

variable {r : Reading} {key : String}

theorem run_holds (sound : r.Sound runGrammar) {kind : ValueKind} (mem : (key, kind) ∈ runSettings)
    {v : Value} (found : r.value? key = some v) : kind.Holds v := by
  have hunique : ∀ e ∈ runSettings, ∀ e' ∈ runSettings, e.1 = e'.1 → e.2 = e'.2 := by decide
  obtain ⟨o, other, hsets, rfl, hholds⟩ := sound.value? found
  obtain rfl : other = kind := hunique _ (run_sets hsets) _ mem rfl
  exact hholds

theorem textOf_eq (sound : r.Sound runGrammar) (mem : (key, .text) ∈ runSettings) {v : Value}
    (found : r.value? key = some v) : ∃ s, v = .text s ∧ textOf r key = some s := by
  obtain ⟨s, rfl⟩ := run_holds sound mem found
  exact ⟨s, rfl, by rw [textOf, found]⟩

theorem exists_prompt (sound : r.Sound runGrammar) (complete : missing runGrammar r = []) :
    ∃ prompt, textOf r "prompt" = some prompt := by
  obtain ⟨o, ho, hrequired, hkey⟩ : ∃ o ∈ runGrammar.options, o.required = true ∧ o.key = "prompt" := by
    decide
  have hnone := List.map_eq_nil_iff.mp (List.append_eq_nil_iff.mp complete).2
  have hprompt := List.filter_eq_nil_iff.mp hnone o ho
  cases hv : r.value? "prompt" with
  | none =>
    rw [hrequired, hkey, hv] at hprompt
    exact absurd rfl hprompt
  | some v =>
    obtain ⟨prompt, -, hprompt⟩ := textOf_eq sound (by decide) hv
    exact ⟨prompt, hprompt⟩

/-- The value that a command line gives for a setting that it can change. -/
def given (r : Reading) (key : String) : Option Value :=
  if key ∈ adjustable.map Prod.fst then r.value? key else none

theorem adjusts_given (sound : r.Sound runGrammar) : Adjusts (given r) := by
  intro key v hv
  rw [given] at hv
  split_ifs at hv with hkey
  obtain ⟨⟨_, kind⟩, hmem, rfl⟩ := List.mem_map.mp hkey
  exact ⟨kind, hmem, run_holds sound (List.mem_append_right _ hmem) hv⟩

theorem overrides_eq (r : Reading) : overrides r =
    (adjustable.map Prod.fst).filterMap fun key => (r.value? key).map (key, ·) := by
  have hkeys : adjustable.map Prod.fst = overrideOptions.map Opt.key := by decide
  rw [hkeys, List.filterMap_map]
  rfl

theorem map_fst_overrides (r : Reading) : (overrides r).map Prod.fst =
    (adjustable.map Prod.fst).filter fun key => (r.value? key).isSome := by
  rw [overrides_eq, List.map_filterMap, ← List.filterMap_eq_filter]
  refine List.filterMap_congr fun key _ => ?_
  cases hv : r.value? key <;> simp [Option.guard, hv]

theorem nodup_overrides (r : Reading) : ((overrides r).map Prod.fst).Nodup := by
  rw [map_fst_overrides]
  exact List.Nodup.filter _ (by decide)

theorem mem_overrides : key ∈ (overrides r).map Prod.fst ↔ given r key ≠ none := by
  rw [map_fst_overrides, List.mem_filter, given, Option.isSome_iff_ne_none]
  split_ifs with hkey <;> simp [hkey]

theorem lookup_filterMap (keys : List String) (value? : String → Option Value) (key : String) :
    (keys.filterMap fun k => (value? k).map (k, ·)).lookup key =
      if key ∈ keys then value? key else none := by
  induction keys with
  | nil => rfl
  | cons k keys ih =>
    by_cases hkey : key = k
    · subst hkey
      cases hv : value? key with
      | none => simp [hv, ih]
      | some v => simp [hv]
    · cases hv : value? k with
      | none => simp [hv, ih, hkey]
      | some v => simp [hv, ih, hkey, List.lookup_cons, beq_eq_false_iff_ne.mpr hkey]

theorem lookup_overrides (r : Reading) (key : String) : (overrides r).lookup key = given r key := by
  rw [overrides_eq, lookup_filterMap, given]

/-- The settings before a command line changes them: those of a file or the default ones. -/
def startingConfig {α : Type} (d : Directory α) (kind : ServerKind) :
    Option String → Except Failure ServerConfig
  | some path => kind.configAt d path
  | none => .ok kind.defaultConfig

theorem startingConfig_holds {α : Type} {d : Directory α} {kind : ServerKind} {path : Option String}
    {c : ServerConfig} (ok : startingConfig d kind path = .ok c) : kind.Holds c := by
  cases path with
  | none =>
    cases ok
    exact kind.holds_default
  | some path => exact ServerKind.holds_of_configAt ok

theorem read_of_readLine {arguments : List String} (line : readLine arguments = .ok (some ("run", r))) :
    r.Sound runGrammar ∧ missing runGrammar r = [] := by
  obtain ⟨outer, -, hrest⟩ := Outcome.bind_eq_ok.mp line
  split at hrest
  · obtain ⟨inner, hinner, hrest⟩ := Outcome.bind_eq_ok.mp hrest
    obtain ⟨-, -, heq⟩ := Outcome.bind_eq_ok.mp hrest
    cases heq
    exact Grammar.read_sound hinner
  · obtain ⟨-, -, heq⟩ := Outcome.bind_eq_ok.mp hrest
    cases heq

theorem overridden_refused {model : String} {kind : ServerKind} (c : ServerConfig) {keys : List String}
    (sorted : keys.Pairwise (· < ·))
    (unsupported : ∀ key, key ∈ keys ↔ given r key ≠ none ∧ key ∉ kind.fields) (some : keys ≠ []) :
    overridden model kind c (overrides r) = .error (.flagsRefused model (keys.map flag)) := by
  have hsame : ∀ key, key ∈ ((overrides r).map Prod.fst).filter
      (fun key => !kind.fields.contains key) ↔ key ∈ keys := by
    intro key
    rw [List.mem_filter, mem_overrides, unsupported]
    simp
  have hkeys := mergeSort_names_eq ((nodup_overrides r).filter _) sorted hsame
  have hunknown : ((overrides r).map Prod.fst).filter (fun key => !kind.fields.contains key) ≠ [] := by
    intro hnil
    rw [hnil, List.mergeSort_nil] at hkeys
    exact some hkeys.symm
  rw [overridden, if_pos hunknown, hkeys]

theorem supported_of_overridden {model : String} {kind : ServerKind} {c m : ServerConfig}
    (ok : overridden model kind c (overrides r) = .ok m) {key : String} (present : given r key ≠ none) :
    key ∈ kind.fields := by
  by_contra hkey
  have hmem : key ∈ ((overrides r).map Prod.fst).filter (fun key => !kind.fields.contains key) :=
    List.mem_filter.mpr ⟨mem_overrides.mpr present, by simpa using hkey⟩
  rw [overridden, if_pos (List.ne_nil_of_mem hmem)] at ok
  cases ok

theorem overridden_supported (model : String) {kind : ServerKind} {c : ServerConfig}
    (holds : kind.Holds c) (sound : r.Sound runGrammar)
    (supported : ∀ key, given r key ≠ none → key ∈ kind.fields) :
    ∃ m : ServerConfig, (∀ key, m.dump.get? key = (given r key).or (c.dump.get? key)) ∧
      (kind.Holds m → overridden model kind c (overrides r) = .ok m) ∧
      (¬kind.Holds m → ∃ issues, overridden model kind c (overrides r) =
        .error (.invalid kind.configName issues)) := by
  have hunknown : ((overrides r).map Prod.fst).filter (fun key => !kind.fields.contains key) = [] := by
    refine List.filter_eq_nil_iff.mpr fun key hkey => ?_
    simpa using supported key (mem_overrides.mp hkey)
  rw [overridden, if_neg (not_not_intro hunknown)]
  by_cases hempty : (overrides r).isEmpty = true
  · have hnone : ∀ key, given r key = none := by
      intro key
      rw [← lookup_overrides, List.isEmpty_iff.mp hempty, List.lookup_nil]
    refine ⟨c, fun key => by rw [hnone, Option.none_or], fun _ => if_pos hempty, fun broken => ?_⟩
    exact absurd holds broken
  · have hadjusts := adjusts_given sound
    obtain ⟨m, hm, hconfig⟩ := ServerKind.exists_adjusted holds hadjusts fun key v hv =>
      supported key (by rw [hv]; exact Option.some_ne_none v)
    refine ⟨m, hm, ?_⟩
    rw [if_neg hempty]
    refine hconfig _ fun key => ?_
    rw [Value.lookup_changed (nodup_overrides r), lookup_overrides, hm, Value.get?]

/-- Settings that are accepted with the changes have them, the others are as they were, and all rules
hold. -/
theorem of_overridden {model : String} {kind : ServerKind} {c m : ServerConfig} (holds : kind.Holds c)
    (sound : r.Sound runGrammar) (ok : overridden model kind c (overrides r) = .ok m) :
    kind.Holds m ∧ ∀ key, m.dump.get? key = (given r key).or (c.dump.get? key) := by
  have hsupported : ∀ key, given r key ≠ none → key ∈ kind.fields :=
    fun key => supported_of_overridden ok
  obtain ⟨m', hm', haccepted, hbroken⟩ := overridden_supported model holds sound hsupported
  by_cases hvalid : kind.Holds m'
  · obtain rfl := Except.ok.inj ((haccepted hvalid).symm.trans ok)
    exact ⟨hvalid, hm'⟩
  · obtain ⟨issues, hissues⟩ := hbroken hvalid
    rw [hissues] at ok
    cases ok

theorem serverConfig_eq {α : Type} {registry : Registry} {d : Directory α} {name : String}
    {e : RegistryEntry} {path : Option String} {base : ServerConfig} {changes : List (String × Value)}
    (registered : registry.get name = .ok e) (start : startingConfig d e.kind path = .ok base) :
    serverConfig registry d name path changes = overridden name e.kind base changes := by
  rw [serverConfig, registered]
  cases path with
  | none =>
    cases start
    rfl
  | some path =>
    change (e.kind.configAt d path >>= fun config => overridden name e.kind config changes) = _
    rw [show e.kind.configAt d path = .ok base from start]
    rfl

theorem ofArguments_eq {α : Type} (registry : Registry) (d : Directory α) {arguments : List String}
    {name prompt : String} {rest : List String} (line : readLine arguments = .ok (some ("run", r)))
    (operand : r.operand = some (name :: rest)) (asked : textOf r "prompt" = some prompt) :
    ofArguments registry d arguments =
      ((serverConfig registry d name (textOf r "config") (overrides r)).map fun config =>
        Command.run { model := name, prompt, config, system := textOf r "system" }).mapError
          .failure := by
  rw [ofArguments, line]
  simp only [ofReading, operand, asked]
  rfl

/-- A run takes its settings from a file, if it names one, or else the default ones, and overrides those
that its command line gives. Given settings that the model does not have are refused, all of them in
order, whatever else is given. If it has them all, the result has the given values, and the other
ones as they were; it is accepted exactly if all rules hold for it. -/
theorem ofArguments_overrides {α : Type} {registry : Registry} {d : Directory α}
    {arguments : List String} {name : String} {rest : List String} {e : RegistryEntry}
    {base : ServerConfig} (line : readLine arguments = .ok (some ("run", r)))
    (operand : r.operand = some (name :: rest)) (registered : registry.get name = .ok e)
    (start : startingConfig d e.kind (textOf r "config") = .ok base) :
    (∀ keys : List String, keys.Pairwise (· < ·) →
      (∀ key, key ∈ keys ↔ given r key ≠ none ∧ key ∉ e.kind.fields) → keys ≠ [] →
        ∃ f, ofArguments registry d arguments = .error (.failure f) ∧ f.family = .value ∧
          f.message = "Model " ++ quoted name ++ " does not accept " ++
            String.intercalate ", " (keys.map flag)) ∧
    ((∀ key, given r key ≠ none → key ∈ e.kind.fields) →
      ∃ m prompt, (∀ key, m.dump.get? key = (given r key).or (base.dump.get? key)) ∧
        textOf r "prompt" = some prompt ∧
        (e.kind.Holds m → ofArguments registry d arguments =
          .ok (.run { model := name, prompt, config := m, system := textOf r "system" })) ∧
        (¬e.kind.Holds m → ∃ issues, ofArguments registry d arguments =
          .error (.failure (.invalid e.kind.configName issues)))) ∧
    ∀ command, ofArguments registry d arguments = .ok command →
      ∃ c, command = .run c ∧ c.model = name ∧ e.kind.Holds c.config ∧
        ∀ key, c.config.dump.get? key = (given r key).or (base.dump.get? key) := by
  obtain ⟨hsound, hcomplete⟩ := read_of_readLine line
  obtain ⟨prompt, hprompt⟩ := exists_prompt hsound hcomplete
  have hholds := startingConfig_holds start
  have hresult := ofArguments_eq registry d line operand hprompt
  rw [serverConfig_eq registered start] at hresult
  refine ⟨fun keys sorted unsupported some => ?_, fun supported => ?_, fun command ok => ?_⟩
  · refine ⟨.flagsRefused name (keys.map flag), ?_, rfl, rfl⟩
    rw [hresult, overridden_refused base sorted unsupported some]
    rfl
  · obtain ⟨m, hm, haccepted, hbroken⟩ := overridden_supported name hholds hsound supported
    refine ⟨m, prompt, hm, hprompt, fun hvalid => ?_, fun hinvalid => ?_⟩
    · rw [hresult, haccepted hvalid]
      rfl
    · obtain ⟨issues, hissues⟩ := hbroken hinvalid
      refine ⟨issues, ?_⟩
      rw [hresult, hissues]
      rfl
  · rw [hresult] at ok
    cases hm : overridden name e.kind base (overrides r) with
    | error f =>
      rw [hm] at ok
      cases ok
    | ok m =>
      rw [hm] at ok
      obtain ⟨hvalid, hsettings⟩ := of_overridden hholds hsound hm
      exact ⟨_, (Except.ok.inj ok).symm, rfl, hvalid, hsettings⟩

def settingsFile : Directory Unit := fun _ =>
  some (.bytes (Utf8.encode "\x7b\"seed\": 7, \"sample_len\": 5\x7d"))

def seededLine : List String :=
  ["run", "llama", "--prompt", "hi", "--config", "c.json", "--seed", "0"]

def seededReading : Reading where
  values := [("prompt", .text "hi"), ("config", .text "c.json"), ("seed", .int 0)]
  operand := some ["llama"]

theorem configAt_settingsFile : ServerKind.configAt settingsFile .llama "c.json" =
    .ok (.llama { seed := 7, sampleLength := 5 }) := by
  have hparts : Path.parts "c.json" = ["c.json"] := by
    rw [Path.parts, String.splitOn]
    iterate 7 rw [String.splitOnAux]
    rfl
  have hending : Path.ending "c.json" = ".json" := by
    rw [Path.ending, Path.name, hparts]
    rfl
  have htext : settingsFile.readText "c.json" =
      .ok "\x7b\"seed\": 7, \"sample_len\": 5\x7d" := rfl
  have hdocument : ServerKind.document ".json" "\x7b\"seed\": 7, \"sample_len\": 5\x7d" =
      .ok (.dict [(.text "seed", .int 7), (.text "sample_len", .int 5)]) := by cbv
  refine Outcome.bind_eq_ok.mpr ⟨_, htext, ?_⟩
  rw [hending]
  exact Outcome.bind_eq_ok.mpr ⟨_, hdocument, rfl⟩

/-- A seed of zero is a seed that is given. -/
theorem seededLine_overrides : readLine seededLine = .ok (some ("run", seededReading)) ∧
    ∃ c, ofArguments Registry.bundled settingsFile seededLine = .ok (.run c) ∧
      c.config.dump.get? "seed" = some (.int 0) ∧ c.config.dump.get? "sample_len" = some (.int 5) := by
  have hline : readLine seededLine = .ok (some ("run", seededReading)) := by rfl
  have hregistered : Registry.bundled.get "llama" =
    .ok ⟨"llama", "Llama 3 family and TinyLlama, selected by preset", .llama⟩ := by rfl
  have hstart : startingConfig settingsFile .llama (textOf seededReading "config") =
    .ok (.llama { seed := 7, sampleLength := 5 }) := configAt_settingsFile
  obtain ⟨-, hsupported, -⟩ := ofArguments_overrides hline rfl hregistered hstart
  obtain ⟨m, prompt, hm, -, haccepted, -⟩ := hsupported fun key hkey => by
    have hfields : ∀ key ∈ adjustable.map Prod.fst, key ∈ LlamaServerConfig.fields := by decide
    rw [given] at hkey
    split_ifs at hkey with hmem
    · exact hfields key hmem
    · exact absurd rfl hkey
  have hvalid : ServerKind.llama.Holds m := by
    cases m with
    | parrot => cases hm "seed"
    | llama c =>
      have hmass : c.topP = 0.9 := Value.real.inj (Option.some.inj (hm "top_p"))
      have htemperature : c.temperature = 0.0 := Value.real.inj (Option.some.inj (hm "temperature"))
      have hwindow : c.window = 1024 := Value.int.inj (Option.some.inj (hm "max_seq_len"))
      have hlength : c.sampleLength = 5 := Value.int.inj (Option.some.inj (hm "sample_len"))
      have hseed : c.seed = 0 := Value.int.inj (Option.some.inj (hm "seed"))
      have hpreset : c.preset = "llama3_2_1b_test" := Value.text.inj (Option.some.inj (hm "preset"))
      refine ⟨by rw [hmass]; decide, by rw [htemperature]; decide, by omega, by omega, by omega, ?_⟩
      rw [LlamaServerConfig.presetRule, hpreset]
      rfl
  exact ⟨hline, _, haccepted hvalid, hm "seed", hm "sample_len"⟩

end Command
end StreamingLM
