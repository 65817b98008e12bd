import StreamingLM.CommandLine.Grammar
import StreamingLM.Config.File
import StreamingLM.Proofs.CommandLine.Reading
import StreamingLM.Proofs.Config.Server

/-!
Settings that are written out, changed in places and read again. What was accepted once is accepted
again, with the same values; so nothing is changed but what was meant to be, and the rules hold for the
whole.
-/
namespace StreamingLM
namespace Value

theorem same_text {k : Value} {key : String} : same k (.text key) = true ↔ k = .text key := by
  cases k <;> simp [same, sameNumber, number?]

theorem lookup_text_cons (k : String) (v : Value) (rest : List (Value × Value)) (key : String) :
    lookup ((.text k, v) :: rest) key = if k = key then some v else lookup rest key := rfl

theorem lookup_cons_of_ne {k : Value} {key : String} (h : k ≠ .text key) (v : Value)
    (rest : List (Value × Value)) : lookup ((k, v) :: rest) key = lookup rest key := by
  cases k with
  | text s => exact if_neg fun hs => h (congrArg _ hs)
  | _ => rfl

theorem lookup_insertEntry (entries : List (Value × Value)) (key : String) (v : Value) (name : String) :
    lookup (insertEntry (.text key) v entries) name =
      if key = name then some v else lookup entries name := by
  induction entries with
  | nil => rfl
  | cons entry rest ih =>
    obtain ⟨k, w⟩ := entry
    rw [insertEntry]
    by_cases hk : same k (.text key) = true
    · obtain rfl := same_text.mp hk
      rw [if_pos hk, lookup_text_cons, lookup_text_cons]
      split_ifs <;> rfl
    · rw [if_neg hk]
      by_cases hname : k = .text name
      · have hne : key ≠ name := by
          rintro rfl
          exact hk (same_text.mpr hname)
        rw [hname, lookup_text_cons, lookup_text_cons, if_pos rfl, if_pos rfl, if_neg hne]
      · rw [lookup_cons_of_ne hname, lookup_cons_of_ne hname, ih]

theorem lookup_changed {changes : List (String × Value)} (distinct : (changes.map Prod.fst).Nodup)
    (entries : List (Value × Value)) (name : String) :
    lookup (changes.foldl (fun entries (key, v) => insertEntry (.text key) v entries) entries) name =
      (changes.lookup name).or (lookup entries name) := by
  induction changes generalizing entries with
  | nil => rfl
  | cons change changes ih =>
    obtain ⟨key, v⟩ := change
    rw [List.map_cons, List.nodup_cons] at distinct
    rw [List.foldl_cons, ih distinct.2, lookup_insertEntry, List.lookup_cons]
    by_cases hname : key = name
    · subst hname
      have hnone : changes.lookup key = none := by
        refine List.lookup_eq_none_iff.mpr fun entry hentry => bne_iff_ne.mpr fun heq => ?_
        exact distinct.1 (List.mem_map.mpr ⟨entry, hentry, heq.symm⟩)
      rw [hnone, if_pos rfl]
      simp
    · have hbeq : (name == key) = false := by simpa using Ne.symm hname
      rw [hbeq, if_neg hname]

end Value

theorem Validated.toExcept_eq_ok {α : Type} {model : String} {x : Validated α} {a : α} :
    x.toExcept model = .ok a ↔ x = .valid a := by
  cases x <;> simp [toExcept]

namespace Reader

variable {α : Type} {reader : Reader α} {default a : α} {name : String}
  {entries : List (Value × Value)}

theorem withDefault_lookup {v : Value} (found : Value.lookup entries name = some v) :
    withDefault reader default name entries = (reader v).under name := by
  rw [withDefault, found]

theorem text_text (s : String) : text (.text s) = .valid s := rfl

theorem optional_text (s : Option String) : optional text (Value.ofText? s) = .valid s := by
  cases s <;> rfl

theorem choice_text {ofName? : String → Option α} {s : String} (known : ofName? s = some a) :
    choice ofName? (.text s) = .valid a := by
  rw [choice, known]

theorem optional_choice {ofName? : String → Option α} {nameOf : α → String}
    (known : ∀ a, ofName? (nameOf a) = some a) (choice? : Option α) :
    optional (choice ofName?) (Value.ofText? (choice?.map nameOf)) = .valid choice? := by
  cases choice? with
  | none => rfl
  | some a => exact congrArg (Validated.map some) (choice_text (known a))

theorem real_real (x : Float) : real (.real x) = .valid x := rfl

theorem mass_real {x y : Float} :
    mass (.real x) = .valid y ↔ x = y ∧ ¬x ≤ 0.0 ∧ ¬1.0 < x := by
  rw [mass, check, Validated.keeping_eq_valid, real_real, Validated.valid.injEq]
  refine and_congr_right ?_
  rintro rfl
  split_ifs <;> simp_all

theorem nonnegativeReal_real {x y : Float} :
    nonnegativeReal (.real x) = .valid y ↔ x = y ∧ ¬x < 0.0 := by
  rw [nonnegativeReal, check, Validated.keeping_eq_valid, real_real, Validated.valid.injEq]
  refine and_congr_right ?_
  rintro rfl
  simp

theorem positiveInt_int {m n : Int} : positiveInt (.int m) = .valid n ↔ m = n ∧ 0 < m := by
  rw [positiveInt, check, Validated.keeping_eq_valid, int, Validated.valid.injEq]
  refine and_congr_right ?_
  rintro rfl
  simp [positive]

theorem naturalInt_int {m n : Int} : naturalInt (.int m) = .valid n ↔ m = n ∧ 0 ≤ m := by
  rw [naturalInt, check, Validated.keeping_eq_valid, int, Validated.valid.injEq]
  refine and_congr_right ?_
  rintro rfl
  simp

theorem nonnegativeReal_valid {v : Value} {x : Float} (ok : nonnegativeReal v = .valid x) : ¬x < 0.0 := by
  obtain ⟨-, hrule⟩ := Validated.keeping_eq_valid.mp ok
  simpa using hrule

end Reader
namespace LlamaServerConfig

/-- Settings that keep all rules, each on its own and together. -/
structure Valid (c : LlamaServerConfig) : Prop where
  mass : ¬c.topP ≤ 0.0 ∧ ¬1.0 < c.topP
  temperature : ¬c.temperature < 0.0
  window : 0 < c.window
  sampleLength : 0 < c.sampleLength
  seed : 0 ≤ c.seed
  preset : presetRule c = none

theorem valid_default : Valid {} where
  mass := by decide
  temperature := by decide
  window := by decide
  sampleLength := by decide
  seed := by decide
  preset := rfl

theorem reader_valid {v : Value} {c : LlamaServerConfig} (ok : reader v = .valid c) : c.Valid := by
  obtain ⟨entries, hmass, hwindow, hseed, hrule, hlength, htemperature⟩ := settings_valid ok
  refine ⟨?_, ?_, Reader.withDefault_pos hwindow (by decide), Reader.withDefault_pos hlength (by decide),
    ?_, hrule⟩
  · obtain hdefault | ⟨w, hw⟩ := Reader.withDefault_valid hmass
    · exact hdefault ▸ valid_default.mass
    · exact Reader.mass_valid hw
  · obtain hdefault | ⟨w, hw⟩ := Reader.withDefault_valid htemperature
    · exact hdefault ▸ valid_default.temperature
    · exact Reader.nonnegativeReal_valid hw
  · obtain hdefault | ⟨w, hw⟩ := Reader.withDefault_valid hseed
    · exact hdefault ▸ valid_default.seed
    · exact Reader.naturalInt_nonneg hw

theorem get?_dump (c : LlamaServerConfig) (key : String) : c.dump.get? key =
    if "preset" = key then some (.text c.preset)
    else if "tokenizer_path" = key then some (Value.ofText? c.tokenizerPath)
    else if "weights" = key then some (Value.ofText? c.weights)
    else if "device" = key then some (.text c.device)
    else if "top_p" = key then some (.real c.topP)
    else if "temperature" = key then some (.real c.temperature)
    else if "max_seq_len" = key then some (.int c.window)
    else if "sample_len" = key then some (.int c.sampleLength)
    else if "seed" = key then some (.int c.seed)
    else if "cache_strategy" = key then some (.text c.strategy.name)
    else if "chat_template" = key then some (Value.ofText? (c.template.map ChatTemplate.name))
    else none := rfl

/-- A document that has all settings as they are written out is read as these settings, if they keep
the rules, and is refused otherwise. -/
theorem reader_eq_valid {entries : List (Value × Value)} {c c' : LlamaServerConfig}
    (written : ∀ key ∈ fields, Value.lookup entries key = c.dump.get? key) :
    reader (.dict entries) = .valid c' ↔ c' = c ∧ c.Valid := by
  have found : ∀ (key : String) (v : Value), c.dump.get? key = some v → key ∈ fields →
      Value.lookup entries key = some v := fun key v hv hkey => (written key hkey).trans hv
  simp only [reader, Reader.model,
    Reader.withDefault_lookup (found "preset" _ rfl (by decide)),
    Reader.withDefault_lookup (found "tokenizer_path" _ rfl (by decide)),
    Reader.withDefault_lookup (found "weights" _ rfl (by decide)),
    Reader.withDefault_lookup (found "device" _ rfl (by decide)),
    Reader.withDefault_lookup (found "top_p" _ rfl (by decide)),
    Reader.withDefault_lookup (found "temperature" _ rfl (by decide)),
    Reader.withDefault_lookup (found "max_seq_len" _ rfl (by decide)),
    Reader.withDefault_lookup (found "sample_len" _ rfl (by decide)),
    Reader.withDefault_lookup (found "seed" _ rfl (by decide)),
    Reader.withDefault_lookup (found "cache_strategy" _ rfl (by decide)),
    Reader.withDefault_lookup (found "chat_template" _ rfl (by decide)),
    Reader.text_text, Reader.optional_text, Reader.choice_text (CacheStrategy.ofName?_name _),
    Reader.optional_choice ChatTemplate.ofName?_name, Validated.keeping_eq_valid,
    Validated.seq_eq_valid, Validated.map_eq_valid, Validated.under_eq_valid, Reader.mass_real,
    Reader.nonnegativeReal_real, Reader.positiveInt_int, Reader.naturalInt_int,
    Validated.valid.injEq, existsAndEq, true_and, and_true]
  constructor
  · rintro ⟨⟨⟨⟨⟨⟨hmass, htemperature⟩, hwindow⟩, hlength⟩, hseed⟩, rfl⟩, hrule⟩
    exact ⟨rfl, hmass, htemperature, hwindow, hlength, hseed, hrule⟩
  · rintro ⟨rfl, h⟩
    exact ⟨⟨⟨⟨⟨⟨h.mass, h.temperature⟩, h.window⟩, h.sampleLength⟩, h.seed⟩, rfl⟩, h.preset⟩

/-- The settings that a command line can change, and the kinds of their values. -/
def adjustable : List (String × CommandLine.ValueKind) :=
  [("sample_len", .int), ("temperature", .real), ("top_p", .real), ("seed", .int),
    ("max_seq_len", .int)]

/-- Values for some of the adjustable settings. -/
def Adjusts (given : String → Option Value) : Prop :=
  ∀ key v, given key = some v → ∃ kind, (key, kind) ∈ adjustable ∧ kind.Holds v

variable {given : String → Option Value}

theorem Adjusts.none (h : Adjusts given) {key : String} (other : key ∉ adjustable.map Prod.fst) :
    given key = none := by
  cases hgiven : given key with
  | none => rfl
  | some v =>
    obtain ⟨kind, hmem, -⟩ := h key v hgiven
    exact absurd (List.mem_map_of_mem hmem) other

theorem Adjusts.holds (h : Adjusts given) {key : String} {kind : CommandLine.ValueKind}
    (mem : (key, kind) ∈ adjustable) {v : Value} (hv : given key = some v) : kind.Holds v := by
  have hunique : ∀ e ∈ adjustable, ∀ e' ∈ adjustable, e.1 = e'.1 → e.2 = e'.2 := by decide
  obtain ⟨other, hother, hholds⟩ := h key v hv
  obtain rfl : other = kind := hunique _ hother _ mem rfl
  exact hholds

theorem Adjusts.int (h : Adjusts given) (key : String) (mem : (key, .int) ∈ adjustable) :
    ∃ n? : Option Int, given key = n?.map .int := by
  cases hgiven : given key with
  | none => exact ⟨.none, rfl⟩
  | some v =>
    obtain ⟨n, rfl⟩ := h.holds mem hgiven
    exact ⟨some n, rfl⟩

theorem Adjusts.real (h : Adjusts given) (key : String) (mem : (key, .real) ∈ adjustable) :
    ∃ x? : Option Float, given key = x?.map .real := by
  cases hgiven : given key with
  | none => exact ⟨.none, rfl⟩
  | some v =>
    obtain ⟨x, rfl⟩ := h.holds mem hgiven
    exact ⟨some x, rfl⟩

theorem Adjusts.exists_adjusted (h : Adjusts given) (c : LlamaServerConfig) :
    ∃ m : LlamaServerConfig, ∀ key, m.dump.get? key = (given key).or (c.dump.get? key) := by
  obtain ⟨length?, hlength⟩ := h.int "sample_len" (by decide)
  obtain ⟨temperature?, htemperature⟩ := h.real "temperature" (by decide)
  obtain ⟨mass?, hmass⟩ := h.real "top_p" (by decide)
  obtain ⟨seed?, hseed⟩ := h.int "seed" (by decide)
  obtain ⟨window?, hwindow⟩ := h.int "max_seq_len" (by decide)
  refine ⟨{ c with
    sampleLength := length?.getD c.sampleLength, temperature := temperature?.getD c.temperature,
    topP := mass?.getD c.topP, seed := seed?.getD c.seed, window := window?.getD c.window },
    fun key => ?_⟩
  by_cases hkey : key ∈ adjustable.map Prod.fst
  · simp only [adjustable, List.map_cons, List.map_nil, List.mem_cons, List.not_mem_nil,
      or_false] at hkey
    obtain rfl | rfl | rfl | rfl | rfl := hkey
    · rw [hlength]
      cases length? <;> rfl
    · rw [htemperature]
      cases temperature? <;> rfl
    · rw [hmass]
      cases mass? <;> rfl
    · rw [hseed]
      cases seed? <;> rfl
    · rw [hwindow]
      cases window? <;> rfl
  · rw [h.none hkey, Option.none_or]
    simp only [adjustable, List.map_cons, List.map_nil, List.mem_cons, List.not_mem_nil,
      or_false, not_or] at hkey
    obtain ⟨hlength, htemperature, hmass, hseed, hwindow⟩ := hkey
    simp only [get?_dump, if_neg (Ne.symm hlength), if_neg (Ne.symm htemperature),
      if_neg (Ne.symm hmass), if_neg (Ne.symm hseed), if_neg (Ne.symm hwindow)]

end LlamaServerConfig

namespace ServerKind

/-- Settings of a server of this kind that keep all rules. -/
def Holds : ServerKind → ServerConfig → Prop
  | .llama, .llama c => c.Valid
  | .parrot, .parrot | .echo, .parrot => True
  | _, _ => False

theorem holds_default (kind : ServerKind) : kind.Holds kind.defaultConfig := by
  cases kind with
  | llama => exact LlamaServerConfig.valid_default
  | _ => trivial

theorem holds_of_config {kind : ServerKind} {payload : Value} {c : ServerConfig}
    (ok : kind.config payload = .ok c) : kind.Holds c := by
  have hread : kind.reader payload = .valid c := Validated.toExcept_eq_ok.mp ok
  cases kind with
  | llama =>
    obtain ⟨m, hm, rfl⟩ := Validated.map_eq_valid.mp hread
    exact LlamaServerConfig.reader_valid hm
  | _ =>
    cases payload with
    | dict entries =>
      cases hread
      trivial
    | _ => cases hread

theorem holds_of_configAt {α : Type} {d : Directory α} {kind : ServerKind} {path : String}
    {c : ServerConfig} (ok : kind.configAt d path = .ok c) : kind.Holds c := by
  obtain ⟨text, -, hrest⟩ := Outcome.bind_eq_ok.mp ok
  obtain ⟨payload, -, hconfig⟩ := Outcome.bind_eq_ok.mp hrest
  split at hconfig
  · exact holds_of_config hconfig
  · exact holds_of_config hconfig
  · cases hconfig

/-- What can be changed of settings is read again with the changes. -/
theorem exists_adjusted {kind : ServerKind} {c : ServerConfig} (holds : kind.Holds c)
    {given : String → Option Value} (adjusts : LlamaServerConfig.Adjusts given)
    (supported : ∀ key v, given key = some v → key ∈ kind.fields) :
    ∃ m : ServerConfig, (∀ key, m.dump.get? key = (given key).or (c.dump.get? key)) ∧
      ∀ entries, (∀ key, Value.lookup entries key = m.dump.get? key) →
        (kind.Holds m → kind.config (.dict entries) = .ok m) ∧
        (¬kind.Holds m → ∃ issues, kind.config (.dict entries) =
          .error (.invalid kind.configName issues)) := by
  match kind, c, holds with
  | .llama, .llama c, hc =>
    obtain ⟨m, hm⟩ := adjusts.exists_adjusted c
    refine ⟨.llama m, hm, fun entries written => ?_⟩
    have hread : ∀ m', LlamaServerConfig.reader (.dict entries) = .valid m' ↔ m' = m ∧ m.Valid :=
      fun m' => LlamaServerConfig.reader_eq_valid fun key _ => written key
    have hconfig : llama.config (.dict entries) =
        ((LlamaServerConfig.reader (.dict entries)).map .llama).toExcept llama.configName := rfl
    rw [hconfig]
    refine ⟨fun hvalid => ?_, fun hinvalid => ?_⟩
    · rw [(hread m).mpr ⟨rfl, hvalid⟩]
      rfl
    · cases hresult : LlamaServerConfig.reader (.dict entries) with
      | valid m' => exact absurd ((hread m').mp hresult).2 hinvalid
      | invalid issues => exact ⟨issues, rfl⟩
  | .parrot, .parrot, _ | .echo, .parrot, _ =>
    have hnone : ∀ key, given key = none := fun key => by
      cases hgiven : given key with
      | none => rfl
      | some v => cases supported key v hgiven
    refine ⟨.parrot, fun key => by rw [hnone, Option.none_or], fun entries _ => ⟨fun _ => rfl, ?_⟩⟩
    exact fun hinvalid => absurd trivial hinvalid

end ServerKind
end StreamingLM
