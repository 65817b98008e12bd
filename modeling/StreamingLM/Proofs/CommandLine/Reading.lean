import Mathlib.Data.List.Basic
import StreamingLM.CommandLine.Reading
import StreamingLM.Proofs.Outcome

/-!
What is known of a command line once it has been read: every value belongs to an option of the
grammar and is of the kind that the option asks for, and nothing that is required is missing.
-/
namespace StreamingLM
namespace CommandLine

variable {g : Grammar}

def ValueKind.Holds : ValueKind → Value → Prop
  | .text, v => ∃ s, v = .text s
  | .int, v => ∃ n, v = .int n
  | .real, v => ∃ x, v = .real x

theorem ValueKind.holds_of_read? {kind : ValueKind} {text : String} {v : Value}
    (read : kind.read? text = some v) : kind.Holds v := by
  unfold read? at read
  cases kind with
  | text => exact ⟨text, (Option.some.inj read).symm⟩
  | int =>
    obtain ⟨n, -, hv⟩ := Option.map_eq_some_iff.mp read
    exact ⟨n, hv.symm⟩
  | real =>
    obtain ⟨x, -, hv⟩ := Option.map_eq_some_iff.mp read
    exact ⟨x, hv.symm⟩

def Grammar.Sets (g : Grammar) (o : Opt) (kind : ValueKind) : Prop :=
  o ∈ g.options ∧ o.effect = .set kind

theorem mem_of_mem_names {name : String} {o : Opt} (h : (name, o) ∈ g.names) : o ∈ g.options := by
  obtain ⟨other, hother, hmem⟩ := List.mem_flatMap.mp h
  obtain ⟨_, -, heq⟩ := List.mem_map.mp hmem
  obtain ⟨-, rfl⟩ := Prod.mk.inj heq
  exact hother

theorem mem_of_option? {name : String} {o : Opt} (h : g.option? name = some o) : o ∈ g.options := by
  obtain ⟨before, after, hnames, -⟩ := List.lookup_eq_some_iff.mp h
  exact mem_of_mem_names (hnames ▸ List.mem_append_right before List.mem_cons_self)

theorem mem_of_mem_candidates {cs : List Char} {o : Opt} {name : String} {attached : Option Attached}
    (h : (o, name, attached) ∈ candidates g cs) : o ∈ g.options := by
  unfold candidates at h
  split at h
  · obtain ⟨⟨start, other⟩, hmem, heq⟩ := List.mem_filterMap.mp h
    obtain ⟨-, heq⟩ := Option.ite_none_right_eq_some.mp heq
    cases heq
    exact mem_of_mem_names hmem
  · obtain ⟨⟨start, other⟩, hmem, heq⟩ := List.mem_filterMap.mp h
    simp only at heq
    split_ifs at heq <;>
      · cases heq
        exact mem_of_mem_names hmem

def Token.Within (g : Grammar) : Token → Prop
  | .option _ o _ _ => o ∈ g.options
  | _ => True

theorem classify_within {text : String} {token : Token} (ok : classify g text = .ok token) :
    token.Within g := by
  unfold classify at ok
  simp only at ok
  split at ok
  · cases ok
    trivial
  · split at ok
    · rename_i o _ hfound
      cases ok
      exact mem_of_option? hfound
    · rename_i o _ hfound
      cases ok
      obtain ⟨_, -, hfound⟩ := Option.bind_eq_some_iff.mp hfound
      exact mem_of_option? hfound
    · split at ok
      · split at ok <;>
          · cases ok
            trivial
      · rename_i o name attached hone
        cases ok
        split at hone
        · cases hone
        · exact mem_of_mem_candidates (hone ▸ List.mem_singleton_self _)
      · cases ok

theorem tokens_within {arguments : List String} {ts : List Token}
    (ok : tokens g arguments = .ok ts) : ∀ token ∈ ts, token.Within g := by
  induction arguments generalizing ts with
  | nil =>
    cases ok
    simp
  | cons text rest ih =>
    rw [tokens] at ok
    split at ok
    · cases ok
      simp [Token.Within]
    · obtain ⟨token, htoken, hrest⟩ := Outcome.bind_eq_ok.mp ok
      obtain ⟨more, hmore, heq⟩ := Outcome.bind_eq_ok.mp hrest
      cases heq
      exact List.forall_mem_cons.mpr ⟨classify_within htoken, ih hmore⟩

/-- The values are of the kinds that the grammar asks for, and what waits for a value can be set. -/
structure Reading.Sound (g : Grammar) (r : Reading) : Prop where
  values : ∀ key v, (key, v) ∈ r.values → ∃ o kind, g.Sets o kind ∧ o.key = key ∧ kind.Holds v
  awaiting : ∀ o kind, r.stage = .awaiting o kind → g.Sets o kind

namespace Reading

variable {r r' : Reading}

theorem sound_empty (g : Grammar) : Sound g {} := ⟨by simp, by simp⟩

theorem Sound.extra (h : r.Sound g) (text : String) : (r.extra text).Sound g :=
  ⟨h.values, fun _ _ hstage => by cases hstage⟩

theorem Sound.take (h : r.Sound g) (front : List String) (text : String) :
    (r.take g front text).Sound g := by
  unfold Reading.take
  split
  · exact ⟨h.values, fun _ _ hstage => by cases hstage⟩
  · exact ⟨h.values, fun _ _ hstage => by cases hstage⟩
  · exact h.extra text

theorem Sound.give (h : r.Sound g) {o : Opt} {kind : ValueKind} (sets : g.Sets o kind) {text : String}
    (ok : give g r o kind text = .ok r') : r'.Sound g := by
  rw [CommandLine.give] at ok
  split at ok
  · rename_i v hread
    cases ok
    refine ⟨fun key w hmem => ?_, fun _ _ hstage => by cases hstage⟩
    obtain hmem | hmem := List.mem_append.mp hmem
    · exact h.values key w hmem
    · obtain ⟨rfl, rfl⟩ := Prod.mk.inj (List.mem_singleton.mp hmem)
      exact ⟨o, kind, sets, rfl, ValueKind.holds_of_read? hread⟩
  · cases ok

theorem Sound.readOption (h : r.Sound g) {o : Opt} (within : o ∈ g.options) {name : String}
    {attached : Option Attached} (ok : readOption g r o name attached = .ok r') : r'.Sound g := by
  unfold CommandLine.readOption at ok
  split at ok
  · rename_i kind _ heffect
    exact h.give ⟨within, heffect⟩ ok
  · rename_i kind heffect
    cases ok
    exact ⟨h.values, fun _ _ hstage => by cases hstage; exact ⟨within, heffect⟩⟩
  · cases ok

/-- The next argument keeps what is known. -/
theorem Sound.step (h : r.Sound g) {token : Token} (within : token.Within g)
    (ok : step g r token = .ok r') : r'.Sound g := by
  unfold CommandLine.step at ok
  split at ok
  · cases ok
    exact ⟨h.values, fun o kind hstage => h.awaiting o kind hstage⟩
  · rename_i o kind _ hstage
    exact h.give (h.awaiting o kind hstage) ok
  · cases ok
  · cases ok
    exact h.take _ _
  · cases ok
    exact ⟨h.values, fun _ _ hstage => by cases hstage⟩
  · cases ok
    split
    · exact ⟨h.values, fun _ _ hstage => by cases hstage⟩
    · exact h.extra _
  · cases ok
    exact h.take _ _
  · cases ok
    exact h.extra _
  · exact h.readOption within ok

theorem Sound.steps (h : r.Sound g) {ts : List Token} (within : ∀ token ∈ ts, token.Within g)
    (ok : ts.foldlM (CommandLine.step g) r = .ok r') : r'.Sound g := by
  induction ts generalizing r with
  | nil =>
    cases ok
    exact h
  | cons token ts ih =>
    rw [List.forall_mem_cons] at within
    rw [List.foldlM_cons] at ok
    obtain ⟨next, hnext, hrest⟩ := Outcome.bind_eq_ok.mp ok
    exact ih (h.step within.1 hnext) within.2 hrest

theorem Sound.finish (h : r.Sound g) (ok : finish g r = .ok r') : r'.Sound g := by
  unfold CommandLine.finish at ok
  split at ok
  · cases ok
  · cases ok
    exact h.extra _
  · cases ok
    exact h

theorem Sound.value? (h : r.Sound g) {key : String} {v : Value} (found : r.value? key = some v) :
    ∃ o kind, g.Sets o kind ∧ o.key = key ∧ kind.Holds v := by
  obtain ⟨before, after, hvalues, -⟩ := List.lookup_eq_some_iff.mp found
  refine h.values key v (List.mem_reverse.mp ?_)
  rw [hvalues]
  simp

end Reading

theorem Grammar.read_sound {arguments : List String} {r : Reading} (ok : g.read arguments = .ok r) :
    r.Sound g ∧ missing g r = [] := by
  rw [Grammar.read] at ok
  obtain ⟨ts, hts, hrest⟩ := Outcome.bind_eq_ok.mp ok
  obtain ⟨last, hlast, hrest⟩ := Outcome.bind_eq_ok.mp hrest
  obtain ⟨done, hdone, hrest⟩ := Outcome.bind_eq_ok.mp hrest
  obtain ⟨-, -, hrest⟩ := Outcome.bind_eq_ok.mp hrest
  split at hrest
  · rename_i hmissing
    cases hrest
    exact ⟨(((Reading.sound_empty g).steps (tokens_within hts) hlast).finish hdone), hmissing⟩
  · cases hrest

end CommandLine
end StreamingLM
