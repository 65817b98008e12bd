import StreamingLM.Proofs.Cache.Queue

/-!
Keys and values side by side. A call acts on the keys first, and what it has done there stays when
the values refuse. Main statement: both sides hold the same number of positions in all states of a
run exactly if no call of it is torn, taken by the keys and not equally by the values; and a call
that is refused without being torn has done nothing.
-/
namespace StreamingLM

variable {α : Type}

/-- The positions that a tensor of some shape brings to a buffer that holds `held` of them, unless
it is refused. -/
def Layout.taken? (l : Layout) (held : Nat) : List Nat → Option Nat
  | [batch, heads, count, dim] =>
    if l.Admits batch heads dim ∧ held + count ≤ l.capacity then some count else none
  | _ => none

namespace SequenceBuffer

variable {b : SequenceBuffer α} {l : Layout}

theorem append_nil {x : Block α} (none : x.slots = []) {grown : SequenceBuffer α} {shown : Block α}
    (ok : b.append x = .ok (grown, shown)) : grown = b := by
  unfold append at ok
  split at ok
  · cases ok
  · split at ok
    · cases ok
    · cases ok
      simp [none, overwriteAll]

theorem appendTensor_cases (h : b.Sized l) (x : Tensor α) :
    (l.taken? b.len x.shape = none ∧ ∃ f, b.appendTensor x = .error f) ∨
      ∃ count grown shown, l.taken? b.len x.shape = some count ∧
        b.appendTensor x = .ok (grown, shown) ∧ grown.Sized l ∧ grown.len = b.len + count ∧
        (count = 0 → grown = b) := by
  unfold appendTensor
  cases hblock : Block.ofTensor x with
  | error f =>
    refine .inl ⟨?_, f, rfl⟩
    unfold Layout.taken?
    split
    · rename_i hshape
      obtain ⟨slots, hslots, -⟩ := Block.ofTensor_ok hshape
      rw [hslots] at hblock
      cases hblock
    · rfl
  | ok block =>
    simp only [(Block.shape_of_ofTensor hblock).1, Except.bind, Block.shape, Layout.taken?]
    have htakes : b.Takes block ↔ l.Admits block.batch block.heads block.dim ∧
        b.len + block.slots.length ≤ l.capacity := by
      rw [← h.capacity_eq, Layout.Admits, ← h.batch_eq, ← h.heads_eq, ← h.dim_eq]
      constructor
      · rintro ⟨hfits, hroom⟩
        exact ⟨by omega, hroom⟩
      · rintro ⟨hadmits, hroom⟩
        exact ⟨by omega, hroom⟩
    by_cases htaken : b.Takes block
    · obtain ⟨grown, ok, hsizes, hlen, -⟩ := append_taken htaken
      exact .inr ⟨_, grown, _, if_pos (htakes.mp htaken), ok, h.of_sameSizes hsizes, hlen,
        fun hnone => append_nil (List.length_eq_zero_iff.mp hnone) ok⟩
    · have hself : b.SameSizes b := ⟨rfl, rfl, rfl, rfl⟩
      obtain ⟨f, hrefused, -⟩ := append_refused hself rfl htaken
      exact .inl ⟨if_neg fun hboth => htaken (htakes.mpr hboth), f, hrefused⟩

theorem evict_len_cases [Scalar α] (h : b.Sized l) (n : Int) :
    ((b.len : Int) < n ∧ ∃ f, b.evict n = .error f) ∨
      n ≤ b.len ∧ ∃ shorter, b.evict n = .ok shorter ∧ shorter.Sized l ∧
        shorter.len = b.len - n.toNat := by
  obtain ⟨hmany, hrefused⟩ | ⟨hfew, shorter, ok, hsizes, hhistory⟩ := b.evict_cases n
  · exact .inl ⟨hmany, _, hrefused⟩
  · have hlen := congrArg List.length hhistory
    rw [List.length_drop, length_history, length_history] at hlen
    exact .inr ⟨hfew, shorter, ok, h.of_sameSizes hsizes, hlen⟩

end SequenceBuffer

namespace KeyValueCache

inductive Call (α : Type) where
  | forward (k v : Tensor α)
  | evict (n : Int)
  | reset

/-- How many keys and how many values a call leaves of so many. The values are only reached when
the keys have taken the call in. -/
def count (l : Layout) (held : Nat × Nat) : Call α → Nat × Nat
  | .forward k v =>
    match l.taken? held.1 k.shape with
    | some keys => (held.1 + keys, held.2 + (l.taken? held.2 v.shape).getD 0)
    | none => held
  | .evict n =>
    if n ≤ held.1 then (held.1 - n.toNat, if n ≤ held.2 then held.2 - n.toNat else held.2) else held
  | .reset => (0, 0)

/-- How many keys and how many values calls leave in a new cache. -/
def counts (l : Layout) (cs : List (Call α)) : Nat × Nat := cs.foldl (count l) (0, 0)

/-- Both sides take a call in, and have the same number of positions afterwards. -/
def Passes (l : Layout) (held : Nat × Nat) : Call α → Prop
  | .forward k v => ∃ keys values, l.taken? held.1 k.shape = some keys ∧
      l.taken? held.2 v.shape = some values ∧ held.1 + keys = held.2 + values
  | .evict n => n ≤ held.1 ∧ n ≤ held.2 ∧ held.1 - n.toNat = held.2 - n.toNat
  | .reset => True

/-- The keys of a call are taken, and the values are not, or in another number. -/
def Torn (l : Layout) (held : Nat × Nat) : Call α → Prop
  | .forward k v => ∃ keys, l.taken? held.1 k.shape = some keys ∧
      (l.taken? held.2 v.shape).getD 0 ≠ keys
  | _ => False

/-- No call of a run is torn. -/
def Whole (l : Layout) (cs : List (Call α)) : Prop :=
  ∀ past c, past ++ [c] <+: cs → ¬Torn l (counts l past) c

variable {l : Layout}

theorem counts_concat (cs : List (Call α)) (c : Call α) :
    counts l (cs ++ [c]) = count l (counts l cs) c := by
  rw [counts, List.foldl_concat, counts]

theorem count_even_iff {held : Nat × Nat} (even : held.1 = held.2) (c : Call α) :
    (count l held c).1 = (count l held c).2 ↔ ¬Torn l held c := by
  obtain ⟨n, m⟩ := held
  obtain rfl : n = m := even
  cases c with
  | reset => simp [count, Torn]
  | evict k =>
    simp only [count, Torn, not_false_eq_true, iff_true]
    split <;> rfl
  | forward k v =>
    simp only [count, Torn]
    cases l.taken? n k.shape with
    | none => simp
    | some keys => simp [eq_comm]

theorem not_torn_of_shape_eq {held : Nat × Nat} (even : held.1 = held.2) {k v : Tensor α}
    (same : k.shape = v.shape) : ¬Torn l held (.forward k v) := by
  rintro ⟨keys, hkeys, hvalues⟩
  rw [← same, ← even, hkeys] at hvalues
  exact hvalues rfl

/-- The numbers are equal all along a run exactly if none of its calls is torn. -/
theorem counts_even_iff (cs : List (Call α)) :
    (∀ past, past <+: cs → (counts l past).1 = (counts l past).2) ↔ Whole l cs := by
  constructor
  · intro heven past c hpast
    have hbefore := heven past ((List.prefix_append past [c]).trans hpast)
    have hafter := heven (past ++ [c]) hpast
    rw [counts_concat] at hafter
    exact (count_even_iff hbefore c).mp hafter
  · intro hwhole past hpast
    induction past using List.reverseRecOn with
    | nil => rfl
    | append_singleton past c ih =>
      have hbefore := ih ((List.prefix_append past [c]).trans hpast)
      rw [counts_concat]
      exact (count_even_iff hbefore c).mpr (hwhole past c hpast)

theorem whole_of_shape_eq {cs : List (Call α)}
    (same : ∀ k v, .forward k v ∈ cs → k.shape = v.shape) : Whole l cs := by
  refine (counts_even_iff cs).mp fun past hpast => ?_
  induction past using List.reverseRecOn with
  | nil => rfl
  | append_singleton past c ih =>
    have hbefore := ih ((List.prefix_append past [c]).trans hpast)
    rw [counts_concat, count_even_iff hbefore]
    cases c with
    | forward k v => exact not_torn_of_shape_eq hbefore (same k v (hpast.subset (by simp)))
    | evict n => exact not_false
    | reset => exact not_false

theorem Torn.not_passes {held : Nat × Nat} (even : held.1 = held.2) {c : Call α}
    (h : Torn l held c) : ¬Passes l held c := by
  cases c with
  | forward k v =>
    obtain ⟨n, hn, hother⟩ := h
    rintro ⟨n', m, hn', hm, hsum⟩
    rw [hn] at hn'
    cases hn'
    rw [hm] at hother
    exact hother (by simp only [Option.getD_some]; omega)
  | evict n => exact h.elim
  | reset => exact h.elim

/-- Both sides have the sizes of a layout, whatever they hold. -/
structure Shaped (c : KeyValueCache α) (l : Layout) : Prop where
  key : c.key.Sized l
  value : c.value.Sized l

def lens (c : KeyValueCache α) : Nat × Nat := (c.key.len, c.value.len)

theorem inSync_iff {c : KeyValueCache α} : c.inSync = true ↔ c.lens.1 = c.lens.2 := by
  simp [inSync, lens]

theorem isOk_map {β γ : Type} (r : Except Failure β) (f : β → γ) : (r.map f).isOk = r.isOk := by
  cases r <;> rfl

theorem isOk_checkSync {c : KeyValueCache α} (operation : String) :
    (c.checkSync operation).isOk = true ↔ c.lens.1 = c.lens.2 := by
  rw [← inSync_iff, checkSync]
  cases c.inSync <;> simp [Except.isOk, Except.toBool]

section Calls

variable [Scalar α]

def call (c : KeyValueCache α) : Call α → Attempt (KeyValueCache α) (Option (Block α × Block α))
  | .forward k v => let (result, after) := c.forwardTensor k v; (result.map some, after)
  | .evict n => let (result, after) := c.evict n; (result.map fun _ => none, after)
  | .reset => (.ok none, c.reset)

def calls (c : KeyValueCache α) (cs : List (Call α)) : KeyValueCache α :=
  cs.foldl (fun c next => (c.call next).2) c

theorem calls_concat (c : KeyValueCache α) (cs : List (Call α)) (next : Call α) :
    c.calls (cs ++ [next]) = ((c.calls cs).call next).2 := by
  rw [calls, List.foldl_concat, calls]

/-- What a call comes to, told by the numbers of keys and values: what it leaves of them, whether it
passes, and that it has done nothing if it is refused without being torn. -/
structure Accounted (c : KeyValueCache α) (l : Layout) (next : Call α) : Prop where
  shaped : (c.call next).2.Shaped l
  lens_eq : (c.call next).2.lens = count l c.lens next
  passes : (c.call next).1.isOk = true ↔ Passes l c.lens next
  undone : c.lens.1 = c.lens.2 → ¬Torn l c.lens next → (c.call next).1.isOk = false →
    (c.call next).2 = c

namespace Accounted

variable {c after : KeyValueCache α} {next : Call α}

theorem of_error {f : Failure} (hcall : c.call next = (.error f, after)) (shaped : after.Shaped l)
    (lens_eq : after.lens = count l c.lens next) (fails : ¬Passes l c.lens next)
    (undone : c.lens.1 = c.lens.2 → ¬Torn l c.lens next → after = c) : c.Accounted l next := by
  constructor <;> rw [hcall]
  · exact shaped
  · exact lens_eq
  · exact ⟨fun hok => absurd hok Bool.false_ne_true, fun hpasses => absurd hpasses fails⟩
  · exact fun heven hwhole _ => undone heven hwhole

theorem of_checked {result : Except Failure (Option (Block α × Block α))} {operation : String}
    (hcall : c.call next = (result, after))
    (checked : result.isOk = (after.checkSync operation).isOk) (shaped : after.Shaped l)
    (lens_eq : after.lens = count l c.lens next)
    (passes : Passes l c.lens next ↔ after.lens.1 = after.lens.2) : c.Accounted l next := by
  constructor <;> rw [hcall]
  · exact shaped
  · exact lens_eq
  · rw [checked, isOk_checkSync, passes]
  · intro heven hwhole hrefused
    have hsync : (after.checkSync operation).isOk = true := by
      rw [isOk_checkSync, lens_eq]
      exact (count_even_iff heven next).mpr hwhole
    rw [← checked, hrefused] at hsync
    cases hsync

end Accounted

namespace Shaped

variable {c : KeyValueCache α}

theorem reset (h : c.Shaped l) : c.Accounted l .reset where
  shaped := ⟨h.key.reset, h.value.reset⟩
  lens_eq := rfl
  passes := ⟨fun _ => trivial, fun _ => rfl⟩
  undone _ _ refused := by cases refused

theorem evict (h : c.Shaped l) (n : Int) : c.Accounted l (.evict n) := by
  obtain ⟨hmany, f, hkey⟩ | ⟨hfew, key, hkey, hk, hklen⟩ :=
    SequenceBuffer.evict_len_cases h.key n
  · have hcall : c.call (.evict n) = (.error f, c) := by
      simp only [call, KeyValueCache.evict, hkey]
      rfl
    have hmany' : ¬n ≤ c.lens.1 := Int.not_le.mpr hmany
    exact .of_error hcall h (if_neg hmany').symm (fun hpasses => hmany' hpasses.1) fun _ _ => rfl
  · have hfew' : n ≤ c.lens.1 := hfew
    obtain ⟨hvmany, f, hvalue⟩ | ⟨hvfew, value, hvalue, hv, hvlen⟩ :=
      SequenceBuffer.evict_len_cases h.value n
    · have hcall : c.call (.evict n) = (.error f, { c with key }) := by
        simp only [call, KeyValueCache.evict, hkey, hvalue]
        rfl
      have hvmany' : ¬n ≤ c.lens.2 := Int.not_le.mpr hvmany
      refine .of_error hcall ⟨hk, h.value⟩ ?_ (fun hpasses => hvmany' hpasses.2.1) fun heven => ?_
      · rw [count, if_pos hfew', if_neg hvmany', lens, hklen]
        rfl
      · omega
    · let shorter : KeyValueCache α := ⟨key, value⟩
      have hcall :
          c.call (.evict n) = ((shorter.checkSync "evict").map fun _ => none, shorter) := by
        simp only [call, KeyValueCache.evict, hkey, hvalue, shorter]
      have hvfew' : n ≤ c.lens.2 := hvfew
      have hlens : shorter.lens = (c.lens.1 - n.toNat, c.lens.2 - n.toNat) :=
        Prod.ext hklen hvlen
      refine .of_checked hcall (isOk_map _ _) ⟨hk, hv⟩ ?_ ?_
      · rw [count, if_pos hfew', if_pos hvfew', hlens]
      · rw [hlens]
        exact ⟨fun hpasses => hpasses.2.2, fun heven => ⟨hfew', hvfew', heven⟩⟩

theorem forward (h : c.Shaped l) (k v : Tensor α) : c.Accounted l (.forward k v) := by
  obtain ⟨hkeys, f, hkey⟩ | ⟨n, key, keys, hkeys, hkey, hk, hklen, hknone⟩ :=
    SequenceBuffer.appendTensor_cases h.key k
  · have hcall : c.call (.forward k v) = (.error f, c) := by
      simp only [call, forwardTensor, join, hkey]
      rfl
    have hkeys' : l.taken? c.lens.1 k.shape = none := hkeys
    refine .of_error hcall h (by rw [count, hkeys']) ?_ fun _ _ => rfl
    rintro ⟨n, m, hn, -⟩
    rw [hkeys'] at hn
    cases hn
  · have hkeys' : l.taken? c.lens.1 k.shape = some n := hkeys
    obtain ⟨hvalues, f, hvalue⟩ | ⟨m, value, values, hvalues, hvalue, hv, hvlen, -⟩ :=
      SequenceBuffer.appendTensor_cases h.value v
    · have hcall : c.call (.forward k v) = (.error f, { c with key }) := by
        simp only [call, forwardTensor, join, hkey, hvalue]
        rfl
      have hvalues' : l.taken? c.lens.2 v.shape = none := hvalues
      refine .of_error hcall ⟨hk, h.value⟩ ?_ ?_ fun _ hwhole => ?_
      · rw [count, hkeys', hvalues', lens, hklen]
        rfl
      · rintro ⟨n, m, -, hm, -⟩
        rw [hvalues'] at hm
        cases hm
      · have hnone : n = 0 := by
          by_contra hsome
          exact hwhole ⟨n, hkeys', by rw [hvalues']; exact Ne.symm hsome⟩
        simp only [hknone hnone]
    · let grown : KeyValueCache α := ⟨key, value⟩
      have hcall : c.call (.forward k v) =
          (((grown.checkSync "append").map fun _ => (keys, values)).map some, grown) := by
        simp only [call, forwardTensor, join, hkey, hvalue, grown]
      have hvalues' : l.taken? c.lens.2 v.shape = some m := hvalues
      have hlens : grown.lens = (c.lens.1 + n, c.lens.2 + m) := Prod.ext hklen hvlen
      refine .of_checked hcall (by rw [isOk_map, isOk_map]) ⟨hk, hv⟩ ?_ ?_
      · rw [count, hkeys', hvalues', hlens]
        rfl
      · rw [hlens, Passes]
        simp [hkeys', hvalues']

theorem accounted (h : c.Shaped l) (next : Call α) : c.Accounted l next := by
  cases next with
  | forward k v => exact h.forward k v
  | evict n => exact h.evict n
  | reset => exact h.reset

theorem calls (h : c.Shaped l) (empty : c.lens = (0, 0)) (cs : List (Call α)) :
    (c.calls cs).Shaped l ∧ (c.calls cs).lens = counts l cs := by
  induction cs using List.reverseRecOn with
  | nil => exact ⟨h, empty⟩
  | append_singleton cs next ih =>
    obtain ⟨hshaped, hlens⟩ := ih
    rw [calls_concat, counts_concat, ← hlens]
    exact ⟨(hshaped.accounted next).shaped, (hshaped.accounted next).lens_eq⟩

end Shaped

theorem empty_shaped (l : Layout) (hc : 0 < l.capacity) (strategy : CacheStrategy) :
    ∃ fresh : KeyValueCache α, empty l.batch l.heads l.capacity l.dim strategy = .ok fresh ∧
      fresh.Shaped l ∧ fresh.lens = (0, 0) := by
  obtain ⟨buffer, hbuffer, h⟩ := SequenceBuffer.empty_queued (α := α) l hc strategy
  refine ⟨⟨buffer, buffer⟩, ?_, ⟨h.sized, h.sized⟩, Prod.ext h.len_eq h.len_eq⟩
  rw [empty, hbuffer]
  rfl

/-- Whatever the sizes, the strategy and the calls so far, refused ones among them, the numbers of
keys and values are those that the account of their sizes tells, and so is which calls pass. They
are equal in all states of a run exactly if none of its calls is torn, as when keys and values
always come in one shape. Where they are equal, a call that is refused has done nothing unless it is
torn, and one that is torn is refused and leaves them unequal; a reset mends it. -/
theorem calls_in_sync (l : Layout) (hc : 0 < l.capacity) (strategy : CacheStrategy) :
    ∃ fresh : KeyValueCache α, empty l.batch l.heads l.capacity l.dim strategy = .ok fresh ∧
      ∀ cs : List (Call α),
        let c := fresh.calls cs
        (c.key.len, c.value.len) = counts l cs ∧
        (∀ next, (c.call next).1.isOk = true ↔ Passes l (counts l cs) next) ∧
        ((∀ past, past <+: cs → (fresh.calls past).inSync = true) ↔ Whole l cs) ∧
        ((∀ k v, .forward k v ∈ cs → k.shape = v.shape) → Whole l cs) ∧
        (c.inSync = true → ∀ next, ¬Torn l (counts l cs) next → (c.call next).1.isOk = false →
          fresh.calls (cs ++ [next]) = c) ∧
        (c.inSync = true → ∀ next, Torn l (counts l cs) next →
          (c.call next).1.isOk = false ∧ (fresh.calls (cs ++ [next])).inSync = false) ∧
        (fresh.calls (cs ++ [.reset])).inSync = true := by
  obtain ⟨fresh, hfresh, hshaped, hnone⟩ := empty_shaped (α := α) l hc strategy
  have hcalls (cs : List (Call α)) := hshaped.calls hnone cs
  have hsync (cs : List (Call α)) :
      (fresh.calls cs).inSync = true ↔ (counts l cs).1 = (counts l cs).2 := by
    rw [inSync_iff, (hcalls cs).2]
  refine ⟨fresh, hfresh, fun cs => ?_⟩
  obtain ⟨hc, hlens⟩ := hcalls cs
  have haccount := hc.accounted
  refine ⟨hlens, fun next => hlens ▸ (haccount next).passes, ?_, whole_of_shape_eq,
    fun heven next hwhole hrefused => ?_, fun heven next htorn => ⟨?_, ?_⟩, (hsync _).mpr ?_⟩
  · simp only [hsync]
    exact counts_even_iff cs
  · rw [calls_concat]
    rw [← hlens] at hwhole
    exact (haccount next).undone (inSync_iff.mp heven) hwhole hrefused
  · have hfails := htorn.not_passes ((hsync cs).mp heven)
    rwa [← hlens, ← (haccount next).passes, Bool.not_eq_true] at hfails
  · rw [← Bool.not_eq_true, hsync, counts_concat, count_even_iff ((hsync cs).mp heven), not_not]
    exact htorn
  · rw [counts_concat]
    rfl

/-- One position of one head, of which the values are given twice as many heads; then a position as
it should be. -/
def tornCalls : List (Call Float) :=
  [.forward ⟨[1, 1, 1, 1], #[1]⟩ ⟨[1, 2, 1, 1], #[2, 3]⟩,
    .forward ⟨[1, 1, 1, 1], #[4]⟩ ⟨[1, 1, 1, 1], #[5]⟩]

theorem tornCalls_parted :
    let l : Layout := ⟨1, 1, 1, 1, 4, Nat.le_refl 1⟩
    0 < l.capacity ∧ ∃ fresh : KeyValueCache Float, empty 1 1 4 1 .shift = .ok fresh ∧
      (fresh.calls tornCalls).key.len = 2 ∧ (fresh.calls tornCalls).value.len = 1 ∧
      (fresh.calls (tornCalls ++ [.reset])).inSync = true := by
  refine ⟨by decide, ?_⟩
  obtain ⟨fresh, hfresh, hcalls⟩ :=
    calls_in_sync (α := Float) ⟨1, 1, 1, 1, 4, Nat.le_refl 1⟩ (by decide) .shift
  obtain ⟨hlens, -, -, -, -, -, hreset⟩ := hcalls tornCalls
  obtain ⟨hkeys, hvalues⟩ := Prod.mk.inj hlens
  exact ⟨fresh, hfresh, hkeys, hvalues, hreset⟩

/-- The first call is refused and has appended to the keys alone; the second, which a new cache
takes, is refused for it. -/
theorem tornCalls_stay :
    ∃ fresh : KeyValueCache Float, empty 1 1 4 1 .shift = .ok fresh ∧
      let refused := fresh.call (.forward ⟨[1, 1, 1, 1], #[1]⟩ ⟨[1, 2, 1, 1], #[2, 3]⟩)
      let valid : Call Float := .forward ⟨[1, 1, 1, 1], #[4]⟩ ⟨[1, 1, 1, 1], #[5]⟩
      refused.1 = .error (.misfit [1, 2, 1, 1] [1, 1, 4, 1]) ∧
      refused.2.key.len = 1 ∧ refused.2.value.len = 0 ∧
      (refused.2.call valid).1 = .error (.desync "append" 2 1) ∧
      (fresh.call valid).1 = .ok (some (⟨1, 1, 1, [[[[4]]]]⟩, ⟨1, 1, 1, [[[[5]]]]⟩)) :=
  ⟨_, rfl, rfl, rfl, rfl, rfl, rfl⟩

end Calls

end KeyValueCache
end StreamingLM
