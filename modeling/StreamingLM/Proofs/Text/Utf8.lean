import Mathlib.Data.List.Basic
import StreamingLM.Proofs.Outcome
import StreamingLM.Text.Utf8

/-!
UTF-8: what is decoded is what was encoded. The bytes of a text fall apart into characters in one way
only, and a place between two of its bytes lies between two characters exactly when no continuation
byte follows; lenient decoding gives at least one character for every other byte.
-/
namespace StreamingLM
namespace Utf8

def continues (b : Nat) : Bool := 0x80 ≤ b && b ≤ 0xbf

theorem continues_iff {b : Nat} : continues b = true ↔ 0x80 ≤ b ∧ b ≤ 0xbf := by
  simp [continues]

def spell (cs : List Char) : List Nat := cs.flatMap fun c => encodePoint c.toNat

@[simp] theorem spell_nil : spell [] = [] := rfl

@[simp] theorem spell_cons (c : Char) (cs : List Char) :
    spell (c :: cs) = encodePoint c.toNat ++ spell cs := rfl

theorem spell_append (cs ds : List Char) : spell (cs ++ ds) = spell cs ++ spell ds :=
  List.flatMap_append

theorem spell_flatMap {α : Type} (xs : List α) (f : α → List Char) :
    spell (xs.flatMap f) = xs.flatMap fun x => spell (f x) := List.flatMap_assoc

theorem encode_eq_spell (text : String) : encode text = spell text.toList := rfl

theorem spell_ascii {cs : List Char} (h : ∀ c ∈ cs, c.toNat < 0x80) : spell cs = cs.map Char.toNat := by
  induction cs with
  | nil => rfl
  | cons c cs ih =>
    rw [List.forall_mem_cons] at h
    rw [spell_cons, encodePoint, if_pos h.1, ih h.2, List.map_cons, List.singleton_append]

theorem toNat_valid (c : Char) : c.toNat < 0xd800 ∨ 0xdfff < c.toNat ∧ c.toNat < 0x110000 := c.valid

theorem toNat_ofNat {n : Nat} (h : n < 0xd800 ∨ 0xdfff < n ∧ n < 0x110000) :
    (Char.ofNat n).toNat = n := by
  have hvalid : n.isValidChar := h
  rw [Char.ofNat, dif_pos hvalid]
  rfl

theorem encodePoint_eq (c : Char) :
    ∃ b rest, encodePoint c.toNat = b :: rest ∧ continues b = false ∧
      ∀ x ∈ rest, continues x = true := by
  have hvalid := toNat_valid c
  have hnot : ∀ {b : Nat}, b < 0x80 ∨ 0xbf < b → continues b = false := by
    intro b h
    rw [Bool.eq_false_iff, Ne, continues_iff]
    omega
  unfold encodePoint
  by_cases h1 : c.toNat < 0x80
  · exact ⟨_, [], by rw [if_pos h1], hnot (by omega), by simp⟩
  · rw [if_neg h1]
    by_cases h2 : c.toNat < 0x800
    · refine ⟨_, _, by rw [if_pos h2], hnot (by omega), ?_⟩
      simp only [List.mem_singleton, forall_eq, continues_iff]
      omega
    · rw [if_neg h2]
      by_cases h3 : c.toNat < 0x10000
      · refine ⟨_, _, by rw [if_pos h3], hnot (by omega), ?_⟩
        simp only [List.mem_cons, List.not_mem_nil, or_false, forall_eq_or_imp, forall_eq,
          continues_iff]
        omega
      · refine ⟨_, _, by rw [if_neg h3], hnot (by omega), ?_⟩
        simp only [List.mem_cons, List.not_mem_nil, or_false, forall_eq_or_imp, forall_eq,
          continues_iff]
        omega

theorem encodePoint_lt (c : Char) : ∀ b ∈ encodePoint c.toNat, b < 256 := by
  have hvalid := toNat_valid c
  unfold encodePoint
  split_ifs <;>
    · simp only [List.mem_cons, List.not_mem_nil, or_false, forall_eq_or_imp, forall_eq]
      omega

theorem encode_lt (text : String) : ∀ b ∈ encode text, b < 256 := by
  intro b hb
  obtain ⟨c, -, hc⟩ := List.mem_flatMap.mp hb
  exact encodePoint_lt c b hc

theorem lead?_two {k : Nat} (h : 2 ≤ k ∧ k < 32) : lead? (0xc0 + k) = some (1, 0x80, 0xbf, k) := by
  rw [lead?, if_pos (by omega), Nat.add_sub_cancel_left]

/-- The second of three bytes has a narrower range where the code would be too short, or one of the
surrogates. -/
theorem lead?_three {k : Nat} (h : k < 16) :
    ∃ low high, lead? (0xe0 + k) = some (2, low, high, k) ∧
      ∀ x, 0x80 ≤ x → x ≤ 0xbf → (k = 0 → 0xa0 ≤ x) → (k = 13 → x ≤ 0x9f) → low ≤ x ∧ x ≤ high := by
  unfold lead?
  rw [if_neg (by omega)]
  by_cases h0 : k = 0
  · exact ⟨0xa0, 0xbf, by rw [if_pos (by omega), h0], fun x _ hx hlow _ => ⟨hlow h0, hx⟩⟩
  · rw [if_neg (by omega)]
    by_cases h13 : k = 13
    · exact ⟨0x80, 0x9f, by rw [if_pos (by omega), h13], fun x hx _ _ hhigh => ⟨hx, hhigh h13⟩⟩
    · exact ⟨0x80, 0xbf, by rw [if_neg (by omega), if_pos (by omega), Nat.add_sub_cancel_left],
        fun x hlow hhigh _ _ => ⟨hlow, hhigh⟩⟩

theorem lead?_four {k : Nat} (h : k ≤ 4) :
    ∃ low high, lead? (0xf0 + k) = some (3, low, high, k) ∧
      ∀ x, 0x80 ≤ x → x ≤ 0xbf → (k = 0 → 0x90 ≤ x) → (k = 4 → x ≤ 0x8f) → low ≤ x ∧ x ≤ high := by
  unfold lead?
  rw [if_neg (by omega), if_neg (by omega), if_neg (by omega), if_neg (by omega)]
  by_cases h0 : k = 0
  · exact ⟨0x90, 0xbf, by rw [if_pos (by omega), h0], fun x _ hx hlow _ => ⟨hlow h0, hx⟩⟩
  · rw [if_neg (by omega)]
    by_cases h4 : k = 4
    · exact ⟨0x80, 0x8f, by rw [if_neg (by omega), if_pos (by omega), h4],
        fun x hx _ _ hhigh => ⟨hx, hhigh h4⟩⟩
    · exact ⟨0x80, 0xbf, by rw [if_pos (by omega), Nat.add_sub_cancel_left],
        fun x hlow hhigh _ _ => ⟨hlow, hhigh⟩⟩

theorem of_lead? {b n low high bits : Nat} (h : lead? b = some (n, low, high, bits)) :
    0x80 ≤ low ∧ high ≤ 0xbf ∧
      (n = 1 ∧ b = 0xc0 + bits ∧ 2 ≤ bits ∧ bits < 32 ∨
        n = 2 ∧ b = 0xe0 + bits ∧ bits < 16 ∧ (bits = 0 → 0xa0 ≤ low) ∧ (bits = 13 → high ≤ 0x9f) ∨
        n = 3 ∧ b = 0xf0 + bits ∧ bits ≤ 4 ∧ (bits = 0 → 0x90 ≤ low) ∧
          (bits = 4 → high ≤ 0x8f)) := by
  unfold lead? at h
  split_ifs at h <;>
    · obtain ⟨rfl, rfl, rfl, rfl⟩ : _ ∧ _ ∧ _ ∧ _ := by simpa using h
      omega

theorem first_encodePoint (c : Char) {b : Nat} {bs : List Nat} (h : encodePoint c.toNat = b :: bs)
    (rest : List Nat) : first b (bs ++ rest) = .ok (c, bs.length + 1) := by
  have hvalid := toNat_valid c
  have hchar : ∀ {n : Nat}, n = c.toNat → Char.ofNat n = c := fun hn => by
    rw [hn, Char.ofNat_toNat]
  unfold encodePoint at h
  by_cases h1 : c.toNat < 0x80
  · rw [if_pos h1] at h
    cases h
    rw [first, if_pos h1, Char.ofNat_toNat]
    rfl
  · rw [if_neg h1] at h
    by_cases h2 : c.toNat < 0x800
    · rw [if_pos h2] at h
      cases h
      rw [first, if_neg (by omega), lead?_two (by omega)]
      simp only [List.cons_append, List.nil_append, tail]
      rw [if_pos (by omega), hchar (by omega)]
      rfl
    · rw [if_neg h2] at h
      by_cases h3 : c.toNat < 0x10000
      · rw [if_pos h3] at h
        cases h
        obtain ⟨low, high, hlead, hrange⟩ := lead?_three (k := c.toNat / 4096) (by omega)
        have hsecond := hrange (0x80 + c.toNat / 64 % 64) (by omega) (by omega) (by omega) (by omega)
        rw [first, if_neg (by omega), hlead]
        simp only [List.cons_append, List.nil_append, tail, if_pos hsecond]
        rw [if_pos (by omega), hchar (by omega)]
        rfl
      · rw [if_neg h3] at h
        cases h
        obtain ⟨low, high, hlead, hrange⟩ := lead?_four (k := c.toNat / 262144) (by omega)
        have hsecond := hrange (0x80 + c.toNat / 4096 % 64) (by omega) (by omega) (by omega)
          (by omega)
        rw [first, if_neg (by omega), hlead]
        simp only [List.cons_append, List.nil_append, tail, if_pos hsecond]
        rw [if_pos (by omega), if_pos (by omega), hchar (by omega)]
        rfl

theorem tail_succ {n low high value taken : Nat} {rest : List Nat} {c : Char}
    (h : tail (n + 1) low high value taken rest = .ok c) :
    ∃ x more, rest = x :: more ∧ low ≤ x ∧ x ≤ high ∧
      tail n 0x80 0xbf (value * 64 + (x - 0x80)) (taken + 1) more = .ok c := by
  cases rest with
  | nil => simp [tail] at h
  | cons x more =>
    rw [tail] at h
    by_cases hx : low ≤ x ∧ x ≤ high
    · rw [if_pos hx] at h
      exact ⟨x, more, rfl, hx.1, hx.2, h⟩
    · rw [if_neg hx] at h
      cases h

theorem tail_zero {low high value taken : Nat} {rest : List Nat} {c : Char}
    (h : tail 0 low high value taken rest = .ok c) : c = Char.ofNat value := by
  rw [tail] at h
  exact (Except.ok.inj h).symm

theorem of_first {b : Nat} {rest : List Nat} {c : Char} {width : Nat}
    (h : first b rest = .ok (c, width)) :
    b :: rest = encodePoint c.toNat ++ rest.drop (width - 1) := by
  unfold first at h
  by_cases h1 : b < 0x80
  · rw [if_pos h1] at h
    cases h
    rw [toNat_ofNat (by omega), encodePoint, if_pos h1]
    rfl
  rw [if_neg h1] at h
  cases hlead : lead? b with
  | none => simp [hlead] at h
  | some found =>
    obtain ⟨n, low, high, bits⟩ := found
    simp only [hlead] at h
    cases htail : tail n low high bits 1 rest with
    | error fault => simp [htail] at h
    | ok found =>
      simp only [htail] at h
      cases h
      obtain ⟨hlow, hhigh, ⟨rfl, rfl, _⟩ | ⟨rfl, rfl, _⟩ | ⟨rfl, rfl, _⟩⟩ := of_lead? hlead
      · obtain ⟨x, more, rfl, _, _, htail⟩ := tail_succ htail
        rw [tail_zero htail, toNat_ofNat (by omega), encodePoint, if_neg (by omega), if_pos (by omega)]
        simp only [List.cons_append, List.nil_append, Nat.add_sub_cancel, List.drop_succ_cons,
          List.drop_zero, List.cons.injEq, and_true]
        omega
      · obtain ⟨x, more, rfl, _, _, htail⟩ := tail_succ htail
        obtain ⟨y, more, rfl, _, _, htail⟩ := tail_succ htail
        rw [tail_zero htail, toNat_ofNat (by omega), encodePoint, if_neg (by omega), if_neg (by omega),
          if_pos (by omega)]
        simp only [List.cons_append, List.nil_append, Nat.add_sub_cancel, List.drop_succ_cons,
          List.drop_zero, List.cons.injEq, and_true]
        omega
      · obtain ⟨x, more, rfl, _, _, htail⟩ := tail_succ htail
        obtain ⟨y, more, rfl, _, _, htail⟩ := tail_succ htail
        obtain ⟨z, more, rfl, _, _, htail⟩ := tail_succ htail
        rw [tail_zero htail, toNat_ofNat (by omega), encodePoint, if_neg (by omega), if_neg (by omega),
          if_neg (by omega)]
        simp only [List.cons_append, List.nil_append, Nat.add_sub_cancel, List.drop_succ_cons,
          List.drop_zero, List.cons.injEq, and_true]
        omega

def Whole (bytes : List Nat) : Prop := ∃ cs, bytes = spell cs

/-- Nothing goes on in front: the first byte, if there is one, starts a character. -/
def Starts (bytes : List Nat) : Prop := ∀ b ∈ bytes.head?, continues b = false

theorem decodeFrom_skip (n : Nat) (bytes : List Nat) :
    decodeFrom n bytes = decodeFrom 0 (bytes.drop n) := by
  induction bytes generalizing n with
  | nil => simp [decodeFrom]
  | cons b rest ih =>
    cases n with
    | zero => rfl
    | succ n => rw [decodeFrom, ih, List.drop_succ_cons]

theorem decodeFrom_point (c : Char) (bytes : List Nat) :
    decodeFrom 0 (encodePoint c.toNat ++ bytes) = c :: decodeFrom 0 bytes := by
  obtain ⟨b, rest, heq, -, -⟩ := encodePoint_eq c
  rw [heq, List.cons_append, decodeFrom, first_encodePoint c heq]
  simp only [Nat.add_sub_cancel]
  rw [decodeFrom_skip, List.drop_left]

theorem decodeFrom_spell (cs : List Char) (bytes : List Nat) :
    decodeFrom 0 (spell cs ++ bytes) = cs ++ decodeFrom 0 bytes := by
  induction cs with
  | nil => rfl
  | cons c cs ih => rw [spell_cons, List.append_assoc, decodeFrom_point, ih, List.cons_append]

theorem decodeLenient_encode (text : String) : decodeLenient (encode text) = text := by
  have h := decodeFrom_spell text.toList []
  rw [List.append_nil, decodeFrom, List.append_nil] at h
  rw [decodeLenient, encode_eq_spell, h, String.ofList_toList]

theorem decodeStrictFrom_skip (n start : Nat) {front bytes : List Nat} (h : front.length = n) :
    decodeStrictFrom n start (front ++ bytes) = decodeStrictFrom 0 (start + n) bytes := by
  induction front generalizing n start with
  | nil => rw [← h]; rfl
  | cons b front ih =>
    rw [← h, List.length_cons, List.cons_append, decodeStrictFrom, ih _ _ rfl, Nat.add_right_comm,
      Nat.add_assoc]

theorem decodeStrictFrom_spell (cs : List Char) (start : Nat) :
    decodeStrictFrom 0 start (spell cs) = .ok cs := by
  induction cs generalizing start with
  | nil => rfl
  | cons c cs ih =>
    obtain ⟨b, rest, heq, -, -⟩ := encodePoint_eq c
    rw [spell_cons, heq, List.cons_append, decodeStrictFrom, first_encodePoint c heq]
    simp only [Nat.add_sub_cancel]
    rw [decodeStrictFrom_skip _ _ rfl, ih]
    rfl

theorem of_decodeStrictFrom {skip start : Nat} {bytes : List Nat} {cs : List Char}
    (h : decodeStrictFrom skip start bytes = .ok cs) : bytes.drop skip = spell cs := by
  induction bytes generalizing skip start cs with
  | nil =>
    rw [decodeStrictFrom] at h
    cases h
    rw [List.drop_nil, spell_nil]
  | cons b rest ih =>
    cases skip with
    | succ skip =>
      rw [decodeStrictFrom] at h
      exact ih h
    | zero =>
      rw [decodeStrictFrom] at h
      cases hfirst : first b rest with
      | error fault => simp [hfirst] at h
      | ok found =>
        simp only [hfirst] at h
        obtain ⟨ds, hds, rfl⟩ := Outcome.map_eq_ok.mp h
        rw [List.drop_zero, of_first hfirst, ih hds, spell_cons]

theorem decodeStrict_ok {bytes : List Nat} {text : String} :
    decodeStrict bytes = .ok text ↔ bytes = encode text := by
  constructor
  · intro h
    obtain ⟨cs, hcs, rfl⟩ := Outcome.map_eq_ok.mp h
    rw [encode_eq_spell, String.toList_ofList, ← of_decodeStrictFrom hcs, List.drop_zero]
  · rintro rfl
    rw [decodeStrict, encode_eq_spell, decodeStrictFrom_spell]
    simp [Except.map]

theorem whole_nil : Whole [] := ⟨[], rfl⟩

theorem whole_encode (text : String) : Whole (encode text) := ⟨text.toList, rfl⟩

theorem Whole.append {front bytes : List Nat} (h : Whole front) (h' : Whole bytes) :
    Whole (front ++ bytes) := by
  obtain ⟨cs, rfl⟩ := h
  obtain ⟨ds, rfl⟩ := h'
  exact ⟨cs ++ ds, (spell_append cs ds).symm⟩

theorem Whole.starts {bytes : List Nat} (h : Whole bytes) : Starts bytes := by
  obtain ⟨cs, rfl⟩ := h
  cases cs with
  | nil => simp [Starts]
  | cons c cs =>
    obtain ⟨b, rest, heq, hb, -⟩ := encodePoint_eq c
    simp [Starts, heq, hb]

theorem Whole.left {front bytes : List Nat} (h : Whole (front ++ bytes)) (starts : Starts bytes) :
    Whole front := by
  obtain ⟨cs, heq⟩ := h
  induction cs generalizing front with
  | nil => exact (List.append_eq_nil_iff.mp heq).1 ▸ whole_nil
  | cons c cs ih =>
    obtain ⟨b, rest, hpoint, -, hrest⟩ := encodePoint_eq c
    rw [spell_cons] at heq
    obtain ⟨more, hpoint', rfl⟩ | ⟨more, rfl, hmore⟩ := List.append_eq_append_iff.mp heq
    · cases front with
      | nil => exact whole_nil
      | cons x front =>
        cases more with
        | nil =>
          rw [List.append_nil] at hpoint'
          exact ⟨[c], by rw [← hpoint', spell_cons, spell_nil, List.append_nil]⟩
        | cons y more =>
          rw [hpoint] at hpoint'
          obtain ⟨-, rfl⟩ := List.cons.inj hpoint'
          have hgoes := hrest y (by simp)
          have hstarts := starts y (by simp)
          rw [hgoes] at hstarts
          cases hstarts
    · obtain ⟨ds, hds⟩ := ih hmore.symm
      exact ⟨c :: ds, by rw [spell_cons, hds]⟩

theorem Whole.right {front bytes : List Nat} (h : Whole (front ++ bytes)) (whole : Whole front) :
    Whole bytes := by
  obtain ⟨cs, rfl⟩ := whole
  induction cs with
  | nil => exact h
  | cons c cs ih =>
    obtain ⟨ds, heq⟩ := h
    cases ds with
    | nil =>
      obtain ⟨b, rest, hpoint, -, -⟩ := encodePoint_eq c
      simp [hpoint] at heq
    | cons d ds =>
      have hdecode := congrArg (decodeFrom 0) heq
      rw [spell_cons, spell_cons, List.append_assoc, decodeFrom_point, decodeFrom_point] at hdecode
      obtain ⟨rfl, -⟩ := List.cons.inj hdecode
      rw [spell_cons, spell_cons, List.append_assoc, List.append_cancel_left_eq] at heq
      exact ih ⟨ds, heq⟩

/-- How many bytes start a character, well-formed or not. -/
def starting (bytes : List Nat) : Nat := bytes.countP fun b => !continues b

theorem starting_append (front bytes : List Nat) :
    starting (front ++ bytes) = starting front + starting bytes := List.countP_append

theorem starting_eq_zero {bytes : List Nat} (h : ∀ b ∈ bytes, continues b = true) :
    starting bytes = 0 := by
  rw [starting, List.countP_eq_zero]
  simpa using h

theorem starting_spell (cs : List Char) : starting (spell cs) = cs.length := by
  induction cs with
  | nil => rfl
  | cons c cs ih =>
    obtain ⟨b, rest, hpoint, hb, hrest⟩ := encodePoint_eq c
    have hnone := starting_eq_zero hrest
    rw [spell_cons, hpoint, starting_append, ih, List.length_cons, Nat.add_comm]
    simpa [starting, hb] using hnone

theorem continues_of_tail_ok {n low high value taken : Nat} {rest : List Nat} {c : Char}
    (hlow : 0x80 ≤ low) (hhigh : high ≤ 0xbf) (h : tail n low high value taken rest = .ok c) :
    ∀ x ∈ rest.take n, continues x = true := by
  induction n generalizing low high value taken rest with
  | zero => simp
  | succ n ih =>
    obtain ⟨x, more, rfl, hx, hx', hmore⟩ := tail_succ h
    rw [List.take_succ_cons, List.forall_mem_cons]
    exact ⟨continues_iff.mpr (by omega), ih (Nat.le_refl _) (Nat.le_refl _) hmore⟩

theorem continues_of_tail_error {n low high value taken t : Nat} {rest : List Nat} {fault : Fault}
    (hlow : 0x80 ≤ low) (hhigh : high ≤ 0xbf)
    (h : tail n low high value taken rest = .error (fault, t)) :
    taken ≤ t ∧ ∀ x ∈ rest.take (t - taken), continues x = true := by
  induction n generalizing low high value taken rest with
  | zero => simp [tail] at h
  | succ n ih =>
    cases rest with
    | nil =>
      cases h
      simp
    | cons x more =>
      rw [tail] at h
      by_cases hx : low ≤ x ∧ x ≤ high
      · rw [if_pos hx] at h
        obtain ⟨hle, hmore⟩ := ih (Nat.le_refl _) (Nat.le_refl _) h
        rw [show t - taken = t - (taken + 1) + 1 by omega, List.take_succ_cons, List.forall_mem_cons]
        exact ⟨by omega, continues_iff.mpr (by omega), hmore⟩
      · rw [if_neg hx] at h
        cases h
        simp

theorem exists_decodeFrom_cons (b : Nat) (rest : List Nat) :
    ∃ c skip, decodeFrom 0 (b :: rest) = c :: decodeFrom 0 (rest.drop skip) ∧
      ∀ x ∈ rest.take skip, continues x = true := by
  rw [decodeFrom]
  cases hfirst : first b rest with
  | ok found =>
    obtain ⟨c, width⟩ := found
    refine ⟨c, width - 1, by simp only [decodeFrom_skip (width - 1)], ?_⟩
    unfold first at hfirst
    split_ifs at hfirst
    · cases hfirst
      simp
    · cases hlead : lead? b with
      | none => simp [hlead] at hfirst
      | some found =>
        obtain ⟨n, low, high, bits⟩ := found
        obtain ⟨hlow, hhigh, -⟩ := of_lead? hlead
        cases htail : tail n low high bits 1 rest with
        | error fault => simp [hlead, htail] at hfirst
        | ok d =>
          simp only [hlead, htail, Except.ok.injEq, Prod.mk.injEq] at hfirst
          rw [← hfirst.2, Nat.add_sub_cancel]
          exact continues_of_tail_ok hlow hhigh htail
  | error found =>
    obtain ⟨fault, width⟩ := found
    refine ⟨'\uFFFD', width - 1, by simp only [decodeFrom_skip (width - 1)], ?_⟩
    unfold first at hfirst
    split_ifs at hfirst
    cases hlead : lead? b with
    | none =>
      simp only [hlead, Except.error.injEq, Prod.mk.injEq] at hfirst
      simp [← hfirst.2]
    | some found =>
      obtain ⟨n, low, high, bits⟩ := found
      obtain ⟨hlow, hhigh, -⟩ := of_lead? hlead
      cases htail : tail n low high bits 1 rest with
      | ok d => simp [hlead, htail] at hfirst
      | error found =>
        simp only [hlead, htail, Except.error.injEq, Prod.mk.injEq] at hfirst
        rw [← hfirst.2]
        exact (continues_of_tail_error hlow hhigh htail).2

/-- Lenient decoding gives a character for the first byte and one for every later byte that starts
one. -/
theorem starting_lt_length_cons (b : Nat) (rest : List Nat) :
    starting rest < (decodeFrom 0 (b :: rest)).length := by
  induction hn : rest.length using Nat.strongRecOn generalizing b rest with
  | ind n ih =>
    obtain ⟨c, skip, heq, hgoes⟩ := exists_decodeFrom_cons b rest
    have hskip : starting rest = starting (rest.drop skip) := by
      have hsplit := starting_append (rest.take skip) (rest.drop skip)
      rwa [List.take_append_drop, starting_eq_zero hgoes, Nat.zero_add] at hsplit
    rw [heq, List.length_cons, hskip, Nat.lt_succ_iff]
    cases hdrop : rest.drop skip with
    | nil => simp [starting]
    | cons x more =>
      have hshorter : more.length < n := by
        have hlength := congrArg List.length hdrop
        rw [List.length_drop, List.length_cons] at hlength
        omega
      have hmore := ih more.length hshorter x more rfl
      have hone : starting [x] ≤ 1 := List.countP_le_length
      have hx := starting_append [x] more
      rw [List.singleton_append] at hx
      omega

theorem starting_le_length (bytes : List Nat) : starting bytes ≤ (decodeFrom 0 bytes).length := by
  cases bytes with
  | nil => simp [starting]
  | cons b rest =>
    have hlt := starting_lt_length_cons b rest
    have hone : starting [b] ≤ 1 := List.countP_le_length
    have hb := starting_append [b] rest
    rw [List.singleton_append] at hb
    omega

theorem starting_lt_length {bytes : List Nat} (h : ¬ Starts bytes) :
    starting bytes < (decodeFrom 0 bytes).length := by
  cases bytes with
  | nil => simp [Starts] at h
  | cons b rest =>
    have hb : starting [b] = 0 := by
      have hgoes : continues b = true := by simpa [Starts] using h
      simp [starting, hgoes]
    have hlt := starting_lt_length_cons b rest
    have hsplit := starting_append [b] rest
    rw [List.singleton_append, hb, Nat.zero_add] at hsplit
    omega

theorem starts_flatten {parts : List (List Nat)} (h : ∀ part ∈ parts, Starts part) :
    Starts parts.flatten := by
  induction parts with
  | nil => simp [Starts]
  | cons part parts ih =>
    rw [List.forall_mem_cons] at h
    cases part with
    | nil => exact ih h.2
    | cons b rest => simpa [Starts] using h.1

theorem toList_join_decodeLenient (parts : List (List Nat)) :
    (String.join (parts.map decodeLenient)).toList = parts.flatMap (decodeFrom 0) := by
  induction parts with
  | nil => simp
  | cons part parts ih =>
    rw [List.map_cons, String.join_cons, String.toList_append, ih, decodeLenient,
      String.toList_ofList, List.flatMap_cons]

theorem starting_flatten_le (parts : List (List Nat)) :
    starting parts.flatten ≤ (parts.flatMap (decodeFrom 0)).length := by
  induction parts with
  | nil => simp [starting]
  | cons part parts ih =>
    rw [List.flatten_cons, starting_append, List.flatMap_cons, List.length_append]
    exact Nat.add_le_add (starting_le_length part) ih

theorem starts_of_length_le {parts : List (List Nat)}
    (h : (parts.flatMap (decodeFrom 0)).length ≤ starting parts.flatten) :
    ∀ part ∈ parts, Starts part := by
  induction parts with
  | nil => simp
  | cons part parts ih =>
    rw [List.flatten_cons, starting_append, List.flatMap_cons, List.length_append] at h
    have hrest := starting_flatten_le parts
    have hpart := starting_le_length part
    rw [List.forall_mem_cons]
    refine ⟨by_contra fun hnot => ?_, ih (by omega)⟩
    have hlt := starting_lt_length hnot
    omega

/-- Parts decoded one by one give the text that they spell together exactly when no character is
divided between them. -/
theorem join_decodeLenient_iff {parts : List (List Nat)} {text : String}
    (h : parts.flatten = encode text) :
    String.join (parts.map decodeLenient) = text ↔ ∀ k, Whole (parts.take k).flatten := by
  constructor
  · intro hjoin k
    have hstarts : ∀ part ∈ parts, Starts part := by
      refine starts_of_length_le (Nat.le_of_eq ?_)
      rw [← toList_join_decodeLenient, hjoin, h, encode_eq_spell, starting_spell]
    have hwhole : Whole ((parts.take k).flatten ++ (parts.drop k).flatten) := by
      rw [← List.flatten_append, List.take_append_drop, h]
      exact whole_encode text
    exact hwhole.left (starts_flatten fun part hpart => hstarts part (List.mem_of_mem_drop hpart))
  · intro hwhole
    have hjoin : ∀ parts : List (List Nat), (∀ k, Whole (parts.take k).flatten) →
        String.join (parts.map decodeLenient) = decodeLenient parts.flatten := by
      intro parts
      induction parts with
      | nil => simp [decodeLenient, decodeFrom]
      | cons part parts ih =>
        intro hwhole
        have hpart : Whole part := by simpa using hwhole 1
        have hrest : ∀ k, Whole (parts.take k).flatten := fun k =>
          Whole.right (by simpa using hwhole (k + 1)) hpart
        obtain ⟨cs, rfl⟩ := hpart
        have hcs := decodeFrom_spell cs []
        rw [List.append_nil, decodeFrom, List.append_nil] at hcs
        rw [List.map_cons, String.join_cons, ih hrest, List.flatten_cons, decodeLenient,
          decodeLenient, decodeLenient, decodeFrom_spell, hcs, String.ofList_append]
    rw [hjoin parts hwhole, h, decodeLenient_encode]

end Utf8
end StreamingLM
