import Mathlib.Tactic.Linarith
import StreamingLM.Proofs.Outcome
import StreamingLM.Proofs.Sampling.Ranking

/-!
Nucleus sampling. What can be drawn from a row of probabilities is the shortest part of its order
from the front whose mass reaches the bound, less the tokens without mass.
-/
namespace StreamingLM

noncomputable def massOf (row : List ℝ) (ids : List Nat) : ℝ := (ids.map (massAt row)).sum

/-- The shortest part of an order from the front whose mass reaches `p`; all of it, if that has
less. -/
structure Cuts (row : List ℝ) (p : ℝ) (order kept : List Nat) : Prop where
  begins : kept <+: order
  reaches : p ≤ massOf row kept ∨ kept = order
  shortest : ∀ part, part <+: kept → part ≠ kept → massOf row part < p

section Masses

variable {row : List ℝ}

theorem massAt_nonneg (nonneg : ∀ x ∈ row, 0 ≤ x) (i : Nat) : 0 ≤ massAt row i := by
  by_cases h : i < row.length
  · simpa [massAt, h] using nonneg _ (List.getElem_mem h)
  · simp [massAt, h]

theorem massOf_cons (i : Nat) (ids : List Nat) :
    massOf row (i :: ids) = massAt row i + massOf row ids := List.sum_cons

theorem massOf_append (front back : List Nat) :
    massOf row (front ++ back) = massOf row front + massOf row back := by
  simp [massOf]

theorem massOf_nonneg (nonneg : ∀ x ∈ row, 0 ≤ x) (ids : List Nat) : 0 ≤ massOf row ids := by
  refine List.sum_nonneg fun x hx => ?_
  obtain ⟨i, -, rfl⟩ := List.mem_map.mp hx
  exact massAt_nonneg nonneg i

theorem massAt_head_pos {i : Nat} {rest : List Nat} (ranks : Ranks row (i :: rest))
    (weighs : 0 < row.sum) : 0 < massAt row i := by
  obtain ⟨x, hx, hpos⟩ : ∃ x ∈ row, 0 < x :=
    List.exists_lt_of_sum_lt (fun _ => 0) id (by simpa using weighs)
  obtain ⟨j, hj, rfl⟩ := List.getElem_of_mem hx
  have hx : row[j] = massAt row j := by simp [massAt, hj]
  rw [hx] at hpos
  obtain rfl | ne := eq_or_ne j i
  · exact hpos
  · obtain hlt | ⟨heq, -⟩ := ranks.head_precedes hj ne <;> linarith

end Masses

section Cut

variable {row : List ℝ} {p : ℝ} {order kept : List Nat}

theorem Cuts.nil (h : p ≤ 0) : Cuts row p order [] where
  begins := List.nil_prefix
  reaches := .inl h
  shortest _ hpart ne := absurd (List.prefix_nil.mp hpart) ne

theorem Cuts.whole : Cuts row p [] [] where
  begins := List.prefix_rfl
  reaches := .inr rfl
  shortest _ hpart ne := absurd (List.prefix_nil.mp hpart) ne

theorem Cuts.cons {i : Nat} (pos : 0 < p) (h : Cuts row (p - massAt row i) order kept) :
    Cuts row p (i :: order) (i :: kept) where
  begins := (List.prefix_cons_inj i).mpr h.begins
  reaches := by
    rw [massOf_cons]
    exact h.reaches.imp (fun hle => by linarith) (congrArg (i :: ·))
  shortest part hpart ne := by
    obtain rfl | ⟨rest, rfl, hrest⟩ := List.prefix_cons_iff.mp hpart
    · exact pos
    · have hlt := h.shortest rest hrest fun heq => ne (congrArg (i :: ·) heq)
      rw [massOf_cons]
      linarith

theorem Cuts.eq_cons {i : Nat} (pos : 0 < p) (h : Cuts row p (i :: order) kept) :
    ∃ rest, kept = i :: rest := by
  cases kept with
  | nil =>
    obtain hle | heq := h.reaches
    · exact absurd (hle.trans_eq List.sum_nil) (not_le.mpr pos)
    · cases heq
  | cons j rest =>
    obtain ⟨rfl, -⟩ := List.cons_prefix_cons.mp h.begins
    exact ⟨rest, rfl⟩

theorem Cuts.unique {other : List Nat} (h : Cuts row p order kept) (h' : Cuts row p order other) :
    kept = other := by
  have hle {a b : List Nat} (ha : Cuts row p order a) (hb : Cuts row p order b) (hab : a <+: b) :
      a = b := by
    by_contra ne
    obtain hreach | rfl := ha.reaches
    · exact absurd hreach (not_le.mpr (hb.shortest a hab ne))
    · exact ne (hab.eq_of_length_le hb.begins.length_le)
  obtain hab | hba := List.prefix_or_prefix_of_prefix h.begins h'.begins
  · exact hle h h' hab
  · exact (hle h' h hba).symm

theorem withinMass_cons_of_lt {before : ℝ} (h : before < p) (i : Nat) (x : ℝ)
    (entries : List (Nat × ℝ)) :
    withinMass p before ((i, x) :: entries) = (i, x) :: withinMass p (before + x) entries := by
  simp [withinMass, Scalar.lt, Scalar.isNaN, h]

theorem withinMass_cons_of_le {before : ℝ} (h : p ≤ before) (i : Nat) (x : ℝ)
    (entries : List (Nat × ℝ)) :
    withinMass p before ((i, x) :: entries) = withinMass p (before + x) entries := by
  simp [withinMass, Scalar.lt, Scalar.isNaN, not_lt.mpr h]

theorem withinMass_of_le (nonneg : ∀ x ∈ row, 0 ≤ x) (ids : List Nat) {before : ℝ}
    (h : p ≤ before) : withinMass p before (ids.map (weighed row)) = [] := by
  induction ids generalizing before with
  | nil => rfl
  | cons i ids ih =>
    rw [List.map_cons, weighed, withinMass_cons_of_le h]
    exact ih (h.trans (le_add_of_nonneg_right (massAt_nonneg nonneg i)))

/-- Tokens are taken while the mass before them is below the bound. -/
theorem withinMass_cuts (nonneg : ∀ x ∈ row, 0 ≤ x) (p before : ℝ) (ids : List Nat) :
    ∃ kept, withinMass p before (ids.map (weighed row)) = kept.map (weighed row) ∧
      Cuts row (p - before) ids kept := by
  induction ids generalizing before with
  | nil => exact ⟨[], rfl, .whole⟩
  | cons i ids ih =>
    obtain h | h := lt_or_ge before p
    · obtain ⟨kept, hkept, hcuts⟩ := ih (before + massAt row i)
      rw [← sub_sub] at hcuts
      refine ⟨i :: kept, ?_, hcuts.cons (sub_pos.mpr h)⟩
      rw [List.map_cons, weighed, withinMass_cons_of_lt h, hkept]
      rfl
    · exact ⟨[], withinMass_of_le nonneg (i :: ids) h, .nil (sub_nonpos.mpr h)⟩

theorem nucleus_eq (pos : 0 < p) (row : List ℝ) : nucleus p row = withinMass p 0 (ranked row) := by
  unfold nucleus
  cases ranked row with
  | nil => rfl
  | cons first rest => rw [withinMass_cons_of_lt pos, Scalar.zero_real]

theorem nucleus_cuts (nonneg : ∀ x ∈ row, 0 ≤ x) (pos : 0 < p) :
    ∃ kept, nucleus p row = kept.map (weighed row) ∧ Cuts row p (byMass row) kept := by
  obtain ⟨kept, hkept, hcuts⟩ := withinMass_cuts nonneg p 0 (byMass row)
  rw [sub_zero] at hcuts
  exact ⟨kept, by rw [nucleus_eq pos, ranked_eq, hkept], hcuts⟩

end Cut

section Draw

noncomputable def share (row : List ℝ) (sum : ℝ) (i : Nat) : Nat × ℝ := (i, massAt row i / sum)

theorem total_eq_sum (xs : List ℝ) : total xs = xs.sum := by
  rw [total, Scalar.zero_real, List.sum_eq_foldl]

theorem normalised_eq {row : List ℝ} (nonneg : ∀ x ∈ row, 0 ≤ x) {kept : List Nat}
    (pos : 0 < massOf row kept) :
    normalised (kept.map (weighed row)) = .ok (kept.map (share row (massOf row kept))) := by
  have hne : kept ≠ [] := by
    rintro rfl
    exact lt_irrefl _ pos
  have hsum : total ((kept.map (weighed row)).map (·.2)) = massOf row kept := by
    rw [total_eq_sum, List.map_map]
    rfl
  have hmass : ∀ i, isMass (massAt row i / massOf row kept) = true := fun i => by
    have hshare := div_nonneg (massAt_nonneg nonneg i) pos.le
    simp [isMass, Scalar.finite, Scalar.lt, Scalar.zero_real, not_lt.mpr hshare]
  have hall :
      (kept.map (share row (massOf row kept))).all (fun entry => isMass entry.2) = true := by
    simp [share, hmass]
  have hscaled : ((kept.map (weighed row)).map fun (i, x) => (i, x / massOf row kept)) =
      kept.map (share row (massOf row kept)) := by
    rw [List.map_map]
    rfl
  simp only [normalised, hsum, hscaled, hall]
  simp [hne]

variable {u before x : ℝ} {i : Nat} {entries : List (Nat × ℝ)}

theorem pick_of_lt (pos : 0 < x) (h : u < before + x) (last : Nat) :
    pick u before ((i, x) :: entries) last = i := by
  simp [pick, Scalar.lt, Scalar.zero_real, pos, h]

theorem pick_of_le (pos : 0 < x) (h : before + x ≤ u) (last : Nat) :
    pick u before ((i, x) :: entries) last = pick u (before + x) entries i := by
  simp [pick, Scalar.lt, Scalar.zero_real, pos, not_lt.mpr h]

theorem pick_of_nonpos (h : ¬ 0 < x) (last : Nat) :
    pick u before ((i, x) :: entries) last = pick u before entries last := by
  simp [pick, Scalar.lt, Scalar.zero_real, h]

theorem pick_cases (u before : ℝ) (entries : List (Nat × ℝ)) (last : Nat) :
    (∃ entry ∈ entries, 0 < entry.2 ∧ pick u before entries last = entry.1) ∨
      (∀ entry ∈ entries, ¬ 0 < entry.2) ∧ pick u before entries last = last := by
  induction entries generalizing before last with
  | nil => exact .inr ⟨by simp, rfl⟩
  | cons entry entries ih =>
    obtain ⟨i, x⟩ := entry
    by_cases hx : 0 < x
    · refine .inl ?_
      obtain hu | hu := lt_or_ge u (before + x)
      · exact ⟨(i, x), by simp, hx, pick_of_lt hx hu last⟩
      · rw [pick_of_le hx hu]
        obtain ⟨entry, hentry, hpos, heq⟩ | ⟨-, heq⟩ := ih (before + x) i
        · exact ⟨entry, List.mem_cons_of_mem _ hentry, hpos, heq⟩
        · exact ⟨(i, x), by simp, hx, heq⟩
    · rw [pick_of_nonpos hx]
      obtain ⟨entry, hentry, hpos, heq⟩ | ⟨hnone, heq⟩ := ih before last
      · exact .inl ⟨entry, List.mem_cons_of_mem _ hentry, hpos, heq⟩
      · exact .inr ⟨List.forall_mem_cons.mpr ⟨hx, hnone⟩, heq⟩

theorem pick_append (nonneg : ∀ entry ∈ entries, 0 ≤ entry.2) (before : ℝ) (i : Nat) (pos : 0 < x)
    (rest : List (Nat × ℝ)) (last : Nat) :
    pick (before + (entries.map (·.2)).sum) before (entries ++ (i, x) :: rest) last = i := by
  induction entries generalizing before last with
  | nil =>
    rw [List.map_nil, List.sum_nil, add_zero]
    exact pick_of_lt pos (lt_add_of_pos_right before pos) last
  | cons entry entries ih =>
    obtain ⟨j, y⟩ := entry
    obtain ⟨hy, hrest⟩ := List.forall_mem_cons.mp nonneg
    rw [List.map_cons, List.sum_cons, List.cons_append]
    obtain hpos | hzero := hy.lt_or_eq
    · have hsum : 0 ≤ (entries.map (·.2)).sum := by
        refine List.sum_nonneg fun z hz => ?_
        obtain ⟨entry, hentry, rfl⟩ := List.mem_map.mp hz
        exact hrest entry hentry
      rw [← add_assoc, pick_of_le hpos (le_add_of_nonneg_right hsum)]
      exact ih hrest (before + y) j
    · obtain rfl : 0 = y := hzero
      rw [zero_add, pick_of_nonpos (lt_irrefl 0)]
      exact ih hrest before last

variable {p : ℝ} {row : List ℝ} {kept : List Nat}

theorem sum_shares (row : List ℝ) (sum : ℝ) (ids : List Nat) :
    ((ids.map (share row sum)).map (·.2)).sum = massOf row ids / sum := by
  rw [massOf, div_eq_mul_inv, ← List.sum_map_mul_right, List.map_map]
  rfl

theorem pick_mem (u : ℝ) (pos : 0 < massOf row kept) {i : Nat} (hi : i ∈ kept)
    (hpos : 0 < massAt row i) (last : Nat) :
    ∃ j ∈ kept, 0 < massAt row j ∧
      pick u Scalar.zero (kept.map (share row (massOf row kept))) last = j := by
  obtain ⟨entry, hentry, hmass, heq⟩ | ⟨hnone, -⟩ :=
    pick_cases u Scalar.zero (kept.map (share row (massOf row kept))) last
  · obtain ⟨j, hj, rfl⟩ := List.mem_map.mp hentry
    exact ⟨j, hj, (div_pos_iff_of_pos_right pos).mp hmass, heq⟩
  · exact absurd (div_pos hpos pos) (hnone _ (List.mem_map_of_mem hi))

/-- Every token of the nucleus that has a mass is the pick of some number below one. -/
theorem exists_pick (nonneg : ∀ x ∈ row, 0 ≤ x) (pos : 0 < massOf row kept) {i : Nat}
    (hi : i ∈ kept) (hpos : 0 < massAt row i) (last : Nat) :
    ∃ u : ℝ, 0 ≤ u ∧ u < 1 ∧
      pick u Scalar.zero (kept.map (share row (massOf row kept))) last = i := by
  obtain ⟨front, back, hkept⟩ := List.append_of_mem hi
  have hsum : massOf row kept = massOf row front + (massAt row i + massOf row back) := by
    rw [hkept, massOf_append, massOf_cons]
  have hfront := massOf_nonneg nonneg front
  refine ⟨massOf row front / massOf row kept, div_nonneg hfront pos.le, ?_, ?_⟩
  · have hback := massOf_nonneg nonneg back
    rw [div_lt_one pos]
    linarith
  · have hshares : ∀ entry ∈ front.map (share row (massOf row kept)), 0 ≤ entry.2 := by
      intro entry hentry
      obtain ⟨j, -, rfl⟩ := List.mem_map.mp hentry
      exact div_nonneg (massAt_nonneg nonneg j) pos.le
    have hpick := pick_append hshares 0 i (div_pos hpos pos)
      (back.map (share row (massOf row kept))) last
    rw [sum_shares, zero_add] at hpick
    have hsplit (sum : ℝ) : kept.map (share row sum) =
        front.map (share row sum) ++ (i, massAt row i / sum) :: back.map (share row sum) := by
      simp [hkept, share]
    rw [Scalar.zero_real, hsplit]
    exact hpick

end Draw

section Rows

def Returnable (p : ℝ) (row : List ℝ) (token : Nat) : Prop :=
  ∃ kept, normalised (nucleus p row) = .ok kept ∧
    ∃ u : ℝ, 0 ≤ u ∧ u < 1 ∧ pick u Scalar.zero kept 0 = token

/-- What can be drawn from a row, by the order of its tokens and the part of it that is kept. -/
structure Drawable (p : ℝ) (row : List ℝ) (order kept ids : List Nat) : Prop where
  ranks : Ranks row order
  cuts : Cuts row p order kept
  mem_iff : ∀ i, i ∈ ids ↔ i ∈ kept ∧ 0 < massAt row i
  returnable_iff : ∀ i, Returnable p row i ↔ i ∈ ids
  sampled : ∀ (q : Float) (seed : Int) (g : Generator), realValue q = p →
    ∃ i ∈ ids, (Sampler.nucleus q seed g).sample row = .ok ((i : Int), .nucleus q seed g.next.2)
  best : ∃ i ∈ ids, ∀ j < row.length, j ≠ i → Precedes row i j
  none_likelier : ∀ i ∈ ids, ∀ j < row.length, j ∉ ids → massAt row j ≤ massAt row i
  lower_first : ∀ i ∈ ids, ∀ j < i, massAt row j = massAt row i → j ∈ ids
  dropLast_below : massOf row kept.dropLast < p

variable {p : ℝ} {row : List ℝ} {order kept ids : List Nat}

theorem Drawable.mem_iff_of {order' kept' : List Nat} (h : Drawable p row order kept ids)
    (ranks : Ranks row order') (cuts : Cuts row p order' kept') (i : Nat) :
    i ∈ ids ↔ i ∈ kept' ∧ 0 < massAt row i := by
  obtain rfl := h.ranks.unique ranks
  obtain rfl := h.cuts.unique cuts
  exact h.mem_iff i

/-- A row that has any mass has some in its nucleus, at its most likely token. -/
theorem Cuts.best (nonneg : ∀ x ∈ row, 0 ≤ x) (weighs : 0 < row.sum) (pos : 0 < p)
    (ranks : Ranks row order) (cuts : Cuts row p order kept) :
    ∃ i ∈ kept, 0 < massAt row i ∧ 0 < massOf row kept ∧
      ∀ j < row.length, j ≠ i → Precedes row i j := by
  have hne : order ≠ [] := by
    rintro rfl
    have hnil : row = [] := List.eq_nil_of_length_eq_zero (by simpa using ranks.all.length_eq.symm)
    simp [hnil] at weighs
  obtain ⟨i, rest, rfl⟩ := List.exists_cons_of_ne_nil hne
  obtain ⟨more, rfl⟩ := cuts.eq_cons pos
  have hi := massAt_head_pos ranks weighs
  refine ⟨i, by simp, hi, ?_, fun j hj ne => ranks.head_precedes hj ne⟩
  rw [massOf_cons]
  exact add_pos_of_pos_of_nonneg hi (massOf_nonneg nonneg more)

theorem Cuts.dropLast_below (pos : 0 < p) (cuts : Cuts row p order kept) :
    massOf row kept.dropLast < p := by
  obtain rfl | hne := eq_or_ne kept []
  · exact pos
  · have hpos := List.length_pos_of_ne_nil hne
    refine cuts.shortest _ (List.dropLast_prefix kept) fun heq => ?_
    have hlength := congrArg List.length heq
    rw [List.length_dropLast] at hlength
    omega

variable (hnorm : normalised (nucleus p row) = .ok (kept.map (share row (massOf row kept))))
  (heavy : 0 < massOf row kept)
include hnorm heavy

theorem drawable_eq_ok :
    ∃ ids, drawable p row = .ok ids ∧ ∀ i, i ∈ ids ↔ i ∈ kept ∧ 0 < massAt row i := by
  refine ⟨((kept.map (share row (massOf row kept))).filter
    fun entry => Scalar.lt Scalar.zero entry.2).map (·.1), ?_, fun i => ?_⟩
  · simp only [drawable, hnorm]
    rfl
  · simp [share, Scalar.lt, Scalar.zero_real, div_pos_iff_of_pos_right heavy]

theorem returnable_iff (nonneg : ∀ x ∈ row, 0 ≤ x)
    (likely : ∃ i ∈ kept, 0 < massAt row i) (token : Nat) :
    Returnable p row token ↔ token ∈ kept ∧ 0 < massAt row token := by
  constructor
  · rintro ⟨entries, hentries, u, -, -, rfl⟩
    obtain rfl : _ = entries := Except.ok.inj (hnorm.symm.trans hentries)
    obtain ⟨i, hi, hpos⟩ := likely
    obtain ⟨j, hj, hmass, heq⟩ := pick_mem u heavy hi hpos 0
    exact heq ▸ ⟨hj, hmass⟩
  · rintro ⟨htoken, hpos⟩
    exact ⟨_, hnorm, exists_pick nonneg heavy htoken hpos 0⟩

theorem sample_mem (likely : ∃ i ∈ kept, 0 < massAt row i) (q : Float) (seed : Int) (g : Generator)
    (hq : realValue q = p) :
    ∃ i, (i ∈ kept ∧ 0 < massAt row i) ∧
      (Sampler.nucleus q seed g).sample row = .ok ((i : Int), .nucleus q seed g.next.2) := by
  obtain ⟨i, hi, hpos⟩ := likely
  obtain ⟨j, hj, hmass, heq⟩ := pick_mem (realValue g.next.1) heavy hi hpos 0
  refine ⟨j, ⟨hj, hmass⟩, ?_⟩
  have hnorm : normalised (nucleus (Scalar.ofFloat q) row) =
      .ok (kept.map (share row (massOf row kept))) := by
    rw [← hnorm, ← hq]
    rfl
  simp only [Sampler.sample, hnorm]
  rw [← heq]
  rfl

omit hnorm heavy

/-- What can be drawn from a row that has a mass are the tokens with mass in its nucleus. -/
theorem drawable_row (nonneg : ∀ x ∈ row, 0 ≤ x) (weighs : 0 < row.sum) (pos : 0 < p) :
    ∃ ids, drawable p row = .ok ids ∧ ∃ order kept, Drawable p row order kept ids := by
  obtain ⟨kept, hkept, cuts⟩ := nucleus_cuts nonneg pos
  have ranks := byMass_ranks row
  obtain ⟨first, hfirst, hmass, hsum, hbest⟩ := cuts.best nonneg weighs pos ranks
  have hnorm : normalised (nucleus p row) = .ok (kept.map (share row (massOf row kept))) :=
    hkept ▸ normalised_eq nonneg hsum
  obtain ⟨ids, hids, mem_iff⟩ := drawable_eq_ok hnorm hsum
  -- what precedes a token of the nucleus is kept, and it has no less mass
  have hbefore : ∀ i ∈ ids, ∀ j < row.length, Precedes row j i → massAt row i ≤ massAt row j →
      j ∈ ids := fun i hi j hj hji hle => by
    obtain ⟨hkept, hpos⟩ := (mem_iff i).mp hi
    exact (mem_iff j).mpr ⟨ranks.mem_of_precedes cuts.begins hj hkept hji, hpos.trans_le hle⟩
  refine ⟨ids, hids, byMass row, kept, ?_⟩
  exact {
    ranks, cuts, mem_iff
    returnable_iff := fun i =>
      (returnable_iff hnorm hsum nonneg ⟨first, hfirst, hmass⟩ i).trans (mem_iff i).symm
    sampled := fun q seed g hq => by
      obtain ⟨i, hi, heq⟩ := sample_mem hnorm hsum ⟨first, hfirst, hmass⟩ q seed g hq
      exact ⟨i, (mem_iff i).mpr hi, heq⟩
    best := ⟨first, (mem_iff first).mpr ⟨hfirst, hmass⟩, hbest⟩
    none_likelier := fun i hi j hj hnot => by
      by_contra hlt
      rw [not_le] at hlt
      exact hnot (hbefore i hi j hj (.inl hlt) hlt.le)
    lower_first := fun i hi j hlt heq => by
      have hi' : i < row.length :=
        ranks.mem_iff.mp (cuts.begins.subset ((mem_iff i).mp hi).1)
      exact hbefore i hi j (hlt.trans hi') (.inr ⟨heq, hlt⟩) heq.ge
    dropLast_below := cuts.dropLast_below pos }

/-- Nucleus sampling keeps exactly the nucleus, for every batch of rows: all can be drawn from, and
what a draw can come to are the tokens with mass in the shortest part of the order of their row
whose mass reaches the bound. -/
theorem drawable_nucleus (p : ℝ) (pos : 0 < p) (rows : List (List ℝ))
    (masses : ∀ row ∈ rows, (∀ x ∈ row, 0 ≤ x) ∧ 0 < row.sum) :
    ∃ drawn, rows.mapM (drawable p) = .ok drawn ∧
      List.Forall₂ (fun row ids => ∃ order kept, Drawable p row order kept ids) rows drawn := by
  have hrow : ∀ row ∈ rows, ∃ ids, drawable p row = .ok ids := fun row hrow => by
    obtain ⟨nonneg, weighs⟩ := masses row hrow
    obtain ⟨ids, hids, -⟩ := drawable_row nonneg weighs pos
    exact ⟨ids, hids⟩
  obtain ⟨drawn, hdrawn⟩ := Outcome.mapM_ok hrow
  refine ⟨drawn, hdrawn, ?_⟩
  have heach := Outcome.mapM_eq_ok.mp hdrawn
  rw [List.forall₂_iff_zip] at heach ⊢
  refine ⟨heach.1, fun {row ids} hzip => ?_⟩
  obtain ⟨nonneg, weighs⟩ := masses row (List.of_mem_zip hzip).1
  obtain ⟨ids', hids', h⟩ := drawable_row nonneg weighs pos
  obtain rfl : ids' = ids := Except.ok.inj (hids'.symm.trans (heach.2 hzip))
  exact h

/-- Rows with different masses, with equal ones, and with less than the bound. -/
theorem sampleRows_drawable :
    let sampleRows : List (List ℝ) := [[1/20, 1/2, 3/20, 3/10], [1/4, 1/4, 1/4, 1/4], [0, 1/2]]
    (∀ row ∈ sampleRows, (∀ x ∈ row, 0 ≤ x) ∧ 0 < row.sum) ∧
      ∃ drawn, sampleRows.mapM (drawable (7/10)) = .ok drawn ∧
        List.Forall₂ (fun ids tokens => ∀ i, i ∈ ids ↔ i ∈ tokens) drawn
          [[1, 3], [0, 1, 2], [1]] := by
  intro sampleRows
  have masses : ∀ row ∈ sampleRows, (∀ x ∈ row, 0 ≤ x) ∧ 0 < row.sum := by
    simp only [sampleRows, List.forall_mem_cons, List.sum_cons, List.sum_nil]
    norm_num
  obtain ⟨drawn, hdrawn, heach⟩ := drawable_nucleus (7/10) (by norm_num) sampleRows masses
  refine ⟨masses, drawn, hdrawn, ?_⟩
  simp only [sampleRows, List.forall₂_cons_left_iff, List.forall₂_nil_left_iff] at heach
  obtain ⟨varied, _, ⟨_, _, hvaried⟩, ⟨equal, _, ⟨_, _, hequal⟩,
    ⟨light, _, ⟨_, _, hlight⟩, rfl, rfl⟩, rfl⟩, rfl⟩ := heach
  refine .cons (fun i => ?_) (.cons (fun i => ?_) (.cons (fun i => ?_) .nil))
  · have ranks : Ranks [1/20, 1/2, 3/20, 3/10] [1, 3, 2, 0] :=
      ⟨by decide, by norm_num [Precedes, massAt]⟩
    have cuts : Cuts [1/20, 1/2, 3/20, 3/10] (7/10) [1, 3, 2, 0] [1, 3] :=
      .cons (by norm_num) (.cons (by norm_num [massAt]) (.nil (by norm_num [massAt])))
    rw [hvaried.mem_iff_of ranks cuts, and_iff_left_iff_imp]
    intro hi
    fin_cases hi <;> norm_num [massAt]
  · have ranks : Ranks [1/4, 1/4, 1/4, 1/4] [0, 1, 2, 3] :=
      ⟨by decide, by norm_num [Precedes, massAt]⟩
    have cuts : Cuts [1/4, 1/4, 1/4, 1/4] (7/10) [0, 1, 2, 3] [0, 1, 2] :=
      .cons (by norm_num) (.cons (by norm_num [massAt]) (.cons (by norm_num [massAt])
        (.nil (by norm_num [massAt]))))
    rw [hequal.mem_iff_of ranks cuts, and_iff_left_iff_imp]
    intro hi
    fin_cases hi <;> norm_num [massAt]
  · have ranks : Ranks [0, 1/2] [1, 0] :=
      ⟨by decide, by norm_num [Precedes, massAt]⟩
    have cuts : Cuts [0, 1/2] (7/10) [1, 0] [1, 0] :=
      .cons (by norm_num) (.cons (by norm_num [massAt]) .whole)
    rw [hlight.mem_iff_of ranks cuts]
    constructor
    · rintro ⟨hi, hpos⟩
      fin_cases hi
      · simp
      · norm_num [massAt] at hpos
    · intro hi
      fin_cases hi
      norm_num [massAt]

end Rows
end StreamingLM
