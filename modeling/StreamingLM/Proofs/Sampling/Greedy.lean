import StreamingLM.Proofs.Sampling.Nucleus

/-!
The best token of a row of scores. A softmax keeps the order of the scores at every temperature, so
the smallest nucleus holds the token that a greedy choice takes, and no other one.
-/
namespace StreamingLM

/-- The lowest id among the largest entries of a row. -/
structure Leads (row : List ℝ) (i : Nat) : Prop where
  inside : i < row.length
  most : ∀ j < row.length, massAt row j ≤ massAt row i
  first : ∀ j < i, massAt row j < massAt row i

section Entries

variable {row front : List ℝ} {i : Nat}

theorem massAt_eq_getElem (h : i < row.length) : massAt row i = row[i] := by
  simp [massAt, h]

theorem massAt_append (h : i < front.length) (back : List ℝ) :
    massAt (front ++ back) i = massAt front i := by
  simp [massAt, List.getElem?_append_left h]

theorem massAt_concat (front : List ℝ) (x : ℝ) : massAt (front ++ [x]) front.length = x := by
  simp [massAt]

theorem massAt_map (f : ℝ → ℝ) (h : i < row.length) : massAt (row.map f) i = f (massAt row i) := by
  simp [massAt, h]

end Entries

namespace Leads

variable {row front : List ℝ} {i j : Nat}

theorem unique (hi : Leads row i) (hj : Leads row j) : i = j := by
  rcases Nat.lt_trichotomy i j with hlt | heq | hlt
  · exact absurd (hi.most j hj.inside) (not_le.mpr (hj.first i hlt))
  · exact heq
  · exact absurd (hj.most i hi.inside) (not_le.mpr (hi.first j hlt))

theorem singleton (x : ℝ) : Leads [x] 0 where
  inside := Nat.one_pos
  most j hj := by rw [Nat.lt_one_iff.mp hj]
  first j hj := absurd hj (Nat.not_lt_zero j)

theorem concat (h : Leads front i) {x : ℝ} (hle : x ≤ massAt front i) : Leads (front ++ [x]) i := by
  have hi := massAt_append h.inside [x]
  refine ⟨?_, fun j hj => ?_, fun j hj => ?_⟩
  · have hinside := h.inside
    rw [List.length_append]
    omega
  · by_cases hlt : j < front.length
    · rw [hi, massAt_append hlt]
      exact h.most j hlt
    · have hlast : j = front.length := by
        simp only [List.length_append, List.length_singleton] at hj
        omega
      rw [hi, hlast, massAt_concat]
      exact hle
  · rw [hi, massAt_append (hj.trans h.inside)]
    exact h.first j hj

theorem overtaken (h : Leads front i) {x : ℝ} (hlt : massAt front i < x) :
    Leads (front ++ [x]) front.length := by
  have hbelow : ∀ j < front.length, massAt (front ++ [x]) j < x := fun j hj => by
    rw [massAt_append hj]
    exact (h.most j hj).trans_lt hlt
  refine ⟨by simp, fun j hj => ?_, fun j hj => ?_⟩
  · rw [massAt_concat]
    by_cases hlast : j < front.length
    · exact (hbelow j hlast).le
    · have heq : j = front.length := by
        simp only [List.length_append, List.length_singleton] at hj
        omega
      rw [heq, massAt_concat]
  · rw [massAt_concat]
    exact hbelow j hj

theorem map {f : ℝ → ℝ} (mono : StrictMono f) (h : Leads row i) : Leads (row.map f) i := by
  have hi := massAt_map f h.inside
  refine ⟨by simpa using h.inside, fun j hj => ?_, fun j hj => ?_⟩
  · have hlt : j < row.length := by simpa using hj
    rw [hi, massAt_map f hlt]
    exact mono.monotone (h.most j hlt)
  · rw [hi, massAt_map f (hj.trans h.inside)]
    exact mono (h.first j hj)

theorem of_ranks {order : List Nat} (ranks : Ranks row (i :: order)) : Leads row i := by
  have hi : i < row.length := ranks.mem_iff.mp (by simp)
  refine ⟨hi, fun j hj => ?_, fun j hj => ?_⟩
  · by_cases heq : j = i
    · rw [heq]
    · rcases ranks.head_precedes hj heq with hlt | ⟨htied, -⟩
      · exact hlt.le
      · exact htied.ge
  · rcases ranks.head_precedes (hj.trans hi) hj.ne with hlt | ⟨-, hlater⟩
    · exact hlt
    · exact absurd hlater hj.asymm

end Leads

section Greedy

variable {row front : List ℝ} {i : Nat}

theorem beats_iff {x best : ℝ} : beats x best = true ↔ best < x := by
  simp [beats, Scalar.lt, Scalar.isNaN]

/-- The best entry so far leads what was looked at, and at the end the whole row. -/
theorem bestFrom_leads (xs : List ℝ) (h : Leads front i) :
    Leads (front ++ xs) (bestFrom (i, massAt front i) front.length xs).1 := by
  induction xs generalizing front i with
  | nil => simpa [bestFrom] using h
  | cons x xs ih =>
    have hlength : front.length + 1 = (front ++ [x]).length := by simp
    rw [bestFrom, List.append_cons, hlength]
    by_cases hlt : massAt front i < x
    · have hbest := ih (h.overtaken hlt)
      rw [massAt_concat] at hbest
      rw [if_pos (beats_iff.mpr hlt)]
      exact hbest
    · have hbest := ih (h.concat (not_lt.mp hlt))
      rw [massAt_append h.inside] at hbest
      rw [if_neg (mt beats_iff.mp hlt)]
      exact hbest

theorem argmax_eq_ok_iff : argmax row = .ok i ↔ Leads row i := by
  cases row with
  | nil =>
    have hnone : ¬Leads [] i := fun h => absurd h.inside (Nat.not_lt_zero i)
    simpa [argmax] using hnone
  | cons x xs =>
    have hbest : Leads (x :: xs) (bestFrom (0, x) 1 xs).1 := bestFrom_leads xs (Leads.singleton x)
    constructor
    · intro h
      rwa [← Except.ok.inj h]
    · intro h
      exact congrArg Except.ok (hbest.unique h)

theorem exists_leads (nonempty : row ≠ []) : ∃ i, Leads row i := by
  obtain ⟨x, xs, rfl⟩ := List.exists_cons_of_ne_nil nonempty
  exact ⟨_, argmax_eq_ok_iff.mp rfl⟩

end Greedy

section Limit

variable {row : List ℝ} {i : Nat} {p : ℝ}

theorem byMass_eq_cons (leads : Leads row i) : ∃ rest, byMass row = i :: rest := by
  have ranks := byMass_ranks row
  cases hrow : byMass row with
  | nil =>
    have hmem := ranks.mem_iff.mpr leads.inside
    simp [hrow] at hmem
  | cons j rest =>
    rw [hrow] at ranks
    exact ⟨rest, by rw [(Leads.of_ranks ranks).unique leads]⟩

theorem nucleus_eq_singleton (nonneg : ∀ x ∈ row, 0 ≤ x) (leads : Leads row i)
    (low : p ≤ massAt row i) : nucleus p row = [weighed row i] := by
  obtain ⟨rest, hrest⟩ := byMass_eq_cons leads
  have hafter : p ≤ Scalar.zero + massAt row i := by rwa [Scalar.zero_real, zero_add]
  have hranked : ranked row = weighed row i :: rest.map (weighed row) := by
    rw [ranked_eq, hrest, List.map_cons]
  have hnone : withinMass p (Scalar.zero + (weighed row i).2) (rest.map (weighed row)) = [] :=
    withinMass_of_le nonneg rest hafter
  rw [nucleus, hranked]
  simp only [hnone]

theorem drawable_of_single {x : ℝ} (hnorm : normalised (nucleus p row) = .ok [(i, x)])
    (pos : 0 < x) : drawable p row = .ok [i] := by
  have hfilter : [(i, x)].filter (fun entry => Scalar.lt Scalar.zero entry.2) = [(i, x)] := by
    simp [Scalar.lt, Scalar.zero_real, pos]
  simp only [drawable, hnorm, bind, Except.bind, hfilter]
  rfl

theorem drawn_at_limit (nonneg : ∀ x ∈ row, 0 ≤ x) (leads : Leads row i) (pos : 0 < massAt row i)
    (low : p ≤ massAt row i) :
    drawable p row = .ok [i] ∧ (∀ token, Returnable p row token ↔ token = i) ∧
      ∀ (q : Float) (seed : Int) (g : Generator), realValue q = p →
        (Sampler.nucleus q seed g).sample row = .ok ((i : Int), .nucleus q seed g.next.2) := by
  have hsum : 0 < massOf row [i] := by simpa [massOf] using pos
  have hnorm : normalised (nucleus p row) = .ok ([i].map (share row (massOf row [i]))) := by
    rw [nucleus_eq_singleton nonneg leads low]
    exact normalised_eq nonneg hsum
  have likely : ∃ j ∈ [i], 0 < massAt row j := ⟨i, by simp, pos⟩
  refine ⟨drawable_of_single hnorm (div_pos pos hsum), fun token => ?_, fun q seed g hq => ?_⟩
  · rw [returnable_iff hnorm hsum nonneg likely, List.mem_singleton]
    constructor
    · exact fun h => h.1
    · rintro rfl
      exact ⟨rfl, pos⟩
  · obtain ⟨j, ⟨hj, -⟩, hsample⟩ := sample_mem hnorm hsum likely q seed g hq
    rw [List.mem_singleton.mp hj] at hsample
    exact hsample

/-- A softmax gives each score some mass; above temperature zero it keeps their order. -/
theorem softmaxAt_eq_map (t : ℝ) (row : List ℝ) :
    ∃ f : ℝ → ℝ, (0 < t → StrictMono f) ∧ (∀ x, 0 < f x) ∧ softmaxAt t row = row.map f := by
  cases row with
  | nil => exact ⟨Real.exp, fun _ => Real.exp_strictMono, Real.exp_pos, rfl⟩
  | cons x xs =>
    let peak := (xs.map (· / t)).foldl larger (x / t)
    let raw (y : ℝ) : ℝ := Real.exp (y / t - peak)
    have hpos : ∀ y, 0 < raw y := fun y => Real.exp_pos _
    have hmono : 0 < t → StrictMono raw := fun pos y z hyz => by
      have hquotient := div_lt_div_of_pos_right hyz pos
      exact Real.exp_strictMono (by linarith)
    have hsum : 0 < total ((x :: xs).map raw) := by
      rw [total_eq_sum]
      refine List.sum_pos _ (fun y hy => ?_) (by simp)
      obtain ⟨z, -, rfl⟩ := List.mem_map.mp hy
      exact hpos z
    have hpresent : ((List.map (· / t) (x :: xs)).map some).filterMap id =
        x / t :: xs.map (· / t) := by simp
    have hweights : ((List.map (· / t) (x :: xs)).map some).map (weight peak) =
        (x :: xs).map raw := by
      rw [List.map_map, List.map_map]
      rfl
    refine ⟨fun y => raw y / total ((x :: xs).map raw), fun pos y z hyz => ?_, fun y => ?_, ?_⟩
    · exact div_lt_div_of_pos_right (hmono pos hyz) hsum
    · exact div_pos (hpos y) hsum
    · simp only [softmaxAt, softmax, softmaxPresent, hpresent]
      rw [hweights, List.map_map]
      rfl

theorem softmaxAt_pos (t : ℝ) {row : List ℝ} {x : ℝ} (h : x ∈ softmaxAt t row) : 0 < x := by
  obtain ⟨f, -, fpos, hprobs⟩ := softmaxAt_eq_map t row
  rw [hprobs] at h
  obtain ⟨y, -, rfl⟩ := List.mem_map.mp h
  exact fpos y

/-- Greedy choice and nucleus sampling agree at the limit. Whatever the scores and the temperature,
the lowest id among the largest scores is chosen greedily, from the scores as from their softmax; and
with a bound up to the largest probability it is all that can be drawn. -/
theorem greedy_limit {logits : List ℝ} (nonempty : logits ≠ []) {t : ℝ} (pos : 0 < t) :
    ∃ best, Leads logits best ∧ argmax logits = .ok best ∧
      argmax (softmaxAt t logits) = .ok best ∧
      ∀ p, (∃ x ∈ softmaxAt t logits, p ≤ x) →
        drawable p (softmaxAt t logits) = .ok [best] ∧
          (∀ token, Returnable p (softmaxAt t logits) token ↔ token = best) ∧
          ∀ (q : Float) (seed : Int) (g : Generator), realValue q = p →
            (Sampler.nucleus q seed g).sample (softmaxAt t logits) =
              .ok ((best : Int), .nucleus q seed g.next.2) := by
  obtain ⟨f, mono, -, hprobs⟩ := softmaxAt_eq_map t logits
  obtain ⟨best, leads⟩ := exists_leads nonempty
  have hleads : Leads (softmaxAt t logits) best := hprobs ▸ leads.map (mono pos)
  have hbest : 0 < massAt (softmaxAt t logits) best := by
    rw [massAt_eq_getElem hleads.inside]
    exact softmaxAt_pos t (List.getElem_mem hleads.inside)
  refine ⟨best, leads, argmax_eq_ok_iff.mpr leads, argmax_eq_ok_iff.mpr hleads, ?_⟩
  rintro p ⟨x, hx, hpx⟩
  obtain ⟨j, hj, rfl⟩ := List.getElem_of_mem hx
  have low : p ≤ massAt (softmaxAt t logits) best := by
    have hmost := hleads.most j hj
    rw [massAt_eq_getElem hj] at hmost
    exact hpx.trans hmost
  exact drawn_at_limit (fun x hx => (softmaxAt_pos t hx).le) hleads hbest low

/-- Of two largest scores the one with the lower id is taken. -/
theorem tiedScores_limit :
    [0, 1, (1 : ℝ)] ≠ [] ∧ (0 : ℝ) < 1 ∧ (∃ x ∈ softmaxAt 1 [0, 1, (1 : ℝ)], 1 / 3 ≤ x) ∧
      argmax [0, 1, (1 : ℝ)] = .ok 1 ∧
      drawable (1 / 3) (softmaxAt 1 [0, 1, (1 : ℝ)]) = .ok [1] := by
  have hsum : Real.exp (-1) ≤ 1 := Real.exp_le_one_iff.mpr (by norm_num)
  have hlarge : ∃ x ∈ softmaxAt 1 [0, 1, (1 : ℝ)], 1 / 3 ≤ x := by
    refine ⟨1 / (Real.exp (-1) + 1 + 1), ?_, ?_⟩
    · norm_num [softmaxAt, softmax, softmaxPresent, larger, weight, Scalar.lt, Scalar.exp, total,
        Scalar.zero_real]
    · have hpos := Real.exp_pos (-1)
      rw [div_le_div_iff₀ (by norm_num) (by linarith)]
      linarith
  obtain ⟨best, leads, hargmax, -, hlimit⟩ :=
    greedy_limit (List.cons_ne_nil 0 [1, (1 : ℝ)]) (t := 1) one_pos
  have htwo : Leads [0, (1 : ℝ)] 1 := (Leads.singleton 0).overtaken (by norm_num [massAt])
  have hthree : Leads [0, 1, (1 : ℝ)] 1 := htwo.concat (by norm_num [massAt])
  rw [leads.unique hthree] at hargmax hlimit
  exact ⟨List.cons_ne_nil _ _, one_pos, hlarge, hargmax, (hlimit (1 / 3) hlarge).1⟩

end Limit
end StreamingLM
