import Mathlib.Algebra.Ring.MinimalAxioms
import Mathlib.Tactic.Ring
import StreamingLM.Proofs.Number.Real
import StreamingLM.Proofs.Rotary.Anchor
import StreamingLM.Proofs.Tensor.RowMajor

/-!
What rotations do to inner products. The inner product of two rotated vectors is that of the first with
the second, rotated by the difference of the turns: it depends on how far apart two positions are, and
not on where they are.
-/
namespace StreamingLM

/-- The laws of exact arithmetic. -/
class RingLaws (α : Type) [Scalar α] : Prop where
  add_assoc : ∀ a b c : α, a + b + c = a + (b + c)
  zero_add : ∀ a : α, Scalar.zero + a = a
  neg_add : ∀ a : α, -a + a = Scalar.zero
  sub_eq : ∀ a b : α, a - b = a + -b
  mul_assoc : ∀ a b c : α, a * b * c = a * (b * c)
  mul_comm : ∀ a b : α, a * b = b * a
  one_mul : ∀ a : α, Scalar.one * a = a
  mul_add : ∀ a b c : α, a * (b + c) = a * b + a * c

/-- Every turn keeps lengths. -/
class UnitLaws (α : Type) [Scalar α] : Prop where
  cos_sin : ∀ a : α, Scalar.cos a * Scalar.cos a + Scalar.sin a * Scalar.sin a = Scalar.one

/-- The ring that exact numbers make; it adds, subtracts and multiplies as they do. -/
abbrev RingLaws.commRing (α : Type) [Scalar α] [RingLaws α] : CommRing α :=
  letI : Zero α := ⟨Scalar.zero⟩
  letI : One α := ⟨Scalar.one⟩
  { CommRing.ofMinimalAxioms (R := α) add_assoc zero_add neg_add mul_assoc mul_comm one_mul mul_add
      with
    sub := fun a b => a - b
    sub_eq_add_neg := sub_eq }

instance : RingLaws ℝ where
  add_assoc := add_assoc
  zero_add a := by
    rw [Scalar.zero_real]
    exact zero_add a
  neg_add a := by
    rw [Scalar.zero_real]
    exact neg_add_cancel a
  sub_eq := sub_eq_add_neg
  mul_assoc := mul_assoc
  mul_comm := mul_comm
  one_mul a := by
    have hone : (Scalar.one : ℝ) = 1 := Int.cast_one
    rw [hone]
    exact one_mul a
  mul_add := mul_add

instance : UnitLaws ℝ where
  cos_sin a := by
    have hone : (Scalar.one : ℝ) = 1 := Int.cast_one
    have hunit := Real.cos_sq_add_sin_sq a
    rw [pow_two, pow_two] at hunit
    rw [hone]
    exact hunit

section Dot

variable {α : Type} [Scalar α] [RingLaws α]

theorem dotFrom_eq (acc : α) (xs ys : List α) : dotFrom acc xs ys = acc + dot xs ys := by
  let _ := RingLaws.commRing α
  have hzero : (Scalar.zero : α) = 0 := rfl
  induction xs generalizing acc ys with
  | nil =>
    rw [dotFrom, dot, dotFrom, hzero, add_zero]
    all_goals simp
  | cons x xs ih =>
    cases ys with
    | nil =>
      rw [dotFrom, dot, dotFrom, hzero, add_zero]
      all_goals simp
    | cons y ys =>
      rw [dot, dotFrom, dotFrom, ih, ih (Scalar.zero + x * y), hzero]
      ring

theorem dot_cons (x y : α) (xs ys : List α) : dot (x :: xs) (y :: ys) = x * y + dot xs ys := by
  rw [dot, dotFrom, dotFrom_eq, RingLaws.zero_add]

theorem dot_append {front front' : List α} (h : front.length = front'.length) (back back' : List α) :
    dot (front ++ back) (front' ++ back') = dot front front' + dot back back' := by
  induction front generalizing front' with
  | nil =>
    rw [List.eq_nil_of_length_eq_zero h.symm]
    exact (RingLaws.zero_add _).symm
  | cons x front ih =>
    cases front' with
    | nil => cases h
    | cons y front' =>
      rw [List.cons_append, List.cons_append, dot_cons, dot_cons, ih (Nat.succ.inj h),
        RingLaws.add_assoc]

end Dot

namespace Turn

variable {α : Type} [Scalar α]

/-- The turn from one angle to another. -/
def relative (t u : Turn α) : Turn α :=
  ⟨t.cos * u.cos + t.sin * u.sin, t.cos * u.sin - t.sin * u.cos⟩

def still : Turn α := ⟨Scalar.one, Scalar.zero⟩

section Halves

variable {turns : List (Turn α)} {xs ys : List α}

theorem length_firsts (hx : xs.length = turns.length) (hy : ys.length = turns.length) :
    (firsts turns xs ys).length = turns.length := by
  induction turns generalizing xs ys with
  | nil => rw [firsts]; all_goals simp
  | cons t turns ih =>
    cases xs with
    | nil => cases hx
    | cons x xs =>
      cases ys with
      | nil => cases hy
      | cons y ys => simp [firsts, ih (Nat.succ.inj hx) (Nat.succ.inj hy)]

theorem length_seconds (hx : xs.length = turns.length) (hy : ys.length = turns.length) :
    (seconds turns xs ys).length = turns.length := by
  induction turns generalizing xs ys with
  | nil => rw [seconds]; all_goals simp
  | cons t turns ih =>
    cases xs with
    | nil => cases hx
    | cons x xs =>
      cases ys with
      | nil => cases hy
      | cons y ys => simp [seconds, ih (Nat.succ.inj hx) (Nat.succ.inj hy)]

omit [Scalar α] in
theorem exists_halves {n : Nat} {v : List α} (h : 2 * n ≤ v.length) :
    ∃ xs ys rest, v = xs ++ ys ++ rest ∧ xs.length = n ∧ ys.length = n := by
  refine ⟨v.take n, (v.drop n).take n, (v.drop n).drop n, ?_, ?_, ?_⟩
  · rw [List.append_assoc, List.take_append_drop, List.take_append_drop]
  · rw [List.length_take]
    omega
  · rw [List.length_take, List.length_drop]
    omega

theorem rotate_append (hx : xs.length = turns.length) (hy : ys.length = turns.length)
    (rest : List α) :
    rotate turns (xs ++ ys ++ rest) = firsts turns xs ys ++ seconds turns xs ys ++ rest := by
  have htwo : 2 * turns.length = (xs ++ ys).length := by
    rw [List.length_append]
    omega
  have hfirst : (xs ++ ys ++ rest).take turns.length = xs := by
    rw [List.append_assoc, ← hx, List.take_left]
  have hsecond : ((xs ++ ys ++ rest).drop turns.length).take turns.length = ys := by
    rw [List.append_assoc, ← hx, List.drop_left, hx, ← hy, List.take_left]
  have hrest : (xs ++ ys ++ rest).drop (2 * turns.length) = rest := by rw [htwo, List.drop_left]
  simp only [rotate, hfirst, hsecond, hrest]

theorem rotate_keeps {v : List α} (h : 2 * turns.length ≤ v.length) :
    (rotate turns v).length = v.length ∧
      (rotate turns v).drop (2 * turns.length) = v.drop (2 * turns.length) := by
  obtain ⟨xs, ys, rest, rfl, hx, hy⟩ := exists_halves h
  have hfirsts := length_firsts hx hy
  have hseconds := length_seconds hx hy
  have hfront : 2 * turns.length = (xs ++ ys).length := by
    rw [List.length_append]
    omega
  have hback : 2 * turns.length = (firsts turns xs ys ++ seconds turns xs ys).length := by
    rw [List.length_append]
    omega
  rw [rotate_append hx hy]
  constructor
  · simp only [List.length_append]
    omega
  · rw [hfront, List.drop_left, ← hfront, hback, List.drop_left]

end Halves

section Products

variable [RingLaws α]

theorem pair_relative (t u : Turn α) (x y x' y' : α) :
    t.first x y * u.first x' y' + t.second x y * u.second x' y' =
      x * (t.relative u).first x' y' + y * (t.relative u).second x' y' := by
  let _ := RingLaws.commRing α
  simp only [first, second, relative]
  ring

theorem dot_halves {ts us : List (Turn α)} {xs ys xs' ys' : List α} {n : Nat} (ht : ts.length = n)
    (hu : us.length = n) (hx : xs.length = n) (hy : ys.length = n) (hx' : xs'.length = n)
    (hy' : ys'.length = n) :
    dot (firsts ts xs ys) (firsts us xs' ys') + dot (seconds ts xs ys) (seconds us xs' ys') =
      dot xs (firsts (List.zipWith relative ts us) xs' ys') +
        dot ys (seconds (List.zipWith relative ts us) xs' ys') := by
  let _ := RingLaws.commRing α
  induction n generalizing ts us xs ys xs' ys' with
  | zero =>
    rw [List.length_eq_zero_iff] at ht hu hx hy hx' hy'
    subst ht hu hx hy hx' hy'
    rfl
  | succ n ih =>
    obtain ⟨t, ts, rfl⟩ := List.exists_cons_of_length_eq_add_one ht
    obtain ⟨u, us, rfl⟩ := List.exists_cons_of_length_eq_add_one hu
    obtain ⟨x, xs, rfl⟩ := List.exists_cons_of_length_eq_add_one hx
    obtain ⟨y, ys, rfl⟩ := List.exists_cons_of_length_eq_add_one hy
    obtain ⟨x', xs', rfl⟩ := List.exists_cons_of_length_eq_add_one hx'
    obtain ⟨y', ys', rfl⟩ := List.exists_cons_of_length_eq_add_one hy'
    have hpair := pair_relative t u x y x' y'
    have hrest := ih (Nat.succ.inj ht) (Nat.succ.inj hu) (Nat.succ.inj hx) (Nat.succ.inj hy)
      (Nat.succ.inj hx') (Nat.succ.inj hy')
    simp only [firsts, seconds, List.zipWith_cons_cons, dot_cons]
    calc _ = t.first x y * u.first x' y' + t.second x y * u.second x' y' +
          (dot (firsts ts xs ys) (firsts us xs' ys') +
            dot (seconds ts xs ys) (seconds us xs' ys')) := by ring
      _ = _ := by
        rw [hpair, hrest]
        ring

/-- Two rotated vectors meet as the first does with the second, rotated by the differences of their
turns. -/
theorem dot_rotate {ts us : List (Turn α)} (h : ts.length = us.length) {q k : List α}
    (hq : 2 * ts.length ≤ q.length) (hk : 2 * us.length ≤ k.length) :
    dot (rotate ts q) (rotate us k) = dot q (rotate (List.zipWith relative ts us) k) := by
  obtain ⟨xs, ys, rest, rfl, hx, hy⟩ := exists_halves hq
  obtain ⟨xs', ys', rest', rfl, hx', hy'⟩ := exists_halves hk
  have hlength : (List.zipWith relative ts us).length = us.length := by
    rw [List.length_zipWith, h, Nat.min_self]
  have hfirst := length_firsts hx hy
  have hsecond := length_seconds hx hy
  have hfirst' := length_firsts hx' hy'
  have hsecond' := length_seconds hx' hy'
  have hrelFirst := length_firsts (hx'.trans hlength.symm) (hy'.trans hlength.symm)
  have hrelSecond := length_seconds (hx'.trans hlength.symm) (hy'.trans hlength.symm)
  have hhalves := dot_halves h rfl (hx.trans h) (hy.trans h) hx' hy'
  rw [rotate_append hx hy, rotate_append hx' hy',
    rotate_append (hx'.trans hlength.symm) (hy'.trans hlength.symm)]
  rw [dot_append (by simp only [List.length_append]; omega), dot_append (by omega),
    dot_append (by simp only [List.length_append]; omega), dot_append (by omega), hhalves]

theorem relative_add (t u d : Turn α) (unit : d.cos * d.cos + d.sin * d.sin = Scalar.one) :
    (t.add d).relative (u.add d) = t.relative u := by
  let _ := RingLaws.commRing α
  have hunit : d.cos * d.cos + d.sin * d.sin = 1 := unit
  have hcos : (t.cos * d.cos - t.sin * d.sin) * (u.cos * d.cos - u.sin * d.sin) +
      (t.sin * d.cos + t.cos * d.sin) * (u.sin * d.cos + u.cos * d.sin) =
        (t.cos * u.cos + t.sin * u.sin) * (d.cos * d.cos + d.sin * d.sin) := by ring
  have hsin : (t.cos * d.cos - t.sin * d.sin) * (u.sin * d.cos + u.cos * d.sin) -
      (t.sin * d.cos + t.cos * d.sin) * (u.cos * d.cos - u.sin * d.sin) =
        (t.cos * u.sin - t.sin * u.cos) * (d.cos * d.cos + d.sin * d.sin) := by ring
  rw [hunit, mul_one] at hcos hsin
  simp only [relative, add, hcos, hsin]

theorem relative_self (t : Turn α) (unit : t.cos * t.cos + t.sin * t.sin = Scalar.one) :
    t.relative t = still := by
  let _ := RingLaws.commRing α
  have hsin : t.cos * t.sin - t.sin * t.cos = 0 := by ring
  rw [relative, unit, hsin]
  rfl

theorem first_still (x y : α) : (still : Turn α).first x y = x := by
  let _ := RingLaws.commRing α
  have hfirst : x * 1 - y * 0 = x := by ring
  exact hfirst

theorem second_still (x y : α) : (still : Turn α).second x y = y := by
  let _ := RingLaws.commRing α
  have hsecond : x * 0 + y * 1 = y := by ring
  exact hsecond

theorem halves_still {ts : List (Turn α)} (h : ∀ t ∈ ts, t = still) {xs ys : List α}
    (hx : xs.length = ts.length) (hy : ys.length = ts.length) :
    firsts ts xs ys = xs ∧ seconds ts xs ys = ys := by
  induction ts generalizing xs ys with
  | nil =>
    rw [List.eq_nil_of_length_eq_zero hx, List.eq_nil_of_length_eq_zero hy]
    exact ⟨rfl, rfl⟩
  | cons t ts ih =>
    obtain ⟨ht, hts⟩ := List.forall_mem_cons.mp h
    obtain ⟨x, xs, rfl⟩ := List.exists_cons_of_length_eq_add_one hx
    obtain ⟨y, ys, rfl⟩ := List.exists_cons_of_length_eq_add_one hy
    obtain ⟨hfirsts, hseconds⟩ := ih hts (Nat.succ.inj hx) (Nat.succ.inj hy)
    rw [firsts, seconds, hfirsts, hseconds, ht, first_still, second_still]
    exact ⟨rfl, rfl⟩

theorem rotate_still {ts : List (Turn α)} (h : ∀ t ∈ ts, t = still) {v : List α}
    (hv : 2 * ts.length ≤ v.length) : rotate ts v = v := by
  obtain ⟨xs, ys, rest, rfl, hx, hy⟩ := exists_halves hv
  obtain ⟨hfirsts, hseconds⟩ := halves_still h hx hy
  rw [rotate_append hx hy, hfirsts, hseconds]

end Products

section Positions

variable (frequencies : List α)

theorem length_atPosition (position : Int) :
    (atPosition frequencies position).length = frequencies.length :=
  List.length_map _

variable [RingLaws α] [UnitLaws α]

/-- How two positions are turned against each other depends on their distance alone. -/
theorem relative_atPosition_add [TurnLaws α] (m n c : Int) :
    List.zipWith relative (atPosition frequencies (m + c)) (atPosition frequencies (n + c)) =
      List.zipWith relative (atPosition frequencies m) (atPosition frequencies n) := by
  have hturn (f : α) :
      (ofAngle (Scalar.ofInt (m + c) * f)).relative (ofAngle (Scalar.ofInt (n + c) * f)) =
        (ofAngle (Scalar.ofInt m * f)).relative (ofAngle (Scalar.ofInt n * f)) := by
    rw [TurnLaws.angle_add, TurnLaws.angle_add, ← ofAngle_add, ← ofAngle_add]
    exact relative_add _ _ _ (UnitLaws.cos_sin _)
  simp only [atPosition, List.zipWith_map, List.zipWith_self, hturn]

/-- Rotated scores depend on relative positions. -/
theorem dot_rotate_add [TurnLaws α] {q k : List α} (hq : 2 * frequencies.length ≤ q.length)
    (hk : 2 * frequencies.length ≤ k.length) (m n c : Int) :
    dot (rotate (atPosition frequencies (m + c)) q) (rotate (atPosition frequencies (n + c)) k) =
      dot (rotate (atPosition frequencies m) q) (rotate (atPosition frequencies n) k) := by
  have hlength := length_atPosition frequencies
  rw [dot_rotate (by simp only [hlength]) (by simpa only [hlength]) (by simpa only [hlength]),
    relative_atPosition_add,
    ← dot_rotate (by simp only [hlength]) (by simpa only [hlength]) (by simpa only [hlength])]

theorem dot_rotate_self {v : List α} (h : 2 * frequencies.length ≤ v.length) (position : Int) :
    dot (rotate (atPosition frequencies position) v) (rotate (atPosition frequencies position) v) =
      dot v v := by
  have hlength := length_atPosition frequencies position
  have hv : 2 * (atPosition frequencies position).length ≤ v.length := by rwa [hlength]
  have hstill : ∀ t ∈ List.zipWith relative (atPosition frequencies position)
      (atPosition frequencies position), t = still := by
    intro t ht
    rw [atPosition, List.zipWith_map, List.zipWith_self] at ht
    obtain ⟨f, -, rfl⟩ := List.mem_map.mp ht
    exact relative_self _ (UnitLaws.cos_sin _)
  rw [dot_rotate rfl hv hv, rotate_still hstill]
  rwa [List.length_zipWith, Nat.min_self]

end Positions
end Turn

namespace RotaryTable

variable {α : Type} [Scalar α]

/-- There is one frequency for each pair of dimensions that the table turns. -/
def Paired (t : RotaryTable α) : Prop := t.dim = 2 * t.frequencies.length

theorem length_frequencies (config : RotaryConfig) (dim : Nat) :
    (config.frequencies dim : List α).length = dim / 2 := by
  unfold RotaryConfig.frequencies
  split <;> simp [baseFrequencies]

theorem build_paired {dim capacity : Int} {config : RotaryConfig} {t : RotaryTable α}
    (ok : build dim capacity config = .ok t) : t.Paired := by
  unfold build at ok
  split at ok
  · cases ok
  case isFalse heven =>
    rw [Int.fmod_eq_emod_of_nonneg dim (by decide)] at heven
    split at ok
    · cases ok
    · split at ok
      · cases ok
      · cases ok
        simp only [Paired, length_frequencies]
        omega

section Rows

variable {t : RotaryTable α} {x : Tensor α} {axes : List Nat} {count width : Nat}

/-- The row of a tensor that is rotated for the positions from `offset` on. -/
def rotatedRow (t : RotaryTable α) (x : Tensor α) (count : Nat) (offset : Int) (r : Nat) : List α :=
  Turn.rotate (Turn.atPosition t.frequencies (offset + (r % count : Nat))) (x.row r)

theorem rotateFrom_eq (hshape : x.shape = axes ++ [count, width]) (hrank : 2 ≤ axes.length)
    (hdim : t.dim ≤ width) (offset : Int) :
    t.rotateFrom x offset =
      .ok ⟨x.shape, ((List.range x.height).map (t.rotatedRow x count offset)).flatten.toArray⟩ := by
  have hwidth : x.width = width := by simp [Tensor.width, hshape]
  have hheight : x.height = Tensor.size axes * count := by
    simp [Tensor.height, hshape, List.dropLast_append_of_ne_nil, Tensor.size]
  have hpositions : positionsOf x = .ok count := by simp [positionsOf, hshape]
  have hlast : ¬x.width < t.dim := by omega
  have hfour : ¬x.rank < 4 := by
    simp only [Tensor.rank, hshape, List.length_append, List.length_cons, List.length_nil]
    omega
  have hrows : (x.rows.zipIdx.map fun entry =>
      Turn.rotate (((t.direct offset count)[entry.2 % count]?).getD []) entry.1) =
        (List.range x.height).map (t.rotatedRow x count offset) := by
    refine List.ext_getElem (by simp [Tensor.rows]) fun i _ hi => ?_
    have hi : i < Tensor.size axes * count := by simpa [hheight] using hi
    have hpos : 0 < count := Nat.pos_of_mul_pos_left (Nat.zero_lt_of_lt hi)
    simp [Tensor.rows, Tensor.row, rotatedRow, direct, Nat.mod_lt i hpos]
  simp only [rotateFrom, hpositions, bind, Except.bind, rotateTensor, if_neg hlast, if_neg hfour,
    length_direct]
  exact congrArg (fun rows => Except.ok (Tensor.mk x.shape rows.flatten.toArray)) hrows

theorem length_rotatedRow (paired : t.Paired) (full : x.Full) (hdim : t.dim ≤ x.width)
    (count : Nat) (offset : Int) {r : Nat} (hr : r < x.height) :
    (t.rotatedRow x count offset r).length = x.width ∧
      (t.rotatedRow x count offset r).drop t.dim = (x.row r).drop t.dim := by
  have hrow := full.length_row hr
  have hturns := Turn.length_atPosition t.frequencies (offset + (r % count : Nat))
  have hroom : 2 * (Turn.atPosition t.frequencies (offset + (r % count : Nat))).length ≤
      (x.row r).length := by
    rw [hturns, hrow, ← paired]
    exact hdim
  have hkeeps := Turn.rotate_keeps hroom
  rw [hturns, ← paired] at hkeeps
  exact ⟨hkeeps.1.trans hrow, hkeeps.2⟩

theorem rotateFrom_rows (paired : t.Paired) (full : x.Full) (hshape : x.shape = axes ++ [count, width])
    (hrank : 2 ≤ axes.length) (hdim : t.dim ≤ width) (offset : Int) :
    ∃ y, t.rotateFrom x offset = .ok y ∧ y.shape = x.shape ∧
      ∀ r < x.height, y.row r = t.rotatedRow x count offset r := by
  have hwidth : x.width = width := by simp [Tensor.width, hshape]
  refine ⟨_, rotateFrom_eq hshape hrank hdim offset, rfl, fun r hr => ?_⟩
  have huniform : ∀ row ∈ (List.range x.height).map (t.rotatedRow x count offset),
      row.length = x.width := by
    intro row hrow
    obtain ⟨i, hi, rfl⟩ := List.mem_map.mp hrow
    exact (length_rotatedRow paired full (hwidth.symm ▸ hdim) count offset (List.mem_range.mp hi)).1
  have hchunk := Tensor.chunk_flatten huniform (i := r) (by simpa using hr)
  rw [List.getElem_map, List.getElem_range] at hchunk
  exact hchunk

end Rows

/-- Rotated scores depend only on relative positions. However far both sequences are shifted, every
query row meets every key row as before; rotation keeps the squared length of each row, and leaves what
lies behind the turned dimensions as it is. -/
theorem scores_relative [RingLaws α] [TurnLaws α] [UnitLaws α] {t : RotaryTable α}
    (paired : t.Paired) {q k : Tensor α} (fullQ : q.Full) (fullK : k.Full)
    {axes others : List Nat} {queries keys width : Nat} (hq : q.shape = axes ++ [queries, width])
    (hk : k.shape = others ++ [keys, width]) (hrankQ : 2 ≤ axes.length) (hrankK : 2 ≤ others.length)
    (hdim : t.dim ≤ width) (m n c : Int) :
    ∃ q₀ k₀ q₁ k₁, t.rotateFrom q m = .ok q₀ ∧ t.rotateFrom k n = .ok k₀ ∧
      t.rotateFrom q (m + c) = .ok q₁ ∧ t.rotateFrom k (n + c) = .ok k₁ ∧
      (q₀.shape = q.shape ∧ k₀.shape = k.shape ∧ q₁.shape = q.shape ∧ k₁.shape = k.shape) ∧
      (∀ i < q.height, ∀ j < k.height, dot (q₁.row i) (k₁.row j) = dot (q₀.row i) (k₀.row j)) ∧
      ∀ i < q.height, dot (q₀.row i) (q₀.row i) = dot (q.row i) (q.row i) ∧
        (q₀.row i).drop t.dim = (q.row i).drop t.dim ∧ (q₀.row i).length = (q.row i).length := by
  obtain ⟨q₀, hq₀, hshape₀, hrows₀⟩ := rotateFrom_rows paired fullQ hq hrankQ hdim m
  obtain ⟨k₀, hk₀, kshape₀, krows₀⟩ := rotateFrom_rows paired fullK hk hrankK hdim n
  obtain ⟨q₁, hq₁, hshape₁, hrows₁⟩ := rotateFrom_rows paired fullQ hq hrankQ hdim (m + c)
  obtain ⟨k₁, hk₁, kshape₁, krows₁⟩ := rotateFrom_rows paired fullK hk hrankK hdim (n + c)
  have hwidthQ : q.width = width := by simp [Tensor.width, hq]
  have hwidthK : k.width = width := by simp [Tensor.width, hk]
  have hroomQ : ∀ i < q.height, 2 * t.frequencies.length ≤ (q.row i).length := fun i hi => by
    rw [fullQ.length_row hi, hwidthQ, ← paired]
    exact hdim
  have hroomK : ∀ j < k.height, 2 * t.frequencies.length ≤ (k.row j).length := fun j hj => by
    rw [fullK.length_row hj, hwidthK, ← paired]
    exact hdim
  refine ⟨q₀, k₀, q₁, k₁, hq₀, hk₀, hq₁, hk₁, ⟨hshape₀, kshape₀, hshape₁, kshape₁⟩,
    fun i hi j hj => ?_, fun i hi => ?_⟩
  · have hshiftQ : m + c + (i % queries : Nat) = m + (i % queries : Nat) + c := by omega
    have hshiftK : n + c + (j % keys : Nat) = n + (j % keys : Nat) + c := by omega
    rw [hrows₁ i hi, krows₁ j hj, hrows₀ i hi, krows₀ j hj]
    simp only [rotatedRow, hshiftQ, hshiftK]
    exact Turn.dot_rotate_add t.frequencies (hroomQ i hi) (hroomK j hj) _ _ c
  · obtain ⟨hlength, htail⟩ := length_rotatedRow paired fullQ (hwidthQ.symm ▸ hdim) queries m hi
    rw [hrows₀ i hi]
    exact ⟨Turn.dot_rotate_self t.frequencies (hroomQ i hi) _, htail,
      hlength.trans (fullQ.length_row hi).symm⟩

/-- One pair of dimensions, and a third one that is not turned. -/
theorem threeWide_relative : ∃ t : RotaryTable ℝ, build 2 4 {} = .ok t ∧
    ∃ q₀ k₀ q₁ k₁, t.rotateFrom ⟨[1, 1, 1, 3], #[1, 2, 3]⟩ 5 = .ok q₀ ∧
      t.rotateFrom ⟨[1, 1, 1, 3], #[4, 5, 6]⟩ 2 = .ok k₀ ∧
      t.rotateFrom ⟨[1, 1, 1, 3], #[1, 2, 3]⟩ 12 = .ok q₁ ∧
      t.rotateFrom ⟨[1, 1, 1, 3], #[4, 5, 6]⟩ 9 = .ok k₁ ∧
      dot (q₁.row 0) (k₁.row 0) = dot (q₀.row 0) (k₀.row 0) ∧
      dot (q₀.row 0) (q₀.row 0) = dot [1, 2, 3] [1, 2, 3] ∧ (q₀.row 0).drop 2 = [3] := by
  obtain ⟨t, hbuild, hdim⟩ : ∃ t : RotaryTable ℝ, build 2 4 {} = .ok t ∧ t.dim = 2 := ⟨_, rfl, rfl⟩
  have hroom : t.dim ≤ 3 := by omega
  have hshape : [1, 1, 1, 3] = [1, 1] ++ [1, 3] := rfl
  obtain ⟨q₀, k₀, q₁, k₁, hq₀, hk₀, hq₁, hk₁, -, hscores, hrows⟩ :=
    scores_relative (build_paired hbuild) (q := ⟨[1, 1, 1, 3], #[1, 2, 3]⟩)
      (k := ⟨[1, 1, 1, 3], #[4, 5, 6]⟩) rfl rfl hshape hshape (by decide) (by decide) hroom 5 2 7
  obtain ⟨hnorm, htail, -⟩ := hrows 0 (by decide)
  rw [hdim] at htail
  exact ⟨t, hbuild, q₀, k₀, q₁, k₁, hq₀, hk₀, hq₁, hk₁, hscores 0 (by decide) 0 (by decide), hnorm,
    htail⟩

end RotaryTable
end StreamingLM
