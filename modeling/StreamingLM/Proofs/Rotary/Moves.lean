import StreamingLM.Proofs.Number.Real
import StreamingLM.Proofs.Outcome

/-!
A tracker and its table in use. However steps, refused steps and resets follow one another, the
cursor stays inside the table; and however often the table is moved, also past the tracker, over
exact numbers it holds the rotations of its positions. So the tracker rotates as if there were no
table, as long as the table stands where the tracker put it.
-/
namespace StreamingLM
namespace RotaryTracker

variable {α : Type} [Scalar α]

inductive Use where
  | prepare (count : Int)
  | reset
  deriving DecidableEq, Repr

/-- A step that is refused leaves the tracker as it was. -/
def use (t : RotaryTracker α) : Use → RotaryTracker α
  | .prepare count =>
    match t.prepare count with
    | .ok ready => ready
    | .error _ => t
  | .reset => t.reset

def uses (t : RotaryTracker α) (us : List Use) : RotaryTracker α := us.foldl use t

/-- A use adds a step that fits the table to the steps so far; a reset forgets them. -/
def stepsBehind (capacity : Int) (steps : List Int) : Use → List Int
  | .prepare count => if 0 < count ∧ count ≤ capacity then steps ++ [count] else steps
  | .reset => []

def Use.steps (capacity : Int) (us : List Use) : List Int := us.foldl (stepsBehind capacity) []

theorem prepare_eq_error_iff (t : RotaryTracker α) (count : Int) :
    (∃ f, t.prepare count = .error f) ↔ count ≤ 0 ∨ (t.capacity : Int) < count := by
  unfold prepare
  by_cases hpos : count ≤ 0
  · simp [hpos]
  · by_cases hcount : (t.capacity : Int) < count
    · simp [hpos, hcount]
    · simp only [hpos, hcount, if_false]
      split <;> simp

theorem build_placed {dim capacity : Int} {config : RotaryConfig} {table : RotaryTable α}
    (ok : RotaryTable.build dim capacity config = .ok table) :
    (RotaryTracker.mk table 0 0 0).Placed capacity.toNat 0 0 where
  capacity_eq := (build_anchored ok).capacity_eq
  next_eq := rfl
  step_eq := rfl
  offset_le := Int.le_refl 0
  within := by simp

/-- The tracker is used, or its table is moved past it. -/
inductive Move where
  | use (u : Use)
  | shift (start : Int)
  deriving DecidableEq, Repr

def move (t : RotaryTracker α) : Move → RotaryTracker α
  | .use u => t.use u
  | .shift start => { t with table := t.table.shift start }

def moves (t : RotaryTracker α) (ms : List Move) : RotaryTracker α := ms.foldl move t

theorem moves_use (t : RotaryTracker α) (us : List Use) :
    t.moves (us.map .use) = t.uses us := by
  rw [moves, uses, List.foldl_map]
  rfl

namespace Move

def use? : Move → Option Use
  | use u => some u
  | shift _ => none

end Move

/-- Whether the table has gone astray behind a move: it does when it is moved past the tracker, until
the tracker puts it in its place again, by a reset or by a step that does not fit. -/
def strays (t : RotaryTracker α) (gone : Bool) : Move → Bool
  | .shift _ => true
  | .use .reset => false
  | .use (.prepare count) => gone && (t.use (.prepare count)).offset == t.offset

theorem use_ok {t ready : RotaryTracker α} {count : Int} (ok : t.prepare count = .ok ready) :
    t.use (.prepare count) = ready := by
  rw [use, ok]

theorem strays_eq_false_iff {t ready : RotaryTracker α} {count : Int}
    (ok : t.prepare count = .ok ready) (gone : Bool) :
    t.strays gone (.use (.prepare count)) = false ↔ gone = false ∨ ready.offset ≠ t.offset := by
  rw [strays, use_ok ok, Bool.and_eq_false_iff, beq_eq_false_iff_ne]

def astray (t : RotaryTracker α) (gone : Bool) : List Move → Bool
  | [] => gone
  | m :: ms => astray (t.move m) (t.strays gone m) ms

theorem astray_concat (t : RotaryTracker α) (gone : Bool) (ms : List Move) (m : Move) :
    t.astray gone (ms ++ [m]) = (t.moves ms).strays (t.astray gone ms) m := by
  induction ms generalizing t gone with
  | nil => rfl
  | cons n ms ih => exact ih _ _

theorem astray_use (t : RotaryTracker α) (us : List Use) : t.astray false (us.map .use) = false := by
  induction us generalizing t with
  | nil => rfl
  | cons u us ih => cases u <;> exact ih _

/-- A tracker behind some steps: its cursor is behind all of them, and its table stands where it was
put unless it has been moved since. -/
structure Behind (t : RotaryTracker α) (capacity : Nat) (steps : List Int) (astray : Bool) :
    Prop where
  placed : ∃ position count : Nat, steps.sum = position + count ∧ t.Placed capacity position count
  start_eq : astray = false → t.table.start = t.offset

theorem start_prepare {t ready : RotaryTracker α} {count : Int} (ok : t.prepare count = .ok ready) :
    ready.table.start = ready.offset ∨
      ready.table.start = t.table.start ∧ ready.offset = t.offset := by
  obtain ⟨-, -, ⟨-, rfl⟩ | ⟨-, rfl⟩⟩ := prepare_cases ok
  · exact .inr ⟨rfl, rfl⟩
  · exact .inl (RotaryTable.start_shift _ _)

namespace Behind

variable {t ready : RotaryTracker α} {capacity : Nat} {steps : List Int} {astray : Bool}

theorem prepare (h : t.Behind capacity steps astray) {count : Int}
    (ok : t.prepare count = .ok ready) :
    ∃ position : Nat, steps.sum = position ∧ 0 < count ∧ count ≤ capacity ∧
      ready.Placed capacity position count.toNat ∧
      (astray = false ∨ ready.offset ≠ t.offset → ready.table.start = ready.offset) := by
  obtain ⟨position, last, hsum, hplaced⟩ := h.placed
  obtain ⟨hpos, hcount, -⟩ := prepare_cases ok
  rw [hplaced.capacity_eq] at hcount
  refine ⟨position + last, by omega, hpos, hcount, hplaced.prepare ok, fun hput => ?_⟩
  obtain hstart | ⟨hstart, hoffset⟩ := start_prepare ok
  · exact hstart
  · obtain hown | hmoved := hput
    · rw [hstart, hoffset, h.start_eq hown]
    · exact absurd hoffset hmoved

theorem use (h : t.Behind capacity steps astray) (u : Use) :
    (t.use u).Behind capacity (stepsBehind capacity steps u) (t.strays astray (.use u)) := by
  obtain ⟨position, last, hsum, hplaced⟩ := h.placed
  cases u with
  | reset =>
    refine ⟨⟨0, 0, rfl, hplaced.reset⟩, fun _ => ?_⟩
    simp [RotaryTracker.use, RotaryTracker.reset, RotaryTable.reset]
  | prepare count =>
    have hrefused := t.prepare_eq_error_iff count
    rw [hplaced.capacity_eq] at hrefused
    cases hprepare : t.prepare count with
    | error f =>
      have hout : ¬ (0 < count ∧ count ≤ capacity) := by
        have := hrefused.mp ⟨f, hprepare⟩
        omega
      rw [stepsBehind, if_neg hout, strays, RotaryTracker.use, hprepare]
      simpa using h
    | ok ready =>
      obtain ⟨position, hposition, hpos, hcount, hready, hstart⟩ := h.prepare hprepare
      rw [stepsBehind, if_pos ⟨hpos, hcount⟩, use_ok hprepare]
      refine ⟨⟨position, count.toNat, ?_, hready⟩,
        fun hown => hstart ((strays_eq_false_iff hprepare astray).mp hown)⟩
      rw [List.sum_append, List.sum_singleton, hposition]
      omega

theorem shift (h : t.Behind capacity steps astray) (start : Int) :
    (t.move (.shift start)).Behind capacity steps true := by
  obtain ⟨position, last, hsum, hplaced⟩ := h.placed
  refine ⟨⟨position, last, hsum, ⟨?_, ?_, ?_, ?_, ?_⟩⟩, by simp⟩
  · simpa [RotaryTracker.move, RotaryTracker.capacity] using hplaced.capacity_eq
  exacts [hplaced.next_eq, hplaced.step_eq, hplaced.offset_le, hplaced.within]

theorem moves (h : t.Behind capacity steps astray) (ms : List Move) :
    (t.moves ms).Behind capacity ((ms.filterMap Move.use?).foldl (stepsBehind capacity) steps)
      (t.astray astray ms) := by
  induction ms generalizing t steps astray with
  | nil => exact h
  | cons m ms ih =>
    cases m with
    | use u => exact ih (h.use u)
    | shift start => exact ih (h.shift start)

end Behind

theorem build_behind {dim capacity : Int} {config : RotaryConfig} {table : RotaryTable α}
    (ok : RotaryTable.build dim capacity config = .ok table) :
    (RotaryTracker.mk table 0 0 0).Behind capacity.toNat [] false where
  placed := ⟨0, 0, rfl, build_placed ok⟩
  start_eq _ := (build_anchored ok).start_eq

theorem build_rows {dim capacity : Int} {config : RotaryConfig} {table : RotaryTable α}
    (ok : RotaryTable.build dim capacity config = .ok table) : (capacity.toNat : Int) = capacity := by
  have hpos : ¬ capacity ≤ 0 := by
    intro hnone
    simp only [RotaryTable.build, if_pos hnone] at ok
    split at ok <;> cases ok
  omega

theorem move_exact [TurnLaws α] {t : RotaryTracker α} (h : t.table.Exact) (m : Move) :
    (t.move m).table.Exact ∧ (t.move m).table.frequencies = t.table.frequencies := by
  cases m with
  | shift start => exact ⟨h.shift start, RotaryTable.frequencies_shift _ _⟩
  | use u =>
    cases u with
    | reset => exact ⟨h.shift 0, RotaryTable.frequencies_shift _ _⟩
    | prepare count =>
      rw [move, use]
      cases hprepare : t.prepare count with
      | error f => exact ⟨h, rfl⟩
      | ok ready => exact ⟨prepare_exact hprepare h, prepare_frequencies hprepare⟩

theorem moves_exact [TurnLaws α] {t : RotaryTracker α} (h : t.table.Exact) (ms : List Move) :
    (t.moves ms).table.Exact ∧ (t.moves ms).table.frequencies = t.table.frequencies := by
  induction ms generalizing t with
  | nil => exact ⟨h, rfl⟩
  | cons m ms ih =>
    obtain ⟨hexact, hsame⟩ := move_exact h m
    obtain ⟨hrest, hall⟩ := ih hexact
    exact ⟨hrest, hall.trans hsame⟩

/-- A tracker is always at a row of its table. It refuses a step exactly when the step is empty or
longer than the table, and is then left as it was; a step that it takes begins behind those taken
since the last reset, and lies wholly inside the table, which stands where the tracker says. -/
theorem uses_stay {dim capacity : Int} {config : RotaryConfig} {table : RotaryTable α}
    (built : RotaryTable.build dim capacity config = .ok table) (us : List Use) :
    let t := ({ table } : RotaryTracker α).uses us
    (∃ index, t.index = .ok index) ∧
    (∀ count, (∃ f, t.prepare count = .error f) ↔ count ≤ 0 ∨ capacity < count) ∧
    (∀ count, count ≤ 0 ∨ capacity < count → t.use (.prepare count) = t) ∧
    ∀ count ready, t.prepare count = .ok ready →
      ready.position = (Use.steps capacity us).sum ∧ ready.step = count ∧
      ready.capacity = capacity ∧ ready.table.start = ready.offset ∧
      ∃ index, ready.index = .ok index ∧ 0 ≤ index ∧ index + ready.step ≤ capacity ∧
        ready.position = ready.offset + index ∧ ready.turns.length = count ∧
        ∀ x : Tensor α, RotaryTable.positionsOf x = .ok count.toNat →
          ready.apply x = ready.table.rotateTensor ready.turns x := by
  intro t
  have hrows := build_rows built
  have hbehind : t.Behind capacity.toNat (Use.steps capacity us) false := by
    have hmoved := (build_behind built).moves (us.map .use)
    have huses : (us.map Move.use).filterMap Move.use? = us := by
      rw [List.filterMap_map]
      exact List.filterMap_some
    rwa [moves_use, huses, hrows, ← Use.steps, astray_use] at hmoved
  obtain ⟨position, last, -, hplaced⟩ := hbehind.placed
  have hrefused := fun count => t.prepare_eq_error_iff count
  simp only [hplaced.capacity_eq, hrows] at hrefused
  refine ⟨⟨_, hplaced.index_eq⟩, hrefused, fun count hout => ?_, fun count ready ok => ?_⟩
  · obtain ⟨f, hf⟩ := (hrefused count).mpr hout
    rw [use, hf]
  · obtain ⟨position, hsum, hpos, hcount, hready, hstart⟩ := hbehind.prepare ok
    have hwithin := hready.within
    have hoffset := hready.offset_le
    have hstep := hready.step_eq
    have hlength := hready.rowsAt_eq.2
    have hcapacity := hready.capacity_eq
    have hposition := hready.position_eq
    exact ⟨by omega, by omega, by omega, hstart (.inl rfl), _, hready.index_eq, by omega, by omega,
      by omega, by omega, fun x hx => hready.apply_eq hx⟩

/-- Four rows: a step of four fits none but the first place, a step of five none at all. -/
theorem fourRows_stay : ∃ table : RotaryTable ℝ, RotaryTable.build 2 4 {} = .ok table ∧
    ∃ ready, (({ table } : RotaryTracker ℝ).uses
        [.prepare 2, .reset, .prepare 3, .prepare 5, .prepare 1, .prepare 0]).prepare 4 = .ok ready ∧
      ready.position = 4 ∧ ready.table.start = ready.offset ∧ ready.turns.length = 4 := by
  obtain ⟨table, built⟩ : ∃ table : RotaryTable ℝ, RotaryTable.build 2 4 {} = .ok table := ⟨_, rfl⟩
  obtain ⟨-, hrefused, -, htaken⟩ := uses_stay built
    [.prepare 2, .reset, .prepare 3, .prepare 5, .prepare 1, .prepare 0]
  cases hready : (({ table } : RotaryTracker ℝ).uses
      [.prepare 2, .reset, .prepare 3, .prepare 5, .prepare 1, .prepare 0]).prepare 4 with
  | error f => exact absurd ((hrefused 4).mp ⟨f, hready⟩) (by decide)
  | ok ready =>
    obtain ⟨hposition, -, -, hstart, _, -, -, -, -, hlength, -⟩ := htaken 4 ready hready
    exact ⟨table, built, ready, hready, hposition.trans rfl, hstart, by exact_mod_cast hlength⟩

/-- Over exact numbers, every row of the table always holds the rotations of its position, whatever
the steps, resets and moves of the table. A step that the tracker takes is rotated, without a failure
of its own, for the rows where the table stands: those of its true position, unless the table has gone
astray. -/
theorem moves_rotate [TurnLaws α] {dim capacity : Int} {config : RotaryConfig}
    {table : RotaryTable α} (built : RotaryTable.build dim capacity config = .ok table)
    (ms : List Move) :
    let t := ({ table } : RotaryTracker α).moves ms
    t.table.rows = (List.range capacity.toNat).map (fun (r : Nat) =>
      table.frequencies.map fun f =>
        let angle := Scalar.ofInt (t.table.start + r) * f
        ⟨Scalar.cos angle, Scalar.sin angle⟩) ∧
    ∀ count ready, t.prepare count = .ok ready → ∀ x : Tensor α,
      RotaryTable.positionsOf x = .ok count.toNat →
        ready.apply x = ready.table.rotateFrom x
          (ready.position + (ready.table.start - ready.offset)) ∧
        (astray { table } false (ms ++ [.use (.prepare count)]) = false →
          ready.table.start = ready.offset ∧
            ready.apply x = ready.table.rotateFrom x ready.position) := by
  intro t
  obtain ⟨hexact, hfrequencies⟩ := moves_exact (t := { table }) (RotaryTable.build_exact built) ms
  have hbehind := (build_behind built).moves ms
  refine ⟨?_, fun count ready ok x hx => ?_⟩
  · obtain ⟨position, last, -, hplaced⟩ := hbehind.placed
    have hcapacity : t.table.capacity = capacity.toNat := hplaced.capacity_eq
    rw [hexact, RotaryTable.direct, hcapacity]
    simp only [Turn.atPosition, hfrequencies]
    rfl
  · obtain ⟨position, -, -, -, hready, hstart⟩ := hbehind.prepare ok
    have hposition := hready.position_eq
    have happly : ready.apply x = ready.table.rotateFrom x
        (ready.position + (ready.table.start - ready.offset)) := by
      rw [hready.apply_eq hx, hready.turns_eq (prepare_exact ok hexact), hposition]
      simp only [RotaryTable.rotateFrom, hx, bind, Except.bind]
    refine ⟨happly, fun hput => ?_⟩
    have hplace : ready.table.start = ready.offset := by
      rw [astray_concat] at hput
      exact hstart ((strays_eq_false_iff ok _).mp hput)
    rw [happly, hplace, Int.sub_self, Int.add_zero]
    exact ⟨rfl, rfl⟩

/-- A table that is moved forth and back past its tracker, put in its place by a step that does not
fit, and moved once more by the next one. -/
theorem wandering_rotates : ∃ table : RotaryTable ℝ, RotaryTable.build 2 2 {} = .ok table ∧
    ∃ ready, (({ table } : RotaryTracker ℝ).moves
        [.shift 9, .shift (-4), .use (.prepare 2), .use (.prepare 1)]).prepare 2 = .ok ready ∧
      ready.apply ⟨[1, 1, 2, 2], #[1, 2, 3, 4]⟩ =
        ready.table.rotateFrom ⟨[1, 1, 2, 2], #[1, 2, 3, 4]⟩ ready.position := by
  refine ⟨_, rfl, _, rfl, ?_⟩
  obtain ⟨-, hrotates⟩ := moves_rotate (rfl : RotaryTable.build (α := ℝ) 2 2 {} = .ok _)
    [.shift 9, .shift (-4), .use (.prepare 2), .use (.prepare 1)]
  exact ((hrotates 2 _ rfl _ rfl).2 rfl).2

theorem rotateFrom_pair {t : RotaryTable ℝ} (dim : t.dim = 2) {f : ℝ}
    (frequencies : t.frequencies = [f]) (position : Int) :
    t.rotateFrom ⟨[1, 1, 1, 2], #[1, 0]⟩ position =
      .ok ⟨[1, 1, 1, 2], #[Real.cos (position * f), Real.sin (position * f)]⟩ := by
  have hdirect : t.direct position 1 =
      [[⟨Real.cos (position * f), Real.sin (position * f)⟩]] := by
    have hposition : position + ((0 : Nat) : Int) = position := Int.add_zero position
    rw [RotaryTable.direct, frequencies, List.range_one, List.map_singleton, hposition]
    rfl
  have hrotate : Turn.rotate [⟨Real.cos (position * f), Real.sin (position * f)⟩] [1, 0] =
      [Real.cos (position * f), Real.sin (position * f)] := by
    change [1 * Real.cos (position * f) - 0 * Real.sin (position * f),
      1 * Real.sin (position * f) + 0 * Real.cos (position * f)] = _
    simp
  have hrotated : t.rotateFrom ⟨[1, 1, 1, 2], #[1, 0]⟩ position =
      t.rotateTensor (t.direct position 1) ⟨[1, 1, 1, 2], #[1, 0]⟩ := rfl
  rw [hrotated, hdirect, RotaryTable.rotateTensor, if_neg (by rw [dim]; decide), if_neg (by decide)]
  change (Except.ok (Tensor.mk [1, 1, 1, 2] [Turn.rotate
    [⟨Real.cos (position * f), Real.sin (position * f)⟩] [1, 0]].flatten.toArray) :
      Except Failure (Tensor ℝ)) = _
  rw [hrotate]
  rfl

/-- A table that is moved past its tracker stays there, and so do the rotations of the next step. -/
theorem pushed_misrotates : ∃ table : RotaryTable ℝ, RotaryTable.build 2 1 {} = .ok table ∧
    ∃ ready, (({ table } : RotaryTracker ℝ).moves [.shift 1]).prepare 1 = .ok ready ∧
      ready.apply ⟨[1, 1, 1, 2], #[1, 0]⟩ ≠
        ready.table.rotateFrom ⟨[1, 1, 1, 2], #[1, 0]⟩ ready.position := by
  have hbase : ({} : RotaryConfig).frequencies 2 = [(1 : ℝ)] := by
    change [((1 : ℤ) : ℝ) / Real.rpow _ (((0 : ℤ) : ℝ) / ((2 : ℤ) : ℝ))] = [1]
    simp
  obtain ⟨table, built⟩ : ∃ table : RotaryTable ℝ, RotaryTable.build 2 1 {} = .ok table := ⟨_, rfl⟩
  obtain ⟨ready, ok, hdim, hfrequencies, hstart, hoffset⟩ :
      ∃ ready, (({ table } : RotaryTracker ℝ).moves [.shift 1]).prepare 1 = .ok ready ∧
        ready.table.dim = 2 ∧ ready.table.frequencies = [1] ∧ ready.table.start = 1 ∧
          ready.offset = 0 := by
    cases built
    exact ⟨_, rfl, rfl, hbase, rfl, rfl⟩
  have hexact := (moves_exact (t := { table }) (RotaryTable.build_exact built) [.shift 1]).1
  obtain ⟨position, hsum, -, -, hready, -⟩ := ((build_behind built).moves [.shift 1]).prepare ok
  obtain rfl : position = 0 := Int.ofNat_eq_zero.mp hsum.symm
  have happly : ready.apply ⟨[1, 1, 1, 2], #[1, 0]⟩ =
      ready.table.rotateFrom ⟨[1, 1, 1, 2], #[1, 0]⟩ 1 := by
    rw [hready.apply_eq rfl, hready.turns_eq (prepare_exact ok hexact), hstart, hoffset]
    rfl
  refine ⟨table, built, ready, ok, fun hsame => ?_⟩
  rw [happly, hready.position_eq, rotateFrom_pair hdim hfrequencies,
    rotateFrom_pair hdim hfrequencies] at hsame
  obtain ⟨hcos, -⟩ : Real.cos 1 = 1 ∧ Real.sin 1 = 0 := by simpa using hsame
  have hsmall := Real.cos_one_le
  linarith

end RotaryTracker
end StreamingLM
