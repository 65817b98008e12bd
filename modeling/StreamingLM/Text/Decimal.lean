/-!
Decimal text of binary floating-point numbers, decided in exact natural-number arithmetic: a number
is decoded into `m * 2 ^ q`, and the digits are chosen by comparing fractions. Three forms are
offered: a fixed number of places, scientific notation, and the fewest digits that read back.
-/
namespace StreamingLM
namespace Decimal

/-- A double taken apart: finite ones are `m * 2 ^ q`, up to the sign. -/
inductive Parts where
  | nan
  | infinite (negative : Bool)
  | finite (negative : Bool) (m : Nat) (q : Int)
  deriving DecidableEq, Repr

def Parts.ofBits (bits : Nat) : Parts :=
  let negative := bits / Nat.pow 2 63 % 2 == 1
  let field : Nat := bits / Nat.pow 2 52 % 2048
  let fraction : Nat := bits % Nat.pow 2 52
  if field = 2047 then
    if fraction = 0 then .infinite negative else .nan
  else if field = 0 then .finite negative fraction (-1074)
  else .finite negative (fraction + Nat.pow 2 52) ((field : Int) - 1075)

def parts (x : Float) : Parts := Parts.ofBits x.toBits.toNat

structure Ratio where
  num : Nat
  den : Nat

/-- The value `m * b ^ q` as a fraction. -/
def Ratio.scale (r : Ratio) (base : Nat) (q : Int) : Ratio :=
  match q with
  | .ofNat n => ⟨r.num * Nat.pow base n, r.den⟩
  | .negSucc n => ⟨r.num, r.den * Nat.pow base (n + 1)⟩

def Ratio.ofBinary (m : Nat) (q : Int) : Ratio := Ratio.scale ⟨m, 1⟩ 2 q

def Ratio.le (a b : Ratio) : Bool := a.num * b.den ≤ b.num * a.den

def Ratio.lt (a b : Ratio) : Bool := a.num * b.den < b.num * a.den

/-- Round a quotient to the nearest integer; a half goes to the even neighbour. -/
def roundDiv (num den : Nat) : Nat :=
  let whole := num / den
  let rest := 2 * (num % den)
  if rest < den then whole
  else if den < rest then whole + 1
  else if whole % 2 = 0 then whole else whole + 1

def Ratio.round (r : Ratio) : Nat := roundDiv r.num r.den

def padded (width n : Nat) : String :=
  let text := toString n
  String.ofList (List.replicate (width - text.length) '0') ++ text

def point (places n : Nat) : String :=
  let whole := toString (n / Nat.pow 10 places)
  if places = 0 then whole else whole ++ "." ++ padded places (n % Nat.pow 10 places)

def minus (negative : Bool) (text : String) : String :=
  if negative then "-" ++ text else text

def special : Parts → Option String
  | .nan => some "nan"
  | .infinite negative => some (minus negative "inf")
  | .finite .. => none

def fixed (places : Nat) (x : Float) : String :=
  match parts x with
  | .finite negative m q => minus negative (point places ((Ratio.ofBinary m q).scale 10 places).round)
  | other => (special other).getD ""

/-- The decimal exponent `e` with `10 ^ e ≤ r < 10 ^ (e + 1)`, searched upwards from an estimate
that is at most the answer; `fuel` bounds the search. -/
def exponentFrom (r : Ratio) : Nat → Int → Int
  | 0, e => e
  | fuel + 1, e => if (Ratio.scale ⟨1, 1⟩ 10 (e + 1)).le r then exponentFrom r fuel (e + 1) else e

def exponent (r : Ratio) : Int :=
  let estimate : Int := (((r.num.log2 : Int) - (r.den.log2 : Int) - 1) * 30103).fdiv 100000 - 1
  exponentFrom r 4 estimate

def exponentText (e : Int) : String :=
  (if e < 0 then "-" else "+") ++ padded 2 e.natAbs

def scientific (places : Nat) (x : Float) : String :=
  match parts x with
  | .finite negative 0 _ => minus negative (point places 0 ++ "e+00")
  | .finite negative m q =>
    let r := Ratio.ofBinary m q
    let e := exponent r
    let digits := (r.scale 10 ((places : Int) - e)).round
    if digits = Nat.pow 10 (places + 1) then
      minus negative (point places (Nat.pow 10 places) ++ "e" ++ exponentText (e + 1))
    else minus negative (point places digits ++ "e" ++ exponentText e)
  | other => (special other).getD ""

/-- The fractions that read back as `m * 2 ^ q`: between the midpoints to both neighbours, the
midpoints themselves only when `m` is even. -/
structure Interval where
  low : Ratio
  high : Ratio
  closed : Bool

def Interval.ofBinary (m : Nat) (q : Int) : Interval :=
  let high := Ratio.ofBinary (2 * m + 1) (q - 1)
  let low := if m = Nat.pow 2 52 ∧ q ≠ -1074 then Ratio.ofBinary (4 * m - 1) (q - 2)
    else Ratio.ofBinary (2 * m - 1) (q - 1)
  ⟨low, high, m % 2 = 0⟩

def Interval.contains (i : Interval) (r : Ratio) : Bool :=
  if i.closed then i.low.le r && r.le i.high else i.low.lt r && r.lt i.high

/-- The digits `d` and exponent `k` of the grid point `d * 10 ^ k` next to `r` that lies in the
interval, the nearer one if both neighbours do. -/
def gridPoint? (i : Interval) (r : Ratio) (k : Int) : Option (Nat × Int) :=
  let scaled := r.scale 10 (-k)
  let below := scaled.num / scaled.den
  let fits (d : Nat) := i.contains (Ratio.scale ⟨d, 1⟩ 10 k)
  match fits below, fits (below + 1) with
  | true, true => some (scaled.round, k)
  | true, false => some (below, k)
  | false, true => some (below + 1, k)
  | false, false => none

def shortestFrom (i : Interval) (r : Ratio) (e : Int) : List Nat → Nat × Int
  | [] => (r.num / r.den, 0)
  | n :: rest => (gridPoint? i r (e - n)).getD (shortestFrom i r e rest)

/-- The fewest digits that read back, as `d * 10 ^ k`. -/
def shortest (m : Nat) (q : Int) : Nat × Int :=
  let r := Ratio.ofBinary m q
  shortestFrom (Interval.ofBinary m q) r (exponent r) (List.range 18)

/-- Drop the zeros at the end of a digit string; the count of dropped ones goes to the exponent. -/
def trimZeros : List Char → List Char
  | [] => []
  | c :: rest =>
    match trimZeros rest with
    | [] => if c = '0' then [] else [c]
    | kept => c :: kept

/-- Place the point: numbers from `10 ^ -4` up to `10 ^ 16` are written out, others with an
exponent of at least two digits; a whole number keeps one zero after the point. -/
def place (d : Nat) (k : Int) : String :=
  let all := (toString d).toList
  let e := (all.length : Int) - 1 + k
  let digits := trimZeros all
  let text := String.ofList
  if -4 ≤ e ∧ e < 16 then
    if e < 0 then "0." ++ text (List.replicate (e.natAbs - 1) '0') ++ text digits
    else
      let whole := digits.take (e.toNat + 1)
      let zeros := List.replicate (e.toNat + 1 - whole.length) '0'
      let rest := digits.drop (e.toNat + 1)
      text (whole ++ zeros) ++ "." ++ (if rest.isEmpty then "0" else text rest)
  else
    let rest := digits.drop 1
    text (digits.take 1) ++ (if rest.isEmpty then "" else "." ++ text rest) ++ "e" ++ exponentText e

def brief (x : Float) : String :=
  match parts x with
  | .finite negative 0 _ => minus negative "0.0"
  | .finite negative m q => let (d, k) := shortest m q; minus negative (place d k)
  | other => (special other).getD ""

/-- The double nearest to `digits * 10 ^ e`; exponents beyond the range of doubles are cut off
first, so that no power of ten larger than needed is ever formed. -/
def toFloat (negative : Bool) (digits : Nat) (e : Int) : Float :=
  let size : Int := (toString digits).length
  let magnitude :=
    if digits = 0 ∨ e + size < -400 then 0.0
    else if 400 < e + size then 1.0 / 0.0
    else Float.ofScientific digits (e < 0) e.natAbs
  if negative then -magnitude else magnitude

end Decimal
end StreamingLM
