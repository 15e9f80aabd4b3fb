/-!
# Binary floating-point numbers

* `Binary64` — a number of the binary interchange format of 64 bits, held as a power of two times
  its significand; numbers of one sign that are equal are equal values;
* `Binary64.nearest`, `Binary64.shortest` — rounding a fraction to that format, and the shortest
  decimal that rounds to a number of the format;
* `Binary64.ofDecimal` — the number that a decimal numeral denotes;
* `Binary64.toInt?`, `Binary64.compareInt?` — what it is as an integer, and beside one.

All arithmetic is exact, on natural numbers.
-/

set_option autoImplicit false

namespace MessageTemplate

/-- A floating-point number of 64 bits. -/
inductive Binary64 where
  /-- The number `significand · 2 ^ exponent` with its sign. The significand has 53 bits, and fewer
  only at the least exponent. -/
  | finite (negative : Bool) (significand : Nat) (exponent : Int)
  | infinite (negative : Bool)
  /-- The result of an operation that has none. -/
  | undefined
  deriving DecidableEq, Repr, Inhabited

namespace Binary64

/-- The quotient rounded to the nearest integer, halves to the even one. -/
def divideToEven (n d : Nat) : Nat :=
  let q := n / d
  let twice := 2 * (n % d)
  if twice < d then q
  else if d < twice then q + 1
  else if q % 2 = 0 then q else q + 1

/-- The fraction `n / d` divided by `base ^ e`, again as a fraction. -/
def scaleDown (base n d : Nat) (e : Int) : Nat × Nat :=
  if 0 ≤ e then (n, d * Nat.pow base e.toNat) else (n * Nat.pow base (-e).toNat, d)

/-- The least exponent of the format. -/
def leastExponent : Int := -1074

/-- The positive fraction `n / d` as `m · 2 ^ q` with 53 bits in `m`, or fewer at the least
exponent, to the nearest; `none` if that is beyond the format. -/
def nearest (n d : Nat) : Option (Nat × Int) :=
  let size : Int := n.log2 - d.log2
  let q := max (size - 53) leastExponent
  let (a, b) := scaleDown 2 n d q
  let q := if Nat.pow 2 53 ≤ a / b then q + 1 else q
  let (a, b) := scaleDown 2 n d q
  let rounded := divideToEven a b
  let (m, q) := if rounded = Nat.pow 2 53 then (Nat.pow 2 52, q + 1) else (rounded, q)
  if 0 ≤ q && Nat.pow 2 1024 ≤ m * Nat.pow 2 q.toNat then none else some (m, q)

/-- The multiple of `10 ^ p` that is nearest to `m · 2 ^ q` among those that round to it; of two
that are equally near the even one. -/
def decimalOnGrid (m : Nat) (q : Int) (p : Int) : Option Nat :=
  -- all lengths are counted in a common unit: a quarter of `2 ^ q`, and a step of the grid
  let (quarter, step) :=
    match decide (0 ≤ q - 2), decide (0 ≤ p) with
    | true, true => (Nat.pow 2 (q - 2).toNat, Nat.pow 10 p.toNat)
    | true, false => (Nat.pow 2 (q - 2).toNat * Nat.pow 10 (-p).toNat, 1)
    | false, true => (1, Nat.pow 10 p.toNat * Nat.pow 2 (2 - q).toNat)
    | false, false => (Nat.pow 10 (-p).toNat, Nat.pow 2 (2 - q).toNat)
  let value := 4 * m * quarter
  let low := (if m = Nat.pow 2 52 && leastExponent < q then 4 * m - 1 else 4 * m - 2) * quarter
  let high := (4 * m + 2) * quarter
  let roundsBack := fun x : Nat =>
    0 < x && (if m % 2 = 0 then low ≤ x * step && x * step ≤ high
      else low < x * step && x * step < high)
  let below := value / step
  match roundsBack below, roundsBack (below + 1) with
  | true, true => some (divideToEven value step)
  | true, false => some below
  | false, true => some (below + 1)
  | false, false => none

/-- The greatest exponent of a power of ten that is tried as a grid. -/
def coarsestGrid : Int := 309

/-- The number of grids that are tried; the finest lies below every number of the format. -/
def gridCount : Nat := 660

/-- The shortest decimal that rounds to `m · 2 ^ q`: its digits on the coarsest grid that has
such a decimal, and the exponent of that grid. Zero has the digit 0. -/
def shortest (m : Nat) (q : Int) : Option (Nat × Int) :=
  if m = 0 then some (0, 0)
  else
    (List.range gridCount).findSome? fun (i : Nat) =>
      let p := coarsestGrid - i
      (decimalOnGrid m q p).map fun x => (x, p)

/-- Zero with a sign. -/
def zero (negative : Bool) : Binary64 := .finite negative 0 leastExponent

/-- The number nearest to `digits · 10 ^ exponent`. -/
def ofDecimal (negative : Bool) (digits : Nat) (exponent : Int) : Binary64 :=
  let magnitude : Int := (Nat.toDigits 10 digits).length + exponent
  if digits = 0 || magnitude < -330 then zero negative
  else if 310 < magnitude then .infinite negative
  else
    let (n, d) := scaleDown 10 digits 1 (-exponent)
    match nearest n d with
    | none => .infinite negative
    | some (m, q) => .finite negative m q

/-- Zero of either sign. -/
def isZero : Binary64 → Bool
  | .finite _ m _ => m == 0
  | _ => false

/-- Whether the number is neither infinite nor undefined. -/
def isFinite : Binary64 → Bool
  | .finite _ _ _ => true
  | _ => false

/-- The natural number that `m · 2 ^ q` is, if it is one. -/
def toNat? (m : Nat) (q : Int) : Option Nat :=
  let (n, d) := scaleDown 2 m 1 (-q)
  if n % d = 0 then some (n / d) else none

/-- The integer that the number is, if it is one. -/
def toInt? : Binary64 → Option Int
  | .finite negative m q =>
    (toNat? m q).map fun n => if negative then -(n : Int) else n
  | _ => none

/-- The order of the number and an integer; the undefined number has none. -/
def compareInt? (x : Binary64) (n : Int) : Option Ordering :=
  match x with
  | .finite negative m q =>
    let (a, d) := scaleDown 2 m 1 (-q)
    some (compare (if negative then -(a : Int) else a) (n * d))
  | .infinite negative => some (if negative then .lt else .gt)
  | .undefined => none

theorem scaleDown_pos {base d : Nat} (hb : 0 < base) (hd : 0 < d) (n : Nat) (e : Int) :
    0 < (scaleDown base n d e).2 := by
  unfold scaleDown
  split
  · exact Nat.mul_pos hd (Nat.pow_pos hb)
  · exact hd

/-- An integer that a number is lies with the number on one side of every other integer. -/
theorem le_of_compareInt? {x : Binary64} {n m : Int} (h : x.toInt? = some n)
    (hm : x.compareInt? m = some .lt ∨ x.compareInt? m = some .eq) : n ≤ m := by
  rcases x with ⟨negative, a, q⟩ | _ | _
  · simp only [toInt?, toNat?, Option.map_eq_some_iff] at h
    obtain ⟨k, hk, rfl⟩ := h
    split at hk
    · rename_i hmod
      cases hk
      have hpos := @scaleDown_pos 2 1 (by decide) (by decide) a (-q)
      simp only [compareInt?, Option.some.injEq] at hm
      generalize scaleDown 2 a 1 (-q) = nd at *
      obtain ⟨_, d⟩ := nd
      simp only at *
      obtain ⟨k, rfl⟩ := Nat.dvd_of_mod_eq_zero hmod
      rw [Nat.mul_div_cancel_left k hpos]
      have hle : (if negative = true then -((d * k : Nat) : Int) else ((d * k : Nat) : Int)) ≤
          m * d := by
        rcases hm with hm | hm <;> exact Std.isLE_compare.mp (by rw [hm]; rfl)
      have hd : (0 : Int) < d := by omega
      refine Int.le_of_mul_le_mul_right (Int.le_trans (Int.le_of_eq ?_) hle) hd
      have hproduct : ((d * k : Nat) : Int) = k * d := by rw [Int.natCast_mul, Int.mul_comm]
      rw [hproduct]
      cases negative
      · rfl
      · exact Int.neg_mul _ _
    · cases hk
  · cases h
  · cases h

end Binary64

end MessageTemplate
