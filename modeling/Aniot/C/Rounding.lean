import Mathlib.Algebra.Order.Round
import Mathlib.Data.Int.Log
import Mathlib.Data.Rat.Floor
import Mathlib.Tactic.FieldSimp
import Mathlib.Tactic.Linarith
import Aniot.C.Print

/-! Arithmetic that rounds.

A binary format of so many digits represents the multiples of a power of two that grows
with the number (`FloatFormat.ulp`), down to a least one; a result that is none of them
is rounded to the nearest, and to the even one of two (`FloatFormat.round`). `Rounded` are
the numbers of such an arithmetic: each operation is exact and then rounded. Below a bound
all of them are right to within a unit (`Rounding.Within`), and so much is added to the error of
a sum by one more product (`mulAdd_error`).

Numbers too large for a format, its infinities and its NaN have no place here. -/
namespace Aniot.C

/-! ### Rounding to a format -/

/-- The nearest integer, of two the even one. -/
def nearest (q : Rat) : Int :=
  if q - ⌊q⌋ < 1 / 2 then ⌊q⌋
  else if 1 / 2 < q - ⌊q⌋ then ⌊q⌋ + 1
  else if ⌊q⌋ % 2 = 0 then ⌊q⌋
  else ⌊q⌋ + 1

theorem nearest_error (q : Rat) : |(nearest q : Rat) - q| ≤ 1 / 2 := by
  have hlow : (⌊q⌋ : Rat) ≤ q := Int.floor_le q
  have hhigh : q < ⌊q⌋ + 1 := Int.lt_floor_add_one q
  rw [nearest, abs_le]
  split
  · constructor <;> linarith
  · split
    · push_cast
      constructor <;> linarith
    · split
      · constructor <;> linarith
      · push_cast
        constructor <;> linarith

theorem nearest_int (n : Int) : nearest n = n := by
  rw [nearest, Int.floor_intCast, sub_self, if_pos (by norm_num)]

theorem nearest_mono {p q : Rat} (h : p ≤ q) : nearest p ≤ nearest q := by
  rcases h.eq_or_lt with rfl | hlt
  · exact le_rfl
  · have hp := abs_le.mp (nearest_error p)
    have hq := abs_le.mp (nearest_error q)
    have hnext : (nearest p : Rat) < nearest q + 1 := by linarith
    exact Int.lt_add_one_iff.mp (by exact_mod_cast hnext)

theorem nearest_nonneg {q : Rat} (h : 0 ≤ q) : 0 ≤ nearest q := by
  have hzero : nearest 0 = 0 := nearest_int 0
  rw [← hzero]
  exact nearest_mono h

/-- A binary format: how many digits, and the least exponent. -/
structure FloatFormat where
  digits : Nat
  minExponent : Int

namespace FloatFormat

/-- The distance of the numbers around one. -/
def ulp (fmt : FloatFormat) (x : Rat) : Rat :=
  2 ^ (max (Int.log 2 |x|) fmt.minExponent + 1 - fmt.digits)

def round (fmt : FloatFormat) (x : Rat) : Rat := nearest (x / fmt.ulp x) * fmt.ulp x

theorem ulp_pos (fmt : FloatFormat) (x : Rat) : 0 < fmt.ulp x := zpow_pos two_pos _

theorem round_error_ulp (fmt : FloatFormat) (x : Rat) : |fmt.round x - x| ≤ fmt.ulp x / 2 := by
  have hpos := fmt.ulp_pos x
  have hsplit : fmt.round x - x = (nearest (x / fmt.ulp x) - x / fmt.ulp x) * fmt.ulp x := by
    rw [round, sub_mul, div_mul_cancel₀ x hpos.ne']
  rw [hsplit, abs_mul, abs_of_pos hpos]
  calc |(nearest (x / fmt.ulp x) : Rat) - x / fmt.ulp x| * fmt.ulp x
      ≤ 1 / 2 * fmt.ulp x := mul_le_mul_of_nonneg_right (nearest_error _) hpos.le
    _ = fmt.ulp x / 2 := by ring

/-- Below a power of two a number is rounded by half of what the numbers there are apart. -/
theorem round_error {fmt : FloatFormat} {x : Rat} {k e : Int} (hx : |x| < 2 ^ (k + 1))
    (hk : fmt.minExponent ≤ k) (he : k - fmt.digits = e) : |fmt.round x - x| ≤ 2 ^ e := by
  subst he
  by_cases hzero : x = 0
  · have hround : fmt.round x = 0 := by
      rw [round, hzero, zero_div, ← Int.cast_zero, nearest_int, Int.cast_zero, zero_mul]
    rw [hround, hzero, sub_zero, abs_zero]
    exact (zpow_pos two_pos _).le
  · have hlog : Int.log 2 |x| < k + 1 :=
      (Int.lt_zpow_iff_log_lt one_lt_two (abs_pos.mpr hzero)).mp hx
    have hexponent : max (Int.log 2 |x|) fmt.minExponent + 1 - fmt.digits ≤ k - fmt.digits + 1 := by omega
    calc |fmt.round x - x| ≤ fmt.ulp x / 2 := fmt.round_error_ulp x
      _ ≤ 2 ^ (k - fmt.digits + 1) / 2 :=
        div_le_div_of_nonneg_right (zpow_le_zpow_right₀ one_le_two hexponent) two_pos.le
      _ = 2 ^ (k - fmt.digits) := by rw [zpow_add_one₀ two_ne_zero, mul_div_cancel_right₀ _ two_ne_zero]

/-- A number that is near another, rounded. -/
theorem round_near {fmt : FloatFormat} {x y δ : Rat} {k e : Int} (h : |x - y| ≤ δ)
    (hy : |y| + δ < 2 ^ (k + 1)) (hk : fmt.minExponent ≤ k) (he : k - fmt.digits = e) :
    |fmt.round x - y| ≤ δ + 2 ^ e := by
  have hx : |x| < 2 ^ (k + 1) := by
    have htriangle : |x| ≤ |x - y| + |y| := by
      have := abs_add_le (x - y) y
      rwa [sub_add_cancel] at this
    linarith
  calc |fmt.round x - y| ≤ |fmt.round x - x| + |x - y| := abs_sub_le _ _ _
    _ ≤ 2 ^ e + δ := add_le_add (round_error hx hk he) h
    _ = δ + 2 ^ e := add_comm _ _

/-- An integer of so many digits is a number of the format. -/
theorem round_int {fmt : FloatFormat} {n : Int} (hn : |(n : Rat)| < 2 ^ fmt.digits)
    (hmin : fmt.minExponent < fmt.digits) : fmt.round n = n := by
  by_cases hzero : n = 0
  · rw [hzero, Int.cast_zero, round, zero_div, ← Int.cast_zero, nearest_int, Int.cast_zero, zero_mul]
  · have hne : (n : Rat) ≠ 0 := Int.cast_ne_zero.mpr hzero
    have hlog : Int.log 2 |(n : Rat)| < fmt.digits :=
      (Int.lt_zpow_iff_log_lt one_lt_two (abs_pos.mpr hne)).mp (by rwa [Nat.cast_ofNat, zpow_natCast])
    obtain ⟨m, hm⟩ : ∃ m : Nat, max (Int.log 2 |(n : Rat)|) fmt.minExponent + 1 - fmt.digits = -m :=
      ⟨(fmt.digits - (max (Int.log 2 |(n : Rat)|) fmt.minExponent + 1) : Int).toNat, by omega⟩
    have hulp : fmt.ulp n = (2 ^ m : Rat)⁻¹ := by rw [ulp, hm, zpow_neg, zpow_natCast]
    have hmultiple : (n : Rat) / fmt.ulp n = ((n * 2 ^ m : Int) : Rat) := by
      rw [hulp, div_inv_eq_mul]
      push_cast
      ring
    rw [round, hmultiple, nearest_int, ← hmultiple, div_mul_cancel₀ _ (fmt.ulp_pos n).ne']

end FloatFormat

def binary32 : FloatFormat := ⟨24, -126⟩
def binary64 : FloatFormat := ⟨53, -1022⟩

/-! ### An arithmetic of rounded numbers -/

/-- What becomes of an exact sum, of an exact product and of an integer. -/
structure Rounding (K : Type) where
  sum : K → K
  product : K → K
  ofInt : Int → K

/-- A number of such an arithmetic. -/
structure Rounded {K : Type} (r : Rounding K) where
  val : K
deriving DecidableEq

namespace Rounded
variable {K : Type} {r : Rounding K}

instance [Zero K] : Zero (Rounded r) := ⟨⟨0⟩⟩
instance [Add K] : Add (Rounded r) := ⟨fun a b => ⟨r.sum (a.val + b.val)⟩⟩
instance [Mul K] : Mul (Rounded r) := ⟨fun a b => ⟨r.product (a.val * b.val)⟩⟩
instance : IntCast (Rounded r) := ⟨fun n => ⟨r.ofInt n⟩⟩

end Rounded

section Within
variable {K : Type} [CommRing K] [LinearOrder K] [IsStrictOrderedRing K]

/-- Below a bound, what comes out is right to within a unit, and integers are kept. -/
structure Rounding.Within (r : Rounding K) (bound unit : K) : Prop where
  nonneg : 0 ≤ unit
  sum : ∀ x, |x| < bound → |r.sum x - x| ≤ unit
  product : ∀ x, |x| < bound → |r.product x - x| ≤ unit
  ofInt : ∀ n : Int, |(n : K)| < bound → r.ofInt n = n

/-- One product more: its error, and that of the sum. -/
theorem mulAdd_error {r : Rounding K} {bound unit : K} (hr : r.Within bound unit) {a c : Rounded r}
    {a₀ c₀ α ε high : K} {x : Int} (ha : |a.val - a₀| ≤ α) (hc : |c.val - c₀| ≤ ε) (hx : |(x : K)| ≤ high)
    (hproduct : |(x : K) * c₀| ≤ high) (hsum : |a₀ + x * c₀| ≤ high)
    (hroom : high + (α + (high * ε + 2 * unit)) < bound) :
    |(a + x * c : Rounded r).val - (a₀ + x * c₀)| ≤ α + (high * ε + 2 * unit) := by
  have hunit := hr.nonneg
  have hα : 0 ≤ α := (abs_nonneg _).trans ha
  have hhigh : 0 ≤ high * ε := mul_nonneg ((abs_nonneg _).trans hx) ((abs_nonneg _).trans hc)
  -- the factor that is not exact
  have hfactor : |(x : K) * c.val - x * c₀| ≤ high * ε := by
    rw [← mul_sub, abs_mul]
    exact mul_le_mul hx hc (abs_nonneg _) ((abs_nonneg _).trans hx)
  rw [abs_le] at hfactor ha hproduct hsum
  have hkept : r.ofInt x = (x : K) := hr.ofInt x (hx.trans_lt (by linarith))
  -- the product, rounded
  have hrounded : |r.product (x * c.val) - x * c.val| ≤ unit :=
    hr.product _ (abs_lt.mpr (by constructor <;> linarith))
  rw [abs_le] at hrounded
  -- the sum, rounded
  have htotal : |r.sum (a.val + r.product (x * c.val)) - (a.val + r.product (x * c.val))| ≤ unit :=
    hr.sum _ (abs_lt.mpr (by constructor <;> linarith))
  rw [abs_le] at htotal
  show |r.sum (a.val + r.product (r.ofInt x * c.val)) - (a₀ + x * c₀)| ≤ α + (high * ε + 2 * unit)
  rw [hkept, abs_le]
  constructor <;> linarith

end Within

/-! ### `float` -/

/-- Single precision. A compiler may fuse a product into the sum that it is for; then it is not
rounded by itself. -/
def float (fused : Bool) : Rounding Rat where
  sum := binary32.round
  product := if fused then id else binary32.round
  ofInt n := binary32.round n

/-- Below a power of two a `float` is right to within half of what such numbers are apart. -/
theorem float_within (fused : Bool) {k : Int} (hlow : -126 ≤ k) (hhigh : k < 24) :
    (float fused).Within (2 ^ (k + 1)) (2 ^ (k - 24)) where
  nonneg := (zpow_pos two_pos _).le
  sum _ hx := FloatFormat.round_error hx hlow rfl
  product x hx := by
    cases fused with
    | true =>
      show |x - x| ≤ (2 : Rat) ^ (k - 24)
      rw [sub_self, abs_zero]
      exact (zpow_pos two_pos _).le
    | false => exact FloatFormat.round_error hx hlow rfl
  ofInt n hn := by
    refine FloatFormat.round_int (hn.trans_le ?_) (by decide)
    have hpower : (2 : Rat) ^ (k + 1) ≤ 2 ^ (24 : Int) := zpow_le_zpow_right₀ one_le_two (by omega)
    exact hpower

/-! ### Decimals -/

/-- A number in units of its last decimal, rounded. -/
def scaled (decimals : Nat) (x : Rat) : Int :=
  if x < 0 then -nearest (-x * 10 ^ decimals) else nearest (x * 10 ^ decimals)

/-- `%.2f` and the like, with a decimal at least. -/
def fixed (decimals : Nat) (x : Rat) : List Char :=
  let n := (scaled decimals x).natAbs
  (if x < 0 then ['-'] else []) ++
    (padded 10 1 (n / 10 ^ decimals) ++ ('.' :: padded 10 decimals (n % 10 ^ decimals)))

/-- The units of a number without its sign at the head of a text. -/
def readUnits (decimals : Nat) (l : List Char) : Nat :=
  (readNumber l).1 * 10 ^ decimals + (readNumber ((readNumber l).2.drop 1)).1

/-- The units of a number at the head of a text. -/
def readFixed (decimals : Nat) : List Char → Int
  | '-' :: l => -(readUnits decimals l : Int)
  | l => readUnits decimals l

theorem scaled_error (decimals : Nat) (x : Rat) : |(scaled decimals x : Rat) - x * 10 ^ decimals| ≤ 1 / 2 := by
  rw [scaled]
  split
  · have h := abs_le.mp (nearest_error (-x * 10 ^ decimals))
    push_cast
    rw [abs_le]
    constructor <;> linarith
  · exact nearest_error _

theorem scaled_mono (decimals : Nat) {x y : Rat} (h : x ≤ y) : scaled decimals x ≤ scaled decimals y := by
  have hpower : (0 : Rat) ≤ 10 ^ decimals := by positivity
  rw [scaled, scaled]
  split
  · have hleft : 0 ≤ nearest (-x * 10 ^ decimals) := nearest_nonneg (mul_nonneg (by linarith) hpower)
    split
    · exact neg_le_neg (nearest_mono (mul_le_mul_of_nonneg_right (neg_le_neg h) hpower))
    · have hright : 0 ≤ nearest (y * 10 ^ decimals) := nearest_nonneg (mul_nonneg (by linarith) hpower)
      omega
  · split
    · linarith
    · exact nearest_mono (mul_le_mul_of_nonneg_right h hpower)

theorem readUnits_digits (decimals n : Nat) {rest : List Char} (hrest : Stops rest) :
    readUnits decimals (padded 10 1 (n / 10 ^ decimals) ++
      ('.' :: (padded 10 decimals (n % 10 ^ decimals) ++ rest))) = n := by
  rw [readUnits, readNumber_padded 1 _ (.cons rfl _), List.drop_one, List.tail_cons,
    readNumber_padded decimals _ hrest, Nat.div_add_mod']

/-- Of a number's decimals nothing is lost. -/
theorem readFixed_fixed (decimals : Nat) (x : Rat) {rest : List Char} (hrest : Stops rest) :
    readFixed decimals (fixed decimals x ++ rest) = scaled decimals x := by
  have hpower : (0 : Rat) ≤ 10 ^ decimals := by positivity
  have hread := readUnits_digits decimals (scaled decimals x).natAbs hrest
  rw [fixed, List.append_assoc, List.append_assoc, List.cons_append]
  generalize hl : padded 10 1 ((scaled decimals x).natAbs / 10 ^ decimals) ++
    ('.' :: (padded 10 decimals ((scaled decimals x).natAbs % 10 ^ decimals) ++ rest)) = l at hread
  split
  · next hneg =>
    have hsign : scaled decimals x ≤ 0 := by
      rw [scaled, if_pos hneg]
      exact neg_nonpos.mpr (nearest_nonneg (mul_nonneg (by linarith) hpower))
    show -(readUnits decimals l : Int) = _
    rw [hread]
    omega
  · next hpos =>
    have hsign : 0 ≤ scaled decimals x := by
      rw [scaled, if_neg hpos]
      exact nearest_nonneg (mul_nonneg (by linarith) hpower)
    have hminus : ∀ m, l ≠ '-' :: m := by
      rw [← hl]
      exact padded_ne_minus 1 _ (fun h => absurd (Option.some.inj h) (by decide))
    rw [List.nil_append]
    unfold readFixed
    split
    · next m => exact absurd rfl (hminus m)
    · rw [hread]
      omega

end Aniot.C
