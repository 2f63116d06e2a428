import Mathlib.Algebra.Group.Nat.Defs
import Mathlib.Algebra.Ring.Int.Defs

/-! Integers of a fixed width, as C computes with them.

The operands of an operation have been brought to one type, and its result is the exact
one where that type holds it. Where a signed type does not, the language promises
nothing and most compilers wrap; `Overflow` is which of the two is assumed, so what is
proved for both rests on neither. A chain of signed operations that wraps yields its
exact result whenever that result fits, whatever the steps on the way did
(`signed_wraps` and the `bmod` lemmas of the library). A conversion to an unsigned type
reduces, and division truncates toward zero. -/
namespace Aniot.C

/-- What becomes of a signed operation whose result does not fit. -/
inductive Overflow where
  | undefined
  | wraps
deriving DecidableEq

/-- The values that two's complement has in so many bits. -/
def Fits (w : Nat) (x : Int) : Prop := -2 ^ w ≤ 2 * x ∧ 2 * x < 2 ^ w

instance (w : Nat) (x : Int) : Decidable (Fits w x) :=
  inferInstanceAs (Decidable (_ ∧ _))

/-- The result of a signed operation, from the exact one. -/
def signed (o : Overflow) (w : Nat) (x : Int) : Option Int :=
  if Fits w x then some x
  else
    match o with
    | .undefined => none
    | .wraps => some (x.bmod (2 ^ w))

def add (o : Overflow) (w : Nat) (x y : Int) : Option Int := signed o w (x + y)
def sub (o : Overflow) (w : Nat) (x y : Int) : Option Int := signed o w (x - y)
def mul (o : Overflow) (w : Nat) (x y : Int) : Option Int := signed o w (x * y)

/-- Truncated division; by zero nothing is promised under either assumption. -/
def div (o : Overflow) (w : Nat) (x y : Int) : Option Int :=
  if y = 0 then none else signed o w (x.tdiv y)

/-- The conversion to an unsigned type. -/
def toUnsigned (w : Nat) (x : Int) : Nat := (x % 2 ^ w).toNat

/-- The largest `int`. -/
def intMax : Nat := 2 ^ 31 - 1

/-! ### Signed results -/

theorem bmod_of_fits {w : Nat} {x : Int} (h : Fits w x) : x.bmod (2 ^ w) = x := by
  obtain ⟨hlow, hhigh⟩ := h
  apply Int.bmod_eq_of_le_mul_two <;> push_cast <;> omega

theorem fits_bmod (w : Nat) (x : Int) : Fits w (x.bmod (2 ^ w)) := by
  have hpos : 0 < 2 ^ w := Nat.two_pow_pos w
  have hlow := Int.le_bmod (x := x) hpos
  have hhigh := Int.bmod_lt (x := x) hpos
  push_cast at hlow hhigh
  refine ⟨?_, ?_⟩
  · omega
  · rcases Nat.eq_zero_or_pos w with rfl | hw
    · omega
    · obtain ⟨n, rfl⟩ := Nat.exists_eq_add_of_lt hw
      simp only [Nat.zero_add, Int.pow_succ] at hlow hhigh ⊢
      omega

/-- Wrapping leaves alone exactly what fits. -/
theorem bmod_eq_self_iff {w : Nat} {x : Int} : x.bmod (2 ^ w) = x ↔ Fits w x :=
  ⟨fun h => h ▸ fits_bmod w x, bmod_of_fits⟩

theorem signed_of_fits {o : Overflow} {w : Nat} {x : Int} (h : Fits w x) :
    signed o w x = some x :=
  if_pos h

theorem signed_wraps (w : Nat) (x : Int) :
    signed .wraps w x = some (x.bmod (2 ^ w)) := by
  unfold signed
  split
  · next h => rw [bmod_of_fits h]
  · rfl

theorem signed_undefined {w : Nat} {x y : Int} :
    signed .undefined w x = some y ↔ Fits w x ∧ x = y := by
  unfold signed
  split
  · next h => simp [h]
  · next h => simp [h]

/-- Truncation and the floor part on a negative value that is no multiple, and by one. -/
theorem tdiv_eq_div_add {x y : Int} (hy : 0 < y) :
    x.tdiv y = x / y + if 0 ≤ x ∨ y ∣ x then 0 else 1 := by
  rw [Int.tdiv_eq_ediv, Int.sign_eq_one_of_pos hy]

/-! ### Unsigned conversions -/

/-- A negative value goes to the top of the range. -/
theorem toUnsigned_eq {w : Nat} {x : Int} (hlow : -2 ^ w ≤ x) (hhigh : x < 2 ^ w) :
    (toUnsigned w x : Int) = if 0 ≤ x then x else x + 2 ^ w := by
  rw [toUnsigned]
  split
  · next hx => rw [Int.emod_eq_of_lt hx hhigh, Int.toNat_of_nonneg hx]
  · next hx =>
    have hsame : x % 2 ^ w = (x + 2 ^ w) % 2 ^ w := (Int.add_emod_right x _).symm
    rw [hsame, Int.emod_eq_of_lt (by omega) (by omega), Int.toNat_of_nonneg (by omega)]

end Aniot.C
