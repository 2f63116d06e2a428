import Mathlib.Algebra.Group.Nat.Defs
import Mathlib.Data.List.TakeWhile

/-! C strings in arrays of a fixed size.

An array of `char` holds the text before its first NUL, if it has one. `strcpy`, `strcat`
and `snprintf` write a text and its NUL from some place on; here a write that leaves the
array fails, and so does the search for a NUL in an array without one, so that what
succeeds has stayed inside. The bound given to `snprintf` is the caller's word for the
size of the array, which nothing checks. `write_text` says when a write succeeds and
what text it leaves; the functions' rules follow from it. -/
namespace Aniot.C

/-- An array of so many `char`. -/
structure Buffer (size : Nat) where
  bytes : List UInt8
  length_eq : bytes.length = size

/-- The bytes of a string literal, in ASCII and without its NUL. -/
def cString (s : String) : List UInt8 := s.toList.map fun c => c.toNat.toUInt8

section Operations
variable {size : Nat}

/-- The text in an array. -/
def Buffer.text (b : Buffer size) : Option (List UInt8) :=
  if 0 ∈ b.bytes then some (b.bytes.takeWhile (· != 0)) else none

/-- Bytes written from a place on, if they stay inside. -/
def Buffer.write (b : Buffer size) (start : Nat) (l : List UInt8) : Option (Buffer size) :=
  if h : start + l.length ≤ size then
    some
      { bytes := b.bytes.take start ++ l ++ b.bytes.drop (start + l.length)
        length_eq := by
          have := b.length_eq
          simp only [List.length_append, List.length_take, List.length_drop]
          omega }
  else none

def strcpy (dst : Buffer size) (src : List UInt8) : Option (Buffer size) := dst.write 0 (src ++ [0])

def strcat (dst : Buffer size) (src : List UInt8) : Option (Buffer size) := do
  let text ← dst.text
  dst.write text.length (src ++ [0])

/-- `snprintf` of what its format makes of the arguments. -/
def snprintf (dst : Buffer size) (bound : Nat) (out : List UInt8) : Option (Buffer size) :=
  if bound = 0 then some dst else dst.write 0 (out.take (bound - 1) ++ [0])

/-! ### The rules -/

theorem text_of_eq {b : Buffer size} {s rest : List UInt8} (hs : 0 ∉ s) (h : b.bytes = s ++ 0 :: rest) :
    b.text = some s := by
  have hall : ∀ x ∈ s, (x != 0) = true := by
    intro x hx
    rw [bne_iff_ne]
    rintro rfl
    exact hs hx
  rw [Buffer.text, h, if_pos (List.mem_append_right s List.mem_cons_self),
    List.takeWhile_append_of_pos hall]
  simp

theorem text_eq_some_iff {b : Buffer size} {s : List UInt8} :
    b.text = some s ↔ 0 ∉ s ∧ ∃ rest, b.bytes = s ++ 0 :: rest := by
  constructor
  · intro h
    by_cases hmem : 0 ∈ b.bytes
    · obtain ⟨s', rest, hbytes, hs'⟩ := List.eq_append_cons_of_mem hmem
      obtain rfl : s' = s := Option.some.inj ((text_of_eq hs' hbytes).symm.trans h)
      exact ⟨hs', rest, hbytes⟩
    · rw [Buffer.text, if_neg hmem] at h
      cases h
  · rintro ⟨hs, rest, hbytes⟩
    exact text_of_eq hs hbytes

/-- A text written behind another that stands there, with room for both and the NUL. -/
theorem write_text {b : Buffer size} {s t : List UInt8} (hs : 0 ∉ s) (hb : b.bytes.take s.length = s)
    (ht : 0 ∉ t) (h : s.length + t.length < size) :
    ∃ b', b.write s.length (t ++ [0]) = some b' ∧ b'.text = some (s ++ t) := by
  have hroom : s.length + (t ++ [0]).length ≤ size := by
    rw [List.length_append, List.length_singleton]
    omega
  refine ⟨_, dif_pos hroom, text_eq_some_iff.mpr ⟨?_, b.bytes.drop (s.length + (t ++ [0]).length), ?_⟩⟩
  · rw [List.mem_append, not_or]
    exact ⟨hs, ht⟩
  · simp only [hb, List.append_assoc, List.singleton_append]

theorem strcpy_text (dst : Buffer size) {src : List UInt8} (hsrc : 0 ∉ src) (h : src.length < size) :
    ∃ b, strcpy dst src = some b ∧ b.text = some src := by
  have hroom : ([] : List UInt8).length + src.length < size := by
    rw [List.length_nil, Nat.zero_add]
    exact h
  exact write_text List.not_mem_nil rfl hsrc hroom

theorem strcat_text {dst : Buffer size} {s src : List UInt8} (hdst : dst.text = some s) (hsrc : 0 ∉ src)
    (h : s.length + src.length < size) : ∃ b, strcat dst src = some b ∧ b.text = some (s ++ src) := by
  obtain ⟨hs, rest, hbytes⟩ := text_eq_some_iff.mp hdst
  rw [strcat, hdst, Option.bind_eq_bind, Option.bind_some]
  exact write_text hs (by rw [hbytes, List.take_left]) hsrc h

/-- What the bound leaves whole is written as it is; whether it stays inside is up to its length. -/
theorem snprintf_text (dst : Buffer size) {bound : Nat} {out : List UInt8} (hout : 0 ∉ out)
    (hbound : out.length < bound) (h : out.length < size) :
    ∃ b, snprintf dst bound out = some b ∧ b.text = some out := by
  rw [snprintf, if_neg (by omega), List.take_of_length_le (by omega)]
  exact strcpy_text dst hout h

/-- Several texts appended one after the other. -/
theorem strcats_text {dst : Buffer size} {s : List UInt8} (hdst : dst.text = some s)
    {parts : List (List UInt8)} (hparts : ∀ part ∈ parts, 0 ∉ part)
    (h : s.length + parts.flatten.length < size) :
    ∃ b, parts.foldlM strcat dst = some b ∧ b.text = some (s ++ parts.flatten) := by
  induction parts generalizing dst s with
  | nil => exact ⟨dst, rfl, by rw [List.flatten_nil, List.append_nil, hdst]⟩
  | cons part rest ih =>
    rw [List.flatten_cons, List.length_append] at h
    obtain ⟨b, hb, htext⟩ := strcat_text hdst (hparts part List.mem_cons_self) (by omega)
    obtain ⟨b', hb', htext'⟩ := ih htext (fun p hp => hparts p (List.mem_cons_of_mem part hp))
      (by rw [List.length_append]; omega)
    refine ⟨b', ?_, by rw [htext', List.flatten_cons, List.append_assoc]⟩
    rw [List.foldlM_cons, hb]
    exact hb'

end Operations

/-! ### Literals and decimals -/

theorem cString_append (s t : String) : cString (s ++ t) = cString s ++ cString t := by
  rw [cString, String.toList_append, List.map_append]
  rfl

theorem cString_length (s : String) : (cString s).length = s.length := by
  rw [cString, List.length_map, String.length_toList]

theorem toUInt8_toNat {c : Char} (hc : c.toNat < 256) : c.toNat.toUInt8.toNat = c.toNat :=
  Nat.mod_eq_of_lt hc

/-- Of characters of one byte none is lost. -/
theorem cString_inj {s t : String} (hs : ∀ c ∈ s.toList, c.toNat < 256)
    (ht : ∀ c ∈ t.toList, c.toNat < 256) (h : cString s = cString t) : s = t := by
  have hread (u : String) (hu : ∀ c ∈ u.toList, c.toNat < 256) :
      (cString u).map (fun b => Char.ofNat b.toNat) = u.toList := by
    rw [cString, List.map_map]
    refine (List.map_congr_left fun c hc => ?_).trans (List.map_id _)
    show Char.ofNat c.toNat.toUInt8.toNat = c
    rw [toUInt8_toNat (hu c hc), Char.ofNat_toNat]
  rw [← String.toList_inj, ← hread s hs, ← hread t ht, h]

theorem digit_of_mem {i : Nat} {c : Char} (hc : c ∈ (toString i).toList) :
    48 ≤ c.toNat ∧ c.toNat ≤ 57 := by
  have hdigits : (toString i).toList = Nat.toDigits 10 i := Nat.toList_repr
  rw [hdigits] at hc
  exact Char.isDigit_iff_toNat.mp (Nat.isDigit_of_mem_toDigits (by decide) (by decide) hc)

theorem decimal_no_nul (i : Nat) : 0 ∉ cString (toString i) := by
  intro h0
  obtain ⟨c, hc, hzero⟩ := List.mem_map.mp h0
  obtain ⟨hlow, hhigh⟩ := digit_of_mem hc
  have hnat : c.toNat = 0 := by
    rw [← toUInt8_toNat (c := c) (by omega), hzero]
    rfl
  omega

theorem decimal_length_le_iff {i k : Nat} (hk : 0 < k) :
    (cString (toString i)).length ≤ k ↔ i < 10 ^ k := by
  rw [cString_length]
  exact Nat.length_repr_le_iff hk

end Aniot.C
