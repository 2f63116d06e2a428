import Mathlib.Data.List.GetD
import Mathlib.Data.List.Rotate
import Mathlib.Algebra.BigOperators.Intervals
import Mathlib.Tactic.Ring
import Aniot.P2.Filter

/-! The circular vector is a sliding window.

`insertValue` fills the slots downwards, and the two loops of `getWeightedMean` read
them upwards from the index, round the end, with one coefficient counter between them.
Read in that order the slots are the latest values, newest first, whatever the index
(`window_insertValue`), so each meets the coefficient of its age (`weighs_window`).
The counter `aforo` is tested before it counts the sample just inserted, so the sample
that fills the window yields nothing yet (`emits_when_full_iff`). -/
namespace Aniot.P2

/-! ### Windows over a sequence -/

section Slide
variable {α : Type}

/-- A new value comes in and the oldest goes. -/
def slide (n : Nat) (x : α) (w : List α) : List α := (x :: w).take n

/-- A window filled with `a`, after a sequence has come in. -/
theorem slides_eq (n : Nat) (a : α) (xs : List α) :
    xs.foldl (fun w x => slide n x w) (List.replicate n a) =
      (xs.reverse ++ List.replicate n a).take n := by
  induction xs using List.reverseRecOn with
  | nil => simp
  | append_singleton xs x ih =>
    rw [List.foldl_append, ih, List.reverse_append]
    cases n with
    | zero => rfl
    | succ n =>
      simp only [List.foldl_cons, List.foldl_nil, slide, List.take_succ_cons, List.reverse_singleton,
        List.cons_append, List.nil_append, List.take_take, Nat.min_eq_left (Nat.le_succ n)]

/-- The slot before `i` on a ring of `n`. -/
def slotBefore (n i : Nat) : Nat := (if i = 0 then n else i) - 1

/-- A slot written over, read from that slot round the end. -/
theorem rotate_set {ring : List α} {i : Nat} (hi : i < ring.length) (x : α) :
    (ring.set i x).rotate i = x :: (ring.drop (i + 1) ++ ring.take i) := by
  have hlength : (ring.take i).length = i := List.length_take_of_le hi.le
  rw [List.rotate_eq_drop_append_take (by rw [List.length_set]; exact hi.le),
    List.set_eq_take_append_cons_drop, if_pos hi, List.drop_append_of_le_length hlength.ge,
    List.take_append_of_le_length hlength.ge, List.drop_of_length_le hlength.le, List.take_take,
    Nat.min_self]
  rfl

/-- Writing the slot before the one a ring is read from, and reading from there. -/
theorem rotate_set_slotBefore {ring : List α} {i : Nat} (hi : i < ring.length) (x : α) :
    (ring.set (slotBefore ring.length i) x).rotate (slotBefore ring.length i) =
      slide ring.length x (ring.rotate i) := by
  cases i with
  | zero =>
    -- the write wraps to the last slot
    have hlast : slotBefore ring.length 0 = ring.length - 1 := rfl
    have hlength : ring.length = ring.length - 1 + 1 := by omega
    rw [hlast, rotate_set (by omega), ← hlength, List.drop_length, List.nil_append, List.rotate_zero,
      slide]
    conv => rhs; rw [hlength]
    rw [List.take_succ_cons]
  | succ j =>
    have hslot : slotBefore ring.length (j + 1) = j := rfl
    have hlength : ring.length = ring.length - 1 + 1 := by omega
    have htake : (ring.drop (j + 1) ++ ring.take (j + 1)).take (ring.length - 1) =
        ring.drop (j + 1) ++ ring.take j := by
      rw [List.take_append, List.take_of_length_le (by rw [List.length_drop]; omega),
        List.take_take, List.length_drop]
      congr 2
      omega
    rw [hslot, rotate_set (by omega), List.rotate_eq_drop_append_take hi.le, slide]
    conv => rhs; rw [hlength]
    rw [List.take_succ_cons, htake]

end Slide

/-- The slots, read upwards from the index and round the end. -/
def CircularVector.window (v : CircularVector) : List Int := v.values.rotate v.index

theorem window_length (v : CircularVector) : v.window.length = v.aforoMax := by
  rw [CircularVector.window, List.length_rotate, v.size]

theorem window_init (aforoMax : Nat) (h : 0 < aforoMax) :
    (CircularVector.init aforoMax h).window = List.replicate aforoMax 0 :=
  List.rotate_replicate 0 aforoMax _

/-- An insertion slides the window. -/
theorem window_insertValue (value : Int) (v : CircularVector) :
    (insertValue value v).window = slide v.aforoMax value v.window := by
  have hinside : v.index < v.values.length := by
    rw [v.size]
    exact v.inside
  have h := rotate_set_slotBefore hinside value
  rw [v.size] at h
  exact h

/-- The window has at each place the slot that many above the index, round the end. -/
theorem window_getD (v : CircularVector) {k : Nat} (hk : k < v.aforoMax) :
    v.window.getD k 0 = v.values.getD ((v.index + k) % v.aforoMax) 0 := by
  rw [CircularVector.window, List.getD_eq_getElem?_getD, List.getElem?_rotate (by rw [v.size]; exact hk),
    v.size, Nat.add_comm, List.getD_eq_getElem?_getD]

section Mean
variable {R : Type} [CommRing R]

/-- One loop adds a product for each slot it reads. -/
theorem accumulate_eq (values : List Int) (coefficients : List R) (start n count : Nat) (mean : R)
    (hstop : start + n ≤ values.length) (hcount : count + n ≤ coefficients.length) :
    accumulate values coefficients start (start + n) (mean, count) =
      some (mean + ∑ i ∈ Finset.range n,
        coefficients.getD (count + i) 0 * (values.getD (start + i) 0 : Int), count + n) := by
  unfold accumulate
  rw [Nat.add_sub_cancel_left]
  induction n generalizing start count mean with
  | zero => simp
  | succ n ih =>
    have hvalue : start < values.length := by omega
    have hcoefficient : count < coefficients.length := by omega
    rw [List.range'_succ, List.foldlM_cons, List.getElem?_eq_getElem hvalue,
      List.getElem?_eq_getElem hcoefficient]
    have hmean : mean + (values[start] : R) * coefficients[count] + ∑ i ∈ Finset.range n,
          coefficients.getD (count + 1 + i) 0 * (values.getD (start + 1 + i) 0 : Int) =
        mean + ∑ i ∈ Finset.range (n + 1),
          coefficients.getD (count + i) 0 * (values.getD (start + i) 0 : Int) := by
      simp only [Finset.sum_range_succ', add_zero, List.getD_eq_getElem _ _ hvalue,
        List.getD_eq_getElem _ _ hcoefficient, Nat.add_assoc, Nat.add_comm 1]
      ring
    apply (ih (start + 1) (count + 1) _ (by omega) (by omega)).trans
    rw [hmean, Nat.add_right_comm, Nat.add_assoc]

/-- Each slot of the window meets the coefficient of its place. -/
theorem getWeightedMean_eq (v : CircularVector) (coefficients : List R)
    (h : coefficients.length = v.aforoMax) :
    getWeightedMean v coefficients =
      some (∑ k ∈ Finset.range v.aforoMax, coefficients.getD k 0 * (v.window.getD k 0 : Int)) := by
  obtain ⟨rest, hrest⟩ := Nat.exists_eq_add_of_le v.inside.le
  have hsize := v.size
  have hupper : ∀ k ∈ Finset.range rest, coefficients.getD k 0 * ((v.window.getD k 0 : Int) : R) =
      coefficients.getD (0 + k) 0 * (v.values.getD (v.index + k) 0 : Int) := by
    intro k hk
    have hk := Finset.mem_range.mp hk
    rw [window_getD v (by omega), Nat.mod_eq_of_lt (by omega), Nat.zero_add]
  have hlower : ∀ k ∈ Finset.range v.index,
      coefficients.getD (rest + k) 0 * ((v.window.getD (rest + k) 0 : Int) : R) =
        coefficients.getD (0 + rest + k) 0 * (v.values.getD (0 + k) 0 : Int) := by
    intro k hk
    have hk := Finset.mem_range.mp hk
    have hwrap : (v.index + (rest + k)) % v.aforoMax = k := by
      rw [← Nat.add_assoc, ← hrest, Nat.add_mod_left, Nat.mod_eq_of_lt (by omega)]
    rw [window_getD v (by omega), hwrap, Nat.zero_add, Nat.zero_add]
  have hfirst := accumulate_eq v.values coefficients v.index rest 0 0 (by omega) (by omega)
  have hsecond := accumulate_eq v.values coefficients 0 v.index (0 + rest)
    (0 + ∑ k ∈ Finset.range rest, coefficients.getD (0 + k) 0 * (v.values.getD (v.index + k) 0 : Int))
    (by omega) (by omega)
  rw [Nat.zero_add v.index] at hsecond
  rw [← hrest] at hfirst
  simp only [getWeightedMean, hfirst, hsecond, Option.bind_eq_bind, Option.bind_some, Option.pure_def]
  rw [Option.some.injEq, zero_add, hrest, Nat.add_comm v.index rest, Finset.sum_range_add,
    Finset.sum_congr rfl hupper, Finset.sum_congr rfl hlower]

/-! ### The vector after any number of insertions -/

theorem inserts_aforoMax (samples : List Int) (v : CircularVector) :
    (samples.foldl (fun v value => insertValue value v) v).aforoMax = v.aforoMax := by
  induction samples generalizing v with
  | nil => rfl
  | cons value rest ih => exact ih (insertValue value v)

/-- Insertions are slides. -/
theorem inserts_window (samples : List Int) (v : CircularVector) :
    (samples.foldl (fun v value => insertValue value v) v).window =
      samples.foldl (fun w value => slide v.aforoMax value w) v.window := by
  induction samples generalizing v with
  | nil => rfl
  | cons value rest ih =>
    rw [List.foldl_cons, ih, window_insertValue]
    rfl

/-- The `k`-th latest of the samples; zero when there were not that many. -/
def latest (samples : List Int) (k : Nat) : Int := samples.reverse.getD k 0

theorem latest_window (samples : List Int) {aforoMax k : Nat} (hk : k < aforoMax) :
    ((samples.reverse ++ List.replicate aforoMax 0).take aforoMax).getD k 0 = latest samples k := by
  rw [List.getD_eq_getElem?_getD, List.getElem?_take_of_lt hk, latest, List.getD_eq_getElem?_getD]
  by_cases hn : k < samples.reverse.length
  · rw [List.getElem?_append_left hn]
  · rw [List.getElem?_append_right (by omega), List.getElem?_replicate, List.getElem?_eq_none (by omega)]
    split <;> rfl

/-- **After any insertions into the vector of `init` the slots from the index on, round the
end, are the latest values, newest first, and the mean weighs each with the coefficient of
its age; no access leaves its array.** -/
theorem weighs_window (aforoMax : Nat) (hwindow : 0 < aforoMax) (coefficients : List R)
    (hlength : coefficients.length = aforoMax) (samples : List Int) :
    let v : CircularVector := samples.foldl (fun v value => insertValue value v) (.init aforoMax hwindow)
    v.index < aforoMax ∧ v.values.length = aforoMax ∧ v.aforoMax = aforoMax ∧
      v.window = (samples.reverse ++ List.replicate aforoMax 0).take aforoMax ∧
      (∀ k < aforoMax, v.values[(v.index + k) % aforoMax]? = some (latest samples k)) ∧
      getWeightedMean v coefficients =
        some (∑ k ∈ Finset.range aforoMax, coefficients.getD k 0 * (latest samples k : Int)) := by
  intro v
  have hmax : v.aforoMax = aforoMax := inserts_aforoMax samples (.init aforoMax hwindow)
  have hv : v.window = (samples.reverse ++ List.replicate aforoMax 0).take aforoMax := by
    rw [← slides_eq, ← window_init aforoMax hwindow]
    exact inserts_window samples (.init aforoMax hwindow)
  have hage : ∀ k < aforoMax, v.window.getD k 0 = latest samples k := by
    intro k hk
    rw [hv, latest_window samples hk]
  refine ⟨hmax ▸ v.inside, hmax ▸ v.size, hmax, hv, fun k hk => ?_, ?_⟩
  · have hslot : (v.index + k) % aforoMax < v.values.length := by
      rw [v.size, hmax]
      exact Nat.mod_lt _ hwindow
    rw [← hage k hk, window_getD v (by omega), hmax, List.getD_eq_getElem _ _ hslot]
    exact List.getElem?_eq_getElem hslot
  · rw [getWeightedMean_eq v coefficients (hlength.trans hmax.symm), hmax]
    congr 1
    apply Finset.sum_congr rfl
    intro k hk
    rw [hage k (Finset.mem_range.mp hk)]

end Mean

/-- Seven, then eight, in a window of three. -/
theorem weighs_window_three :
    let v : CircularVector := [7, 8].foldl (fun v value => insertValue value v) (.init 3 (by decide))
    v.index < 3 ∧ v.values.length = 3 ∧ v.aforoMax = 3 ∧
      v.window = ([7, 8].reverse ++ List.replicate 3 0).take 3 ∧
      (∀ k < 3, v.values[(v.index + k) % 3]? = some (latest [7, 8] k)) ∧
      getWeightedMean v ([5, 3, 2] : List Rat) =
        some (∑ k ∈ Finset.range 3, ([5, 3, 2] : List Rat).getD k 0 * (latest [7, 8] k : Int)) :=
  weighs_window 3 (by decide) [5, 3, 2] rfl [7, 8]

/-! ### When the filter emits -/

section Emit
variable {R : Type} [Zero R] [Add R] [Mul R] [IntCast R]

theorem filterRun_total {coefficients : List R} (taskName : String) (samples : List Sample)
    (v : CircularVector) (h : coefficients.length = v.aforoMax) :
    ∃ v' outs, filterRun coefficients taskName v samples = some (v', outs) := by
  induction samples generalizing v with
  | nil => exact ⟨v, [], rfl⟩
  | cons s rest ih =>
    obtain ⟨v', out, hs⟩ := filterSample_total taskName v s h
    obtain ⟨v'', outs, hrest⟩ := ih v' (h.trans (filterSample_cases hs).1.symm)
    exact ⟨v'', out.toList ++ outs, by simp [filterRun, hs, hrest]⟩

/-- **The filter takes any samples, and emits for all of them but the first `aforoMax`; that is
once for each from the one that fills the window on only while none has filled it.** -/
theorem emits_when_full_iff (coefficients : List R) (hwindow : 0 < coefficients.length)
    (taskName : String) (samples : List Sample) :
    ∃ v outs, filterRun coefficients taskName (.init coefficients.length hwindow) samples = some (v, outs) ∧
      outs.length = samples.length - coefficients.length ∧
      (outs.length = samples.length + 1 - coefficients.length ↔ samples.length < coefficients.length) := by
  obtain ⟨v, outs, hrun⟩ :=
    filterRun_total taskName samples (.init coefficients.length hwindow) (by rfl)
  have hlength : outs.length = samples.length - coefficients.length := filterRun_length hrun (Nat.zero_le _)
  refine ⟨v, outs, hrun, hlength, ?_⟩
  rw [hlength]
  omega

end Emit

/-- A window of one, and one sample. -/
theorem emits_when_full_one :
    ∃ v outs, filterRun [(1 : Rat)] "filter" (.init 1 Nat.one_pos) [⟨0, 7, 0⟩] = some (v, outs) ∧
      outs.length = 1 - 1 ∧ (outs.length = 1 + 1 - 1 ↔ 1 < 1) :=
  emits_when_full_iff [(1 : Rat)] Nat.one_pos "filter" [⟨0, 7, 0⟩]

/-- The window of one is full after one sample, and the filter has emitted nothing. -/
theorem full_window_silent :
    ¬ ∀ (coefficients : List Rat) (hwindow : 0 < coefficients.length) (taskName : String)
      (samples : List Sample) (v : CircularVector) (outs : List (Filtered Rat)),
      filterRun coefficients taskName (.init coefficients.length hwindow) samples = some (v, outs) →
        outs.length = samples.length + 1 - coefficients.length :=
  fun h => absurd (h [1] Nat.one_pos "filter" [⟨0, 7, 0⟩] _ [] rfl) (by decide)

end Aniot.P2
