import Mathlib.Tactic.Linarith
import Aniot.P2.Main2

/-! Whether the two filters of p2 compute the same mean.

`filterTask` of `main.c` weighs each of the latest values by its age. `filter_task` of
`main_2.c` weighs them by the slots they are in, and a value's slot is its age only when
the newest is in the last one, that is at every `MAX_SIZE`-th sample. At the others the
weights are turned round against the ages, and the means are the same only for values
that happen to balance this (`filters_agree_iff`); some never do
(`filters_agree_at_iff`). -/
namespace Aniot.P2
open C

/-- The sample as the queue of `main_2.c` carries it. -/
def Sample.sensorData (s : Sample) : Main2.SensorData := ⟨s.data.value, s.data.timestamp⟩

/-- The values of some samples, the last one's included. -/
def valuesOf (earlier : List Sample) (s : Sample) : List Int :=
  (earlier ++ [s]).map fun s => s.data.value

/-- The mean that `filterTask` offers for the last of its samples. -/
def lastWeightedMean (cfg : Config Rat) (taskName : String) (earlier : List Sample) (s : Sample) :
    Option Rat := do
  let before ← filterRun cfg.weightingCoefficients taskName (.init _ cfg.window_pos) earlier
  let last ← filterSample cfg.weightingCoefficients taskName before.1 s
  let filtered ← last.2
  return filtered.data.valueWeighted

/-- The mean that `filter_task` of `main_2.c` offers for the last of its samples. -/
def lastMean (o : Overflow) (t : Main2.FilterTask) (earlier : List Sample) (s : Sample) :
    Option Rat := do
  let before ← Main2.received o t.start (earlier.map Sample.sensorData)
  let last ← Main2.filterTask o before s.sensorData
  let controllerData ← last.2
  return controllerData.data

/-! ### The mean by age -/

section Window
variable {R : Type} [CommRing R] {coefficients : List R}

/-- A sample slides the window, and counts up to its length. -/
theorem filterSample_slides {taskName : String} {v v' : CircularVector} {s : Sample} {out : Option (Filtered R)}
    (h : filterSample coefficients taskName v s = some (v', out)) :
    v'.window = slide v.aforoMax s.data.value v.window ∧ v'.aforoMax = v.aforoMax ∧
      v'.aforo = if v.aforo < v.aforoMax then v.aforo + 1 else v.aforo := by
  rw [← window_insertValue]
  unfold filterSample at h
  by_cases hroom : (insertValue s.data.value v).aforo < (insertValue s.data.value v).aforoMax
  · simp only [if_pos hroom, Option.some.injEq, Prod.mk.injEq] at h
    obtain ⟨rfl, -⟩ := h
    exact ⟨rfl, rfl, (if_pos hroom).symm⟩
  · simp only [if_neg hroom, Option.bind_eq_bind, Option.bind_eq_some_iff, Option.pure_def,
      Option.some.injEq, Prod.mk.injEq] at h
    obtain ⟨mean, -, rfl, -⟩ := h
    exact ⟨rfl, rfl, (if_neg hroom).symm⟩

theorem filterRun_slides {taskName : String} {v v' : CircularVector} {samples : List Sample}
    {outs : List (Filtered R)}
    (h : filterRun coefficients taskName v samples = some (v', outs)) (hv : v.aforo ≤ v.aforoMax) :
    v'.window = (samples.map fun s => s.data.value).foldl (fun w x => slide v.aforoMax x w) v.window ∧
      v'.aforoMax = v.aforoMax ∧ v'.aforo = min v.aforoMax (v.aforo + samples.length) := by
  induction samples generalizing v v' outs with
  | nil =>
    simp only [filterRun, Option.some.injEq, Prod.mk.injEq] at h
    obtain ⟨rfl, -⟩ := h
    exact ⟨rfl, rfl, (Nat.min_eq_right hv).symm⟩
  | cons s rest ih =>
    simp only [filterRun, Option.bind_eq_bind, Option.bind_eq_some_iff, Option.pure_def,
      Option.some.injEq, Prod.mk.injEq] at h
    obtain ⟨⟨first, out⟩, hfirst, ⟨others, outs'⟩, hrest, rfl, -⟩ := h
    obtain ⟨hwindow, hmax, haforo⟩ := filterSample_slides hfirst
    have hbound : first.aforo ≤ first.aforoMax := by
      rw [haforo, hmax]
      split <;> omega
    obtain ⟨hwindow', hmax', haforo'⟩ := ih hrest hbound
    rw [hmax] at hwindow' hmax' haforo'
    refine ⟨by rw [hwindow', hwindow]; rfl, hmax', ?_⟩
    rw [haforo', haforo, List.length_cons]
    split <;> omega

/-- A vector that has counted its window full offers the mean of the window slid on. -/
theorem filterSample_full (taskName : String) {v : CircularVector} (hfull : ¬ v.aforo < v.aforoMax)
    (h : coefficients.length = v.aforoMax) (s : Sample) :
    ∃ v' f, filterSample coefficients taskName v s = some (v', some f) ∧
      f.data.valueWeighted = ∑ k ∈ Finset.range v.aforoMax,
        coefficients.getD k 0 * ((slide v.aforoMax s.data.value v.window).getD k 0 : Int) := by
  have hmean := getWeightedMean_eq (insertValue s.data.value v) coefficients h
  rw [window_insertValue] at hmean
  have hroom : ¬ (insertValue s.data.value v).aforo < (insertValue s.data.value v).aforoMax := hfull
  simp only [filterSample, if_neg hroom, hmean, Option.bind_eq_bind, Option.bind_some, Option.pure_def]
  exact ⟨_, _, rfl, rfl⟩

end Window

/-- Past the samples that fill the window the mean weighs each value by its age. -/
theorem lastWeightedMean_eq (cfg : Config Rat) (taskName : String) (earlier : List Sample) (s : Sample)
    (h : cfg.weightingCoefficients.length ≤ earlier.length) :
    lastWeightedMean cfg taskName earlier s =
      some (∑ k ∈ Finset.range cfg.weightingCoefficients.length,
        cfg.weightingCoefficients.getD k 0 * (latest (valuesOf earlier s) k : Int)) := by
  obtain ⟨v, outs, hrun⟩ : ∃ v outs, filterRun cfg.weightingCoefficients taskName
      (.init _ cfg.window_pos) earlier = some (v, outs) := filterRun_total taskName earlier _ rfl
  obtain ⟨hwindow, hmax, haforo⟩ := filterRun_slides hrun (Nat.zero_le _)
  have hfull : ¬ v.aforo < v.aforoMax := by
    have hinit : (CircularVector.init _ cfg.window_pos).aforo = 0 := rfl
    have hlength : (CircularVector.init _ cfg.window_pos).aforoMax =
      cfg.weightingCoefficients.length := rfl
    rw [haforo, hmax, hinit, hlength]
    omega
  obtain ⟨v', f, hlast, hvalue⟩ := filterSample_full taskName hfull hmax.symm s
  have hslid : slide v.aforoMax s.data.value v.window =
      ((valuesOf earlier s).reverse ++ List.replicate cfg.weightingCoefficients.length 0).take
        cfg.weightingCoefficients.length := by
    rw [← slides_eq, valuesOf, List.map_append, List.foldl_append, hmax, hwindow, window_init]
    rfl
  simp only [lastWeightedMean, hrun, hlast, hvalue, Option.bind_eq_bind, Option.bind_some, Option.pure_def]
  rw [Option.some.injEq, hslid, hmax]
  apply Finset.sum_congr rfl
  intro k hk
  have hage : k < cfg.weightingCoefficients.length := Finset.mem_range.mp hk
  rw [latest_window _ hage]

/-! ### The mean by slot -/

/-- The weights of the slots, with the newest value in the slot before `r`. -/
def slotMean (r : Nat) (x : Nat → Int) : Rat :=
  x ((r + 4) % 5) * Main2.meanWeight1 + x ((r + 3) % 5) * Main2.meanWeight2 +
    x ((r + 2) % 5) * Main2.meanWeight3 + x ((r + 1) % 5) * Main2.meanWeight4 +
    x (r % 5) * Main2.meanWeight5

theorem mean_of_holds {queue numbers : List Int} (hsize : queue.length = Main2.maxSize)
    (hn : Main2.maxSize ≤ numbers.length) (h : Main2.Holds queue numbers) :
    Main2.mean queue = some (slotMean (numbers.length % 5) (latest numbers)) := by
  have hmax : Main2.maxSize = 5 := rfl
  rw [hmax] at hsize hn
  have hslot : ∀ j < 5, queue[j]? = some (latest numbers ((numbers.length % 5 + (4 - j)) % 5)) := by
    intro j hj
    have hk := h ((numbers.length % 5 + (4 - j)) % 5) (by omega) (by omega)
    rw [hsize] at hk
    rwa [show (numbers.length - 1 - (numbers.length % 5 + (4 - j)) % 5) % 5 = j by omega] at hk
  simp only [Main2.mean, hslot 0 (by decide), hslot 1 (by decide), hslot 2 (by decide),
    hslot 3 (by decide), hslot 4 (by decide), Option.bind_eq_bind, Option.bind_some, Option.pure_def]
  rw [Main2.total_eq, Int.cast_one, div_one]
  rfl

/-- From the fifth number to the last that the `int` counts the mean weighs by slot. -/
theorem lastMean_eq (o : Overflow) (t : Main2.FilterTask) (earlier : List Sample) (s : Sample)
    (h : Main2.maxSize ≤ earlier.length + 1) (hint : earlier.length + 1 ≤ intMax) :
    lastMean o t earlier s =
      some (slotMean ((earlier.length + 1) % 5) (latest (valuesOf earlier s))) := by
  obtain ⟨before, hbefore, hcount, hholds⟩ :=
    Main2.received_slots o t (earlier.map Sample.sensorData) (by rw [List.length_map]; omega)
  rw [List.length_map] at hcount
  obtain ⟨out, hlast, hout⟩ := Main2.filterTask_counts o hcount (by omega) s.sensorData
  obtain ⟨c, rfl, hmean⟩ := hout h
  have hpush := hholds.push s.sensorData.number
  have hvalues : (earlier.map Sample.sensorData).map Main2.SensorData.number ++ [s.sensorData.number] =
      valuesOf earlier s := by
    rw [valuesOf, List.map_append, List.map_map]
    rfl
  rw [hvalues, List.length_map, List.length_map, before.size] at hpush
  have hlength : (valuesOf earlier s).length = earlier.length + 1 := by
    rw [valuesOf, List.length_map, List.length_append, List.length_singleton]
  have hsame := mean_of_holds (by rw [List.length_set, before.size]) (by rw [hlength]; exact h) hpush
  rw [hlength] at hsame
  simp only [lastMean, hbefore, hlast, Option.bind_eq_bind, Option.bind_some, Option.pure_def]
  exact hmean.symm.trans hsame

/-- After that there is none. -/
theorem lastMean_past (o : Overflow) (t : Main2.FilterTask) (earlier : List Sample) (s : Sample)
    (h : intMax < earlier.length + 1) : lastMean o t earlier s = none := by
  have hlength : (earlier.map Sample.sensorData).length = earlier.length := List.length_map _
  rw [lastMean, Option.bind_eq_bind]
  cases hbefore : Main2.received o t.start (earlier.map Sample.sensorData) with
  | none => rfl
  | some before =>
    rw [Option.bind_some, Option.bind_eq_bind]
    by_cases hfirst : earlier.length = intMax
    · obtain ⟨t', hsame, hcount, _⟩ :=
        Main2.received_slots o t (earlier.map Sample.sensorData) (by rw [hlength, hfirst])
      obtain rfl : t' = before := Option.some.inj (hsame.symm.trans hbefore)
      rw [hlength, hfirst] at hcount
      cases hlast : Main2.filterTask o t' s.sensorData with
      | none => rfl
      | some last =>
        obtain ⟨-, hnone⟩ := Main2.filterTask_overflows hcount hlast
        rw [Option.bind_some, hnone]
        rfl
    · have hnegative := Main2.received_past o t _ (by rw [hlength]; omega) hbefore
      rw [Main2.filterTask_negative hnegative]
      rfl

/-! ### When the two are the same -/

/-- The normalised weighted mean of values by their ages. -/
def weightedMean (coefficients : List Rat) (x : Nat → Int) : Rat :=
  (∑ k ∈ Finset.range coefficients.length, coefficients.getD k 0 * x k) / coefficients.sum

/-- What the slots give the values too much, in twentieths, they give others too little. -/
def Balanced (r : Nat) (x : Nat → Int) : Prop :=
  match r with
  | 0 => True
  | 1 => 8 * x 0 = 4 * x 1 + 2 * x 2 + x 3 + x 4
  | 2 => 7 * x 0 + 4 * x 1 = 6 * x 2 + 3 * x 3 + 2 * x 4
  | 3 => 6 * x 0 + 3 * x 1 + 2 * x 2 = 7 * x 3 + 4 * x 4
  | _ => 4 * x 0 + 2 * x 1 + x 2 + x 3 = 8 * x 4

/-- The coefficients of `types.h` add up to one. -/
theorem weightedMean_typesH (numberSensors : Nat) (x : Nat → Int) :
    weightedMean (typesH numberSensors).weightingCoefficients x =
      45 / 100 * x 0 + 25 / 100 * x 1 + 15 / 100 * x 2 + 10 / 100 * x 3 + 5 / 100 * x 4 := by
  simp only [weightedMean, typesH, List.length_cons, List.length_nil, Finset.sum_range_succ,
    Finset.sum_range_zero, List.getD_cons_zero, List.getD_cons_succ, List.sum_cons, List.sum_nil]
  norm_num

/-- In twentieths the weights are whole. -/
theorem slotMean_eq_iff_turned (r numberSensors : Nat) (x : Nat → Int) :
    slotMean r x = weightedMean (typesH numberSensors).weightingCoefficients x ↔
      9 * x (r % 5) + 5 * x ((r + 1) % 5) + 3 * x ((r + 2) % 5) + 2 * x ((r + 3) % 5) +
        x ((r + 4) % 5) = 9 * x 0 + 5 * x 1 + 3 * x 2 + 2 * x 3 + x 4 := by
  have hcast (a b : Int) : a = b ↔ (a : Rat) = b := Int.cast_inj.symm
  rw [weightedMean_typesH, hcast]
  unfold slotMean Main2.meanWeight1 Main2.meanWeight2 Main2.meanWeight3 Main2.meanWeight4
    Main2.meanWeight5
  push_cast
  constructor <;> intro h <;> linarith

theorem slotMean_eq_iff {r : Nat} (hr : r < 5) (numberSensors : Nat) (x : Nat → Int) :
    slotMean r x = weightedMean (typesH numberSensors).weightingCoefficients x ↔ Balanced r x := by
  rw [slotMean_eq_iff_turned]
  obtain rfl | rfl | rfl | rfl | rfl : r = 0 ∨ r = 1 ∨ r = 2 ∨ r = 3 ∨ r = 4 := by omega
  · exact iff_of_true rfl trivial
  · simp only [Balanced, Nat.reduceAdd, Nat.reduceMod]
    omega
  · simp only [Balanced, Nat.reduceAdd, Nat.reduceMod]
    omega
  · simp only [Balanced, Nat.reduceAdd, Nat.reduceMod]
    omega
  · simp only [Balanced, Nat.reduceAdd, Nat.reduceMod]
    omega

theorem lastWeightedMean_typesH (numberSensors : Nat) (taskName : String) (earlier : List Sample)
    (s : Sample) (h : 5 ≤ earlier.length) :
    lastWeightedMean (typesH numberSensors) taskName earlier s =
      some (weightedMean (typesH numberSensors).weightingCoefficients (latest (valuesOf earlier s))) := by
  have hsum : (typesH numberSensors).weightingCoefficients.sum = 1 := by
    norm_num [typesH]
  rw [lastWeightedMean_eq (typesH numberSensors) taskName earlier s h, weightedMean, hsum, div_one]

theorem lastMean_eq_iff (o : Overflow) (numberSensors : Nat) (t : Main2.FilterTask)
    (earlier : List Sample) (s : Sample) (h : 5 ≤ earlier.length) :
    lastMean o t earlier s = some
        (weightedMean (typesH numberSensors).weightingCoefficients (latest (valuesOf earlier s))) ↔
      earlier.length + 1 ≤ intMax ∧
        Balanced ((earlier.length + 1) % 5) (latest (valuesOf earlier s)) := by
  by_cases hint : earlier.length + 1 ≤ intMax
  · rw [lastMean_eq o t earlier s (by rw [Main2.maxSize]; omega) hint, Option.some.injEq,
      slotMean_eq_iff (Nat.mod_lt _ (by decide)), and_iff_right hint]
  · rw [lastMean_past o t earlier s (by omega)]
    exact iff_of_false nofun (fun hm => hint hm.1)

/-- A one after zeros is balanced only in the last slot. -/
theorem one_balanced {n r : Nat} (hr : r < 5)
    (h : Balanced r (latest (valuesOf (List.replicate n ⟨0, 0, 0⟩) ⟨0, 1, 0⟩))) : r = 0 := by
  have hvalues : valuesOf (List.replicate n ⟨0, 0, 0⟩) ⟨0, 1, 0⟩ = List.replicate n 0 ++ [1] := by
    rw [valuesOf, List.map_append, List.map_replicate]
    rfl
  have hzero : ∀ k, latest (List.replicate n 0 ++ [1]) (k + 1) = 0 := by
    intro k
    rw [Main2.latest_concat_succ, latest, List.reverse_replicate, List.getD_eq_getElem?_getD,
      List.getElem?_getD_replicate_default_eq]
  rw [hvalues] at h
  obtain rfl | rfl | rfl | rfl | rfl : r = 0 ∨ r = 1 ∨ r = 2 ∨ r = 3 ∨ r = 4 := by omega
  · rfl
  all_goals simp [Balanced, Main2.latest_concat_zero, hzero] at h

/-- **`main.c` offers the normalised weighted mean of the latest five; `main_2.c` offers the same
exactly while its count fits and the turn of the slots is balanced by the values.** -/
theorem filters_agree_iff (o : Overflow) (numberSensors : Nat) (taskName : String)
    (t : Main2.FilterTask) (earlier : List Sample) (s : Sample) (h : 5 ≤ earlier.length) :
    let x := latest (valuesOf earlier s)
    lastWeightedMean (typesH numberSensors) taskName earlier s =
        some (weightedMean (typesH numberSensors).weightingCoefficients x) ∧
      (lastMean o t earlier s = lastWeightedMean (typesH numberSensors) taskName earlier s ↔
        earlier.length + 1 ≤ intMax ∧ Balanced ((earlier.length + 1) % 5) x) := by
  intro x
  have hage := lastWeightedMean_typesH numberSensors taskName earlier s h
  refine ⟨hage, ?_⟩
  rw [hage]
  exact lastMean_eq_iff o numberSensors t earlier s h

/-- A mean taken with the newest value in the first slot, and values that balance it. -/
theorem filters_agree_iff_sixth :
    let earlier : List Sample := [0, 1, 1, 1, 1].map fun value => ⟨0, value, 0⟩
    let s : Sample := ⟨0, 1, 0⟩
    let t : Main2.FilterTask := ⟨⟨1001, 2001, 0⟩, [9, 9, 9, 9, 9], rfl⟩
    let x := latest (valuesOf earlier s)
    lastWeightedMean (typesH 2) "filter_sensor_0" earlier s =
        some (weightedMean (typesH 2).weightingCoefficients x) ∧
      (lastMean .wraps t earlier s = lastWeightedMean (typesH 2) "filter_sensor_0" earlier s ↔
        earlier.length + 1 ≤ intMax ∧ Balanced ((earlier.length + 1) % 5) x) :=
  filters_agree_iff .wraps 2 "filter_sensor_0" ⟨⟨1001, 2001, 0⟩, [9, 9, 9, 9, 9], rfl⟩
    ([0, 1, 1, 1, 1].map fun value => ⟨0, value, 0⟩) ⟨0, 1, 0⟩ (by decide)

/-- Zeros, then a one: it is in the first slot, whose weight is the least. -/
theorem sixth_weighed_least :
    ¬ ∃ o, ∀ (t : Main2.FilterTask) (earlier : List Sample) (s : Sample), 5 ≤ earlier.length →
      lastMean o t earlier s = lastWeightedMean (typesH 2) "filter_sensor_0" earlier s := by
  rintro ⟨o, h⟩
  have hsame := h ⟨⟨1001, 2001, 0⟩, [9, 9, 9, 9, 9], rfl⟩ (List.replicate 5 ⟨0, 0, 0⟩) ⟨0, 1, 0⟩ (by decide)
  rw [lastWeightedMean_typesH 2 _ _ _ (by decide), lastMean_eq_iff o 2 _ _ _ (by decide)] at hsame
  exact absurd (one_balanced (by decide) hsame.2) (by decide)

/-- At every fifth sample, and at no other, the two agree whatever the values. -/
theorem filters_agree_at_iff (o : Overflow) (numberSensors : Nat) (taskName : String)
    (t : Main2.FilterTask) {n : Nat} (hn : 5 ≤ n) (hint : n + 1 ≤ intMax) :
    (∀ earlier s, earlier.length = n →
      lastMean o t earlier s = lastWeightedMean (typesH numberSensors) taskName earlier s) ↔
      5 ∣ n + 1 := by
  constructor
  · intro h
    have hsame := h (List.replicate n ⟨0, 0, 0⟩) ⟨0, 1, 0⟩ List.length_replicate
    have hlength : 5 ≤ (List.replicate n (⟨0, 0, 0⟩ : Sample)).length := by
      rw [List.length_replicate]
      exact hn
    rw [lastWeightedMean_typesH numberSensors _ _ _ hlength,
      lastMean_eq_iff o numberSensors _ _ _ hlength, List.length_replicate] at hsame
    exact Nat.dvd_of_mod_eq_zero (one_balanced (Nat.mod_lt _ (by decide)) hsame.2)
  · intro hfifth earlier s hlength
    rw [lastWeightedMean_typesH numberSensors _ _ _ (hlength ▸ hn),
      lastMean_eq_iff o numberSensors _ _ _ (hlength ▸ hn), hlength, Nat.mod_eq_zero_of_dvd hfifth]
    exact ⟨hint, trivial⟩

end Aniot.P2
