import Mathlib.Algebra.Order.BigOperators.Ring.Finset
import Mathlib.Algebra.Order.Ring.Unbundled.Rat
import Mathlib.Tactic.NormNum
import Aniot.P2.EndToEnd
import Aniot.P2.TwoFilters

/-! In exact arithmetic the values printed are means.

A value the filter task computes weighs the samples it has taken last, as many as there are
coefficients, the newest first (`filterRun_means`). With coefficients that weigh, none
negative and one in all, it lies where these samples lie. So does every value printed,
whatever the tasks do in between, and as the sensors read from 0 to 99, so does the controller
print (`printed_means`). -/
namespace Aniot.P2
open QueueSet

/-! ### Weighted means -/

section Weighs
variable {R : Type} [CommRing R] [LinearOrder R] [IsStrictOrderedRing R]

/-- None is negative, and together they are one. -/
structure Weighs (coefficients : List R) : Prop where
  nonneg : ∀ c ∈ coefficients, 0 ≤ c
  sum : coefficients.sum = 1

omit [LinearOrder R] [IsStrictOrderedRing R] in
theorem sum_getD (coefficients : List R) :
    ∑ k ∈ Finset.range coefficients.length, coefficients.getD k 0 = coefficients.sum := by
  induction coefficients with
  | nil => rfl
  | cons c rest ih =>
    rw [List.length_cons, Finset.sum_range_succ', List.sum_cons, add_comm]
    exact congrArg (c + ·) ih

/-- A weighted mean lies between any bounds of what it weighs. -/
theorem Weighs.between {coefficients : List R} (h : Weighs coefficients) {x : Nat → R} {low high : R}
    (hx : ∀ k < coefficients.length, low ≤ x k ∧ x k ≤ high) :
    low ≤ ∑ k ∈ Finset.range coefficients.length, coefficients.getD k 0 * x k ∧
      ∑ k ∈ Finset.range coefficients.length, coefficients.getD k 0 * x k ≤ high := by
  have hnonneg : ∀ k ∈ Finset.range coefficients.length, 0 ≤ coefficients.getD k 0 := by
    intro k hk
    rw [List.getD_eq_getElem _ _ (Finset.mem_range.mp hk)]
    exact h.nonneg _ (List.getElem_mem _)
  have hconst (y : R) : ∑ k ∈ Finset.range coefficients.length, coefficients.getD k 0 * y = y := by
    rw [← Finset.sum_mul, sum_getD, h.sum, one_mul]
  constructor
  · calc low = ∑ k ∈ Finset.range coefficients.length, coefficients.getD k 0 * low := (hconst low).symm
      _ ≤ _ := Finset.sum_le_sum fun k hk =>
        mul_le_mul_of_nonneg_left (hx k (Finset.mem_range.mp hk)).1 (hnonneg k hk)
  · calc _ ≤ ∑ k ∈ Finset.range coefficients.length, coefficients.getD k 0 * high :=
        Finset.sum_le_sum fun k hk =>
          mul_le_mul_of_nonneg_left (hx k (Finset.mem_range.mp hk)).2 (hnonneg k hk)
      _ = high := hconst high

end Weighs

/-! ### What the filter computes -/

section Filter
variable {R : Type} [CommRing R] {coefficients : List R} {taskName : String}

/-- The values of some samples, in order. -/
def sampleValues (samples : List Sample) : List Int := samples.map fun s => s.data.value

/-- The mean of as many samples as there are coefficients, the last of them its own. -/
structure MeanOf (coefficients : List R) (w : List Sample) (f : Filtered R) : Prop where
  length : w.length = coefficients.length
  last : w.getLast? = some f.sample
  mean : f.data.valueWeighted = ∑ k ∈ Finset.range coefficients.length,
    coefficients.getD k 0 * ((sampleValues w).reverse.getD k 0 : Int)

/-- A window that has only samples in it holds the latest, newest first. -/
theorem slides_full {n : Nat} {samples : List Sample} (h : n ≤ samples.length) :
    (sampleValues samples).foldl (fun w x => slide n x w) (List.replicate n 0) =
      (sampleValues (samples.drop (samples.length - n))).reverse := by
  have hlength : (sampleValues samples).length = samples.length := List.length_map _
  rw [slides_eq, List.take_append_of_le_length (by rw [List.length_reverse, hlength]; exact h),
    List.take_reverse, hlength, sampleValues, sampleValues, List.map_drop]

/-- What the filter makes of one sample more is the mean of the samples it took last. -/
theorem filterSample_mean {v₀ v v' : CircularVector} {samples : List Sample} {outs : List (Filtered R)}
    {s : Sample} {out : Option (Filtered R)} (hwindow : 0 < coefficients.length)
    (hv₀ : v₀ = .init coefficients.length hwindow)
    (hrun : filterRun coefficients taskName v₀ samples = some (v, outs))
    (hs : filterSample coefficients taskName v s = some (v', out)) :
    ∀ f ∈ out, ∃ w, w <:+ samples ++ [s] ∧ MeanOf coefficients w f := by
  intro f hf
  subst hv₀
  obtain ⟨hslides, hmax, haforo⟩ := filterRun_slides hrun (Nat.zero_le _)
  have hsize : v.aforoMax = coefficients.length := hmax
  have hcount : v.aforo = min coefficients.length samples.length := by
    rw [haforo]
    exact congrArg (min coefficients.length) (Nat.zero_add _)
  obtain ⟨-, ⟨_, _, hnone⟩ | ⟨hfull, _, f', hsome, hsample, -⟩⟩ := filterSample_cases hs
  · rw [hnone] at hf
    cases hf
  · obtain rfl : f = f' := Option.some.inj (hf.symm.trans hsome)
    obtain ⟨v₂, f₂, hs₂, hmean⟩ := filterSample_full taskName hfull hsize.symm s
    obtain rfl : f = f₂ := Option.some.inj (hf.symm.trans (Prod.mk.inj (Option.some.inj (hs.symm.trans hs₂))).2)
    have hlength : (samples ++ [s]).length = samples.length + 1 := List.length_append
    have hslid : slide v.aforoMax s.data.value v.window =
        (sampleValues (samples ++ [s])).foldl (fun w x => slide coefficients.length x w)
          (List.replicate coefficients.length 0) := by
      rw [sampleValues, List.map_append, List.foldl_append, hsize, hslides, window_init]
      rfl
    -- the window holds samples only, this one last
    have hdrop : samples.length + 1 - coefficients.length ≤ samples.length := by omega
    rw [hslid, slides_full (by omega), hlength, hsize] at hmean
    refine ⟨_, List.drop_suffix _ _, ?_, ?_, hmean⟩
    · rw [List.length_drop, hlength]
      omega
    · rw [List.drop_append_of_le_length hdrop, List.getLast?_concat, hsample]

/-- Every value the filter computes is the mean of the samples it took last. -/
theorem filterRun_means (hwindow : 0 < coefficients.length) {samples : List Sample} {v : CircularVector}
    {outs : List (Filtered R)}
    (h : filterRun coefficients taskName (.init coefficients.length hwindow) samples = some (v, outs)) :
    ∀ f ∈ outs, ∃ w, w <:+: samples ∧ MeanOf coefficients w f := by
  induction samples using List.reverseRecOn generalizing v outs with
  | nil =>
    obtain ⟨rfl, rfl⟩ := Prod.mk.inj (Option.some.inj h)
    exact fun f hf => absurd hf List.not_mem_nil
  | append_singleton samples s ih =>
    obtain ⟨v₁, outs₁, hrun⟩ :=
      filterRun_total taskName samples (.init coefficients.length hwindow) (by rfl)
    have hsize : v₁.aforoMax = coefficients.length := (filterRun_slides hrun (Nat.zero_le _)).2.1
    obtain ⟨v₂, out, hs⟩ := filterSample_total taskName v₁ s hsize.symm
    obtain ⟨rfl, rfl⟩ := Prod.mk.inj (Option.some.inj ((filterRun_concat hrun hs).symm.trans h))
    intro f hf
    rcases List.mem_append.mp hf with hf | hf
    · obtain ⟨w, hw, hmean⟩ := ih hrun f hf
      exact ⟨w, hw.trans (List.prefix_append samples [s]).isInfix, hmean⟩
    · obtain ⟨w, hw, hmean⟩ := filterSample_mean hwindow rfl hrun hs f (Option.mem_toList.mp hf)
      exact ⟨w, hw.isInfix, hmean⟩

end Filter

/-! ### What the controller prints -/

section Generated
variable {R : Type} {cfg : Config R}

theorem sensorTask_reads {nd : Node cfg} (h : ∀ x ∈ nd.generated, 0 ≤ x.data.value ∧ x.data.value ≤ 99)
    (espRandom : BitVec 32) (now : Int) (timedOut : Bool) :
    ∀ x ∈ (sensorTask espRandom now timedOut nd).generated, 0 ≤ x.data.value ∧ x.data.value ≤ 99 := by
  have hread : 0 ≤ readSensor espRandom ∧ readSensor espRandom ≤ 99 := by
    unfold readSensor
    omega
  unfold sensorTask
  split
  · intro x hx
    rcases List.mem_append.mp hx with hx | hx
    · exact h x hx
    · rw [List.mem_singleton.mp hx]
      exact hread
  · split
    · exact h
    · split <;> exact h

/-- What the sensors read is from 0 to 99. -/
theorem generated_in_range [Zero R] [Add R] [Mul R] [IntCast R] (actions : List (Action cfg.numberSensors))
    (i : Fin cfg.numberSensors) :
    ∀ x ∈ (((pipeline cfg).run actions).node i).generated, 0 ≤ x.data.value ∧ x.data.value ≤ 99 := by
  let Inv (s : State cfg) : Prop := ∀ i, ∀ x ∈ (s.node i).generated, 0 ≤ x.data.value ∧ x.data.value ≤ 99
  have hkeeps (s : State cfg) (j : Fin cfg.numberSensors) (nd : Node cfg) (h : Inv s)
      (hnd : ∀ x ∈ nd.generated, 0 ≤ x.data.value ∧ x.data.value ≤ 99) : Inv (s.setNode j nd) := by
    intro i
    by_cases hi : i = j
    · subst hi
      simpa [State.setNode] using hnd
    · simpa [State.setNode, Function.update_of_ne hi] using h i
  have hstep (s : State cfg) (a : Action cfg.numberSensors) (h : Inv s) : Inv ((pipeline cfg).step s a) := by
    cases a with
    | sensor j espRandom now timedOut => exact hkeeps s j _ h (sensorTask_reads (h j) espRandom now timedOut)
    | filter j timedOut =>
      have hfilter : (filterTask j timedOut (s.node j)).1.generated = (s.node j).generated := by
        rcases filterTask_cases j timedOut (s.node j) with ⟨_, _, _, _, _, _, _, hnext⟩ |
          ⟨_, _, _, _, hnext⟩ | ⟨_, _, _, _, _, hnext⟩ | ⟨_, _, _, hnext⟩ | ⟨_, _, _, hnext⟩ | hnext <;>
          rw [hnext]
      have hnode : Inv (s.setNode j (filterTask j timedOut (s.node j)).1) :=
        hkeeps s j _ h (by rw [hfilter]; exact h j)
      show Inv (step s (.filter j timedOut))
      simp only [step]
      split
      · next nd hresult =>
        rw [hresult] at hnode
        exact hnode
      · next nd f hresult =>
        rw [hresult] at hnode
        intro i
        rw [notify_node]
        exact hnode i
    | controller timedOut =>
      show Inv (controllerTask timedOut s)
      rcases controllerTask_cases timedOut s with ⟨_, _, _, _, hnext⟩ | ⟨_, hnext⟩ |
        ⟨k, hk, f, q, _, _, hnext⟩ | ⟨_, _, _, _, hnext⟩ | ⟨_, _, _, _, _, hnext⟩ |
        ⟨_, _, _, _, _, hnext⟩ | hnext <;> rw [hnext]
      case inr.inr.inl => exact hkeeps s ⟨k, hk⟩ _ h (h ⟨k, hk⟩)
      all_goals exact h
  exact Machine.run_invariant (pipeline cfg) (fun _ _ hx => absurd hx List.not_mem_nil) hstep actions i

end Generated

section Runs
variable {R : Type} [CommRing R] [LinearOrder R] [IsStrictOrderedRing R] {cfg : Config R}

/-- A mean lies where its samples lie. -/
theorem MeanOf.between {coefficients : List R} {w : List Sample} {f : Filtered R}
    (h : MeanOf coefficients w f) (hweighs : Weighs coefficients) {low high : R}
    (hbounds : ∀ x ∈ w, low ≤ (x.data.value : R) ∧ (x.data.value : R) ≤ high) :
    low ≤ f.data.valueWeighted ∧ f.data.valueWeighted ≤ high := by
  rw [h.mean]
  refine hweighs.between fun k hk => ?_
  have hlength : k < (sampleValues w).reverse.length := by
    rw [List.length_reverse, sampleValues, List.length_map, h.length]
    exact hk
  rw [List.getD_eq_getElem _ _ hlength]
  obtain ⟨x, hx, hvalue⟩ := List.mem_map.mp (List.mem_reverse.mp (List.getElem_mem hlength))
  rw [← hvalue]
  exact hbounds x hx

/-- **In exact arithmetic, whatever the tasks do in between, each value printed for a sensor is the
weighted mean of consecutive samples its filter task took, the last of them the value's own; it lies
between any bounds of these, and from 0 to 99.** -/
theorem printed_means (cfg : Config R) (hweighs : Weighs cfg.weightingCoefficients)
    (actions : List (Action cfg.numberSensors)) (i : Fin cfg.numberSensors) :
    let s := (pipeline cfg).run actions
    ∀ f ∈ member s.printed i,
      (∃ w, w <:+: (s.node i).taken ∧ MeanOf cfg.weightingCoefficients w f ∧
        ∀ low high : R, (∀ x ∈ w, low ≤ (x.data.value : R) ∧ (x.data.value : R) ≤ high) →
          low ≤ f.data.valueWeighted ∧ f.data.valueWeighted ≤ high) ∧
      0 ≤ f.data.valueWeighted ∧ f.data.valueWeighted ≤ 99 := by
  intro s f hf
  have hnode : NodeInv cfg i (member s.printed i) (s.node i) := pipeline_inv actions i
  have hcomputed : f ∈ (s.node i).computed :=
    hnode.values.subset (List.mem_append_left _ (List.mem_append_left _ hf))
  obtain ⟨w, hw, hmean⟩ := filterRun_means cfg.window_pos hnode.ran f hcomputed
  have hbetween (low high : R)
      (hbounds : ∀ x ∈ w, low ≤ (x.data.value : R) ∧ (x.data.value : R) ≤ high) :
      low ≤ f.data.valueWeighted ∧ f.data.valueWeighted ≤ high := hmean.between hweighs hbounds
  refine ⟨⟨w, hw, hmean, hbetween⟩, hbetween 0 99 fun x hx => ?_⟩
  have htaken : x ∈ (s.node i).generated :=
    hnode.samples.subset (List.mem_append_left _ (List.mem_append_left _ (hw.subset hx)))
  obtain ⟨hlow, hhigh⟩ := generated_in_range actions i x htaken
  exact ⟨Int.cast_nonneg hlow, by exact_mod_cast hhigh⟩

end Runs

theorem typesH_weighs (numberSensors : Nat) : Weighs (typesH numberSensors).weightingCoefficients := by
  constructor
  · intro c hc
    simp only [typesH, List.mem_cons, List.not_mem_nil, or_false] at hc
    rcases hc with rfl | rfl | rfl | rfl | rfl <;> norm_num
  · simp only [typesH, List.sum_cons, List.sum_nil]
    norm_num

/-- What one sensor and its filter do with a reading. -/
def sampled (espRandom : BitVec 32) : List (Action 2) :=
  [.sensor 0 espRandom 0 true, .sensor 0 espRandom 0 true, .filter 0 true, .filter 0 true]

/-- Six readings, and a pass of the controller. -/
def sixReadings : List (Action 2) :=
  ([7, 1, 50, 99, 3, 8].map sampled).flatten ++ List.replicate 4 (.controller true)

theorem printed_means_six :
    let s := (pipeline (typesH 2)).run sixReadings
    ∀ f ∈ member s.printed (0 : Fin 2),
      (∃ w, w <:+: (s.node (0 : Fin 2)).taken ∧ MeanOf (typesH 2).weightingCoefficients w f ∧
        ∀ low high : Rat, (∀ x ∈ w, low ≤ (x.data.value : Rat) ∧ (x.data.value : Rat) ≤ high) →
          low ≤ f.data.valueWeighted ∧ f.data.valueWeighted ≤ high) ∧
      0 ≤ f.data.valueWeighted ∧ f.data.valueWeighted ≤ 99 :=
  printed_means (typesH 2) (typesH_weighs 2) sixReadings (0 : Fin 2)

end Aniot.P2
