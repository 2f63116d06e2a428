import Mathlib.Tactic.IntervalCases
import Aniot.C.Rounding
import Aniot.P2.Means

/-! The means in `float`.

`getWeightedMean` computes in `float`: the coefficients are rounded, and so is each sum and,
unless the compiler fuses it with its sum, each product. Run on the same samples, the filter with
rounded numbers keeps the same vector as the filter with exact ones and yields values for
the same samples, each as close to the exact one as the products it is made of allow
(`filterRun_near`). So what the controller prints is the exact mean of consecutive samples to
within that much, in any run (`printed_near`); with the constants of `types.h` in single
precision that is less than a ten thousandth (`printed_floats`). -/
namespace Aniot.P2
open C QueueSet

section Near
variable {K : Type} [CommRing K] [LinearOrder K] [IsStrictOrderedRing K] {r : Rounding K}

/-- A coefficient for each weight, as close to it as `ε`, weights that weigh, and no value or
sum of them, with its error, that reaches the bound up to which the arithmetic is right. -/
structure Approximates (bound unit high ε : K) (coefficients : List (Rounded r)) (weights : List K) :
    Prop where
  within : r.Within bound unit
  close : List.Forall₂ (fun c w => |Rounded.val c - w| ≤ ε) coefficients weights
  weighs : Weighs weights
  room : high + weights.length * (high * ε + 2 * unit) < bound

/-- Computed for the same sample, and as close as `error`. -/
structure Near (error : K) (f : Filtered (Rounded r)) (g : Filtered K) : Prop where
  sample : f.sample = g.sample
  value : |f.data.valueWeighted.val - g.data.valueWeighted| ≤ error

/-- The mean of some samples, the last of them its own, but for an error. -/
structure MeanWithin (weights : List K) (error : K) (w : List Sample) (f : Filtered (Rounded r)) :
    Prop where
  length : w.length = weights.length
  last : w.getLast? = some f.sample
  mean : |f.data.valueWeighted.val - ∑ k ∈ Finset.range weights.length,
    weights.getD k 0 * ((sampleValues w).reverse.getD k 0 : Int)| ≤ error

omit [IsStrictOrderedRing K] in
/-- What is close to a mean is it but for an error. -/
theorem MeanOf.within {weights : List K} {error : K} {w : List Sample} {f : Filtered (Rounded r)}
    {g : Filtered K} (h : MeanOf weights w g) (hnear : Near error f g) : MeanWithin weights error w f where
  length := h.length
  last := by rw [h.last, hnear.sample]
  mean := by
    rw [← h.mean]
    exact hnear.value

/-- What is paired with others has one of them. -/
theorem exists_paired {α β : Type} {R : α → β → Prop} {l : List α} {m : List β} (h : List.Forall₂ R l m)
    {x : α} (hx : x ∈ l) : ∃ y ∈ m, R x y := by
  induction h with
  | nil => cases hx
  | @cons a b l m hab _ ih =>
    rcases List.mem_cons.mp hx with rfl | hrest
    · exact ⟨b, List.mem_cons_self, hab⟩
    · obtain ⟨y, hy, hxy⟩ := ih hrest
      exact ⟨y, List.mem_cons_of_mem b hy, hxy⟩

variable {bound unit high ε : K} {coefficients : List (Rounded r)} {weights : List K}

theorem Weighs.sum_take_le (h : Weighs weights) (n : Nat) : (weights.take n).sum ≤ 1 := by
  have hsplit : (weights.take n).sum + (weights.drop n).sum = 1 := by
    rw [← List.sum_append, List.take_append_drop, h.sum]
  have hrest : 0 ≤ (weights.drop n).sum :=
    List.sum_nonneg fun c hc => h.nonneg c (List.mem_of_mem_drop hc)
  linarith

/-- One product more, in both arithmetics. -/
theorem Approximates.mulAdd (h : Approximates bound unit high ε coefficients weights) {x : Int}
    (hx : |(x : K)| ≤ high) {count : Nat} (hcount : count < weights.length)
    (hcoefficient : count < coefficients.length) {a : Rounded r} {a₀ : K}
    (ha : |a.val - a₀| ≤ count * (high * ε + 2 * unit)) (ha₀ : |a₀| ≤ high * (weights.take count).sum) :
    |(a + x * coefficients[count] : Rounded r).val - (a₀ + x * weights[count])| ≤
        (count + 1 : Nat) * (high * ε + 2 * unit) ∧
      |a₀ + x * weights[count]| ≤ high * (weights.take (count + 1)).sum := by
  have hclose : |coefficients[count].val - weights[count]| ≤ ε := h.close.get hcoefficient hcount
  have hweight : 0 ≤ weights[count] := h.weighs.nonneg _ (List.getElem_mem hcount)
  have hhigh : 0 ≤ high := (abs_nonneg _).trans hx
  have herror : 0 ≤ high * ε + 2 * unit := by
    have := h.within.nonneg
    have := mul_nonneg hhigh ((abs_nonneg _).trans hclose)
    linarith
  have hnext : (weights.take (count + 1)).sum = (weights.take count).sum + weights[count] :=
    List.sum_take_succ weights count hcount
  have hone : (weights.take (count + 1)).sum ≤ 1 := h.weighs.sum_take_le (count + 1)
  have htaken : 0 ≤ (weights.take count).sum :=
    List.sum_nonneg fun c hc => h.weighs.nonneg c (List.mem_of_mem_take hc)
  have hproduct : |(x : K) * weights[count]| ≤ high * weights[count] := by
    rw [abs_mul, abs_of_nonneg hweight]
    exact mul_le_mul_of_nonneg_right hx hweight
  have hsum : |a₀ + x * weights[count]| ≤ high * (weights.take (count + 1)).sum := by
    rw [hnext, mul_add]
    exact (abs_add_le _ _).trans (add_le_add ha₀ hproduct)
  have hroom : high + (count * (high * ε + 2 * unit) + (high * ε + 2 * unit)) < bound := by
    have hplaces : ((count + 1 : Nat) : K) ≤ weights.length := Nat.cast_le.mpr hcount
    have hall := mul_le_mul_of_nonneg_right hplaces herror
    have := h.room
    push_cast at hall
    linarith
  refine ⟨?_, hsum⟩
  push_cast
  rw [add_mul, one_mul]
  exact mulAdd_error h.within ha hclose hx
    (hproduct.trans (mul_le_of_le_one_right hhigh (by linarith)))
    (hsum.trans (mul_le_of_le_one_right hhigh hone)) hroom

/-- One loop of the mean, in both arithmetics. -/
theorem accumulate_near (h : Approximates bound unit high ε coefficients weights) {values : List Int}
    (hvalues : ∀ x ∈ values, |(x : K)| ≤ high) (start n : Nat) {count : Nat} {a : Rounded r} {a₀ : K}
    (hstop : start + n ≤ values.length) (hcount : count + n ≤ weights.length)
    (ha : |a.val - a₀| ≤ count * (high * ε + 2 * unit)) (ha₀ : |a₀| ≤ high * (weights.take count).sum) :
    ∃ m m₀, accumulate values coefficients start (start + n) (a, count) = some (m, count + n) ∧
      accumulate values weights start (start + n) (a₀, count) = some (m₀, count + n) ∧
      |m.val - m₀| ≤ (count + n : Nat) * (high * ε + 2 * unit) ∧
      |m₀| ≤ high * (weights.take (count + n)).sum := by
  unfold accumulate
  rw [Nat.add_sub_cancel_left]
  induction n generalizing start count a a₀ with
  | zero => exact ⟨a, a₀, rfl, rfl, ha, ha₀⟩
  | succ n ih =>
    have hlength := h.close.length_eq
    have hvalue : start < values.length := by omega
    have hweight : count < weights.length := by omega
    have hcoefficient : count < coefficients.length := by omega
    obtain ⟨herror, hbound⟩ :=
      h.mulAdd (hvalues _ (List.getElem_mem hvalue)) hweight hcoefficient ha ha₀
    obtain ⟨m, m₀, hm, hm₀, hlast⟩ := ih (start + 1) (by omega) (by omega) herror hbound
    rw [Nat.add_right_comm count 1 n, Nat.add_assoc count n 1] at hm hm₀ hlast
    refine ⟨m, m₀, ?_, ?_, hlast⟩
    · rw [List.range'_succ, List.foldlM_cons, List.getElem?_eq_getElem hvalue,
        List.getElem?_eq_getElem hcoefficient]
      exact hm
    · rw [List.range'_succ, List.foldlM_cons, List.getElem?_eq_getElem hvalue,
        List.getElem?_eq_getElem hweight]
      exact hm₀

/-- The mean, in both arithmetics. -/
theorem getWeightedMean_near (h : Approximates bound unit high ε coefficients weights)
    {v : CircularVector} (hvalues : ∀ x ∈ v.values, |(x : K)| ≤ high)
    (hmax : weights.length = v.aforoMax) :
    ∃ m m₀, getWeightedMean v coefficients = some m ∧ getWeightedMean v weights = some m₀ ∧
      |m.val - m₀| ≤ weights.length * (high * ε + 2 * unit) := by
  have hsize := v.size
  obtain ⟨rest, hrest⟩ := Nat.exists_eq_add_of_le v.inside.le
  have hstart : |(0 : Rounded r).val - (0 : K)| ≤ (0 : Nat) * (high * ε + 2 * unit) := by
    show |(0 : K) - 0| ≤ _
    rw [sub_zero, abs_zero, Nat.cast_zero, zero_mul]
  have hzero : |(0 : K)| ≤ high * (weights.take 0).sum := by
    rw [abs_zero, List.take_zero, List.sum_nil, mul_zero]
  obtain ⟨a, a₀, hfirst, hfirst₀, ha, ha₀⟩ :=
    accumulate_near h hvalues v.index rest (by omega) (by omega) hstart hzero
  obtain ⟨m, m₀, hsecond, hsecond₀, hm, _⟩ :=
    accumulate_near h hvalues 0 v.index (by omega) (by omega) ha ha₀
  rw [← hrest] at hfirst hfirst₀
  rw [Nat.zero_add v.index] at hsecond hsecond₀
  have hall : 0 + rest + v.index = weights.length := by omega
  rw [hall] at hm
  refine ⟨m, m₀, ?_, ?_, hm⟩
  · simp only [getWeightedMean, hfirst, hsecond, Option.bind_eq_bind, Option.bind_some, Option.pure_def]
  · simp only [getWeightedMean, hfirst₀, hsecond₀, Option.bind_eq_bind, Option.bind_some, Option.pure_def]

/-- One sample, in both arithmetics. -/
theorem filterSample_near (h : Approximates bound unit high ε coefficients weights) {taskName : String}
    {v v' : CircularVector} {s : Sample} {out : Option (Filtered (Rounded r))}
    (hvalues : ∀ x ∈ v.values, |(x : K)| ≤ high) (hs : |(s.data.value : K)| ≤ high)
    (hmax : weights.length = v.aforoMax) (hout : filterSample coefficients taskName v s = some (v', out)) :
    (∀ x ∈ v'.values, |(x : K)| ≤ high) ∧ ∃ out₀, filterSample weights taskName v s = some (v', out₀) ∧
      Option.Rel (Near (weights.length * (high * ε + 2 * unit))) out out₀ := by
  have hinserted : ∀ x ∈ (insertValue s.data.value v).values, |(x : K)| ≤ high := by
    intro x hx
    rcases List.mem_or_eq_of_mem_set hx with hold | rfl
    · exact hvalues x hold
    · exact hs
  unfold filterSample at hout ⊢
  by_cases hroom : (insertValue s.data.value v).aforo < (insertValue s.data.value v).aforoMax
  · simp only [if_pos hroom, Option.some.injEq, Prod.mk.injEq] at hout
    obtain ⟨rfl, rfl⟩ := hout
    exact ⟨hinserted, none, if_pos hroom, .none⟩
  · obtain ⟨m, m₀, hm, hm₀, hnear⟩ := getWeightedMean_near h hinserted hmax
    simp only [if_neg hroom, hm, Option.bind_eq_bind, Option.bind_some, Option.pure_def,
      Option.some.injEq, Prod.mk.injEq] at hout
    obtain ⟨rfl, rfl⟩ := hout
    simp only [if_neg hroom, hm₀, Option.bind_eq_bind, Option.bind_some, Option.pure_def]
    exact ⟨hinserted, _, rfl, .some ⟨rfl, hnear⟩⟩

/-- The filter on a list of samples, in both arithmetics. -/
theorem filterRun_near (h : Approximates bound unit high ε coefficients weights) {taskName : String}
    {v v' : CircularVector} {samples : List Sample} {outs : List (Filtered (Rounded r))}
    (hvalues : ∀ x ∈ v.values, |(x : K)| ≤ high) (hsamples : ∀ s ∈ samples, |(s.data.value : K)| ≤ high)
    (hmax : weights.length = v.aforoMax) (hout : filterRun coefficients taskName v samples = some (v', outs)) :
    ∃ outs₀, filterRun weights taskName v samples = some (v', outs₀) ∧
      List.Forall₂ (Near (weights.length * (high * ε + 2 * unit))) outs outs₀ := by
  induction samples generalizing v v' outs with
  | nil =>
    obtain ⟨rfl, rfl⟩ := Prod.mk.inj (Option.some.inj hout)
    exact ⟨[], rfl, .nil⟩
  | cons s rest ih =>
    simp only [filterRun, Option.bind_eq_bind, Option.bind_eq_some_iff, Option.pure_def,
      Option.some.injEq, Prod.mk.injEq] at hout
    obtain ⟨⟨first, out⟩, hfirst, ⟨others, outs'⟩, hrest, rfl, rfl⟩ := hout
    have hsize : first.aforoMax = v.aforoMax := (filterSample_cases hfirst).1
    obtain ⟨hvalues', out₀, hfirst₀, hnear⟩ :=
      filterSample_near h hvalues (hsamples s List.mem_cons_self) hmax hfirst
    obtain ⟨outs₀, hrest₀, hnears⟩ :=
      ih hvalues' (fun x hx => hsamples x (List.mem_cons_of_mem s hx)) (hmax.trans hsize.symm) hrest
    refine ⟨out₀.toList ++ outs₀, ?_, ?_⟩
    · simp only [filterRun, hfirst₀, hrest₀, Option.bind_eq_bind, Option.bind_some, Option.pure_def]
    · cases hnear with
      | some hvalue => exact .cons hvalue hnears
      | none => exact hnears

/-- In any run of the pipeline each value printed is the mean of consecutive samples its filter
task took, to within the error of so many products and sums. -/
theorem printed_near {cfg : Config (Rounded r)}
    (h : Approximates bound unit 99 ε cfg.weightingCoefficients weights)
    (actions : List (Action cfg.numberSensors)) (i : Fin cfg.numberSensors) :
    let s := (pipeline cfg).run actions
    let error := weights.length * (99 * ε + 2 * unit)
    ∀ f ∈ member s.printed i,
      (∃ w, w <:+: (s.node i).taken ∧ MeanWithin weights error w f) ∧
      -error ≤ f.data.valueWeighted.val ∧ f.data.valueWeighted.val ≤ 99 + error := by
  intro s error f hf
  have hnode : NodeInv cfg i (member s.printed i) (s.node i) := pipeline_inv actions i
  have hlength : cfg.weightingCoefficients.length = weights.length := h.close.length_eq
  have hwindow : 0 < weights.length := hlength ▸ cfg.window_pos
  have hrange : ∀ x ∈ (s.node i).taken, 0 ≤ x.data.value ∧ x.data.value ≤ 99 := fun x hx =>
    generated_in_range actions i x
      (hnode.samples.subset (List.mem_append_left _ (List.mem_append_left _ hx)))
  have hsamples : ∀ x ∈ (s.node i).taken, |(x.data.value : K)| ≤ 99 := by
    intro x hx
    obtain ⟨hlow, hhigh⟩ := hrange x hx
    rw [abs_of_nonneg (Int.cast_nonneg hlow)]
    exact_mod_cast hhigh
  have hinit : ∀ x ∈ (CircularVector.init _ cfg.window_pos).values, |(x : K)| ≤ 99 := by
    intro x hx
    rw [List.eq_of_mem_replicate hx, Int.cast_zero, abs_zero]
    exact Nat.ofNat_nonneg 99
  obtain ⟨outs₀, hrun, hnears⟩ := filterRun_near h hinit hsamples hlength.symm hnode.ran
  have hcomputed : f ∈ (s.node i).computed :=
    hnode.values.subset (List.mem_append_left _ (List.mem_append_left _ hf))
  obtain ⟨g, hg, hnear⟩ := exists_paired hnears hcomputed
  have hsame : CircularVector.init _ cfg.window_pos = .init weights.length hwindow := by
    simp only [hlength]
  rw [hsame] at hrun
  obtain ⟨w, hw, hmean⟩ := filterRun_means hwindow hrun g hg
  refine ⟨⟨w, hw, hmean.within hnear⟩, ?_⟩
  obtain ⟨hlow, hhigh⟩ : 0 ≤ g.data.valueWeighted ∧ g.data.valueWeighted ≤ 99 := by
    refine hmean.between h.weighs fun x hx => ?_
    obtain ⟨hlow, hhigh⟩ := hrange x (hw.subset hx)
    exact ⟨Int.cast_nonneg hlow, by exact_mod_cast hhigh⟩
  have hclose := abs_le.mp hnear.value
  constructor <;> linarith

end Near

/-! ### Single precision -/

/-- A constant of the source, a `double` first. -/
def floatConstant (fused : Bool) (x : Rat) : Rounded (float fused) := ⟨binary32.round (binary64.round x)⟩

/-- The settings of `types.h`, in `float`. -/
def typesHFloat (fused : Bool) (numberSensors : Nat) : Config (Rounded (float fused)) where
  numberSensors
  numElemSensorQueue := (typesH numberSensors).numElemSensorQueue
  numElemFilterQueue := (typesH numberSensors).numElemFilterQueue
  weightingCoefficients := (typesH numberSensors).weightingCoefficients.map (floatConstant fused)
  stadisticsInterval := (typesH numberSensors).stadisticsInterval
  controllerInterval := (typesH numberSensors).controllerInterval
  sensorQueue_pos := (typesH numberSensors).sensorQueue_pos
  filterQueue_pos := (typesH numberSensors).filterQueue_pos
  window_pos := by
    rw [List.length_map]
    exact (typesH numberSensors).window_pos

theorem floatConstant_error (fused : Bool) {x : Rat} (hx : |x| ≤ 45 / 100) :
    |(floatConstant fused x).val - x| ≤ 2 ^ (-25 : Int) := by
  have hdouble : |binary64.round x - x| ≤ 2 ^ (-55 : Int) :=
    FloatFormat.round_error (k := -2) (hx.trans_lt (by norm_num)) (by decide) rfl
  have hbelow : |binary64.round x| < 2 ^ (-2 + 1 : Int) := by
    rw [abs_le] at hx hdouble
    norm_num at hdouble ⊢
    rw [abs_lt]
    constructor <;> linarith
  have hsingle : |binary32.round (binary64.round x) - binary64.round x| ≤ 2 ^ (-26 : Int) :=
    FloatFormat.round_error hbelow (by decide) rfl
  show |binary32.round (binary64.round x) - x| ≤ 2 ^ (-25 : Int)
  rw [abs_le] at hdouble hsingle ⊢
  norm_num at hdouble hsingle ⊢
  constructor <;> linarith

theorem typesHFloat_approximates (fused : Bool) (numberSensors : Nat) :
    Approximates (2 ^ (7 : Int)) (2 ^ (-18 : Int)) 99 (2 ^ (-25 : Int))
      (typesHFloat fused numberSensors).weightingCoefficients (typesH numberSensors).weightingCoefficients where
  within := float_within fused (k := 6) (by decide) (by decide)
  close := by
    refine List.forall₂_map_left_iff.mpr (List.forall₂_same.mpr fun x hx => floatConstant_error fused ?_)
    simp only [typesH, List.mem_cons, List.not_mem_nil, or_false] at hx
    rcases hx with rfl | rfl | rfl | rfl | rfl <;> norm_num [abs_of_pos]
  weighs := typesH_weighs numberSensors
  room := by
    have hlength : (typesH numberSensors).weightingCoefficients.length = 5 := rfl
    rw [hlength]
    norm_num

/-- **In `float`, with products fused into their sums or not, each value printed in any run is the
mean that the weights of `types.h` give of consecutive samples its filter task took, the last of
them its own, to within a ten thousandth; and from 0 to 99 to within as much.** -/
theorem printed_floats (fused : Bool) (numberSensors : Nat) (actions : List (Action numberSensors))
    (i : Fin numberSensors) :
    let s := (pipeline (typesHFloat fused numberSensors)).run actions
    ∀ f ∈ member s.printed i,
      (∃ w, w <:+: (s.node i).taken ∧
        MeanWithin (typesH numberSensors).weightingCoefficients (1 / 10000) w f) ∧
      -(1 / 10000) ≤ f.data.valueWeighted.val ∧ f.data.valueWeighted.val ≤ 99 + 1 / 10000 := by
  intro s f hf
  obtain ⟨⟨w, hw, hmean⟩, hlow, hhigh⟩ :=
    printed_near (typesHFloat_approximates fused numberSensors) actions i f hf
  have herror : ((typesH numberSensors).weightingCoefficients.length : Rat) *
      (99 * 2 ^ (-25 : Int) + 2 * 2 ^ (-18 : Int)) ≤ 1 / 10000 := by
    have hlength : (typesH numberSensors).weightingCoefficients.length = 5 := rfl
    rw [hlength]
    norm_num
  exact ⟨⟨w, hw, {hmean with mean := hmean.mean.trans herror}⟩, (neg_le_neg herror).trans hlow,
    hhigh.trans (add_le_add le_rfl herror)⟩

end Aniot.P2
