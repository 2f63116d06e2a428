import Aniot.P2.Types

/-! The filter of one sensor: `insertValue`, `getWeightedMean` and what `filterTask`
does with a sample.

`CircularVector` carries the two facts its accesses rest on, so `insertValue` has to
establish them. The loops of `getWeightedMean` read both arrays through a bounds
check and yield nothing when one is missed; `getWeightedMean_total` says that with a
coefficient for every slot none is. Samples carry their place in the sequence their
sensor generated, and filtered values the sample they were computed for: marks for
the statements, which no code reads. -/
namespace Aniot.P2

/-- `CircularVector_t`, with one slot for each of `aforoMax` values and the index on a slot. -/
structure CircularVector where
  values : List Int
  index : Nat
  aforo : Nat
  aforoMax : Nat
  size : values.length = aforoMax
  inside : index < aforoMax

/-- The vector `init` builds. -/
def CircularVector.init (aforoMax : Nat) (h : 0 < aforoMax) : CircularVector where
  values := List.replicate aforoMax 0
  index := aforoMax - 1
  aforo := 0
  aforoMax
  size := List.length_replicate
  inside := Nat.sub_lt h Nat.one_pos

def insertValue (value : Int) (v : CircularVector) : CircularVector :=
  let index := if v.index = 0 then v.aforoMax else v.index
  { v with
    values := v.values.set (index - 1) value
    index := index - 1
    size := by rw [List.length_set, v.size]
    inside := by
      have := v.inside
      show (if v.index = 0 then v.aforoMax else v.index) - 1 < v.aforoMax
      split <;> omega }

section Mean
variable {R : Type} [Zero R] [Add R] [Mul R] [IntCast R]

/-- One loop of `getWeightedMean`: from `start` to below `stop`, with the running
mean and the coefficient counter. An access outside its array yields nothing. -/
def accumulate (values : List Int) (coefficients : List R) (start stop : Nat) (sums : R × Nat) :
    Option (R × Nat) :=
  (List.range' start (stop - start)).foldlM (fun sums i => do
    let value : Int ← values[i]?
    let coefficient : R ← coefficients[sums.2]?
    return (sums.1 + value * coefficient, sums.2 + 1)) sums

def getWeightedMean (v : CircularVector) (coefficients : List R) : Option R := do
  let sums ← accumulate v.values coefficients v.index v.aforoMax (0, 0)
  let sums ← accumulate v.values coefficients 0 v.index sums
  return sums.1

omit [Zero R] in
/-- A loop that stays inside both arrays ends, with the counter moved on by its length. -/
theorem accumulate_total (values : List Int) (coefficients : List R) (start stop : Nat)
    (sums : R × Nat) (hstart : start ≤ stop) (hstop : stop ≤ values.length)
    (hcount : sums.2 + (stop - start) ≤ coefficients.length) :
    ∃ mean, accumulate values coefficients start stop sums = some (mean, sums.2 + (stop - start)) := by
  obtain ⟨n, rfl⟩ := Nat.exists_eq_add_of_le hstart
  unfold accumulate
  rw [Nat.add_sub_cancel_left] at hcount ⊢
  clear hstart
  induction n generalizing start sums with
  | zero => exact ⟨sums.1, rfl⟩
  | succ n ih =>
    have hvalue : start < values.length := by omega
    have hcoefficient : sums.2 < coefficients.length := by omega
    obtain ⟨mean, hmean⟩ := ih (start + 1) (sums.1 + (values[start] : R) * coefficients[sums.2], sums.2 + 1)
      (by omega) (by simp only; omega)
    refine ⟨mean, ?_⟩
    rw [List.range'_succ, List.foldlM_cons, List.getElem?_eq_getElem hvalue,
      List.getElem?_eq_getElem hcoefficient]
    refine hmean.trans ?_
    rw [Nat.add_right_comm, Nat.add_assoc]

/-- With a coefficient for every slot the mean is there: no access leaves its array. -/
theorem getWeightedMean_total (v : CircularVector) (coefficients : List R)
    (h : coefficients.length = v.aforoMax) : ∃ mean, getWeightedMean v coefficients = some mean := by
  have hinside := v.inside
  obtain ⟨first, hfirst⟩ := accumulate_total v.values coefficients v.index v.aforoMax (0, 0)
    (by omega) (by rw [v.size]) (by simp only; omega)
  obtain ⟨second, hsecond⟩ := accumulate_total v.values coefficients 0 v.index
    (first, 0 + (v.aforoMax - v.index)) (by omega) (by rw [v.size]; omega) (by simp only; omega)
  refine ⟨second, ?_⟩
  simp only [getWeightedMean, hfirst, hsecond, Option.bind_eq_bind, Option.bind_some, Option.pure_def]

end Mean

/-! ### Samples and what the filter makes of them -/

/-- A sample and its place among those its sensor generated. -/
structure Sample where
  number : Nat
  data : SensorData
deriving DecidableEq

/-- A filtered value and the sample it was computed for. -/
structure Filtered (R : Type) where
  sample : Sample
  data : FilterData R

/-- The name is the task's, and value and timestamp are those of the one sample. -/
structure Filtered.Stamped {R : Type} (taskName : String) (f : Filtered R) : Prop where
  taskName : f.data.taskName = taskName
  value : f.data.valueOriginal = f.sample.data.value
  timestamp : f.data.timestamp = f.sample.data.timestamp

section Filter
variable {R : Type} [Zero R] [Add R] [Mul R] [IntCast R]
variable (coefficients : List R) (taskName : String)

/-- What `filterTask` does with a received sample, up to the send: the sensor's
vector after it, and the value to offer if there is one. -/
def filterSample (v : CircularVector) (s : Sample) : Option (CircularVector × Option (Filtered R)) :=
  let v := insertValue s.data.value v
  if v.aforo < v.aforoMax then
    some ({v with aforo := v.aforo + 1}, none)
  else do
    let weightedMean ← getWeightedMean v coefficients
    return (v, some ⟨s,
      { taskName
        valueWeighted := weightedMean
        valueOriginal := s.data.value
        timestamp := s.data.timestamp }⟩)

/-- The filter on a list of samples, with nothing else in sight. -/
def filterRun : CircularVector → List Sample → Option (CircularVector × List (Filtered R))
  | v, [] => some (v, [])
  | v, s :: rest => do
    let first ← filterSample coefficients taskName v s
    let others ← filterRun first.1 rest
    return (others.1, first.2.toList ++ others.2)

variable {coefficients}

/-- With a coefficient for every slot the filter takes any sample. -/
theorem filterSample_total (v : CircularVector) (s : Sample)
    (h : coefficients.length = v.aforoMax) :
    ∃ v' out, filterSample coefficients taskName v s = some (v', out) := by
  unfold filterSample
  by_cases hroom : (insertValue s.data.value v).aforo < (insertValue s.data.value v).aforoMax
  · exact ⟨_, _, if_pos hroom⟩
  · obtain ⟨mean, hmean⟩ := getWeightedMean_total (insertValue s.data.value v) coefficients h
    simp only [if_neg hroom, hmean, Option.bind_eq_bind, Option.bind_some, Option.pure_def]
    exact ⟨_, _, rfl⟩

variable {taskName}

/-- A sample either only fills the window, or yields one value stamped with it. -/
theorem filterSample_cases {v v' : CircularVector} {s : Sample} {out : Option (Filtered R)}
    (h : filterSample coefficients taskName v s = some (v', out)) :
    v'.aforoMax = v.aforoMax ∧
      ((v.aforo < v.aforoMax ∧ v'.aforo = v.aforo + 1 ∧ out = none) ∨
        (¬ v.aforo < v.aforoMax ∧ v'.aforo = v.aforo ∧
          ∃ f, out = some f ∧ f.sample = s ∧ f.Stamped taskName)) := by
  unfold filterSample at h
  by_cases hroom : (insertValue s.data.value v).aforo < (insertValue s.data.value v).aforoMax
  · simp only [if_pos hroom, Option.some.injEq, Prod.mk.injEq] at h
    obtain ⟨rfl, rfl⟩ := h
    exact ⟨rfl, .inl ⟨hroom, rfl, rfl⟩⟩
  · simp only [if_neg hroom, Option.bind_eq_bind, Option.bind_eq_some_iff, Option.pure_def,
      Option.some.injEq, Prod.mk.injEq] at h
    obtain ⟨mean, _, rfl, rfl⟩ := h
    exact ⟨rfl, .inr ⟨hroom, rfl, _, rfl, rfl, rfl, rfl, rfl⟩⟩

/-- One more sample at the end. -/
theorem filterRun_concat {v v' v'' : CircularVector} {samples : List Sample} {s : Sample}
    {outs : List (Filtered R)} {out : Option (Filtered R)}
    (hrun : filterRun coefficients taskName v samples = some (v', outs))
    (hlast : filterSample coefficients taskName v' s = some (v'', out)) :
    filterRun coefficients taskName v (samples ++ [s]) = some (v'', outs ++ out.toList) := by
  induction samples generalizing v outs with
  | nil =>
    simp only [filterRun, Option.some.injEq, Prod.mk.injEq] at hrun
    obtain ⟨rfl, rfl⟩ := hrun
    simp [filterRun, hlast]
  | cons first rest ih =>
    simp only [filterRun, Option.bind_eq_bind, Option.bind_eq_some_iff, Option.pure_def,
      Option.some.injEq, Prod.mk.injEq] at hrun
    obtain ⟨head, hhead, tail, htail, rfl, rfl⟩ := hrun
    have := ih htail
    simp [filterRun, hhead, this]

/-- Every value is stamped with a sample of the list, and the values follow the
order of their samples, no sample twice. -/
theorem filterRun_stamped {v v' : CircularVector} {samples : List Sample} {outs : List (Filtered R)}
    (h : filterRun coefficients taskName v samples = some (v', outs)) :
    (outs.map Filtered.sample).Sublist samples ∧ ∀ f ∈ outs, f.Stamped taskName := by
  induction samples generalizing v v' outs with
  | nil =>
    simp only [filterRun, Option.some.injEq, Prod.mk.injEq] at h
    obtain ⟨-, rfl⟩ := h
    exact ⟨List.Sublist.refl _, fun f hf => absurd hf List.not_mem_nil⟩
  | cons s rest ih =>
    simp only [filterRun, Option.bind_eq_bind, Option.bind_eq_some_iff, Option.pure_def,
      Option.some.injEq, Prod.mk.injEq] at h
    obtain ⟨head, hhead, tail, htail, -, rfl⟩ := h
    obtain ⟨hsub, hstamped⟩ := ih htail
    rcases (filterSample_cases hhead).2 with ⟨_, _, hnone⟩ | ⟨_, _, f, hsome, hsample, hf⟩
    · rw [hnone]
      exact ⟨hsub.cons s, hstamped⟩
    · rw [hsome]
      refine ⟨?_, ?_⟩
      · show (f.sample :: tail.2.map Filtered.sample).Sublist (s :: rest)
        rw [hsample]
        exact hsub.cons_cons s
      · intro g hg
        rcases List.mem_cons.mp hg with rfl | hg
        · exact hf
        · exact hstamped g hg

/-- The first samples fill the window and yield nothing; every later one yields a value. -/
theorem filterRun_length {v v' : CircularVector} {samples : List Sample} {outs : List (Filtered R)}
    (h : filterRun coefficients taskName v samples = some (v', outs)) (hv : v.aforo ≤ v.aforoMax) :
    outs.length = samples.length - (v.aforoMax - v.aforo) := by
  induction samples generalizing v v' outs with
  | nil =>
    simp only [filterRun, Option.some.injEq, Prod.mk.injEq] at h
    obtain ⟨-, rfl⟩ := h
    simp
  | cons s rest ih =>
    simp only [filterRun, Option.bind_eq_bind, Option.bind_eq_some_iff, Option.pure_def,
      Option.some.injEq, Prod.mk.injEq] at h
    obtain ⟨head, hhead, tail, htail, -, rfl⟩ := h
    obtain ⟨hmax, ⟨hroom, haforo, hnone⟩ | ⟨hfull, haforo, f, hsome, _⟩⟩ := filterSample_cases hhead
    · rw [hnone, Option.toList_none, List.nil_append, ih htail (by omega), List.length_cons]
      omega
    · rw [hsome, Option.toList_some, List.length_append, ih htail (by omega), List.length_singleton,
        List.length_cons]
      omega

end Filter

end Aniot.P2
