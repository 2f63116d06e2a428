import Aniot.C.Arith
import Aniot.C.Text
import Aniot.P2.Filter

/-! The arrays in which `init` and `app_main` of `p2/src/main.c` build names.

A name is put together from its prefixes and the number of its sensor, which `snprintf`
first writes to an array of twenty with a bound of one more. An `int` has ten digits at
most, so that the bound never cuts and the array is never left, whatever the arrays held
before (`initName_names`, `startSensorName_names`); and as two numbers are written alike
only if they are the same, so are two names (`filterTaskName_inj`). So the whole of both
loops leaves every sensor the names that the other models take as given
(`names_built`). -/
namespace Aniot.P2.Names
open C

def dimArrayName : Nat := 50
def dimArrayNumber : Nat := 20
def prefixReadTask : String := "read"
def prefixControllerTask : String := "controller"

/-- The name `app_main` builds for a sensor's reading task. -/
def readTaskName (i : Nat) : String := prefixReadTask ++ "_" ++ prefixSensor ++ "_" ++ toString i

/-- The arrays, and the names `xTaskCreate` was given. -/
structure Arrays where
  sensorName : Buffer dimArrayName
  numeroSensor : Buffer dimArrayNumber
  taskName : Buffer dimArrayName
  numeroEnString : Buffer 20
  name : Nat → Buffer dimArrayName
  filterTaskName : Nat → Buffer dimArrayName
  taskNames : List (List UInt8)

/-- An empty name, its parts one after the other, and the number. -/
def buildName {size digits : Nat} (name : Buffer size) (numero : Buffer digits) (parts : List String)
    (bound i : Nat) : Option (Buffer size × Buffer digits) := do
  let name ← strcpy name (cString "")
  let name ← (parts.map cString).foldlM strcat name
  let numero ← snprintf numero bound (cString (toString i))
  let text ← numero.text
  let name ← strcat name text
  return (name, numero)

/-- The name in one round of `init`. -/
def initName (indexSensor : Nat) (a : Arrays) : Option Arrays := do
  let built ← buildName a.sensorName a.numeroSensor [prefixSensor, "_"] 21 indexSensor
  let text ← built.1.text
  let name ← strcpy (a.name indexSensor) text
  return {a with
    sensorName := built.1
    numeroSensor := built.2
    name := fun i => if i = indexSensor then name else a.name i}

/-- The names in one round of `app_main`, for a sensor with both its queues. -/
def startSensorName (i : Nat) (a : Arrays) : Option Arrays := do
  let built ← buildName a.taskName a.numeroEnString [prefixReadTask, "_", prefixSensor, "_"] 21 i
  let readTask ← built.1.text
  let built ← buildName built.1 built.2 [prefixFilterTask, "_", prefixSensor, "_"] 21 i
  let filterTask ← built.1.text
  let filterTaskName ← strcpy (a.filterTaskName i) filterTask
  return {a with
    taskName := built.1
    numeroEnString := built.2
    filterTaskName := fun j => if j = i then filterTaskName else a.filterTaskName j
    taskNames := a.taskNames ++ [readTask, filterTask]}

def initNames (numberSensors : Nat) (a : Arrays) : Option Arrays :=
  (List.range numberSensors).foldlM (fun a indexSensor => initName indexSensor a) a

/-- The names of `app_main`, with the sensors that got both their queues. -/
def appMainNames (numberSensors : Nat) (created : Nat → Bool) (a : Arrays) : Option Arrays := do
  let a ← initNames numberSensors a
  let a ← (List.range numberSensors).foldlM
    (fun a i => if created i then startSensorName i a else some a) a
  let taskName ← strcpy a.taskName (cString "")
  let taskName ← strcat taskName (cString prefixControllerTask)
  let controllerTask ← taskName.text
  return {a with taskName, taskNames := a.taskNames ++ [controllerTask]}

/-- The copy `filterTask` makes for a value. -/
def stampName (i : Nat) (a : Arrays) (taskName : Buffer dimArrayName) : Option (Buffer dimArrayName) := do
  let text ← (a.filterTaskName i).text
  strcpy taskName text

/-! ### The text of a name -/

theorem number_length {i : Nat} (hi : i ≤ intMax) : (cString (toString i)).length ≤ 10 := by
  unfold intMax at hi
  exact (decimal_length_le_iff (by decide)).mpr (by omega)

/-- Every name begins empty, whatever stood there. -/
theorem cleared {size : Nat} (name : Buffer size) (h : 0 < size) :
    ∃ b, strcpy name (cString "") = some b ∧ b.text = some [] :=
  strcpy_text name List.not_mem_nil h

/-- A name is its parts and its number, with room for it and for the number alone. -/
theorem buildName_text {size digits : Nat} (name : Buffer size) (numero : Buffer digits)
    {parts : List String} (hparts : ∀ part ∈ parts, 0 ∉ cString part) (bound : Nat) {i : Nat}
    (hi : i ≤ intMax) (hbound : 10 < bound) (hdigits : 10 < digits)
    (h : (parts.map cString).flatten.length + 10 < size) :
    ∃ built, buildName name numero parts bound i = some built ∧
      built.1.text = some ((parts.map cString).flatten ++ cString (toString i)) := by
  have hnumber := number_length hi
  obtain ⟨empty, hempty, htext⟩ := cleared name (by omega)
  obtain ⟨joined, hjoined, htext⟩ := strcats_text htext
    (List.forall_mem_map.mpr hparts) (by rw [List.length_nil]; omega)
  obtain ⟨number, hsnprintf, hdigits⟩ :=
    snprintf_text numero (decimal_no_nul i) (lt_of_le_of_lt hnumber hbound) (by omega)
  obtain ⟨last, hlast, htext⟩ := strcat_text htext (decimal_no_nul i)
    (by rw [List.nil_append]; omega)
  refine ⟨(last, number), ?_, htext⟩
  simp only [buildName, hempty, hjoined, hsnprintf, hdigits, hlast, Option.bind_eq_bind,
    Option.bind_some, Option.pure_def]

theorem cString_sensorName (i : Nat) :
    ([prefixSensor, "_"].map cString).flatten ++ cString (toString i) = cString (sensorName i) := by
  simp only [sensorName, cString_append, List.map_cons, List.map_nil, List.flatten_cons,
    List.flatten_nil, List.append_nil]

theorem cString_readTaskName (i : Nat) :
    ([prefixReadTask, "_", prefixSensor, "_"].map cString).flatten ++ cString (toString i) =
      cString (readTaskName i) := by
  simp only [readTaskName, cString_append, List.map_cons, List.map_nil, List.flatten_cons,
    List.flatten_nil, List.append_nil, List.append_assoc]

theorem cString_filterTaskName (i : Nat) :
    ([prefixFilterTask, "_", prefixSensor, "_"].map cString).flatten ++ cString (toString i) =
      cString (filterTaskName i) := by
  simp only [filterTaskName, cString_append, List.map_cons, List.map_nil, List.flatten_cons,
    List.flatten_nil, List.append_nil, List.append_assoc]

/-- The text of a name can be copied to another array of names. -/
theorem copied_text {src : Buffer dimArrayName} {s : List UInt8} (hsrc : src.text = some s)
    (dst : Buffer dimArrayName) : ∃ b, strcpy dst s = some b ∧ b.text = some s := by
  obtain ⟨hs, rest, hbytes⟩ := text_eq_some_iff.mp hsrc
  have hlength := src.length_eq
  rw [hbytes, List.length_append, List.length_cons] at hlength
  exact strcpy_text dst hs (by omega)

/-- A round of `init` stays inside the arrays and leaves the sensor its name. -/
theorem initName_names (a : Arrays) {i : Nat} (hi : i ≤ intMax) :
    ∃ a', initName i a = some a' ∧ (a'.name i).text = some (cString (sensorName i)) ∧
      (∀ j, j ≠ i → a'.name j = a.name j) ∧ a'.filterTaskName = a.filterTaskName ∧
      a'.taskNames = a.taskNames := by
  have hparts : ∀ part ∈ [prefixSensor, "_"], 0 ∉ cString part := by decide
  obtain ⟨built, hbuilt, htext⟩ := buildName_text a.sensorName a.numeroSensor hparts 21 hi
    (by decide) (by decide) (by decide)
  rw [cString_sensorName] at htext
  obtain ⟨name, hname, hcopied⟩ := copied_text htext (a.name i)
  have hround : initName i a = some {a with
      sensorName := built.1
      numeroSensor := built.2
      name := fun j => if j = i then name else a.name j} := by
    simp only [initName, hbuilt, htext, hname, Option.bind_eq_bind, Option.bind_some, Option.pure_def]
  refine ⟨_, hround, ?_, fun j hj => if_neg hj, rfl, rfl⟩
  rw [← hcopied]
  exact congrArg Buffer.text (if_pos rfl)

/-- A round of `app_main` leaves the sensor and its tasks their names. -/
theorem startSensorName_names (a : Arrays) {i : Nat} (hi : i ≤ intMax) :
    ∃ a', startSensorName i a = some a' ∧
      (a'.filterTaskName i).text = some (cString (filterTaskName i)) ∧
      (∀ j, j ≠ i → a'.filterTaskName j = a.filterTaskName j) ∧ a'.name = a.name ∧
      a'.taskNames = a.taskNames ++ [cString (readTaskName i), cString (filterTaskName i)] := by
  have hread : ∀ part ∈ [prefixReadTask, "_", prefixSensor, "_"], 0 ∉ cString part := by decide
  have hfilter : ∀ part ∈ [prefixFilterTask, "_", prefixSensor, "_"], 0 ∉ cString part := by decide
  obtain ⟨first, hfirst, hreadTask⟩ := buildName_text a.taskName a.numeroEnString hread 21 hi
    (by decide) (by decide) (by decide)
  obtain ⟨second, hsecond, hfilterTask⟩ := buildName_text first.1 first.2 hfilter 21 hi
    (by decide) (by decide) (by decide)
  rw [cString_readTaskName] at hreadTask
  rw [cString_filterTaskName] at hfilterTask
  obtain ⟨name, hname, hcopied⟩ := copied_text hfilterTask (a.filterTaskName i)
  have hround : startSensorName i a = some {a with
      taskName := second.1
      numeroEnString := second.2
      filterTaskName := fun j => if j = i then name else a.filterTaskName j
      taskNames := a.taskNames ++ [cString (readTaskName i), cString (filterTaskName i)]} := by
    simp only [startSensorName, hfirst, hreadTask, hsecond, hfilterTask, hname, Option.bind_eq_bind,
      Option.bind_some, Option.pure_def]
  refine ⟨_, hround, ?_, fun j hj => if_neg hj, rfl, rfl⟩
  rw [← hcopied]
  exact congrArg Buffer.text (if_pos rfl)

theorem stampName_text {a : Arrays} {i : Nat} {s : List UInt8} (h : (a.filterTaskName i).text = some s)
    (taskName : Buffer dimArrayName) : ∃ b, stampName i a taskName = some b ∧ b.text = some s := by
  obtain ⟨b, hb, htext⟩ := copied_text h taskName
  refine ⟨b, ?_, htext⟩
  rw [stampName, h]
  exact hb

/-! ### Names of different sensors -/

theorem filterTaskName_inj {i j : Nat} (h : cString (filterTaskName i) = cString (filterTaskName j)) :
    i = j := by
  rw [← cString_filterTaskName, ← cString_filterTaskName] at h
  have hnumber : toString i = toString j :=
    cString_inj (fun c hc => lt_of_le_of_lt (digit_of_mem hc).2 (by decide))
      (fun c hc => lt_of_le_of_lt (digit_of_mem hc).2 (by decide)) (List.append_cancel_left h)
  have hdigits : Nat.toDigits 10 i = Nat.toDigits 10 j := by
    rw [← Nat.toList_repr, ← Nat.toList_repr]
    exact congrArg String.toList hnumber
  rw [← Nat.ofDigitChars_ten_toDigits (n := i), hdigits, Nat.ofDigitChars_ten_toDigits]

/-- Values that carry the same name are one sensor's. -/
theorem stamped_inj {R : Type} {f g : Filtered R} {i j : Nat} (hf : f.Stamped (filterTaskName i))
    (hg : g.Stamped (filterTaskName j)) (h : f.data.taskName = g.data.taskName) : i = j := by
  rw [hf.taskName, hg.taskName] at h
  exact filterTaskName_inj (congrArg cString h)

/-! ### The whole of both loops -/

/-- What each round of a loop hands on to the next, the loop ends with. -/
theorem foldlM_range {σ : Type} {f : σ → Nat → Option σ} (Inv : Nat → σ → Prop) {n : Nat}
    (hstep : ∀ i < n, ∀ s, Inv i s → ∃ s', f s i = some s' ∧ Inv (i + 1) s') {s : σ} (h : Inv 0 s) :
    ∃ s', (List.range n).foldlM f s = some s' ∧ Inv n s' := by
  induction n with
  | zero => exact ⟨s, rfl, h⟩
  | succ n ih =>
    obtain ⟨s', hs', hinv⟩ := ih fun i hi => hstep i (Nat.lt_succ_of_lt hi)
    obtain ⟨s'', hs'', hlast⟩ := hstep n (Nat.lt_succ_self n) s' hinv
    refine ⟨s'', ?_, hlast⟩
    rw [List.range_succ, List.foldlM_append, hs', Option.bind_eq_bind, Option.bind_some,
      List.foldlM_cons, hs'']
    rfl

theorem initNames_names {numberSensors : Nat} (hn : numberSensors ≤ intMax) (a : Arrays) :
    ∃ a', initNames numberSensors a = some a' ∧ a'.taskNames = a.taskNames ∧
      ∀ i < numberSensors, (a'.name i).text = some (cString (sensorName i)) := by
  refine foldlM_range
    (fun n (t : Arrays) => t.taskNames = a.taskNames ∧
      ∀ i < n, (t.name i).text = some (cString (sensorName i)))
    (fun i hi t ⟨hnames, hearlier⟩ => ?_) ⟨rfl, fun i hi => absurd hi (Nat.not_lt_zero i)⟩
  obtain ⟨t', ht', hname, hothers, -, hsame⟩ := initName_names t (i := i) (by omega)
  refine ⟨t', ht', hsame.trans hnames, fun j hj => ?_⟩
  rcases Nat.lt_succ_iff_lt_or_eq.mp hj with hj | rfl
  · rw [hothers j (Nat.ne_of_lt hj)]
    exact hearlier j hj
  · exact hname

/-- The names of the two tasks of each sensor that got both its queues, in order. -/
def taskNamesOf (created : Nat → Bool) (numberSensors : Nat) : List (List UInt8) :=
  (List.range numberSensors).flatMap fun i =>
    if created i then [cString (readTaskName i), cString (filterTaskName i)] else []

theorem startNames_names {numberSensors : Nat} (hn : numberSensors ≤ intMax) (created : Nat → Bool)
    (a : Arrays) :
    ∃ a', (List.range numberSensors).foldlM
        (fun a i => if created i then startSensorName i a else some a) a = some a' ∧
      a'.name = a.name ∧ a'.taskNames = a.taskNames ++ taskNamesOf created numberSensors ∧
      ∀ i < numberSensors, created i = true →
        (a'.filterTaskName i).text = some (cString (filterTaskName i)) := by
  refine foldlM_range
    (fun n (t : Arrays) => t.name = a.name ∧
      t.taskNames = a.taskNames ++ taskNamesOf created n ∧
      ∀ i < n, created i = true → (t.filterTaskName i).text = some (cString (filterTaskName i)))
    (fun i hi t ⟨hname, hnames, hearlier⟩ => ?_)
    ⟨rfl, (List.append_nil _).symm, fun i hi => absurd hi (Nat.not_lt_zero i)⟩
  have hnext : taskNamesOf created (i + 1) = taskNamesOf created i ++
      if created i then [cString (readTaskName i), cString (filterTaskName i)] else [] := by
    rw [taskNamesOf, List.range_succ, List.flatMap_append, List.flatMap_singleton]
    rfl
  cases hcreated : created i with
  | true =>
    obtain ⟨t', ht', hfilter, hothers, hsame, htasks⟩ := startSensorName_names t (i := i) (by omega)
    refine ⟨t', ht', hsame.trans hname, ?_, fun j hj hj' => ?_⟩
    · rw [htasks, hnames, hnext, if_pos hcreated, List.append_assoc]
    · rcases Nat.lt_succ_iff_lt_or_eq.mp hj with hj | rfl
      · rw [hothers j (Nat.ne_of_lt hj)]
        exact hearlier j hj hj'
      · exact hfilter
  | false =>
    refine ⟨t, rfl, hname, ?_, fun j hj hj' => ?_⟩
    · rw [hnames, hnext, hcreated, if_neg Bool.false_ne_true, List.append_nil]
    · rcases Nat.lt_succ_iff_lt_or_eq.mp hj with hj | rfl
      · exact hearlier j hj hj'
      · rw [hcreated] at hj'
        cases hj'

/-- Whatever the arrays hold and whichever queues are there, no name leaves its array and every
sensor and task gets its own. -/
theorem names_built {numberSensors : Nat} (hn : numberSensors ≤ intMax) (created : Nat → Bool)
    (a : Arrays) :
    ∃ a', appMainNames numberSensors created a = some a' ∧
      (∀ i < numberSensors, (a'.name i).text = some (cString (sensorName i))) ∧
      (∀ i < numberSensors, created i = true →
        (a'.filterTaskName i).text = some (cString (filterTaskName i))) ∧
      a'.taskNames = a.taskNames ++ taskNamesOf created numberSensors ++
        [cString prefixControllerTask] := by
  obtain ⟨first, hfirst, htasks, hname⟩ := initNames_names hn a
  obtain ⟨second, hsecond, hsame, hnames, hfilter⟩ := startNames_names hn created first
  obtain ⟨empty, hempty, htext⟩ := cleared second.taskName (by decide)
  obtain ⟨last, hlast, htext⟩ : ∃ b, strcat empty (cString prefixControllerTask) = some b ∧
      b.text = some ([] ++ cString prefixControllerTask) := strcat_text htext (by decide) (by decide)
  rw [List.nil_append] at htext
  refine ⟨{second with
    taskName := last
    taskNames := second.taskNames ++ [cString prefixControllerTask]}, ?_, ?_, hfilter, ?_⟩
  · simp only [appMainNames, hfirst, hsecond, hempty, hlast, htext, Option.bind_eq_bind,
      Option.bind_some, Option.pure_def]
  · intro i hi
    rw [← hname i hi]
    exact congrArg (fun names => (names i).text) hsame
  · rw [← htasks, ← hnames]

/-- **Whatever the arrays hold, no write for the names of a sensor leaves its array, each name is
there with its NUL, and a value's name is no other sensor's.** -/
theorem names_fit (a : Arrays) (i : Nat) (hi : i ≤ intMax) (taskName : Buffer dimArrayName) :
    (∃ a', initName i a = some a' ∧ (a'.name i).text = some (cString (sensorName i))) ∧
    (∃ a' stamped, startSensorName i a = some a' ∧
      a'.taskNames = a.taskNames ++ [cString (readTaskName i), cString (filterTaskName i)] ∧
      (a'.filterTaskName i).text = some (cString (filterTaskName i)) ∧
      stampName i a' taskName = some stamped ∧
      stamped.text = some (cString (filterTaskName i))) ∧
    ∀ j, cString (filterTaskName j) = cString (filterTaskName i) → j = i := by
  obtain ⟨named, hnamed, hname, -⟩ := initName_names a hi
  obtain ⟨started, hstarted, hfilter, -, -, htasks⟩ := startSensorName_names a hi
  obtain ⟨stamped, hstamped, htext⟩ := stampName_text hfilter taskName
  exact ⟨⟨named, hnamed, hname⟩, ⟨started, stamped, hstarted, htasks, hfilter, hstamped, htext⟩,
    fun j h => filterTaskName_inj h⟩

/-- An array without a NUL in it. -/
def fullOf (size : Nat) : Buffer size := ⟨List.replicate size 65, List.length_replicate⟩

/-- The largest number, in arrays full of letters. -/
theorem names_fit_intMax :
    let a : Arrays := ⟨fullOf _, fullOf _, fullOf _, fullOf _, fun _ => fullOf _, fun _ => fullOf _, []⟩
    (∃ a', initName intMax a = some a' ∧ (a'.name intMax).text = some (cString (sensorName intMax))) ∧
    (∃ a' stamped, startSensorName intMax a = some a' ∧
      a'.taskNames = a.taskNames ++ [cString (readTaskName intMax), cString (filterTaskName intMax)] ∧
      (a'.filterTaskName intMax).text = some (cString (filterTaskName intMax)) ∧
      stampName intMax a' (fullOf _) = some stamped ∧
      stamped.text = some (cString (filterTaskName intMax))) ∧
    ∀ j, cString (filterTaskName j) = cString (filterTaskName intMax) → j = intMax :=
  names_fit ⟨fullOf _, fullOf _, fullOf _, fullOf _, fun _ => fullOf _, fun _ => fullOf _, []⟩ intMax
    (Nat.le_refl _) (fullOf _)

end Aniot.P2.Names
