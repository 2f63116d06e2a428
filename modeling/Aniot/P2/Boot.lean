import Aniot.Machine.Launch
import Aniot.P2.Filter

/-! How `app_main` of `p2/src/main.c` builds what the tasks use, while they already run.

`appMain` is `init` and `app_main` as a list of assignments and task creations, for
any outcome of the queue creations; the tasks are what each of their stretches reads.
`taskName` and `numeroEnString` are `app_main`'s own, so a name is copied from them as
it was just built. What the kernel notes of `xQueueAddToSet` is a cell too: `member i`
is read by a send to filter queue `i`. -/
namespace Aniot.P2.Boot
open Launch
variable {R : Type}

/-- The fields of `Sensor_t`. -/
inductive Field where
  | name
  | readingInterval
  | sensorQueue
  | filterQueue
  | filterTaskName
  | filterCount
deriving DecidableEq

inductive Cell where
  | sensors (i : Nat) (f : Field)
  | sensorQueues (i : Nat)
  | filterQueues (i : Nat)
  | controllerQueues
  | member (i : Nat)
deriving DecidableEq

inductive Value where
  | text (s : String)
  | interval (ms : Nat)
  /-- A handle, or NULL. -/
  | handle (created : Bool)
  | vector (v : CircularVector)
  | added

inductive Task where
  | sensorTask (i : Nat)
  | filterTask (i : Nat)
  | controllerTask
deriving DecidableEq

inductive Pc where
  | entry
  | generate
  | send
  | receive
  | delay
  | select
  | visit (i : Nat)
deriving DecidableEq

/-- What a task's queue operation comes back with; a filter's window may still be filling. -/
inductive Answer where
  | failed
  | filling
  | done
deriving DecidableEq

/-- What `sdkconfig` may set: `CONFIG_READING_INTERVAL_SENSOR_0` and `_1`. -/
structure Sdkconfig where
  readingIntervalSensor0 : Option Nat
  readingIntervalSensor1 : Option Nat

/-- Which of the queue creations succeed. -/
structure Created where
  controllerQueues : Bool
  sensorQueue : Nat → Bool
  filterQueue : Nat → Bool

def readInterval : Nat := 1 * 1000

/-! ### The program -/

def init (cfg : Config R) : List (Stmt Cell Value Task) :=
  (List.range cfg.numberSensors).flatMap fun indexSensor =>
    [.assign (.sensors indexSensor .name) (.text (sensorName indexSensor)),
     .assign (.sensors indexSensor .filterCount)
      (.vector (.init cfg.weightingCoefficients.length cfg.window_pos))]

/-- `xQueueAddToSet`, which needs both the queue and the set. -/
def xQueueAddToSet (created : Created) (i : Nat) : List (Stmt Cell Value Task) :=
  if created.filterQueue i && created.controllerQueues then [.assign (.member i) .added] else []

/-- One round of the loop in which `app_main` creates the queues and their tasks. -/
def startSensor (created : Created) (i : Nat) : List (Stmt Cell Value Task) :=
  [.assign (.sensorQueues i) (.handle (created.sensorQueue i)),
   .assign (.filterQueues i) (.handle (created.filterQueue i))] ++
  xQueueAddToSet created i ++
  if created.sensorQueue i && created.filterQueue i then
    [.assign (.sensors i .sensorQueue) (.handle true),
     .assign (.sensors i .filterQueue) (.handle true),
     .launch (.sensorTask i),
     .assign (.sensors i .filterTaskName) (.text (filterTaskName i)),
     .launch (.filterTask i)]
  else []

def appMain (cfg : Config R) (sdk : Sdkconfig) (created : Created) : List (Stmt Cell Value Task) :=
  init cfg ++
  [.assign (.sensors 0 .readingInterval) (.interval (sdk.readingIntervalSensor0.getD readInterval)),
   .assign (.sensors 1 .readingInterval) (.interval (sdk.readingIntervalSensor1.getD readInterval)),
   .assign .controllerQueues (.handle created.controllerQueues)] ++
  (List.range cfg.numberSensors).flatMap (startSensor created) ++
  [.launch .controllerTask]

/-! ### The tasks -/

/-- The arrays have `NUMBER_SENSORS` places. -/
def inBounds (cfg : Config R) : Cell → Bool
  | .sensors i _ => i < cfg.numberSensors
  | .sensorQueues i => i < cfg.numberSensors
  | .filterQueues i => i < cfg.numberSensors
  | .controllerQueues => true
  | .member _ => true

def sensorTask (i : Nat) : Pc → Answer → List Cell × Pc
  | .entry, _ => ([.sensors i .sensorQueue], .generate)
  | .generate, _ => ([.sensors i .name, .sensors i .readingInterval], .send)
  | .send, .failed => ([.sensors i .name], .delay)
  | .send, _ => ([], .delay)
  | _, _ => ([.sensors i .readingInterval], .generate)

def filterTask (i : Nat) : Pc → Answer → List Cell × Pc
  | .entry, _ => ([.sensors i .sensorQueue, .sensors i .filterQueue], .receive)
  | .receive, .failed => ([.sensors i .name], .delay)
  | .receive, .filling => ([.sensors i .filterCount, .sensors i .name], .delay)
  | .receive, .done =>
    ([.sensors i .filterCount, .sensors i .name, .sensors i .filterTaskName], .send)
  | .send, .failed => ([.member i, .sensors i .name], .delay)
  | .send, _ => ([.member i], .delay)
  | _, _ => ([.sensors i .readingInterval], .receive)

/-- Place `i` of the loop over the sensors reads the name only when queue `i` was the
selected one and had an item. -/
def controllerTask (cfg : Config R) : Pc → Answer → List Cell × Pc
  | .visit i, answer =>
    if i < cfg.numberSensors then
      (.filterQueues i :: (if answer = .done then [.sensors i .name] else []), .visit (i + 1))
    else ([], .select)
  | _, _ => ([.controllerQueues], .visit 0)

def tasks (cfg : Config R) : Tasks Cell Task Pc Answer where
  valid := inBounds cfg
  entry
    | .controllerTask => .select
    | _ => .entry
  code
    | .sensorTask i => sensorTask i
    | .filterTask i => filterTask i
    | .controllerTask => controllerTask cfg

/-- `app_main` and the tasks it creates. -/
def boot (cfg : Config R) (sdk : Sdkconfig) (created : Created) :
    Machine (State Cell Value Task Pc) (Action Task Answer) :=
  machine (tasks cfg) (appMain cfg sdk created)

/-- In no interleaving does `app_main` write outside an array, or a task read what has
not been assigned or send to a queue that is not in the set. That `xQueueCreateSet` has made
the set is presupposed; the queues of the sensors may be there or not. -/
def InitialisesFirst (cfg : Config R) : Prop :=
  ∀ (sdk : Sdkconfig) (created : Created), created.controllerQueues = true →
    ∀ actions, ((boot cfg sdk created).run actions).faults = []

/-- All that each task ever reads. -/
def reads (cfg : Config R) : Task → List Cell
  | .sensorTask i => [.sensors i .sensorQueue, .sensors i .name, .sensors i .readingInterval]
  | .filterTask i =>
    [.sensors i .sensorQueue, .sensors i .filterQueue, .sensors i .filterCount, .sensors i .name,
     .sensors i .filterTaskName, .sensors i .readingInterval, .member i]
  | .controllerTask =>
    .controllerQueues :: (List.range cfg.numberSensors).flatMap fun i =>
      [.filterQueues i, .sensors i .name]

theorem code_reads (cfg : Config R) (t : Task) (pc : Pc) (answer : Answer) :
    ∀ c ∈ ((tasks cfg).code t pc answer).1, c ∈ reads cfg t := by
  cases t with
  | sensorTask i => cases pc <;> cases answer <;> simp [tasks, sensorTask, reads]
  | filterTask i => cases pc <;> cases answer <;> simp [tasks, filterTask, reads]
  | controllerTask =>
    cases pc with
    | visit i =>
      intro c hc
      simp only [tasks, controllerTask] at hc
      split at hc
      · next hi =>
        refine List.mem_cons_of_mem _ (List.mem_flatMap.mpr ⟨i, List.mem_range.mpr hi, ?_⟩)
        split at hc
        · exact hc
        · exact List.mem_cons.mpr (.inl (List.mem_singleton.mp hc))
      · exact absurd hc List.not_mem_nil
    | _ => simp [tasks, controllerTask, reads]

/-! ### Initialised before use -/

theorem init_prepared (cfg : Config R) (assigned : List Cell) :
    prepared (tasks cfg) (reads cfg) assigned (init cfg) = true := by
  refine prepared_flatMap fun i hi => ?_
  have hi := List.mem_range.mp hi
  simp [prepared, tasks, inBounds, hi]

theorem init_cells (cfg : Config R) {i : Nat} (hi : i < cfg.numberSensors) :
    .sensors i .name ∈ cells (init cfg) ∧ .sensors i .filterCount ∈ cells (init cfg) := by
  have hmem : ∀ stmt, stmt ∈ init cfg ↔ ∃ j < cfg.numberSensors,
      stmt = .assign (.sensors j .name) (.text (sensorName j)) ∨
      stmt = .assign (.sensors j .filterCount)
        (.vector (.init cfg.weightingCoefficients.length cfg.window_pos)) := by
    simp [init]
  exact ⟨mem_cells ((hmem _).mpr ⟨i, hi, .inl rfl⟩), mem_cells ((hmem _).mpr ⟨i, hi, .inr rfl⟩)⟩

/-- Whatever creations fail, a round of the loop starts the sensor's tasks after what
they read, given what `init` and the lines before the loop assign. -/
theorem startSensor_prepared (cfg : Config R) {created : Created}
    (hset : created.controllerQueues = true) {assigned : List Cell} {i : Nat}
    (hi : i < cfg.numberSensors) (hname : .sensors i .name ∈ assigned)
    (hcount : .sensors i .filterCount ∈ assigned)
    (hinterval : .sensors i .readingInterval ∈ assigned) :
    prepared (tasks cfg) (reads cfg) assigned (startSensor created i) = true := by
  unfold startSensor xQueueAddToSet
  rw [hset]
  cases created.sensorQueue i <;> cases created.filterQueue i <;>
    simp [prepared, tasks, inBounds, reads, hi, hname, hcount, hinterval]

theorem appMain_prepared {cfg : Config R} (sdk : Sdkconfig) {created : Created}
    (hset : created.controllerQueues = true) (h : cfg.numberSensors = 2) :
    prepared (tasks cfg) (reads cfg) [] (appMain cfg sdk created) = true := by
  unfold appMain
  refine prepared_append (prepared_append (prepared_append (init_prepared cfg _) ?_) ?_) ?_
  · simp [prepared, tasks, inBounds, h]
  · refine prepared_flatMap fun i hi => ?_
    have hi := List.mem_range.mp hi
    have hinit := init_cells cfg hi
    have hinterval : i = 0 ∨ i = 1 := by omega
    refine startSensor_prepared cfg hset hi ?_ ?_ ?_
    · simp [cells_append, hinit.1]
    · simp [cells_append, hinit.2]
    · rcases hinterval with rfl | rfl <;> simp [cells]
  · simp only [prepared, Bool.and_true, List.all_eq_true, decide_eq_true_eq, cells_append,
      List.mem_append]
    intro c hc
    simp only [reads, List.mem_cons, List.mem_flatMap, List.mem_range, List.not_mem_nil, or_false] at hc
    rcases hc with rfl | ⟨i, hi, rfl | rfl⟩
    · exact .inl (.inl (.inr (by simp [cells])))
    · have hassign : .assign (.filterQueues i) (.handle (created.filterQueue i)) ∈
          (List.range cfg.numberSensors).flatMap (startSensor created) :=
        List.mem_flatMap.mpr ⟨i, List.mem_range.mpr hi, by simp [startSensor]⟩
      exact .inl (.inr (mem_cells hassign))
    · exact .inl (.inl (.inl (init_cells cfg hi).1))

/-! ### Which numbers of sensors are served -/

theorem mem_appMain (cfg : Config R) (sdk : Sdkconfig) (created : Created)
    (stmt : Stmt Cell Value Task) :
    stmt ∈ appMain cfg sdk created ↔ stmt ∈ init cfg ∨
      stmt = .assign (.sensors 0 .readingInterval)
        (.interval (sdk.readingIntervalSensor0.getD readInterval)) ∨
      stmt = .assign (.sensors 1 .readingInterval)
        (.interval (sdk.readingIntervalSensor1.getD readInterval)) ∨
      stmt = .assign .controllerQueues (.handle created.controllerQueues) ∨
      (∃ i < cfg.numberSensors, stmt ∈ startSensor created i) ∨ stmt = .launch .controllerTask := by
  simp [appMain]

/-- The only reading intervals assigned are those of the first two sensors. -/
theorem readingInterval_assigned (cfg : Config R) (sdk : Sdkconfig) (created : Created) (i : Nat)
    (v : Value) (h : .assign (.sensors i .readingInterval) v ∈ appMain cfg sdk created) : i < 2 := by
  have hfirst : i = 0 ∧ v = .interval (sdk.readingIntervalSensor0.getD readInterval) ∨
      i = 1 ∧ v = .interval (sdk.readingIntervalSensor1.getD readInterval) := by
    simpa [mem_appMain, init, startSensor, xQueueAddToSet] using h
  omega

theorem outside_faults_run {cfg : Config R} {sdk : Sdkconfig} {created : Created} {i : Nat}
    {v : Value} (h : .assign (.sensors i .readingInterval) v ∈ appMain cfg sdk created)
    (hi : cfg.numberSensors ≤ i) : ∃ actions, ((boot cfg sdk created).run actions).faults ≠ [] := by
  refine ⟨_, List.ne_nil_of_mem (outside_faults h ?_)⟩
  simpa [tasks, inBounds] using hi

theorem unassigned_faults_run {cfg : Config R} (sdk : Sdkconfig) {created : Created} {i : Nat}
    (hi : i < cfg.numberSensors) (hcreated : created.sensorQueue i = true ∧ created.filterQueue i = true)
    (hmissing : 2 ≤ i) : ∃ actions, ((boot cfg sdk created).run actions).faults ≠ [] := by
  have hlaunch : .launch (.sensorTask i) ∈ appMain cfg sdk created := by
    rw [mem_appMain]
    refine .inr (.inr (.inr (.inr (.inl ⟨i, hi, ?_⟩))))
    simp [startSensor, hcreated]
  have hnone : ∀ v, .assign (.sensors i .readingInterval) v ∉ appMain cfg sdk created :=
    fun v hv => absurd (readingInterval_assigned cfg sdk created i v hv) (by omega)
  -- the first line a sensor task prints gives its interval
  have hread : .sensors i .readingInterval ∈ ((tasks cfg).code (.sensorTask i)
      (reached (tasks cfg) (.sensorTask i) .entry [.done]) .done).1 :=
    List.mem_cons_of_mem _ List.mem_cons_self
  exact ⟨_, List.ne_nil_of_mem (unassigned_faults hlaunch hnone hread)⟩

def allCreated : Created := ⟨true, fun _ => true, fun _ => true⟩

/-- **With two sensors, and with no other number, everything is initialised before it is
used.** Intervals are assigned to sensors 0 and 1 and to no other. -/
theorem initialises_first_iff (cfg : Config R) : InitialisesFirst cfg ↔ cfg.numberSensors = 2 := by
  refine ⟨fun h => ?_, fun h sdk created hset actions => ?_⟩
  · by_contra hn
    have hbad : ∃ actions, ((boot cfg ⟨none, none⟩ allCreated).run actions).faults ≠ [] := by
      by_cases hfew : cfg.numberSensors ≤ 1
      · exact outside_faults_run ((mem_appMain ..).mpr (.inr (.inr (.inl rfl)))) hfew
      · exact unassigned_faults_run ⟨none, none⟩ (by omega : 2 < cfg.numberSensors) ⟨rfl, rfl⟩ le_rfl
    obtain ⟨actions, hactions⟩ := hbad
    exact hactions (h ⟨none, none⟩ allCreated rfl actions)
  · exact prepared_sound (code_reads cfg) (appMain_prepared sdk hset h) actions

/-- A third sensor's task prints an interval nobody has set; a single sensor has no
second record to set one in. -/
theorem other_numbers_fail : ¬ InitialisesFirst (typesH 3) ∧ ¬ InitialisesFirst (typesH 1) :=
  ⟨fun h => absurd (h ⟨none, none⟩ allCreated rfl
      (List.replicate (appMain (typesH 3) ⟨none, none⟩ allCreated).length .main ++
        [.task (.sensorTask 2) .done, .task (.sensorTask 2) .done])) (by decide),
   fun h => absurd (h ⟨none, none⟩ allCreated rfl (List.replicate 4 .main)) (by decide)⟩

/-! ### What the records hold -/

/-- Whatever is in a name field is the name the tasks of sensor `i` go by. -/
theorem names_held (cfg : Config R) (sdk : Sdkconfig) (created : Created)
    (actions : List (Action Task Answer)) (i : Nat) (v : Value) :
    let memory := ((boot cfg sdk created).run actions).memory
    (memory (.sensors i .name) = some v → v = .text (sensorName i)) ∧
      (memory (.sensors i .filterTaskName) = some v → v = .text (filterTaskName i)) := by
  refine ⟨fun h => ?_, fun h => ?_⟩
  · have hassign : i < cfg.numberSensors ∧ v = .text (sensorName i) := by
      simpa [mem_appMain, init, startSensor, xQueueAddToSet] using memory_assigned _ actions _ v h
    exact hassign.2
  · have hassign : i < cfg.numberSensors ∧ (created.sensorQueue i = true ∧ created.filterQueue i = true) ∧
        v = .text (filterTaskName i) := by
      simpa [mem_appMain, init, startSensor, xQueueAddToSet] using memory_assigned _ actions _ v h
    exact hassign.2.2

end Aniot.P2.Boot
