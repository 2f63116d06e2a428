import Aniot.C.Rounding
import Aniot.Machine.History
import Aniot.P5.ReadPeriods

/-! The temperature that `p4/src/main.c` shows.

A pass of `sensor_temp_task` reads the sensor, takes the semaphore for printing, prints, and
gives it back; no other task takes it, so three moves make a pass. Of a good read it prints
the two bytes, the number they make, and this in degrees Celsius, computed in `double` and kept in a
`float`. The lines of any run read back are the reads in order (`reads_told`). A shown
temperature is the one the sensor's formula gives to within a hundredth, higher readings never
show a lower one, and four apart show another (`celsius_shown`). -/
namespace Aniot.P4
open C

/-! ### Degrees -/

def convertToCelsius (temp : BitVec 16) : Rat :=
  let double := binary64.round
  binary32.round (double (double (double (double (17572 / 100) * temp.toNat) / 65536) - double (4685 / 100)))

/-- The formula of the sensor's documentation. -/
def si7021 (temp : BitVec 16) : Rat := 17572 / 100 * temp.toNat / 65536 - 4685 / 100

/-- Of each operation the error is that of its operands and of rounding its result. -/
theorem convertToCelsius_error (temp : BitVec 16) :
    |convertToCelsius temp - si7021 temp| ≤ 1 / 100000 := by
  have hlow : (0 : Rat) ≤ temp.toNat := Nat.cast_nonneg _
  have hhigh : (temp.toNat : Rat) ≤ 65535 := by
    have := temp.isLt
    exact_mod_cast Nat.le_of_lt_succ this
  rw [convertToCelsius, si7021]
  have hfactor : |binary64.round (17572 / 100) - 17572 / 100| ≤ 2 ^ (-46 : Int) :=
    FloatFormat.round_error (k := 7) (by norm_num [abs_of_pos]) (by decide) rfl
  have hoffset : |binary64.round (4685 / 100) - 4685 / 100| ≤ 2 ^ (-48 : Int) :=
    FloatFormat.round_error (k := 5) (by norm_num [abs_of_pos]) (by decide) rfl
  generalize binary64.round (17572 / 100) = factor at *
  generalize binary64.round (4685 / 100) = offset at *
  generalize (temp.toNat : Rat) = t at *
  have hexact : |17572 / 100 * t| ≤ 17572 / 100 * 65535 := by
    rw [abs_of_nonneg (by positivity)]
    linarith
  have hexact' : |17572 / 100 * t / 65536| ≤ 176 := by
    rw [abs_of_nonneg (by positivity)]
    linarith
  have hformula : |17572 / 100 * t / 65536 - 4685 / 100| ≤ 130 := by
    rw [abs_le]
    constructor <;> linarith
  have hscaled : |factor * t - 17572 / 100 * t| ≤ 2 ^ (-30 : Int) := by
    rw [← sub_mul, abs_mul, abs_of_nonneg hlow]
    exact (mul_le_mul hfactor hhigh hlow (zpow_pos two_pos _).le).trans (by norm_num)
  have hproduct : |binary64.round (factor * t) - 17572 / 100 * t| ≤ 2 ^ (-29 : Int) :=
    (FloatFormat.round_near (k := 23) (e := -30) hscaled ((add_le_add_left hexact _).trans_lt (by norm_num))
      (by decide) rfl).trans (by norm_num)
  generalize binary64.round (factor * t) = product at *
  have hdivided : |product / 65536 - 17572 / 100 * t / 65536| ≤ 2 ^ (-45 : Int) := by
    rw [← sub_div, abs_div, abs_of_pos (by norm_num : (0 : Rat) < 65536)]
    exact (div_le_div_of_nonneg_right hproduct (by norm_num)).trans (by norm_num)
  have hquotient : |binary64.round (product / 65536) - 17572 / 100 * t / 65536| ≤ 2 ^ (-44 : Int) :=
    (FloatFormat.round_near (k := 7) (e := -46) hdivided ((add_le_add_left hexact' _).trans_lt (by norm_num))
      (by decide) rfl).trans (by norm_num)
  generalize binary64.round (product / 65536) = quotient at *
  have hsubtracted : |quotient - offset - (17572 / 100 * t / 65536 - 4685 / 100)| ≤ 2 ^ (-43 : Int) := by
    rw [sub_sub_sub_comm]
    exact (abs_sub _ _).trans ((add_le_add hquotient hoffset).trans (by norm_num))
  have hdifference : |binary64.round (quotient - offset) - (17572 / 100 * t / 65536 - 4685 / 100)| ≤
      2 ^ (-42 : Int) :=
    (FloatFormat.round_near (k := 7) (e := -46) hsubtracted ((add_le_add_left hformula _).trans_lt (by norm_num))
      (by decide) rfl).trans (by norm_num)
  exact (FloatFormat.round_near (k := 7) (e := -17) hdifference ((add_le_add_left hformula _).trans_lt (by norm_num))
    (by decide) rfl).trans (by norm_num)

/-- Readings that are higher are so by more than both errors. -/
theorem si7021_add (temp temp' : BitVec 16) :
    si7021 temp' - si7021 temp = 17572 / 6553600 * ((temp'.toNat : Rat) - temp.toNat) := by
  rw [si7021, si7021]
  ring

/-- **In hundredths of a degree a shown temperature is that of the formula to within a half, and a
thousandth for the computation; higher readings never show a lower one, and four apart show another.** -/
theorem celsius_shown (temp : BitVec 16) :
    |(scaled 2 (convertToCelsius temp) : Rat) - 100 * si7021 temp| ≤ 1 / 2 + 1 / 1000 ∧
      ∀ temp' : BitVec 16, temp.toNat ≤ temp'.toNat →
        scaled 2 (convertToCelsius temp) ≤ scaled 2 (convertToCelsius temp') ∧
        (temp.toNat + 4 ≤ temp'.toNat →
          scaled 2 (convertToCelsius temp) < scaled 2 (convertToCelsius temp')) := by
  have hshown (t : BitVec 16) : |(scaled 2 (convertToCelsius t) : Rat) - 100 * si7021 t| ≤
      1 / 2 + 1 / 1000 := by
    have herror := abs_le.mp (convertToCelsius_error t)
    have hscaled := abs_le.mp (scaled_error 2 (convertToCelsius t))
    rw [abs_le]
    constructor <;> linarith
  refine ⟨hshown temp, fun temp' hle => ⟨?_, fun hfour => ?_⟩⟩
  · rcases hle.eq_or_lt with heq | hlt
    · rw [BitVec.eq_of_toNat_eq heq]
    · have hone : (temp.toNat : Rat) + 1 ≤ temp'.toNat := by exact_mod_cast hlt
      have herror := abs_le.mp (convertToCelsius_error temp)
      have herror' := abs_le.mp (convertToCelsius_error temp')
      have hapart := si7021_add temp temp'
      exact scaled_mono 2 (by linarith)
  · have hmore : (temp.toNat : Rat) + 4 ≤ temp'.toNat := by exact_mod_cast hfour
    have herror := abs_le.mp (hshown temp)
    have herror' := abs_le.mp (hshown temp')
    have hapart := si7021_add temp temp'
    have hless : (scaled 2 (convertToCelsius temp) : Rat) < scaled 2 (convertToCelsius temp') := by linarith
    exact_mod_cast hless

/-! ### The task -/

/-- How a read ended, and its bytes. -/
structure Read where
  ret : Int
  dataTemp1 : BitVec 8
  dataTemp2 : BitVec 8

/-- `read_i2c_master_sensor` does what that of p5 does. -/
def readI2cMasterSensor (bus : P5.I2c) : Read :=
  let answer := P5.readI2cMasterSensor bus
  ⟨answer.1, answer.2.1, answer.2.2⟩

inductive SensorTempTask where
  | reading
  | taking (read : Read)
  | printing (read : Read)

/-- The task, whether the semaphore is there to be taken, and the reads so far, which no
step reads. -/
structure State where
  task : SensorTempTask
  semaphorePrint : Bool
  reads : List Read

/-- What the bus answers, and what is in the bytes before it does. -/
structure Answer where
  bus : P5.I2c
  before1 : BitVec 8
  before2 : BitVec 8

def step (s : State) (a : Answer) : State :=
  match s.task with
  | .reading =>
    let read := readI2cMasterSensor a.bus
    {s with task := .taking read, reads := s.reads ++ [read]}
  | .taking read => if s.semaphorePrint then {s with task := .printing read, semaphorePrint := false} else s
  | .printing _ => {s with task := .reading, semaphorePrint := true}

/-- `app_main` creates the semaphore and starts the task. -/
def sensorTempTask : Machine State Answer := ⟨⟨.reading, true, []⟩, step⟩

/-! ### What it prints -/

/-- A call of `printf`, `ESP_LOGE` or `ESP_LOGW`. -/
inductive Call where
  | printf (text : List Char)
  | logE (text : List Char)
  | logW (text : List Char)

/-- How a line with a number begins. -/
inductive Heading where
  | byte1
  | byte2
  | temperature
  | celsius

def Heading.text : Heading → List Char
  | .byte1 => "data_temperature - byte 1: ".toList
  | .byte2 => "data_temperature - byte 2: ".toList
  | .temperature => "data_temperature : ".toList
  | .celsius => "data_temperature - celsius: ".toList

def Heading.all : List Heading := [.byte1, .byte2, .temperature, .celsius]

def starsText : List Char := "*******************\n".toList
def before1Text : List Char := "byte 1: ".toList
def before2Text : List Char := "byte 2: ".toList
def timeoutText : List Char := "I2C Timeout".toList
def noAckText : List Char := ": No ack, sensor not connected...skip...".toList

def Heading.line (h : Heading) (number : List Char) : Call := .printf (h.text ++ (number ++ ['\n']))

/-- What the two bytes make. -/
def Read.temp (read : Read) : BitVec 16 := (read.dataTemp1.zeroExtend 16 <<< 8) + read.dataTemp2.zeroExtend 16

/-- What is printed of a read; `errName` is `esp_err_to_name`. -/
def Read.calls (errName : Int → List Char) (read : Read) : List Call :=
  if read.ret = P5.espErrTimeout then [.logE timeoutText]
  else if read.ret = P5.espOk then
    [.printf starsText, Heading.byte1.line (padded 16 2 read.dataTemp1.toNat),
      Heading.byte2.line (padded 16 2 read.dataTemp2.toNat), Heading.temperature.line (padded 16 2 read.temp.toNat),
      Heading.celsius.line (fixed 2 (convertToCelsius read.temp)), .printf starsText]
  else [.logW (errName read.ret ++ noAckText)]

/-- What is printed in a step. While it reads, the task prints the bytes before they are there. -/
def prints (errName : Int → List Char) (s : State) (a : Answer) : List Call :=
  match s.task with
  | .reading =>
    if a.bus.write = P5.espOk then
      [.printf (before1Text ++ (padded 16 2 a.before1.toNat ++ ['\n'])),
        .printf (before2Text ++ (padded 16 2 a.before2.toNat ++ ['\n']))]
    else []
  | .taking _ => []
  | .printing read => read.calls errName

/-! ### Reading it back -/

/-- What there is to learn from a line. -/
inductive Told where
  | byte1 (x : BitVec 8)
  | byte2 (x : BitVec 8)
  | temperature (temp : BitVec 16)
  | celsius (hundredths : Int)
  | timeout
  | noAck
deriving DecidableEq

/-- What a read has to tell. -/
def Read.told (read : Read) : List Told :=
  if read.ret = P5.espErrTimeout then [.timeout]
  else if read.ret = P5.espOk then
    [.byte1 read.dataTemp1, .byte2 read.dataTemp2, .temperature read.temp,
      .celsius (scaled 2 (convertToCelsius read.temp))]
  else [.noAck]

/-- A number in hexadecimal, before the newline at its end. -/
def readHex (l : List Char) : Nat := readDigits 16 l.dropLast

def Heading.read (number : List Char) : Heading → Told
  | .byte1 => .byte1 (BitVec.ofNat 8 (readHex number))
  | .byte2 => .byte2 (BitVec.ofNat 8 (readHex number))
  | .temperature => .temperature (BitVec.ofNat 16 (readHex number))
  | .celsius => .celsius (readFixed 2 number)

def readCall : Call → Option Told
  | .printf text =>
    (Heading.all.find? fun h => h.text.isPrefixOf text).map fun h => h.read (text.drop h.text.length)
  | .logE text => if text = timeoutText then some .timeout else none
  | .logW text => if noAckText.isSuffixOf text then some .noAck else none

theorem readCall_line (h : Heading) (number : List Char) :
    readCall (h.line number) = some (h.read (number ++ ['\n'])) := by
  have hfind : Heading.all.find? (fun h' => h'.text.isPrefixOf (h.text ++ (number ++ ['\n']))) = some h := by
    cases h <;> rfl
  rw [Heading.line, readCall, hfind, Option.map_some, List.drop_left]

theorem readHex_padded (width n : Nat) : readHex (padded 16 width n ++ ['\n']) = n := by
  rw [readHex, List.dropLast_concat, readDigits_padded (by decide) (by decide)]

/-- Of a read nothing is lost in print. -/
theorem readCall_calls (errName : Int → List Char) (read : Read) :
    (read.calls errName).filterMap readCall = read.told := by
  rw [Read.calls, Read.told]
  split
  · rfl
  · split
    · have hstars : readCall (.printf starsText) = none := rfl
      have hcelsius : readFixed 2 (fixed 2 (convertToCelsius read.temp) ++ ['\n']) =
          scaled 2 (convertToCelsius read.temp) := readFixed_fixed 2 _ (.cons rfl [])
      simp only [List.filterMap_cons, List.filterMap_nil, hstars, readCall_line, Heading.read,
        readHex_padded, hcelsius, BitVec.ofNat_toNat, BitVec.setWidth_eq]
    · have hsuffix : noAckText.isSuffixOf (errName read.ret ++ noAckText) = true :=
        List.isSuffixOf_iff_suffix.mpr (List.suffix_append _ _)
      exact List.filterMap_cons_some (if_pos hsuffix)

/-! ### The console of a run -/

def SensorTempTask.held : SensorTempTask → List Read
  | .reading => []
  | .taking read => [read]
  | .printing read => [read]

/-- How many moves of its pass the task has made. -/
def SensorTempTask.moves : SensorTempTask → Nat
  | .reading => 0
  | .taking _ => 1
  | .printing _ => 2

def SensorTempTask.isPrinting : SensorTempTask → Bool
  | .printing _ => true
  | _ => false

/-- What each move has printed tells of all reads but one the task holds; the semaphore is there
unless it prints, and no move has been without effect. -/
structure Tells (printed : List (List Call)) (s : State) (handled : List Read) : Prop where
  reads : s.reads = handled ++ s.task.held
  told : printed.flatten.filterMap readCall = handled.flatMap Read.told
  semaphore : s.semaphorePrint = !s.task.isPrinting
  moves : printed.length = 3 * handled.length + s.task.moves

theorem step_tells (errName : Int → List Char) (printed : List (List Call)) (s : State) (a : Answer)
    (h : ∃ handled, Tells printed s handled) :
    ∃ handled, Tells (printed ++ [prints errName s a]) (sensorTempTask.step s a) handled := by
  obtain ⟨handled, hreads, htold, hsemaphore, hmoves⟩ := h
  have hnew : (printed ++ [prints errName s a]).flatten.filterMap readCall =
      handled.flatMap Read.told ++ (prints errName s a).filterMap readCall := by
    rw [List.flatten_append, List.filterMap_append, htold, List.flatten_singleton]
  have hlength : (printed ++ [prints errName s a]).length = printed.length + 1 := List.length_append
  show ∃ handled, Tells (printed ++ [prints errName s a]) (step s a) handled
  rw [step]
  cases htask : s.task with
  | reading =>
    rw [htask] at hreads hsemaphore hmoves
    refine ⟨handled, ?_, ?_, hsemaphore, ?_⟩
    · exact congrArg (· ++ [_]) (hreads.trans (List.append_nil handled))
    · have hbefore : (prints errName s a).filterMap readCall = [] := by
        rw [prints, htask]
        dsimp only
        split <;> rfl
      rw [hnew, hbefore, List.append_nil]
    · rw [hlength, hmoves]
      rfl
  | taking read =>
    rw [htask] at hreads hsemaphore hmoves
    have hfree : s.semaphorePrint = true := hsemaphore
    dsimp only
    rw [if_pos hfree]
    refine ⟨handled, hreads, ?_, rfl, ?_⟩
    · rw [hnew, prints, htask]
      exact List.append_nil _
    · rw [hlength, hmoves]
      rfl
  | printing read =>
    rw [htask] at hreads hsemaphore hmoves
    refine ⟨handled ++ [read], ?_, ?_, rfl, ?_⟩
    · exact hreads.trans (List.append_nil _).symm
    · rw [hnew, prints, htask, List.flatMap_append, List.flatMap_singleton]
      exact congrArg _ (readCall_calls errName read)
    · rw [hlength, hmoves, List.length_append, List.length_singleton]
      rfl

/-- **In any run the lines printed read back to the reads made, all but one that the task may
hold, in order and each with its bytes; and the task never waits for the semaphore.** -/
theorem reads_told (errName : Int → List Char) (answers : List Answer) :
    let s := sensorTempTask.run answers
    let console := sensorTempTask.emitted (prints errName) sensorTempTask.start answers
    ∃ handled, s.reads = handled ++ s.task.held ∧ handled.length = answers.length / 3 ∧
      console.filterMap readCall = handled.flatMap Read.told := by
  intro s console
  have hstart : ∃ handled, Tells [] sensorTempTask.start handled := ⟨[], rfl, rfl, rfl, rfl⟩
  obtain ⟨handled, htells⟩ := Machine.runFrom_history (step_tells errName) hstart answers
  have hconsole : console =
      (sensorTempTask.emitted (fun s a => [prints errName s a]) sensorTempTask.start answers).flatten := by
    rw [← List.flatMap_id]
    exact Machine.emitted_flatMap (fun s a => (List.flatMap_singleton id _).symm) _ answers
  have hmoves := htells.moves
  rw [List.nil_append, Machine.emitted_length] at hmoves
  refine ⟨handled, htells.reads, ?_, ?_⟩
  · have hlast : ((sensorTempTask.runFrom sensorTempTask.start answers).task).moves < 3 := by
      unfold SensorTempTask.moves
      split <;> decide
    omega
  · rw [hconsole]
    exact htells.told

end Aniot.P4
