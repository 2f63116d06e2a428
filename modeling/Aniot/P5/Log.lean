import Aniot.C.Print
import Aniot.Machine.History
import Aniot.P5.SleepTime

/-! The log of `p5/src/main.c`, over any number of resets and deep sleeps.

A reset, the first start among them, loads `sleep_enter_time` from the program's image; a
wake-up from deep sleep finds in it what `start_deep_mode` left there. Either way
`app_main` logs why the board woke up and for how long it says it slept, and the timer's
callback then logs its readings until it logs that it goes to sleep.

`Event` is what happened, with the instants and with what the bus brought; `Event.lines` is
what the code logs of it and `Event.told` what there is to learn from it. Every line is read
back to that, the bytes of the sensor among it, and each wake-up stands behind the sleep
that it reports, with as many readings before that as the count allows
(`log_tells_sessions`). -/
namespace Aniot.P5
open C

/-- What `esp_sleep_get_wakeup_cause` returns. -/
inductive WakeupCause where
  | undefined
  | all
  | ext0
  | ext1
  | timer
  | touchpad
  | ulp
  | gpio
  | uart
deriving DecidableEq

def getWakeupCause : WakeupCause → List Char
  | .timer => "timer".toList
  | .touchpad => "touchpad".toList
  | .ext0 => "ext0".toList
  | .ext1 => "ext1".toList
  | .ulp => "ulp".toList
  | .uart => "uart".toList
  | .gpio => "pin".toList
  | _ => "other".toList

/-! ### The board -/

inductive BoardAction where
  | reset (cause : WakeupCause) (now : Timeval)
  | wakeUp (cause : WakeupCause) (now : Timeval)
  | timer (bus : I2c) (now : Timeval)

/-- `app_main` at an instant; past an overflow nothing is promised. -/
def appMain (o : Overflow) (now : Timeval) (s : State) : State :=
  if (sleepTimeMs o s.sleepEnterTime now).isSome then s else {s with power := .overflown}

/-- A board that has had no power yet has no state. A boot that an `ESP_ERROR_CHECK` of `app_main` aborts,
before its two lines or between them, is left out. -/
def boardStep (maxReadCount : Nat) (o : Overflow) (s : Option State) : BoardAction → Option State
  | .reset _ now => some (appMain o now (reader maxReadCount).start)
  | .wakeUp _ now =>
    s.map fun s => if s.power = .deepSleep then appMain o now (step maxReadCount s .wakeUp) else s
  | .timer bus now => s.map fun s => step maxReadCount s (.timer bus now)

def board (maxReadCount : Nat) (o : Overflow) : Machine (Option State) BoardAction :=
  ⟨none, boardStep maxReadCount o⟩

/-! ### What happens and what is logged of it -/

/-- A boot has the instant `sleep_enter_time` held, and whether that is of a sleep. -/
inductive Event where
  | boot (slept : Bool) (cause : WakeupCause) (sleepEnterTime now : Timeval)
  | read (bus : I2c)
  | sleep (now : Timeval)

def Event.isBoot : Event → Bool
  | .boot .. => true
  | _ => false

def Event.isRead : Event → Bool
  | .read _ => true
  | _ => false

/-- What happens in a step. -/
def happened (maxReadCount : Nat) (s : Option State) : BoardAction → List Event
  | .reset cause now => [.boot false cause ⟨0, 0⟩ now]
  | .wakeUp cause now =>
    match s with
    | some s => if s.power = .deepSleep then [.boot true cause s.sleepEnterTime now] else []
    | none => []
  | .timer bus now =>
    match s with
    | some s =>
      if s.power = .awake then
        if s.readCount > maxReadCount && !s.sleepModeActive then [.sleep now] else [.read bus]
      else []
    | none => []

inductive Level where
  | info
  | warning
  | error
deriving DecidableEq

/-- A call of `ESP_LOGI`, `ESP_LOGW` or `ESP_LOGE`. -/
structure Line where
  level : Level
  text : List Char

def returnedText : List Char := "Returned from light sleep, reason: ".toList
def sleptText : List Char := ", slept for ".toList
def initializedText : List Char := "I2C master driver initialized successfully".toList
def enteringText : List Char := "Entering deep sleep".toList
def timeoutText : List Char := "I2C Timeout".toList
def sensorDataText : List Char := "Sensor data: ".toList
def noAckText : List Char := ": No ack, sensor not connected...skip...".toList

def returnedLine (cause : WakeupCause) (sleepTimeMs : Int) : Line :=
  ⟨.info, returnedText ++ (getWakeupCause cause ++ (sleptText ++ (integer sleepTimeMs ++ " ms\n".toList)))⟩

/-- What the callback logs of a read; `errName` is `esp_err_to_name`. -/
def Report.line (errName : Int → List Char) : Report → Line
  | .timeout => ⟨.error, timeoutText⟩
  | .sensorData temp => ⟨.info, sensorDataText ++ padded 16 2 temp.toNat⟩
  | .noAck ret => ⟨.warning, errName ret ++ noAckText⟩

/-- What the code logs of an event. -/
def Event.lines (o : Overflow) (errName : Int → List Char) : Event → List Line
  | .boot _ cause sleepEnterTime now =>
    match sleepTimeMs o sleepEnterTime now with
    | some ms => [returnedLine cause ms, ⟨.info, initializedText⟩]
    | none => []
  | .read bus => [(report (readI2cMasterSensor bus)).line errName]
  | .sleep _ => [⟨.info, enteringText⟩]

def printed (maxReadCount : Nat) (o : Overflow) (errName : Int → List Char) (s : Option State)
    (a : BoardAction) : List Line :=
  (happened maxReadCount s a).flatMap (Event.lines o errName)

/-! ### Reading a line -/

/-- What there is to learn from a line. -/
inductive Told where
  | returned (cause : List Char) (sleepTimeMs : Int)
  | initialized
  | entering
  | timeout
  | noAck
  | sensorData (byte1 byte2 : BitVec 8)
deriving DecidableEq

/-- What an event has to tell. A read tells the bytes that the bus brought, if it brought any. -/
def Event.told (o : Overflow) : Event → List Told
  | .boot _ cause sleepEnterTime now =>
    match sleepTimeMs o sleepEnterTime now with
    | some ms => [.returned (getWakeupCause cause) ms, .initialized]
    | none => []
  | .read bus =>
    let ret := if bus.write ≠ espOk then bus.write else bus.read
    [if ret = espErrTimeout then .timeout
      else if ret = espOk then .sensorData bus.dataTemp1 bus.dataTemp2
      else .noAck]
  | .sleep _ => [.entering]

def readReturned (text : List Char) : Told :=
  let cause := text.takeWhile (· ≠ ',')
  .returned cause (readInteger (text.drop (cause.length + sleptText.length))).1

def readSensorData (text : List Char) : Told :=
  let temp := BitVec.ofNat 16 (readDigits 16 text)
  .sensorData (temp.extractLsb' 8 8) (temp.extractLsb' 0 8)

def readLine (l : Line) : Option Told :=
  match l.level with
  | .error => if l.text = timeoutText then some .timeout else none
  | .warning => if noAckText.isSuffixOf l.text then some .noAck else none
  | .info =>
    if l.text = initializedText then some .initialized
    else if l.text = enteringText then some .entering
    else if returnedText.isPrefixOf l.text then some (readReturned (l.text.drop returnedText.length))
    else if sensorDataText.isPrefixOf l.text then
      some (readSensorData (l.text.drop sensorDataText.length))
    else none

theorem isPrefixOf_append (text rest : List Char) : text.isPrefixOf (text ++ rest) = true :=
  List.isPrefixOf_iff_prefix.mpr (List.prefix_append text rest)

/-- Texts that differ early are different, whatever follows. -/
theorem append_ne {text other : List Char} (h : text.isPrefixOf other = false) (rest : List Char) :
    text ++ rest ≠ other := by
  rintro rfl
  rw [isPrefixOf_append] at h
  cases h

theorem readLine_returnedLine (cause : WakeupCause) (ms : Int) :
    readLine (returnedLine cause ms) = some (.returned (getWakeupCause cause) ms) := by
  have hcause : ∀ c ∈ getWakeupCause cause, decide (c ≠ ',') = true := by
    have hall : (getWakeupCause cause).all (fun c => decide (c ≠ ',')) = true := by
      cases cause <;> rfl
    exact List.all_eq_true.mp hall
  have hinteger : readInteger (integer ms ++ " ms\n".toList) = (ms, " ms\n".toList) :=
    readInteger_integer ms (.cons rfl _) (by decide)
  have htake : (getWakeupCause cause ++ (sleptText ++ (integer ms ++ " ms\n".toList))).takeWhile
      (fun c => decide (c ≠ ',')) = getWakeupCause cause := by
    rw [List.takeWhile_append_of_pos hcause]
    exact List.append_nil _
  have hdrop : (getWakeupCause cause ++ (sleptText ++ (integer ms ++ " ms\n".toList))).drop
      ((getWakeupCause cause).length + sleptText.length) = integer ms ++ " ms\n".toList := by
    rw [← List.append_assoc]
    exact List.drop_left' List.length_append
  rw [readLine, returnedLine]
  dsimp only
  rw [if_neg (append_ne rfl _), if_neg (append_ne rfl _), if_pos (isPrefixOf_append _ _), List.drop_left,
    readReturned]
  rw [htake, hdrop, hinteger]

theorem sensorData_toNat (byte1 byte2 : BitVec 8) :
    ((byte1.zeroExtend 16 <<< 8) + byte2.zeroExtend 16).toNat = 256 * byte1.toNat + byte2.toNat := by
  have hbyte1 := byte1.isLt
  have hbyte2 := byte2.isLt
  simp only [BitVec.truncate_eq_setWidth, BitVec.toNat_add, BitVec.toNat_shiftLeft, BitVec.toNat_setWidth,
    Nat.shiftLeft_eq]
  omega

/-- The bytes of the number that the callback makes of them. -/
theorem sensorData_bytes (byte1 byte2 : BitVec 8) :
    ((byte1.zeroExtend 16 <<< 8) + byte2.zeroExtend 16).extractLsb' 8 8 = byte1 ∧
      ((byte1.zeroExtend 16 <<< 8) + byte2.zeroExtend 16).extractLsb' 0 8 = byte2 := by
  have hbyte1 := byte1.isLt
  have hbyte2 := byte2.isLt
  constructor <;> apply BitVec.eq_of_toNat_eq <;>
    rw [BitVec.extractLsb'_toNat, sensorData_toNat, Nat.shiftRight_eq_div_pow] <;> omega

theorem readLine_sensorData (errName : Int → List Char) (temp : BitVec 16) :
    readLine ((Report.sensorData temp).line errName) =
      some (.sensorData (temp.extractLsb' 8 8) (temp.extractLsb' 0 8)) := by
  rw [readLine, Report.line]
  dsimp only
  rw [if_neg (append_ne rfl _), if_neg (append_ne rfl _), if_neg (by exact Bool.false_ne_true),
    if_pos (isPrefixOf_append _ _), List.drop_left, readSensorData,
    readDigits_padded (by decide) (by decide), BitVec.ofNat_toNat, BitVec.setWidth_eq]

/-- What is logged of the outcome of a read, with whatever the bus brought. -/
theorem readLine_report (errName : Int → List Char) (ret : Int) (byte1 byte2 : BitVec 8) :
    readLine ((report (ret, byte1, byte2)).line errName) =
      some (if ret = espErrTimeout then .timeout else if ret = espOk then .sensorData byte1 byte2
        else .noAck) := by
  rw [report]
  split
  · rfl
  · split
    · obtain ⟨hbyte1, hbyte2⟩ := sensorData_bytes byte1 byte2
      rw [readLine_sensorData, hbyte1, hbyte2]
    · have hsuffix : noAckText.isSuffixOf (errName ret ++ noAckText) = true :=
        List.isSuffixOf_iff_suffix.mpr (List.suffix_append _ _)
      rw [readLine, Report.line]
      exact if_pos hsuffix

/-- Of what is logged of an event nothing is lost. -/
theorem readLine_lines (o : Overflow) (errName : Int → List Char) (e : Event) :
    (e.lines o errName).map readLine = (e.told o).map some := by
  cases e with
  | boot slept cause sleepEnterTime now =>
    rw [Event.lines, Event.told]
    cases sleepTimeMs o sleepEnterTime now with
    | none => rfl
    | some ms =>
      dsimp only
      rw [List.map_cons, readLine_returnedLine]
      rfl
  | read bus =>
    rw [Event.lines, Event.told, List.map_singleton, readI2cMasterSensor]
    by_cases hwrite : bus.write = espOk
    · rw [if_neg (not_not.mpr hwrite), if_neg (not_not.mpr hwrite), readLine_report]
      rfl
    · rw [if_pos hwrite, if_pos hwrite, readLine_report]
      simp only [if_neg hwrite]
      rfl
  | sleep now => rfl

/-! ### What stands before an event -/

/-- A boot, and so many reads since. -/
def Reading (before : List Event) (n : Nat) : Prop :=
  ∃ earlier boot reads, before = earlier ++ boot :: reads ∧ boot.isBoot = true ∧
    (∀ r ∈ reads, r.isRead = true) ∧ reads.length = n

/-- What has to stand before an event: the sleep that a wake-up reports, as many reads as the
count allows before another, and one more before a sleep. -/
def Follows (maxReadCount : Nat) (before : List Event) : Event → Prop
  | .boot true _ sleepEnterTime _ => ∃ earlier, before = earlier ++ [.sleep sleepEnterTime]
  | .boot false _ sleepEnterTime _ => sleepEnterTime = ⟨0, 0⟩
  | .read _ => ∃ n ≤ maxReadCount, Reading before n
  | .sleep _ => Reading before (maxReadCount + 1)

/-- Each event follows what has to stand before it. -/
def WellFormed (maxReadCount : Nat) (events : List Event) : Prop :=
  ∀ before e later, events = before ++ e :: later → Follows maxReadCount before e

theorem WellFormed.concat {maxReadCount : Nat} {events : List Event} (h : WellFormed maxReadCount events)
    {e : Event} (he : Follows maxReadCount events e) : WellFormed maxReadCount (events ++ [e]) := by
  intro before e' later hsplit
  rcases List.eq_nil_or_concat later with rfl | ⟨later, last, rfl⟩
  · obtain ⟨rfl, hlast⟩ := List.append_inj' hsplit rfl
    rwa [← (List.cons.inj hlast).1]
  · rw [List.concat_eq_append, ← List.cons_append, ← List.append_assoc] at hsplit
    exact h before e' later (List.append_inj' hsplit rfl).1

theorem Reading.boot (before : List Event) {e : Event} (he : e.isBoot = true) :
    Reading (before ++ [e]) 0 :=
  ⟨before, e, [], rfl, he, fun _ h => absurd h List.not_mem_nil, rfl⟩

theorem Reading.read {before : List Event} {n : Nat} (h : Reading before n) (bus : I2c) :
    Reading (before ++ [.read bus]) (n + 1) := by
  obtain ⟨earlier, boot, reads, rfl, hboot, hreads, rfl⟩ := h
  refine ⟨earlier, boot, reads ++ [.read bus], by simp, hboot, fun r hr => ?_, by simp⟩
  rcases List.mem_append.mp hr with hr | hr
  · exact hreads r hr
  · rw [List.mem_singleton.mp hr]
    rfl

/-! ### The log of a run -/

/-- Awake, the board has made the reads it has counted; asleep, it knows since when. -/
structure Stands (maxReadCount : Nat) (events : List Event) (s : State) : Prop where
  active : s.power = .awake → s.sleepModeActive = false
  bound : s.power = .awake → s.readCount ≤ maxReadCount + 1
  reads : s.power = .awake → Reading events s.readCount
  slept : s.power = .deepSleep → ∃ earlier, events = earlier ++ [.sleep s.sleepEnterTime]

/-- What happened so far, and where it leaves the board. -/
structure Leaves (maxReadCount : Nat) (events : List Event) (s : Option State) : Prop where
  wellFormed : WellFormed maxReadCount events
  stands : ∀ t ∈ s, Stands maxReadCount events t

/-- Past an overflow nothing is promised. -/
theorem overflown_stands {maxReadCount : Nat} {events : List Event} {s : State}
    (h : s.power = .overflown) : Stands maxReadCount events s := by
  have hawake : s.power ≠ .awake := by
    rw [h]
    decide
  have hsleep : s.power ≠ .deepSleep := by
    rw [h]
    decide
  exact ⟨fun ha => absurd ha hawake, fun ha => absurd ha hawake, fun ha => absurd ha hawake,
    fun hs => absurd hs hsleep⟩

/-- After a boot nothing has been read. -/
theorem appMain_stands (maxReadCount : Nat) (o : Overflow) (now : Timeval) {s : State} (events : List Event)
    {e : Event} (he : e.isBoot = true) (hpower : s.power = .awake) (hactive : s.sleepModeActive = false)
    (hcount : s.readCount = 0) : Stands maxReadCount (events ++ [e]) (appMain o now s) := by
  rw [appMain]
  split
  · refine ⟨fun _ => hactive, fun _ => ?_, fun _ => ?_, fun hsleep => ?_⟩
    · rw [hcount]
      exact Nat.zero_le _
    · rw [hcount]
      exact Reading.boot events he
    · rw [hpower] at hsleep
      cases hsleep
  · exact overflown_stands rfl

/-- The timer's callback, awake. -/
theorem timer_leaves {maxReadCount : Nat} {events : List Event} {s : State}
    (h : Leaves maxReadCount events (some s)) (ha : s.power = .awake) (bus : I2c) (now : Timeval) :
    Leaves maxReadCount
      (events ++ if s.readCount > maxReadCount && !s.sleepModeActive then [.sleep now] else [.read bus])
      (some (sensorReadTimerCallback maxReadCount bus now s)) := by
  obtain ⟨hactive, hbound, hreads, -⟩ := h.stands s rfl
  have hcallback : (s.readCount > maxReadCount && !s.sleepModeActive) = decide (s.readCount > maxReadCount) := by
    rw [hactive ha, Bool.not_false, Bool.and_true]
  rw [sensorReadTimerCallback, hcallback]
  by_cases hcount : s.readCount > maxReadCount
  · have hfull : s.readCount = maxReadCount + 1 := Nat.le_antisymm (hbound ha) hcount
    have hfollows : Reading events (maxReadCount + 1) := by
      rw [← hfull]
      exact hreads ha
    rw [if_pos (decide_eq_true hcount), if_pos (decide_eq_true hcount)]
    refine ⟨h.wellFormed.concat hfollows, fun t ht => ?_⟩
    obtain rfl := Option.some.inj ht
    have hpower : Power.deepSleep ≠ .awake := by decide
    exact ⟨fun h => absurd h hpower, fun h => absurd h hpower, fun h => absurd h hpower,
      fun _ => ⟨events, rfl⟩⟩
  · have hroom : s.readCount ≤ maxReadCount := Nat.le_of_not_lt hcount
    rw [if_neg (by rw [decide_eq_false hcount]; exact Bool.false_ne_true),
      if_neg (by rw [decide_eq_false hcount]; exact Bool.false_ne_true)]
    refine ⟨h.wellFormed.concat ⟨s.readCount, hroom, hreads ha⟩, fun t ht => ?_⟩
    obtain rfl := Option.some.inj ht
    rw [countRead]
    split
    · refine ⟨hactive, fun _ => Nat.succ_le_succ hroom, fun _ => (hreads ha).read bus, fun hsleep => ?_⟩
      exact absurd (ha.symm.trans hsleep) (by decide)
    · exact overflown_stands rfl

theorem step_leaves (maxReadCount : Nat) (o : Overflow) (events : List Event) (s : Option State)
    (a : BoardAction) (h : Leaves maxReadCount events s) :
    Leaves maxReadCount (events ++ happened maxReadCount s a) (boardStep maxReadCount o s a) := by
  cases a with
  | reset cause now =>
    refine ⟨h.wellFormed.concat rfl, fun t ht => ?_⟩
    obtain rfl := Option.some.inj ht
    exact appMain_stands maxReadCount o now events rfl rfl rfl rfl
  | wakeUp cause now =>
    cases s with
    | none =>
      rw [happened, List.append_nil]
      exact h
    | some s =>
      by_cases hs : s.power = .deepSleep
      · rw [happened, if_pos hs]
        refine ⟨h.wellFormed.concat ((h.stands s rfl).slept hs), fun t ht => ?_⟩
        rw [boardStep, Option.map_some, if_pos hs] at ht
        obtain rfl := Option.some.inj ht
        rw [step, if_pos hs]
        exact appMain_stands maxReadCount o now events rfl rfl rfl rfl
      · rw [happened, if_neg hs, boardStep, Option.map_some, if_neg hs, List.append_nil]
        exact h
  | timer bus now =>
    cases s with
    | none =>
      rw [happened, List.append_nil]
      exact h
    | some s =>
      rw [happened, boardStep, Option.map_some, step]
      by_cases ha : s.power = .awake
      · rw [if_pos ha, if_pos ha]
        exact timer_leaves h ha bus now
      · rw [if_neg ha, if_neg ha, List.append_nil]
        exact h

/-- **Every line of the log is read back to what it was logged of, the bytes of each good read
among it; each wake-up reports the sleep right before it, from the instant that sleep began; and
each sleep comes after `MAX_READ_COUNT + 1` reads since a boot.** -/
theorem log_tells_sessions (maxReadCount : Nat) (o : Overflow) (errName : Int → List Char)
    (actions : List BoardAction) :
    let events := (board maxReadCount o).emitted (happened maxReadCount) none actions
    ((board maxReadCount o).emitted (printed maxReadCount o errName) none actions).map readLine =
        (events.flatMap (Event.told o)).map some ∧
      WellFormed maxReadCount events := by
  intro events
  have hlog : (board maxReadCount o).emitted (printed maxReadCount o errName) none actions =
      events.flatMap (Event.lines o errName) :=
    Machine.emitted_flatMap (fun _ _ => rfl) none actions
  have hstart : Leaves maxReadCount [] none := by
    refine ⟨fun before e later h => ?_, fun t ht => nomatch ht⟩
    exact absurd h.symm (List.append_ne_nil_of_right_ne_nil before (List.cons_ne_nil e later))
  have hleaves : Leaves maxReadCount events ((board maxReadCount o).runFrom none actions) :=
    Machine.runFrom_history (M := board maxReadCount o) (step_leaves maxReadCount o) hstart actions
  refine ⟨?_, hleaves.wellFormed⟩
  rw [hlog, List.map_flatMap, List.map_flatMap]
  exact congrArg (events.flatMap ·) (funext fun e => readLine_lines o errName e)

end Aniot.P5
