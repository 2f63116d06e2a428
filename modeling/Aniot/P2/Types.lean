import Mathlib.Data.Rat.Defs

/-! The records and constants of `p2/src/types.h`.

A configuration holds the constants the tasks are compiled with. The number of
sensors, the queue lengths and the filter's window are free, so that results hold
for every setting; `typesH` are the settings of the source, with the number of
sensors left open. Numbers that C keeps in `float` are of a type `R` with the
operations the code uses. -/
namespace Aniot.P2

/-- `SensorData_t`. -/
structure SensorData where
  value : Int
  timestamp : Int
deriving DecidableEq

/-- `FilterData_t`. -/
structure FilterData (R : Type) where
  taskName : String
  valueWeighted : R
  valueOriginal : Int
  timestamp : Int

def prefixFilterTask : String := "filter"
def prefixSensor : String := "sensor"

/-- The name `init` builds for a sensor. -/
def sensorName (i : Nat) : String := prefixSensor ++ "_" ++ toString i

/-- The name `app_main` builds for a sensor's filter task. -/
def filterTaskName (i : Nat) : String := prefixFilterTask ++ "_" ++ prefixSensor ++ "_" ++ toString i

/-- The constants the tasks run with. FreeRTOS creates no queue without places, and
the window has at least one coefficient. -/
structure Config (R : Type) where
  numberSensors : Nat
  numElemSensorQueue : Nat
  numElemFilterQueue : Nat
  weightingCoefficients : List R
  stadisticsInterval : Nat
  controllerInterval : Nat
  sensorQueue_pos : 0 < numElemSensorQueue
  filterQueue_pos : 0 < numElemFilterQueue
  window_pos : 0 < weightingCoefficients.length

/-- `controllerQueues` is created with a place for every item of every filter queue. -/
def Config.numElemControllerQueues {R : Type} (cfg : Config R) : Nat :=
  cfg.numElemFilterQueue * cfg.numberSensors

/-- The settings of `types.h`, for any number of sensors. -/
def typesH (numberSensors : Nat) : Config Rat where
  numberSensors
  numElemSensorQueue := 5
  numElemFilterQueue := 5
  weightingCoefficients := [45 / 100, 25 / 100, 15 / 100, 10 / 100, 5 / 100]
  stadisticsInterval := 10 * 1000
  controllerInterval := 1 * 1000
  sensorQueue_pos := by decide
  filterQueue_pos := by decide
  window_pos := by simp

end Aniot.P2
