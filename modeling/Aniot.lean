import Aniot.C.Arith
import Aniot.C.Text
import Aniot.C.Print
import Aniot.C.Time
import Aniot.C.Rounding
import Aniot.Machine.Run
import Aniot.Machine.Fifo
import Aniot.Machine.QueueSet
import Aniot.Machine.Launch
import Aniot.Machine.Response
import Aniot.Esp.Timer
import Aniot.P2.Rounds
import Aniot.P2.Boot
import Aniot.P2.Window
import Aniot.P2.TwoFilters
import Aniot.P2.Names
import Aniot.P2.Response
import Aniot.P2.Means
import Aniot.P2.Statistics
import Aniot.P2.SensorRounds
import Aniot.P2.Console
import Aniot.P2.Floats
import Aniot.P2.Handles
import Aniot.P2.HandlesProofs
import Aniot.P3.Chronometer
import Aniot.P3.Events
import Aniot.P3.TickSource
import Aniot.P3.StaleTicks
import Aniot.P3.Touch
import Aniot.P3.Pad
import Aniot.P3.Pace
import Aniot.P3.Response
import Aniot.P3.Display
import Aniot.P3.Infrared
import Aniot.P4.Temperature
import Aniot.P5.ReadPeriods
import Aniot.P5.SleepTime
import Aniot.P5.PrintPeriod
import Aniot.P5.Log
import Aniot.P6.RedirectLog
import Aniot.P6.Recorder
import Aniot.P6.Readings
import Aniot.P6.Readout
import Aniot.P6.ReadLoop
import Aniot.P6.Response
import Aniot.P6.Samples
import Aniot.P6.Station
import Aniot.P6.Alarms
