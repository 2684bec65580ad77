import SyncLayer.Config.Basic

/-!
# Settings

The settings that are in force in a process, and how a configuration is installed into them.
-/

namespace SyncLayer

/-- The cycles per second where nothing better is known. -/
def platformRate : UInt64 := 2600000000

/-- The settings of a process. A rate of zero stands for the rate of the platform. -/
structure Settings where
  threshold : UInt64 := defaultThreshold
  rate : UInt64 := 0
  flushInterval : UInt64 := 0
  format : StatsFormat := .text
deriving DecidableEq, Repr

/-- A measurement of the cycle clock against a clock of nanoseconds. -/
structure Measurement where
  cycles : UInt64
  nanoseconds : Nat
deriving DecidableEq, Repr

/-- The cycles per second that a measurement shows, in 64 bits. -/
def Measurement.rate (m : Measurement) : UInt64 :=
  UInt64.ofNat (m.cycles.toNat * 1000000000 / max m.nanoseconds 1)

namespace Settings

/-- The rate that converts cycles to seconds. -/
def cyclesPerSecond (s : Settings) : UInt64 :=
  if s.rate = 0 then platformRate else s.rate

/-- The seconds that a number of cycles takes. -/
def seconds (s : Settings) (cycles : UInt64) : Binary64 :=
  Binary64.quotient cycles.toNat s.cyclesPerSecond.toNat

/-- The settings after a calibration, which changes nothing where it shows no rate. -/
def calibrate (m : Measurement) (s : Settings) : Settings :=
  if 0 < m.rate then { s with rate := m.rate } else s

/-- The settings after a configuration is installed. The measurement is taken if the
configuration asks for one. -/
def install (c : Config) (m : Measurement) (s : Settings) : Settings :=
  let s :=
    { s with
      threshold := c.contentionThreshold
      flushInterval := c.flushInterval
      format := c.statsFormat }
  match c.cyclesPerSecond with
  | some rate => { s with rate }
  | none => if c.calibrateClock then s.calibrate m else { s with rate := 0 }

end Settings

end SyncLayer
