import Mathlib.Data.List.Chain

/-! # Events for clients without sensor access -/

namespace NativeLibs.Sensor

open List

/-! ## Flush events that were dropped before -/

/-- `mSensorInfo`: the sensors of a connection, with `mPendingFlushEventsToSend`. -/
abbrev SensorInfo := List (Int × Nat)

variable (writes : Nat → Bool)

variable {Event : Type*} (isMetaData : Event → Bool)

structure Connection where
  mSensorInfo : SensorInfo
  mCacheSize : Nat
  mWakeLockRefCount : Nat

/-- A flush complete event that is made for a sensor, or an event of the buffer. -/
inductive Forwarded (Event : Type*)
  | flushComplete (handle : Int) (needsAck : Bool)
  | buffered (event : Event)
  deriving DecidableEq

structure Outcome (Event : Type*) where
  mSensorInfo : SensorInfo
  mWakeLockRefCount : Nat
  socket : List (Forwarded Event)
  cache : List (Forwarded Event)

end NativeLibs.Sensor
