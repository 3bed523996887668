import MediaTransport.Media.Extension

/-!
# Low overhead container headers

The registered extensions of an object seen as typed headers: when a frame was
captured, how a video frame depends on others, how loud the audio is, and the
configuration of the video codec.
-/

namespace MediaTransport

/-! ## Capture timestamps -/

/-- A time does not fit a varint of microseconds. -/
inductive TimeOverflow where
  | tooLate
deriving DecidableEq, Repr

def TimeOverflow.message : TimeOverflow → String
  | .tooLate => "time overflow"

/-- Microseconds since the Unix epoch, which fit a varint. -/
structure CaptureTimestamp where
  micros : Nat
  inRange : micros < Varint.bound
deriving DecidableEq, Repr

namespace CaptureTimestamp

def ofMicros (micros : Nat) : Except TimeOverflow CaptureTimestamp :=
  if inRange : micros < Varint.bound then .ok ⟨micros, inRange⟩ else .error .tooLate

def ofMillis (millis : Nat) : Except TimeOverflow CaptureTimestamp :=
  ofMicros (1000 * millis)

/-- Less than a microsecond is dropped. -/
def ofDuration (seconds nanos : Nat) : Except TimeOverflow CaptureTimestamp :=
  ofMicros (1000000 * seconds + nanos / 1000)

/-- Whole milliseconds. -/
def millis (timestamp : CaptureTimestamp) : Nat := timestamp.micros / 1000

/-- Seconds and nanoseconds. -/
def duration (timestamp : CaptureTimestamp) : Nat × Nat :=
  (timestamp.micros / 1000000, timestamp.micros % 1000000 * 1000)

instance : Listing CaptureTimestamp := ⟨fun timestamp => listing timestamp.micros ++ "us"⟩

end CaptureTimestamp

/-! ## Packed headers -/

/-- How a video frame depends on others, in eight bits. -/
structure VideoFrameMarking where
  independent : Bool := false
  discardable : Bool := false
  baseLayerSync : Bool := false
  /-- Three bits are kept. -/
  temporalId : Nat := 0
  /-- Two bits are kept. -/
  spatialId : Nat := 0
deriving DecidableEq, Repr

namespace VideoFrameMarking

def toBits (marking : VideoFrameMarking) : Nat :=
  marking.independent.toNat + 2 * marking.discardable.toNat + 4 * marking.baseLayerSync.toNat +
    8 * (marking.temporalId % 8) + 64 * (marking.spatialId % 4)

def ofBits (bits : Nat) : VideoFrameMarking where
  independent := bits % 2 = 1
  discardable := bits / 2 % 2 = 1
  baseLayerSync := bits / 4 % 2 = 1
  temporalId := bits / 8 % 8
  spatialId := bits / 64 % 4

end VideoFrameMarking

/-- Seven bits of level, where zero is the loudest, and a bit for speech. -/
structure AudioLevel where
  voiceActivity : Bool := false
  level : Nat := 0
deriving DecidableEq, Repr

namespace AudioLevel

def toBits (audio : AudioLevel) : Nat :=
  audio.level % 128 + 128 * audio.voiceActivity.toNat

def ofBits (bits : Nat) : AudioLevel where
  voiceActivity := bits / 128 % 2 = 1
  level := bits % 128

end AudioLevel

/-! ## Headers -/

structure LocHeaders where
  captureTimestamp : Option CaptureTimestamp := none
  videoFrameMarking : Option VideoFrameMarking := none
  audioLevel : Option AudioLevel := none
  videoConfig : Option Bytes := none
  /-- The extensions of types that are not registered, in order. -/
  other : Extensions := {}
deriving DecidableEq, Repr

namespace LocHeaders

def requireVarint (value : ExtensionValue) : Except DecodeError Nat :=
  match value.varint? with
  | some number => .ok number
  | none => .error .invalidValue

/-- Takes in one more extension; the last of a registered type counts. -/
def add (headers : LocHeaders) (entry : Nat × ExtensionValue) : Except DecodeError LocHeaders :=
  match LocType.ofNat? entry.1 with
  | none =>
    match headers.other.push entry.1 entry.2 with
    | .ok other => .ok { headers with other }
    | .error _ => .error .invalidValue
  | some .captureTimestamp => do
    match CaptureTimestamp.ofMicros (← requireVarint entry.2) with
    | .ok timestamp => return { headers with captureTimestamp := some timestamp }
    | .error _ => throw .boundsExceeded
  | some .videoFrameMarking => do
    let bits ← requireVarint entry.2
    return { headers with videoFrameMarking := some (.ofBits bits) }
  | some .audioLevel => do
    let bits ← requireVarint entry.2
    return { headers with audioLevel := some (.ofBits bits) }
  | some .videoConfig =>
    match entry.2.block? with
    | some config => .ok { headers with videoConfig := some config }
    | none => .error .invalidValue

def ofExtensions (extensions : Extensions) : Except DecodeError LocHeaders :=
  extensions.entries.foldlM add {}

/-- The registered extensions in the order of their types, and then the others. -/
def toExtensions (headers : LocHeaders) : Extensions :=
  let registered (type : LocType) (value : Option ExtensionValue) :=
    (value.map fun value => (type.toNat, value)).toList
  ⟨registered .captureTimestamp (headers.captureTimestamp.map (.varint ·.micros)) ++
    registered .videoFrameMarking (headers.videoFrameMarking.map (.varint ·.toBits)) ++
    registered .audioLevel (headers.audioLevel.map (.varint ·.toBits)) ++
    registered .videoConfig (headers.videoConfig.map .block) ++
    headers.other.entries⟩

end LocHeaders

end MediaTransport
