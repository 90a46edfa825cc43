import Mathlib

/-! # Configuration and builds

The constants of `config_mac.h`, `config_ipc.h`, `timeouts.h` and `config.h`, with durations in
microseconds, and what the modules share: the builds the `#ifdef`s select and the ways in which a
call fails to return.

* **`Config`** — the configuration constants.
* **`Build`** — the operating system and whether the radio is the physical one.
* **`Halt`** — why a call does not return.
* **`ByteString`** — a packet on the air or between layers. -/

namespace WmnIot

namespace Config

/-- `MAX_NUMBER_FREQS`: the channels of the network. -/
abbrev maxNumberFreqs : ℕ := 8

/-- `MAX_NUMBER_SLOTS`: the slots of a frame. -/
abbrev maxNumberSlots : ℕ := 16

/-- `(MAX_NUMBER_SLOTS / 8U) + ((MAX_NUMBER_SLOTS % 8) != 0 ? 1 : 0)`: the bytes of a row of a
slot map, which has one bit for each slot of the frame. -/
abbrev slotBytes : ℕ := 2

example : slotBytes = maxNumberSlots / 8 + if maxNumberSlots % 8 ≠ 0 then 1 else 0 := by decide

/-- `FRAME_DURATION`. -/
abbrev frameDuration : UInt32 := 1280000

/-- `SLOT_DURATION`: `FRAME_DURATION / MAX_NUMBER_SLOTS`. -/
abbrev slotDuration : UInt32 := 80000

example : slotDuration = frameDuration / UInt32.ofNat maxNumberSlots := by decide

/-- `CF_SLOT_DURATION`: 5 % of a slot, shared by the channels. -/
abbrev cfSlotDuration : ℕ := 500

/-- `DETECTION_TIME`. -/
abbrev detectionTime : ℕ := 1000000

/-- `FREQUENCIES`. -/
def frequencies : Fin maxNumberFreqs → UInt32 :=
  ![903000000, 905000000, 907000000, 912000000, 917000000, 922000000, 927000000, 928000000]

/-- `MAX_NUMBER_DATA_PACKETS`: the capacity of a send queue. -/
abbrev maxNumberDataPackets : ℕ := 10

/-- `PACKET_SIZE_MAC`: the bytes of a packet on the air. -/
abbrev packetSizeMac : ℕ := 256

/-- `NETWORK_TIME_EPSILON`. -/
abbrev networkTimeEpsilon : UInt64 := 2000

/-- `UUID`: the node id. -/
def uuid : UInt64 × UInt64 := (0x0c0b4663131a4c5f, 0xa1b73100144476c0)

/-- `MAX_QUEUES`. -/
abbrev maxQueues : ℕ := 10

/-- `MAX_ELEMENTS_ON_QUEUE`. -/
abbrev maxElementsOnQueue : ℕ := 10

/-- `MAX_MESSAGE_SIZE`: the bytes of a message between layers. -/
abbrev maxMessageSize : ℕ := 256

/-- `QUEUE_SIZE`. -/
abbrev queueSize : ℕ := 16

/-- `TIMEOUTS`: the entries of the timeout table. -/
abbrev timeouts : ℕ := 20

/-- `TIMEOUT_SET_ERROR`: the id returned when no timeout is set. -/
abbrev timeoutSetError : ℕ := timeouts + 1

/-! None of the arrays is empty. -/

instance : NeZero maxNumberFreqs := ⟨by decide⟩

instance : NeZero slotBytes := ⟨by decide⟩

instance : NeZero maxNumberDataPackets := ⟨by decide⟩

instance : NeZero (2 * maxNumberDataPackets) := ⟨by decide⟩

instance : NeZero packetSizeMac := ⟨by decide⟩

end Config

/-- The operating system selected by `__LINUX__` and `__RIOT__`. -/
inductive OS
  | linux
  | riot
  deriving DecidableEq, Repr

/-- A build: the operating system, and whether `NATIVE` replaces the radio by stubs. -/
structure Build where
  /-- `__LINUX__` or `__RIOT__`. -/
  os : OS
  /-- `NATIVE`. -/
  native : Bool
  deriving DecidableEq, Repr

/-- Why a call does not return. -/
inductive Halt
  /-- An `assert` fails. -/
  | assertFailed
  /-- An array is read or written outside its bounds. -/
  | outOfBounds
  /-- The thread blocks in the operating system. -/
  | blocked
  /-- The inputs end while a loop is still polling. -/
  | polling
  deriving DecidableEq, Repr

/-- `assert(cond)`. -/
def assert (cond : Bool) : Except Halt Unit :=
  if cond then .ok () else .error .assertFailed

@[simp] theorem assert_true : assert true = .ok () := rfl

@[simp] theorem assert_false : assert false = .error .assertFailed := rfl

/-- The `PACKET_SIZE_MAC` bytes of a packet; messages between layers have the same length. -/
abbrev ByteString : Type := Fin Config.packetSizeMac → UInt8

/-- A node id: two 64-bit words. -/
abbrev NodeId : Type := UInt64 × UInt64

/-- A map of the occupied slots, one row of slot bytes for each channel. -/
abbrev SlotMap : Type := Fin Config.maxNumberFreqs → Fin Config.slotBytes → UInt8

end WmnIot
