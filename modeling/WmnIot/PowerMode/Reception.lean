import WmnIot.Foundations.RingBuffer
import WmnIot.PowerMode.SlotTimer
import WmnIot.Queues.ReceivedQueue

/-! # `RECEIVE` from the first attempt to the last packet

`RECEIVE` makes up to two attempts to hear a control packet, compares that packet with what the node
knows, and stores the data packets that follow. Two slips keep it from doing so always: the counter
of the attempts is 2 also when the second one succeeds, and the lower end of the window around the
network time goes through a signed 32-bit variable.

* **`OnTime`**, **`WindowExact`** — the intended window, and where the computed one agrees with it.
* **`Appended`** — what storing a list of packets does to the ring.
* **`appended`** — the packets that arrive in time and find room.
* **`ReceivesEndToEnd`**, **`receive_endToEnd_iff`** — the whole state. -/

namespace WmnIot

open RingBuffer Runs

/-! ## The window around the network time -/

/-- The two network times differ by no more than `NETWORK_TIME_EPSILON`. -/
def OnTime (own time : UInt64) : Prop :=
  |(time.toNat : ℤ) - own.toNat| ≤ Config.networkTimeEpsilon.toNat

/-- The lower end of the window that `RECEIVE` computes. -/
def windowLow (own : UInt64) : ℕ :=
  let low := (own - Config.networkTimeEpsilon).toNat % 2 ^ 32
  if low < 2 ^ 31 then low else 0

/-- The computed window is right about `time`: the lower end fits into 31 bits, or else `time` does
not lie between the lower end that is computed and the right one; where the upper end overflows,
`time` lies between the two ends. -/
def WindowExact (own time : UInt64) : Prop :=
  own.toNat < 2 ^ 31 + 2000 ∨
  (own.toNat + 2000 < 2 ^ 64 ∧ (own.toNat ≤ time.toNat + 2000 ∨
    (time.toNat < (own.toNat - 2000) % 2 ^ 32 ∧ (own.toNat - 2000) % 2 ^ 32 < 2 ^ 31))) ∨
  (2 ^ 64 ≤ own.toNat + 2000 ∧ own.toNat + 2000 < time.toNat + 2 ^ 64 ∧
    time.toNat + 2000 < own.toNat)

/-- A signed 32-bit number that is not negative keeps its value when it is widened. -/
theorem toNat_widen {e : UInt32} (h : e.toNat < 2 ^ 31) :
    e.toInt32.toInt64.toUInt64.toNat = e.toNat := by
  have hvalue : e.toBitVec.toInt = (e.toNat : ℤ) :=
    BitVec.toInt_eq_toNat_of_lt (by show 2 * e.toNat < 2 ^ 32; omega)
  have hwide : 0 ≤ e.toInt32.toInt64 := by
    rw [Int64.le_iff_toInt_le, Int32.toInt_toInt64]
    show 0 ≤ e.toBitVec.toInt
    omega
  rw [Int64.toNat_toUInt64_of_le hwide, Int32.toNatClampNeg_toInt64]
  show e.toBitVec.toInt.toNat = e.toNat
  rw [hvalue, Int.toNat_natCast]

/-- A 32-bit number is negative as a signed one from the middle of its range on. -/
theorem toInt32_neg_iff (e : UInt32) : e.toInt32 < 0 ↔ ¬ e.toNat < 2 ^ 31 := by
  rw [Int32.lt_iff_toInt_lt]
  show e.toBitVec.toInt < 0 ↔ ¬ e.toBitVec.toNat < 2 ^ 31
  rw [BitVec.toInt_eq_toNat_cond]
  have := e.toBitVec.isLt
  split <;> omega

/-- **The window that `RECEIVE` computes.** -/
theorem notOnTime_eq_false_iff (own time : UInt64) :
    notOnTime own time = false ↔
      windowLow own ≤ time.toNat ∧ time.toNat ≤ (own.toNat + 2000) % 2 ^ 64 := by
  have hlow : (if (own - Config.networkTimeEpsilon).toUInt32.toInt32 < 0 then (0 : UInt64)
      else (own - Config.networkTimeEpsilon).toUInt32.toInt32.toInt64.toUInt64).toNat =
      windowLow own := by
    unfold windowLow
    generalize own - Config.networkTimeEpsilon = d
    have hd : d.toUInt32.toNat = d.toNat % 2 ^ 32 := UInt64.toNat_toUInt32 d
    dsimp only
    rw [← hd]
    by_cases hlt : d.toUInt32.toNat < 2 ^ 31
    · rw [if_neg (mt (toInt32_neg_iff _).mp (not_not.mpr hlt)), if_pos hlt, toNat_widen hlt]
    · rw [if_pos ((toInt32_neg_iff _).mpr hlt), if_neg hlt]
      rfl
  unfold notOnTime
  simp only [Bool.or_eq_false_iff, decide_eq_false_iff_not, UInt64.lt_iff_toNat_lt, hlow, not_lt]
  rfl

/-- The computed window agrees with the intended one exactly where it is said to. -/
theorem notOnTime_exact_iff (own time : UInt64) :
    (notOnTime own time = false ↔ OnTime own time) ↔ WindowExact own time := by
  have hown := own.toNat_lt
  have htime := time.toNat_lt
  have hlow : windowLow own =
      if (own.toNat + 2 ^ 64 - 2000) % 2 ^ 64 % 2 ^ 32 < 2 ^ 31 then
        (own.toNat + 2 ^ 64 - 2000) % 2 ^ 64 % 2 ^ 32 else 0 := by
    have hsub : (own - Config.networkTimeEpsilon).toNat = (own.toNat + 2 ^ 64 - 2000) % 2 ^ 64 := by
      rw [UInt64.toNat_sub]
      show (2 ^ 64 - 2000 + own.toNat) % 2 ^ 64 = _
      omega
    unfold windowLow
    rw [hsub]
  have hepsilon : Config.networkTimeEpsilon.toNat = 2000 := rfl
  rw [notOnTime_eq_false_iff, OnTime, WindowExact, hlow, hepsilon, abs_le]
  split <;> omega

/-! ## The checks -/

/-- The packet heard tells of a collision in the slot and the channel of the node. -/
def NamesOwnPlace (m : Node) : Prop :=
  m.mac.ctrlpktRecv.collisionFrequency = m.mac.transmitChannel ∧
    m.mac.ctrlpktRecv.collisionSlot = m.mac.selectedSlot

instance (m : Node) : Decidable (NamesOwnPlace m) := inferInstanceAs (Decidable (_ ∧ _))

/-- The packet heard was sent in the slot and the frame in which the node is. -/
def SameSlot (m : Node) : Prop :=
  m.mac.ctrlpktRecv.currentSlot = m.mac.frame.currentSlot ∧
    m.mac.ctrlpktRecv.currentFrame = m.mac.frame.currentFrame

instance (m : Node) : Decidable (SameSlot m) := inferInstanceAs (Decidable (_ ∧ _))

/-- The data phase of `RECEIVE`. -/
def receiveData (build : Build) (polls : List ReceivePoll) (m : Node) :
    Except Halt (Node × PmExecution) := do
  let m ←
    if m.mac.received.numberPacketsReceived.toNat < 2 * Config.maxNumberDataPackets then
      pollLoop .polling (receivePoll build) polls m
    else pure m
  return (mclmacSetNextPowermodeState m .passive, .success)

/-- **`RECEIVE` after a first attempt that succeeds.** -/
theorem executeReceive_heard {build : Build} {attempt₁ attempt₂ : CtrlRadio}
    {polls : List ReceivePoll} {n m : Node}
    (hheard : mclmacReceiveControlPacket build attempt₁ n = (m, true)) :
    executeReceive build attempt₁ attempt₂ polls n =
      if NamesOwnPlace m then .ok (mclmacSetNextPowermodeState m .finishp, .collisionError)
      else if SameSlot m ∧ notOnTime m.networkTime m.mac.ctrlpktRecv.networkTime = false then
        receiveData build polls m
      else .ok (mclmacSetNextPowermodeState m .finishp, .synchronizationError) := by
  have hcheck : (m.mac.ctrlpktRecv.currentSlot ≠ m.mac.frame.currentSlot ∨
      m.mac.ctrlpktRecv.currentFrame ≠ m.mac.frame.currentFrame ∨
      notOnTime m.networkTime m.mac.ctrlpktRecv.networkTime = true) ↔
      ¬ (SameSlot m ∧ notOnTime m.networkTime m.mac.ctrlpktRecv.networkTime = false) := by
    rw [SameSlot, not_and_or, not_and_or, Bool.not_eq_false, or_assoc]
  unfold executeReceive
  simp only [hheard, Bool.not_true, Bool.false_eq_true, if_false]
  by_cases hplace : NamesOwnPlace m
  · rw [if_pos hplace, if_pos (show _ ∧ _ from hplace)]
    rfl
  · rw [if_neg hplace, if_neg (show ¬ (_ ∧ _) from hplace)]
    by_cases hpass : SameSlot m ∧ notOnTime m.networkTime m.mac.ctrlpktRecv.networkTime = false
    · rw [if_pos hpass, if_neg (mt hcheck.mp (not_not.mpr hpass))]
      rfl
    · rw [if_neg hpass, if_pos (hcheck.mpr hpass)]
      rfl

/-- **`RECEIVE` after a first attempt that fails**: whatever the second one gives. -/
theorem executeReceive_lost {build : Build} {attempt₁ attempt₂ : CtrlRadio}
    {polls : List ReceivePoll} {n m : Node}
    (hlost : mclmacReceiveControlPacket build attempt₁ n = (m, false)) :
    executeReceive build attempt₁ attempt₂ polls n =
      .ok (mclmacSetNextPowermodeState (mclmacReceiveControlPacket build attempt₂ m).1 .passive,
        .success) := by
  unfold executeReceive
  simp only [hlost]
  rfl

/-- The data phase reports no error. -/
theorem receiveData_success {build : Build} {polls : List ReceivePoll} {m n' : Node} {ret : PmExecution}
    (h : receiveData build polls m = .ok (n', ret)) : ret = .success := by
  unfold receiveData at h
  split at h
  · obtain ⟨_, -, h⟩ := bind_eq_ok.mp h
    exact (congrArg Prod.snd (Except.ok.inj h)).symm
  · exact (congrArg Prod.snd (Except.ok.inj h)).symm

/-- **The window of `RECEIVE`** is the intended one as far as it can be: for network times whose
windows do not overflow, `RECEIVE` takes a packet of the current slot for late or early as the
integers would have it exactly if the lower end fits into 31 bits, the time is not below that end,
or it is also below the end that is computed. -/
theorem receiveWindow_intended_iff (own time : UInt64)
    (hsum : own.toNat + Config.networkTimeEpsilon.toNat < 2 ^ 64) :
    ((notOnTime own time = false ↔ OnTime own time) ↔
      own.toNat < 2 ^ 31 + Config.networkTimeEpsilon.toNat ∨
      own.toNat ≤ time.toNat + Config.networkTimeEpsilon.toNat ∨
      (time.toNat < (own.toNat - Config.networkTimeEpsilon.toNat) % 2 ^ 32 ∧
        (own.toNat - Config.networkTimeEpsilon.toNat) % 2 ^ 32 < 2 ^ 31)) ∧
    ∀ (build : Build) (attempt₁ attempt₂ : CtrlRadio) (polls : List ReceivePoll) (n m : Node),
      mclmacReceiveControlPacket build attempt₁ n = (m, true) →
      m.networkTime = own → m.mac.ctrlpktRecv.networkTime = time →
      ¬ NamesOwnPlace m → SameSlot m →
      (executeReceive build attempt₁ attempt₂ polls n =
          .ok (mclmacSetNextPowermodeState m .finishp, .synchronizationError) ↔
        notOnTime own time = true) := by
  have hepsilon : Config.networkTimeEpsilon.toNat = 2000 := rfl
  refine ⟨?_, ?_⟩
  · rw [notOnTime_exact_iff, WindowExact]
    simp only [hepsilon] at hsum ⊢
    omega
  · intro build attempt₁ attempt₂ polls n m hheard hown htime hplace hslot
    rw [executeReceive_heard hheard, if_neg hplace, hown, htime]
    cases hlate : notOnTime own time with
    | true =>
      rw [if_neg fun h => Bool.noConfusion h.2]
      exact iff_of_true rfl rfl
    | false =>
      rw [if_pos ⟨hslot, rfl⟩]
      refine iff_of_false (fun hdata => ?_) (by simp)
      exact PmExecution.noConfusion (receiveData_success hdata)

/-- An own network time of 5000 is treated right, for a time 900 later. -/
theorem receiveWindow_intended_early :
    (notOnTime 5000 5900 = false ↔ OnTime 5000 5900) :=
  (receiveWindow_intended_iff 5000 5900 (by decide)).1.mpr (.inl (by decide))

/-- A node that has counted up to 2^31 + 2000 takes the time 0 for its own. -/
theorem receiveWindow_signFlip :
    ¬ (notOnTime (2 ^ 31 + 2000) 0 = false ↔ OnTime (2 ^ 31 + 2000) 0) := by
  rw [notOnTime_exact_iff]
  unfold WindowExact
  decide

/-! ## Storing a list of packets -/

/-- The packets in the strings follow one another from `_last_received` on, the counter has grown by
their number, and all else is as it was. -/
structure Appended (q : ReceivedQueue) (strings : List ByteString) (q' : ReceivedQueue) : Prop where
  nothing : strings = [] → q' = q
  packets : window q'.packetsReceived q.lastReceived.toNat strings.length =
    strings.map datapacketOfBytes
  others : ∀ i, strings.length ≤ i → i < receivedCapacity →
    q'.packetsReceived (Fin.ofNat _ (q.lastReceived.toNat + i)) =
      q.packetsReceived (Fin.ofNat _ (q.lastReceived.toNat + i))
  number : q'.numberPacketsReceived.toNat = q.numberPacketsReceived.toNat + strings.length
  first : q'.firstReceived = q.firstReceived
  last : strings ≠ [] →
    q'.lastReceived.toNat = (q.lastReceived.toNat + strings.length) % receivedCapacity

theorem Appended.nil (q : ReceivedQueue) : Appended q [] q :=
  ⟨fun _ => rfl, rfl, fun _ _ _ => rfl, rfl, rfl, fun h => absurd rfl h⟩

/-- The packets can be stored: there is an entry for the first one, and on Linux none reaches past
the end of its string. -/
def Storable (os : OS) (q : ReceivedQueue) (strings : List ByteString) : Prop :=
  strings ≠ [] → q.lastReceived.toNat < receivedCapacity ∧ ∀ b ∈ strings, SizeFits os b

/-- The ring after one packet is stored. -/
def ReceivedQueue.stored (q : ReceivedQueue) (b : ByteString) : ReceivedQueue :=
  { q with
    packetsReceived :=
      Function.update q.packetsReceived (Fin.ofNat _ q.lastReceived.toNat) (datapacketOfBytes b)
    lastReceived := (q.lastReceived + 1) % UInt8.ofNat receivedCapacity
    numberPacketsReceived := q.numberPacketsReceived + 1 }

theorem ReceivedQueue.store_eq {os : OS} {q : ReceivedQueue} {b : ByteString}
    (hlast : q.lastReceived.toNat < receivedCapacity) (hb : SizeFits os b) :
    q.store os b = .ok (q.stored b) := by
  rw [ReceivedQueue.store, dif_pos hlast, datapacketConstructFromBytestring, if_pos hb,
    ReceivedQueue.stored, ofNat_of_lt hlast]
  rfl

theorem ReceivedQueue.store_eq_error {os : OS} {q : ReceivedQueue} {b : ByteString}
    (h : ¬ (q.lastReceived.toNat < receivedCapacity ∧ SizeFits os b)) :
    q.store os b = .error .outOfBounds := by
  unfold ReceivedQueue.store
  by_cases hlast : q.lastReceived.toNat < receivedCapacity
  · have hb : ¬ SizeFits os b := fun hb => h ⟨hlast, hb⟩
    rw [dif_pos hlast, datapacketConstructFromBytestring, if_neg hb]
    rfl
  · rw [dif_neg hlast]
    rfl

@[simp]
theorem ReceivedQueue.stored_number (q : ReceivedQueue) (b : ByteString) :
    (q.stored b).numberPacketsReceived = q.numberPacketsReceived + 1 := rfl

theorem ReceivedQueue.stored_last {q : ReceivedQueue} (b : ByteString)
    (hlast : q.lastReceived.toNat < receivedCapacity) :
    (q.stored b).lastReceived.toNat = (q.lastReceived.toNat + 1) % receivedCapacity := by
  have h20 : (UInt8.ofNat receivedCapacity).toNat = 20 := rfl
  show ((q.lastReceived + 1) % UInt8.ofNat receivedCapacity).toNat = _
  rw [UInt8.toNat_mod, UInt8.toNat_add, UInt8.toNat_one, h20]
  simp only [receivedCapacity, Config.maxNumberDataPackets] at hlast ⊢
  omega

/-- The counter of a queue that is not full does not wrap. -/
theorem number_succ {number : UInt16} (h : number.toNat < receivedCapacity) :
    (number + 1).toNat = number.toNat + 1 := by
  simp only [receivedCapacity, Config.maxNumberDataPackets] at h
  rw [UInt16.toNat_add, UInt16.toNat_one]
  omega

/-- **Storing one packet and then a list of them** stores the longer list. -/
theorem Appended.cons {q q' : ReceivedQueue} {b : ByteString} {strings : List ByteString}
    (hlast : q.lastReceived.toNat < receivedCapacity) (hroom : strings.length < receivedCapacity)
    (hnumber : q.numberPacketsReceived.toNat < receivedCapacity)
    (h : Appended (q.stored b) strings q') : Appended q (b :: strings) q' := by
  have hlast₁ := ReceivedQueue.stored_last b hlast
  -- the entries behind those of `strings` are those of the ring after the first packet
  have hothers : ∀ i, strings.length ≤ i → i < receivedCapacity →
      q'.packetsReceived (Fin.ofNat _ (q.lastReceived.toNat + 1 + i)) =
        (q.stored b).packetsReceived (Fin.ofNat _ (q.lastReceived.toNat + 1 + i)) := by
    intro i hi hlt
    have hentry := h.others i hi hlt
    rwa [hlast₁, ofNat_eq_of_mod_eq (Nat.mod_add_mod _ _ _)] at hentry
  constructor
  · exact fun hnil => absurd hnil (List.cons_ne_nil _ _)
  · have hself : q'.packetsReceived (Fin.ofNat _ q.lastReceived.toNat) = datapacketOfBytes b := by
      have hround : Fin.ofNat receivedCapacity (q.lastReceived.toNat + 1 + (receivedCapacity - 1)) =
          Fin.ofNat _ q.lastReceived.toNat :=
        ofNat_eq_of_mod_eq (by rw [show q.lastReceived.toNat + 1 + (receivedCapacity - 1) =
          q.lastReceived.toNat + receivedCapacity from rfl, Nat.add_mod_right])
      have hentry := hothers (receivedCapacity - 1) (Nat.le_sub_one_of_lt hroom) (by decide)
      rw [hround] at hentry
      rw [hentry]
      exact Function.update_self _ _ _
    have hrest := h.packets
    rw [hlast₁, window_mod] at hrest
    rw [List.length_cons, window_succ, hself, hrest, List.map_cons]
  · intro i hi hlt
    rw [List.length_cons] at hi
    obtain ⟨j, rfl⟩ : ∃ j, i = j + 1 := ⟨i - 1, by omega⟩
    have hentry := hothers j (by omega) (by omega)
    rw [Nat.add_assoc, Nat.add_comm 1 j] at hentry
    have hround : j + 1 < 2 * Config.maxNumberDataPackets := hlt
    rw [hentry]
    exact Function.update_of_ne (ofNat_ne_of_lt (by omega) (by omega)).symm _ _
  · have hcount := h.number
    rw [ReceivedQueue.stored_number, number_succ hnumber] at hcount
    rw [hcount, List.length_cons]
    omega
  · exact h.first
  · intro _
    rw [List.length_cons]
    by_cases hnil : strings = []
    · rw [h.nothing hnil, hlast₁, hnil]
      rfl
    · rw [h.last hnil, hlast₁, Nat.mod_add_mod]
      congr 1
      omega

/-! ## The data phase -/

/-- The strings on the air in the turns of the loop before the slot timer is seen to pass. -/
def arriving (slotTimer : ℕ) : List ReceivePoll → Timeouts → List ByteString
  | [], _ => []
  | p :: polls, t =>
    let t := if p.tick.handler then timeoutSignalHandler p.tick.now t else t
    if timeoutPassed t slotTimer = 1 then [] else p.byteString :: arriving slotTimer polls t

/-- The entries that are left for received packets. -/
def ReceivedQueue.room (q : ReceivedQueue) : ℕ := receivedCapacity - q.numberPacketsReceived.toNat

/-- The strings that arrive before the slot timer passes and find room. -/
def appended (polls : List ReceivePoll) (m : Node) : List ByteString :=
  (arriving m.mac.frame.slotTimer polls m.timeouts).take m.mac.received.room

/-- The inputs reach to the end of the data phase: the queue gets full, or the slot timer passes. -/
def ReceptionEnds (polls : List ReceivePoll) (m : Node) : Prop :=
  m.mac.received.room ≤ (arriving m.mac.frame.slotTimer polls m.timeouts).length ∨
    (arriving m.mac.frame.slotTimer polls m.timeouts).length < polls.length

/-- The node after a turn of the loop in which a packet is stored. -/
def Node.receivedOne (m : Node) (p : ReceivePoll) : Node :=
  { m.tick p.tick with mac.received := m.mac.received.stored p.byteString }

/-- A turn of the loop in which the slot timer passes. -/
theorem receivePoll_passed {build : Build} {p : ReceivePoll} {m : Node}
    (hpassed : timeoutPassed (m.tick p.tick).timeouts m.mac.frame.slotTimer = 1) :
    receivePoll build p m = .ok (m.tick p.tick, false) := by
  unfold receivePoll
  exact if_pos hpassed

/-- A turn of the loop in which a packet is stored. -/
theorem receivePoll_stored {build : Build} {p : ReceivePoll} {m : Node}
    (hpending : timeoutPassed (m.tick p.tick).timeouts m.mac.frame.slotTimer ≠ 1)
    (hlast : m.mac.received.lastReceived.toNat < receivedCapacity)
    (hb : SizeFits build.os p.byteString) :
    receivePoll build p m = .ok (m.receivedOne p,
      decide ((m.mac.received.numberPacketsReceived + 1).toNat < receivedCapacity)) := by
  unfold receivePoll
  dsimp only
  rw [if_neg (show ¬ timeoutPassed _ (m.tick p.tick).mac.frame.slotTimer = 1 from hpending),
    mclmacReceiveDataPacket, show (m.tick p.tick).mac.received = m.mac.received from rfl,
    ReceivedQueue.store_eq hlast hb]
  rfl

/-- A turn of the loop in which a packet reaches past the end of the ring or of its string. -/
theorem receivePoll_outOfBounds {build : Build} {p : ReceivePoll} {m : Node}
    (hpending : timeoutPassed (m.tick p.tick).timeouts m.mac.frame.slotTimer ≠ 1)
    (h : ¬ (m.mac.received.lastReceived.toNat < receivedCapacity ∧ SizeFits build.os p.byteString)) :
    receivePoll build p m = .error .outOfBounds := by
  unfold receivePoll
  dsimp only
  rw [if_neg (show ¬ timeoutPassed _ (m.tick p.tick).mac.frame.slotTimer = 1 from hpending),
    mclmacReceiveDataPacket, show (m.tick p.tick).mac.received = m.mac.received from rfl,
    ReceivedQueue.store_eq_error h]
  rfl

section Turn

variable {p : ReceivePoll} {polls : List ReceivePoll} {m : Node}

theorem arriving_passed
    (hpassed : timeoutPassed (m.tick p.tick).timeouts m.mac.frame.slotTimer = 1) :
    arriving m.mac.frame.slotTimer (p :: polls) m.timeouts = [] :=
  if_pos hpassed

theorem arriving_pending
    (hpending : timeoutPassed (m.tick p.tick).timeouts m.mac.frame.slotTimer ≠ 1) :
    arriving m.mac.frame.slotTimer (p :: polls) m.timeouts =
      p.byteString :: arriving (m.receivedOne p).mac.frame.slotTimer polls
        (m.receivedOne p).timeouts :=
  if_neg hpending

/-- A stored packet takes one of the entries that are left. -/
theorem room_receivedOne (hcount : m.mac.received.numberPacketsReceived.toNat < receivedCapacity) :
    m.mac.received.room = (m.receivedOne p).mac.received.room + 1 := by
  show receivedCapacity - _ = receivedCapacity - (m.mac.received.numberPacketsReceived + 1).toNat + 1
  rw [number_succ hcount]
  omega

/-- What is appended from a turn on in which a packet is stored. -/
theorem appended_cons (hcount : m.mac.received.numberPacketsReceived.toNat < receivedCapacity)
    (hpending : timeoutPassed (m.tick p.tick).timeouts m.mac.frame.slotTimer ≠ 1) :
    appended (p :: polls) m = p.byteString :: appended polls (m.receivedOne p) := by
  unfold appended
  rw [arriving_pending hpending, room_receivedOne hcount, List.take_succ_cons]

/-- The inputs that reach to the end from a turn on reach to the end from the next one on. -/
theorem ReceptionEnds.next (hcount : m.mac.received.numberPacketsReceived.toNat < receivedCapacity)
    (hpending : timeoutPassed (m.tick p.tick).timeouts m.mac.frame.slotTimer ≠ 1)
    (hends : ReceptionEnds (p :: polls) m) : ReceptionEnds polls (m.receivedOne p) := by
  unfold ReceptionEnds at hends ⊢
  rw [arriving_pending hpending, room_receivedOne (p := p) hcount] at hends
  simp only [List.length_cons] at hends
  omega

end Turn

/-- After a packet that can be stored the rest decides. -/
theorem storable_cons {os : OS} {q q₁ : ReceivedQueue} {b : ByteString} {strings : List ByteString}
    (hlast : q.lastReceived.toNat < receivedCapacity)
    (hlast₁ : q₁.lastReceived.toNat < receivedCapacity) (hb : SizeFits os b) :
    Storable os q (b :: strings) ↔ Storable os q₁ strings := by
  constructor
  · intro h _
    exact ⟨hlast₁, fun b' hmem => (h (List.cons_ne_nil _ _)).2 b' (List.mem_cons_of_mem _ hmem)⟩
  · intro h _
    refine ⟨hlast, List.forall_mem_cons.mpr ⟨hb, fun b' hmem => ?_⟩⟩
    exact (h (List.ne_nil_of_mem hmem)).2 b' hmem

/-- **The data phase**: what arrives in time and finds room is stored in order, unless one of these
packets reaches out of bounds. -/
theorem receiveLoop {build : Build} {polls : List ReceivePoll} {m : Node}
    (hcount : m.mac.received.numberPacketsReceived.toNat < receivedCapacity)
    (hends : ReceptionEnds polls m) :
    (Storable build.os m.mac.received (appended polls m) →
      ∃ m', pollLoop .polling (receivePoll build) polls m = .ok m' ∧
        Appended m.mac.received (appended polls m) m'.mac.received) ∧
    (¬ Storable build.os m.mac.received (appended polls m) →
      pollLoop .polling (receivePoll build) polls m = .error .outOfBounds) := by
  induction polls generalizing m with
  | nil =>
    rcases hends with hfull | hpassed
    · exact absurd (Nat.sub_eq_zero_iff_le.mp (Nat.le_zero.mp hfull)) (by omega)
    · exact absurd hpassed (lt_irrefl _)
  | cons p polls ih =>
    rw [pollLoop]
    by_cases hpassed : timeoutPassed (m.tick p.tick).timeouts m.mac.frame.slotTimer = 1
    · -- the slot ends before anything else arrives
      have hnone : appended (p :: polls) m = [] := by
        rw [appended, arriving_passed hpassed, List.take_nil]
      rw [receivePoll_passed hpassed, hnone]
      exact ⟨fun _ => ⟨_, rfl, Appended.nil _⟩, fun h => absurd (fun hne => absurd rfl hne) h⟩
    · rw [appended_cons hcount hpassed]
      by_cases hfits : m.mac.received.lastReceived.toNat < receivedCapacity ∧
          SizeFits build.os p.byteString
      swap
      · -- this packet is the one that reaches out of bounds
        rw [receivePoll_outOfBounds hpassed hfits]
        refine ⟨fun h => ?_, fun _ => rfl⟩
        obtain ⟨hlast, hall⟩ := h (List.cons_ne_nil _ _)
        exact absurd ⟨hlast, hall _ List.mem_cons_self⟩ hfits
      obtain ⟨hlast, hb⟩ := hfits
      rw [receivePoll_stored hpassed hlast hb]
      have hlast₁ : (m.receivedOne p).mac.received.lastReceived.toNat < receivedCapacity := by
        have hstored := ReceivedQueue.stored_last p.byteString hlast
        exact hstored ▸ Nat.mod_lt _ (by decide)
      have hlength : (appended polls (m.receivedOne p)).length < receivedCapacity := by
        have hroom := room_receivedOne (p := p) hcount
        have hle : (appended polls (m.receivedOne p)).length ≤ (m.receivedOne p).mac.received.room :=
          List.length_take_le _ _
        have hcap : m.mac.received.room ≤ receivedCapacity := Nat.sub_le _ _
        omega
      rw [storable_cons hlast hlast₁ hb]
      by_cases hfull : (m.mac.received.numberPacketsReceived + 1).toNat < receivedCapacity
      · rw [decide_eq_true hfull]
        obtain ⟨hok, herror⟩ := ih (m := m.receivedOne p) hfull (hends.next hcount hpassed)
        refine ⟨fun h => ?_, herror⟩
        obtain ⟨m', hloop, happended⟩ := hok h
        exact ⟨m', hloop, Appended.cons hlast hlength hcount happended⟩
      · -- the queue is full now
        have hnone : appended polls (m.receivedOne p) = [] := by
          have hroom : (m.receivedOne p).mac.received.room = 0 :=
            Nat.sub_eq_zero_of_le (not_lt.mp hfull)
          rw [appended, hroom, List.take_zero]
        rw [decide_eq_false hfull]
        rw [hnone] at hlength ⊢
        refine ⟨fun _ => ⟨_, rfl, Appended.cons hlast hlength hcount (Appended.nil _)⟩, fun h => ?_⟩
        exact absurd (fun hne => absurd rfl hne) h

/-! ## The whole state -/

/-- The node after the attempts, up to the first one that succeeds, and whether one does. -/
def hearing (build : Build) (attempt₁ attempt₂ : CtrlRadio) (n : Node) : Node × Bool :=
  let (n, first) := mclmacReceiveControlPacket build attempt₁ n
  if first then (n, true) else mclmacReceiveControlPacket build attempt₂ n

instance (own time : UInt64) : Decidable (OnTime own time) := inferInstanceAs (Decidable (_ ≤ _))

/-- The packet heard does not differ from what the node knows of the slot, the frame and the time. -/
def InStepWith (m : Node) : Prop :=
  SameSlot m ∧ OnTime m.networkTime m.mac.ctrlpktRecv.networkTime

instance (m : Node) : Decidable (InStepWith m) := inferInstanceAs (Decidable (_ ∧ _))

/-- What is to come of `RECEIVE`, given what the attempts gave. -/
def ReceiveOutcome (heard : Node × Bool) (polls : List ReceivePoll) (n n' : Node)
    (ret : PmExecution) : Prop :=
  if heard.2 = false then
    ret = .success ∧ n'.powerMode.nextState = .passive ∧ n'.mac.received = n.mac.received
  else if NamesOwnPlace heard.1 then
    ret = .collisionError ∧ n'.powerMode.nextState = .finishp ∧ n'.mac.received = n.mac.received
  else if InStepWith heard.1 then
    ret = .success ∧ n'.powerMode.nextState = .passive ∧
      Appended n.mac.received (appended polls heard.1) n'.mac.received
  else
    ret = .synchronizationError ∧ n'.powerMode.nextState = .finishp ∧
      n'.mac.received = n.mac.received

/-- **`RECEIVE` end to end**: it returns with the outcome that the attempts and the arrivals call
for, and a slot timer that was armed still is. -/
def ReceivesEndToEnd (build : Build) (attempt₁ attempt₂ : CtrlRadio) (polls : List ReceivePoll)
    (n : Node) : Prop :=
  ∃ n' ret, executeReceive build attempt₁ attempt₂ polls n = .ok (n', ret) ∧
    (Live n.timeouts n.mac.frame.slotTimer → Live n'.timeouts n'.mac.frame.slotTimer) ∧
    ReceiveOutcome (hearing build attempt₁ attempt₂ n) polls n n' ret

theorem receivesEndToEnd_iff {build : Build} {attempt₁ attempt₂ : CtrlRadio}
    {polls : List ReceivePoll} {n n' : Node} {ret : PmExecution}
    (h : executeReceive build attempt₁ attempt₂ polls n = .ok (n', ret)) :
    ReceivesEndToEnd build attempt₁ attempt₂ polls n ↔
      ReceiveOutcome (hearing build attempt₁ attempt₂ n) polls n n' ret := by
  constructor
  · rintro ⟨n'', ret', h', -, hout⟩
    obtain ⟨rfl, rfl⟩ := Prod.mk.inj (Except.ok.inj (h.symm.trans h'))
    exact hout
  · intro hout
    exact ⟨n', ret, h, fun hlive => executeReceive_live hlive h, hout⟩

theorem mclmacReceiveControlPacket_received (build : Build) (radio : CtrlRadio) (n : Node) :
    (mclmacReceiveControlPacket build radio n).1.mac.received = n.mac.received := by
  obtain ⟨_, _, h⟩ := mclmacReceiveControlPacket_frame build radio n
  rw [h]

/-- Only the empty list leaves the ring as it is. -/
theorem appended_self_iff {q : ReceivedQueue} {strings : List ByteString} :
    Appended q strings q ↔ strings = [] := by
  constructor
  · intro h
    have hnumber := h.number
    exact List.eq_nil_of_length_eq_zero (by omega)
  · rintro rfl
    exact Appended.nil q

/-- **The data phase of a node whose packet has passed the checks.** -/
theorem receiveData_outcome {build : Build} {polls : List ReceivePoll} {m : Node}
    (hends : ReceptionEnds polls m) :
    (Storable build.os m.mac.received (appended polls m) →
      ∃ n', receiveData build polls m = .ok (n', .success) ∧ n'.powerMode.nextState = .passive ∧
        Appended m.mac.received (appended polls m) n'.mac.received) ∧
    (¬ Storable build.os m.mac.received (appended polls m) →
      receiveData build polls m = .error .outOfBounds) := by
  unfold receiveData
  by_cases hlt : m.mac.received.numberPacketsReceived.toNat < 2 * Config.maxNumberDataPackets
  · rw [if_pos hlt]
    obtain ⟨hok, herror⟩ := receiveLoop hlt hends
    constructor
    · intro h
      obtain ⟨m', hloop, happended⟩ := hok h
      rw [hloop]
      exact ⟨_, rfl, rfl, happended⟩
    · intro h
      rw [herror h]
      rfl
  · have hnone : appended polls m = [] := by
      rw [appended, ReceivedQueue.room, Nat.sub_eq_zero_of_le (not_lt.mp hlt), List.take_zero]
    rw [if_neg hlt, hnone]
    exact ⟨fun _ => ⟨_, rfl, rfl, Appended.nil _⟩, fun h => absurd (fun hne => absurd rfl hne) h⟩

/-- **When `RECEIVE` does what it is meant to**: the first attempt succeeds, the computed window is
right about the packet if it comes to that, and no packet that is to be appended reaches out of
bounds; or both attempts fail; or the second one succeeds with a packet that passes the checks while
nothing is left to be appended. -/
def ReceivesWell (build : Build) (attempt₁ attempt₂ : CtrlRadio) (polls : List ReceivePoll)
    (n : Node) : Prop :=
  let m := (hearing build attempt₁ attempt₂ n).1
  if (mclmacReceiveControlPacket build attempt₁ n).2 = true then
    (¬ NamesOwnPlace m → SameSlot m →
      WindowExact m.networkTime m.mac.ctrlpktRecv.networkTime) ∧
    (¬ NamesOwnPlace m → InStepWith m → Storable build.os n.mac.received (appended polls m))
  else
    (hearing build attempt₁ attempt₂ n).2 = true →
      ¬ NamesOwnPlace m ∧ InStepWith m ∧ appended polls m = []

section Attempts

variable {build : Build} {attempt₁ attempt₂ : CtrlRadio} {polls : List ReceivePoll} {n m : Node}

/-- After a first attempt that succeeds it is the window and the data that matter. -/
theorem endToEnd_heard_iff
    (hfirst : mclmacReceiveControlPacket build attempt₁ n = (m, true))
    (hends : InStepWith m → ReceptionEnds polls m) :
    ReceivesEndToEnd build attempt₁ attempt₂ polls n ↔
      (¬ NamesOwnPlace m → SameSlot m →
        WindowExact m.networkTime m.mac.ctrlpktRecv.networkTime) ∧
      (¬ NamesOwnPlace m → InStepWith m → Storable build.os n.mac.received (appended polls m)) := by
  have hreceived : m.mac.received = n.mac.received := by
    rw [← mclmacReceiveControlPacket_received build attempt₁ n, hfirst]
  have hhearing : hearing build attempt₁ attempt₂ n = (m, true) := by
    rw [hearing, hfirst]
    rfl
  have heq : executeReceive build attempt₁ attempt₂ polls n = _ := executeReceive_heard hfirst
  by_cases hplace : NamesOwnPlace m
  · -- a collision is seen before the time is looked at
    rw [if_pos hplace] at heq
    rw [receivesEndToEnd_iff heq, hhearing, ReceiveOutcome, if_neg (by simp), if_pos hplace]
    exact iff_of_true ⟨rfl, rfl, hreceived⟩
      ⟨fun h => absurd hplace h, fun h => absurd hplace h⟩
  rw [if_neg hplace] at heq
  by_cases hslot : SameSlot m
  swap
  · have hout : ¬ InStepWith m := fun h => hslot h.1
    rw [if_neg fun h => hslot h.1] at heq
    rw [receivesEndToEnd_iff heq, hhearing, ReceiveOutcome, if_neg (by simp), if_neg hplace,
      if_neg hout]
    exact iff_of_true ⟨rfl, rfl, hreceived⟩
      ⟨fun _ h => absurd h hslot, fun _ h => absurd h hout⟩
  have hwindow := notOnTime_exact_iff m.networkTime m.mac.ctrlpktRecv.networkTime
  by_cases hcode : notOnTime m.networkTime m.mac.ctrlpktRecv.networkTime = false
  · rw [if_pos ⟨hslot, hcode⟩] at heq
    by_cases htime : OnTime m.networkTime m.mac.ctrlpktRecv.networkTime
    · -- the packet passes the checks
      have hin : InStepWith m := ⟨hslot, htime⟩
      obtain ⟨hok, herror⟩ := receiveData_outcome (hends hin)
      rw [hreceived] at hok herror
      by_cases hstorable : Storable build.os n.mac.received (appended polls m)
      · obtain ⟨n', hdata, hnext, happended⟩ := hok hstorable
        rw [hdata] at heq
        rw [receivesEndToEnd_iff heq, hhearing, ReceiveOutcome, if_neg (by simp), if_neg hplace,
          if_pos hin]
        exact iff_of_true ⟨rfl, hnext, happended⟩
          ⟨fun _ _ => hwindow.mp (iff_of_true hcode htime), fun _ _ => hstorable⟩
      · rw [herror hstorable] at heq
        refine iff_of_false ?_ fun h => hstorable (h.2 hplace hin)
        rintro ⟨n', ret, h, -⟩
        rw [heq] at h
        cases h
    · -- the code takes it for being on time, which it is not
      refine iff_of_false ?_ fun h => htime ((hwindow.mpr (h.1 hplace hslot)).mp hcode)
      rintro ⟨n', ret, h, -, hout⟩
      rw [hhearing, ReceiveOutcome, if_neg (by simp), if_neg hplace, if_neg fun h => htime h.2] at hout
      rw [heq] at h
      exact PmExecution.noConfusion ((receiveData_success h).symm.trans hout.1)
  · rw [if_neg fun h => hcode h.2] at heq
    rw [receivesEndToEnd_iff heq, hhearing, ReceiveOutcome, if_neg (by simp), if_neg hplace]
    by_cases htime : OnTime m.networkTime m.mac.ctrlpktRecv.networkTime
    · -- the code rejects a packet that is on time
      rw [if_pos ⟨hslot, htime⟩]
      refine iff_of_false (fun h => PmExecution.noConfusion h.1) fun h => ?_
      exact hcode ((hwindow.mpr (h.1 hplace hslot)).mpr htime)
    · rw [if_neg fun h => htime h.2]
      exact iff_of_true ⟨rfl, rfl, hreceived⟩
        ⟨fun _ _ => hwindow.mp (iff_of_false hcode htime), fun _ h => absurd h.2 htime⟩

/-- After a first attempt that fails nothing is to come of the second one. -/
theorem endToEnd_lost_iff (hfirst : mclmacReceiveControlPacket build attempt₁ n = (m, false)) :
    ReceivesEndToEnd build attempt₁ attempt₂ polls n ↔
      ((mclmacReceiveControlPacket build attempt₂ m).2 = true →
        ¬ NamesOwnPlace (mclmacReceiveControlPacket build attempt₂ m).1 ∧
          InStepWith (mclmacReceiveControlPacket build attempt₂ m).1 ∧
          appended polls (mclmacReceiveControlPacket build attempt₂ m).1 = []) := by
  have hreceived : (mclmacReceiveControlPacket build attempt₂ m).1.mac.received =
      n.mac.received := by
    rw [mclmacReceiveControlPacket_received, ← mclmacReceiveControlPacket_received build attempt₁ n,
      hfirst]
  have hhearing : hearing build attempt₁ attempt₂ n =
      mclmacReceiveControlPacket build attempt₂ m := by
    rw [hearing, hfirst]
    rfl
  rw [receivesEndToEnd_iff (executeReceive_lost hfirst), hhearing]
  generalize mclmacReceiveControlPacket build attempt₂ m = second at hreceived ⊢
  obtain ⟨k, heard⟩ := second
  dsimp only at hreceived ⊢
  unfold ReceiveOutcome
  cases heard with
  | false =>
    rw [if_pos rfl]
    exact iff_of_true ⟨rfl, rfl, hreceived⟩ fun h => Bool.noConfusion h
  | true =>
    rw [if_neg (by simp), forall_prop_of_true rfl]
    -- a second packet is not checked: the state is left with SUCCESS, nothing stored
    by_cases hplace : NamesOwnPlace k
    · rw [if_pos hplace]
      exact iff_of_false (fun h => PmExecution.noConfusion h.1) fun h => h.1 hplace
    rw [if_neg hplace]
    by_cases hin : InStepWith k
    · rw [if_pos hin]
      show (_ ∧ _ ∧ Appended n.mac.received (appended polls k) k.mac.received) ↔ _
      rw [hreceived, appended_self_iff]
      exact ⟨fun h => ⟨hplace, hin, h.2.2⟩, fun h => ⟨rfl, rfl, h.2.2⟩⟩
    · rw [if_neg hin]
      exact iff_of_false (fun h => PmExecution.noConfusion h.1) fun h => hin h.2.1

end Attempts

/-- **`RECEIVE` end to end**, exactly when it does what it is meant to. The inputs reach to the end of
the data phase if there is one. -/
theorem receive_endToEnd_iff (build : Build) (attempt₁ attempt₂ : CtrlRadio)
    (polls : List ReceivePoll) (n : Node)
    (hends : (hearing build attempt₁ attempt₂ n).2 = true →
      InStepWith (hearing build attempt₁ attempt₂ n).1 →
      ReceptionEnds polls (hearing build attempt₁ attempt₂ n).1) :
    ReceivesEndToEnd build attempt₁ attempt₂ polls n ↔
      ReceivesWell build attempt₁ attempt₂ polls n := by
  unfold ReceivesWell
  obtain ⟨m, first, hfirst⟩ : ∃ m first, mclmacReceiveControlPacket build attempt₁ n = (m, first) :=
    ⟨_, _, rfl⟩
  have hhearing : hearing build attempt₁ attempt₂ n =
      if first then (m, true) else mclmacReceiveControlPacket build attempt₂ m := by
    rw [hearing, hfirst]
  rw [hhearing] at hends ⊢
  rw [hfirst]
  cases first with
  | true => exact endToEnd_heard_iff hfirst (hends rfl)
  | false => exact endToEnd_lost_iff hfirst

/-- A node in the first slot of its first session, whose slot timer passes at 80000. -/
def listener : Node where
  mac := { transmitChannel := 903000000, frame := { slotTimer := 0 } }
  timeouts := Function.update (fun _ => {}) 0 { used := true, armed := true, time := 80000 }

/-- The control packet of a node in the same slot. -/
def samePlace : CtrlRadio := .heard (controlpacketGetPacketBytestring {} 0)

/-- One packet arrives before the slot timer passes and one after. -/
def twoArrivals : List ReceivePoll :=
  [{ tick := ⟨100, true⟩, byteString := fun _ => 7 },
    { tick := ⟨80000, true⟩, byteString := fun _ => 8 }]

theorem arriving_twoArrivals : arriving 0 twoArrivals listener.timeouts = [fun _ => 7] := by
  have hpending : timeoutPassed (timeoutSignalHandler 100 listener.timeouts) 0 ≠ 1 := by
    decide +kernel
  have hpassed : timeoutPassed
      (timeoutSignalHandler 80000 (timeoutSignalHandler 100 listener.timeouts)) 0 = 1 := by
    decide +kernel
  simp only [twoArrivals, arriving, if_true, hpending, hpassed, if_false]

/-- The node when it has heard the control packet. -/
def listenerHeard : Node :=
  { listener with
    mac.ctrlpktRecv :=
      controlpacketConstructPacketFromBytestring {} (controlpacketGetPacketBytestring {} 0) }

theorem appended_listenerHeard : appended twoArrivals listenerHeard = [fun _ => 7] :=
  congrArg (List.take 20) arriving_twoArrivals

/-- A control packet heard in the first attempt, and one data packet after it. -/
theorem receive_endToEnd_firstAttempt :
    ReceivesEndToEnd ⟨.linux, true⟩ samePlace (.lost true) twoArrivals listener := by
  have hhearing : hearing ⟨.linux, true⟩ samePlace (.lost true) listener =
      (listenerHeard, true) := rfl
  refine (receive_endToEnd_iff _ _ _ _ _ ?_).mpr ?_
  · intro _ _
    rw [hhearing]
    refine .inr ?_
    show (arriving 0 twoArrivals listener.timeouts).length < 2
    rw [arriving_twoArrivals]
    decide
  · have hheard : (mclmacReceiveControlPacket ⟨.linux, true⟩ samePlace listener).2 = true := rfl
    unfold ReceivesWell
    dsimp only
    rw [if_pos hheard, hhearing]
    refine ⟨fun _ _ => .inl (by show (0 : UInt64).toNat < _; decide), fun _ _ _ => ?_⟩
    rw [appended_listenerHeard]
    exact ⟨by decide, List.forall_mem_singleton.mpr (by decide)⟩

/-- A control packet heard in the second attempt only: the data packet is not stored. -/
theorem receive_endToEnd_secondAttempt :
    ¬ ReceivesEndToEnd ⟨.linux, true⟩ (.lost true) samePlace twoArrivals listener := by
  rw [endToEnd_lost_iff rfl]
  intro h
  have hnone : appended twoArrivals listenerHeard = [] := (h rfl).2.2
  rw [appended_listenerHeard] at hnone
  cases hnone

end WmnIot
