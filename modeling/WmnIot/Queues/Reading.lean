import WmnIot.Codec.DataPacket
import WmnIot.Queues.ReturnCodes
import WmnIot.Queues.SendQueues

/-! # Only received bytes become packets

`mclmac_read_queue_element` gives `recv_message` a buffer that it has not initialised, and goes by
what is in the buffer afterwards whatever is returned. Here what the call does is an input: it
writes a message to the buffer, does not write to it, or fills it with the bytes of no message.

* **`RecvOutcome`** — what a call of `recv_message` does.
* **`OnlyReceived`** — what is stored is a message that was received.
* **`onlyReceived_iff`** — the outcomes after which it is.
* **`recvMessage_riot_outcome`**, **`recvMessageLinux_outcome`** — the outcomes are those of the
  calls. -/

namespace WmnIot

open Runs

/-! ## The outcomes -/

/-- What a call of `recv_message` does: it removes a message, of which the first `length` bytes are
written to the buffer with `rest` behind them; it does not write to the buffer; or it fills the
buffer although it has removed nothing. -/
inductive RecvOutcome
  | received (queues : IpcQueues) (length : ℕ) (bytes rest : ByteString)
  | unwritten (queues : IpcQueues)
  | mistaken (bytes : ByteString)

/-- The first `length` bytes of a message and what is behind them. -/
def overlay (length : ℕ) (bytes rest : ByteString) : ByteString := fun k =>
  if (k : ℕ) < length then bytes k else rest k

/-- The queues after the call. -/
def RecvOutcome.queues (Q : IpcQueues) : RecvOutcome → IpcQueues
  | .received queues .. => queues
  | .unwritten queues => queues
  | .mistaken _ => Q

/-- The buffer after the call. -/
def RecvOutcome.msg (buf : ByteString) : RecvOutcome → ByteString
  | .received _ length bytes rest => overlay length bytes rest
  | .unwritten _ => buf
  | .mistaken bytes => bytes

/-- `mclmac_read_queue_element` with the call of `recv_message` left open: what it makes of the
queues and the buffer. -/
def readQueueElementWith (build : Build) (recv : ByteString → Except Halt (IpcQueues × ByteString))
    (buf : ByteString) (n : Node) : Except Halt (Node × ℕ) := do
  assert (n.mac.message.packetsToSend ≤ UInt8.ofNat Config.maxNumberDataPackets)
  assert (n.mac.control.packetsToSend ≤ UInt8.ofNat Config.maxNumberDataPackets)
  if mclmacAvailableDataPackets n.toMCLMAC = 2 * Config.maxNumberDataPackets then return (n, 0)
  let elements ← elementsOnQueue build.os n.selfPid n.macQueueId n.queues
  if elements = 0 then return (n, 0)
  let (queues, msg) ← recv buf
  let n := { n with queues := queues }
  if 7 ≤ msg 0 ∧ msg 0 < 10 then
    let q ← n.mac.message.store build.os msg
    return ({ n with mac.message := q }, 1)
  if 2 ≤ msg 0 ∧ msg 0 < 7 then
    let q ← n.mac.control.store build.os msg
    return ({ n with mac.control := q }, 1)
  -- invalid type
  return (n, 0)

/-- The read with the given outcome of the call. -/
def readWithOutcome (build : Build) (o : RecvOutcome) (buf : ByteString) (n : Node) :
    Except Halt (Node × ℕ) :=
  readQueueElementWith build (fun buf => .ok (o.queues n.queues, o.msg buf)) buf n

/-! ## What is stored -/

/-- The bytes of the message decode to the packet, whatever is behind them, and give a value to every
element of its data. -/
def DecodesTo (length : ℕ) (bytes : ByteString) (p : DataPacket) : Prop :=
  (∀ rest, datapacketOfBytes (overlay length bytes rest) = p) ∧ p.data.length = p.size.toNat

/-- The packet is stored at the end of the queue. -/
def Stores (q q' : SendQueue) (p : DataPacket) : Prop :=
  ∃ h : q.lastSend.toNat < Config.maxNumberDataPackets, q' =
    { q with
      packets := Function.update q.packets ⟨q.lastSend.toNat, h⟩ p
      lastSend := q.lastSend + 1
      packetsToSend := q.packetsToSend + 1 }

/-- The message that was removed is decoded and stored in exactly one send queue. -/
def StoresReceived (o : RecvOutcome) (n n' : Node) : Prop :=
  ∃ queues length bytes rest, o = .received queues length bytes rest ∧
    ∃ c p, DecodesTo length bytes p ∧ Stores (n.sendQueue c) (n'.sendQueue c) p ∧
      ∀ c' ≠ c, n'.sendQueue c' = n.sendQueue c'

/-- **Only received bytes become packets**: the read stores the message that was removed and returns
1, or leaves the send queues alone and returns 0; and it does the same whatever the buffer held
before. -/
def OnlyReceived (build : Build) (o : RecvOutcome) (n : Node) : Prop :=
  (∀ buf, ∃ n' ret, readWithOutcome build o buf n = .ok (n', ret) ∧
    (ret = 1 ∧ StoresReceived o n n' ∨ ret = 0 ∧ ∀ c, n'.sendQueue c = n.sendQueue c)) ∧
  ∀ buf buf', readWithOutcome build o buf n = readWithOutcome build o buf' n

/-- The outcome can be dealt with: a message that goes to a send queue holds its header and its
data, and finds an entry in the queue; the buffer has been written; and bytes of no message have a
type that goes to no queue. -/
def RecvOutcome.Kept (n : Node) : RecvOutcome → Prop
  | .received _ length bytes rest =>
    ∀ c, sendClass (overlay length bytes rest 0) = some c →
      (n.sendQueue c).lastSend.toNat < Config.maxNumberDataPackets ∧
        dataStart + (bytes 17).toNat ≤ min length Config.packetSizeMac
  | .unwritten _ => False
  | .mistaken bytes => sendClass (bytes 0) = none

/-- The counters of the send queues pass the assertions, and both are full, nothing waits in the
queue of the layer, or the outcome of the call can be dealt with. -/
def ReadSupported (build : Build) (o : RecvOutcome) (n : Node) : Prop :=
  (∀ c, (n.sendQueue c).packetsToSend.toNat ≤ Config.maxNumberDataPackets) ∧
    (mclmacAvailableDataPackets n.toMCLMAC = 2 * Config.maxNumberDataPackets ∨
      elementsOnQueue build.os n.selfPid n.macQueueId n.queues = .ok 0 ∨
      (∃ elements, elementsOnQueue build.os n.selfPid n.macQueueId n.queues = .ok elements) ∧
        o.Kept n)

section

variable {build : Build} {o : RecvOutcome} {buf bytes rest : ByteString} {n n' : Node}
  {length ret : ℕ} {c : SendClass} {p : DataPacket}

/-! ### Decoding -/

theorem overlay_of_lt {k : Fin Config.packetSizeMac} (hk : (k : ℕ) < length) :
    overlay length bytes rest k = bytes k :=
  if_pos hk

/-- **A message decodes** to what is read with anything behind it exactly if it holds its header and
its data. -/
theorem decodesTo_iff :
    DecodesTo length bytes (datapacketOfBytes (overlay length bytes rest)) ↔
      dataStart + (bytes 17).toNat ≤ min length Config.packetSizeMac := by
  constructor
  · rintro ⟨h, hvalues⟩
    have hfits : (overlay length bytes rest 17).toNat + dataStart ≤ Config.packetSizeMac := by
      rw [length_datapacketOfBytes] at hvalues
      exact Nat.add_le_of_le_sub (by decide) (min_eq_left_iff.mp hvalues)
    -- otherwise the byte behind the message is one of the packet
    by_contra hshort
    have hlt : length < dataStart + (overlay length bytes rest 17).toNat := by
      by_cases h17 : 17 < length
      · rw [overlay_of_lt (k := 17) h17] at hfits ⊢
        omega
      · simp only [dataStart]
        omega
    have hlength : length < Config.packetSizeMac := by omega
    have hsame := h fun k => overlay length bytes rest k + 1
    have h17 : overlay length bytes (fun k => overlay length bytes rest k + 1) 17 =
        overlay length bytes rest 17 :=
      congrArg DataPacket.size hsame
    have hbyte := congrArg (fun p => datapacketBytes (fun _ => 0) p ⟨length, hlength⟩) hsame
    rw [datapacketBytes_datapacketOfBytes_of_lt (by rwa [h17]),
      datapacketBytes_datapacketOfBytes_of_lt hlt] at hbyte
    have hbehind : overlay length bytes (fun k => overlay length bytes rest k + 1)
        ⟨length, hlength⟩ = overlay length bytes rest ⟨length, hlength⟩ + 1 :=
      if_neg (lt_irrefl length)
    rw [hbehind] at hbyte
    simp at hbyte
  · intro hlong
    have hlt : ∀ k : Fin Config.packetSizeMac, (k : ℕ) < dataStart + (bytes 17).toNat →
        (k : ℕ) < length := fun k hk => hk.trans_le (hlong.trans (min_le_left _ _))
    have h17 : ∀ rest', overlay length bytes rest' 17 = bytes 17 := fun rest' =>
      overlay_of_lt (hlt 17 (Nat.lt_add_right _ (by decide)))
    refine ⟨fun rest' => ?_, ?_⟩
    · apply datapacketOfBytes_congr
      intro k hk
      rw [h17] at hk
      rw [overlay_of_lt (hlt k hk), overlay_of_lt (hlt k hk)]
    · have hdata : (bytes 17).toNat ≤ Config.packetSizeMac - dataStart :=
        Nat.le_sub_of_add_le' (hlong.trans (min_le_right _ _))
      have hsize : (datapacketOfBytes (overlay length bytes rest)).size = bytes 17 := h17 rest
      rw [length_datapacketOfBytes, hsize, h17, min_eq_left hdata]

/-! ### The read -/

/-- What the read does up to the call of `recv_message`, and what it makes of its outcome. -/
theorem readWithOutcome_eq
    (hcount : ∀ c, (n.sendQueue c).packetsToSend.toNat ≤ Config.maxNumberDataPackets) :
    readWithOutcome build o buf n =
      if mclmacAvailableDataPackets n.toMCLMAC = 2 * Config.maxNumberDataPackets then .ok (n, 0)
      else
        elementsOnQueue build.os n.selfPid n.macQueueId n.queues >>= fun elements =>
          if elements = 0 then .ok (n, 0)
          else
            match sendClass (o.msg buf 0) with
            | none => .ok ({ n with queues := o.queues n.queues }, 0)
            | some c => (n.sendQueue c).store build.os (o.msg buf) >>= fun q =>
              .ok (({ n with queues := o.queues n.queues } : Node).setSendQueue c q, 1) := by
  have hm : decide (n.mac.message.packetsToSend ≤ UInt8.ofNat Config.maxNumberDataPackets) = true :=
    decide_eq_true (UInt8.le_iff_toNat_le.mpr (hcount .message))
  have hc : decide (n.mac.control.packetsToSend ≤ UInt8.ofNat Config.maxNumberDataPackets) = true :=
    decide_eq_true (UInt8.le_iff_toNat_le.mpr (hcount .control))
  rw [readWithOutcome, readQueueElementWith, hm, hc, assert_true, ok_bind, ok_bind]
  split
  · rfl
  · congr 1
    funext elements
    by_cases h0 : elements = 0
    · simp [h0]
    · simp only [ok_bind, if_neg h0, pure_eq_ok, sendClass]
      by_cases h7 : 7 ≤ o.msg buf 0 ∧ o.msg buf 0 < 10
      · simp [h7, Node.sendQueue, Node.setSendQueue]
      · by_cases h2 : 2 ≤ o.msg buf 0 ∧ o.msg buf 0 < 7
        · simp [h7, h2, Node.sendQueue, Node.setSendQueue]
        · simp [h7, h2]

/-- A counter above ten fails an assertion. -/
theorem readWithOutcome_of_count
    (hcount : ¬ ∀ c, (n.sendQueue c).packetsToSend.toNat ≤ Config.maxNumberDataPackets) :
    readWithOutcome build o buf n = .error .assertFailed := by
  rw [readWithOutcome, readQueueElementWith]
  by_cases hm : n.mac.message.packetsToSend ≤ UInt8.ofNat Config.maxNumberDataPackets
  · have hc : ¬ n.mac.control.packetsToSend ≤ UInt8.ofNat Config.maxNumberDataPackets := by
      intro hc
      refine hcount fun c => ?_
      cases c with
      | message => exact UInt8.le_iff_toNat_le.mp hm
      | control => exact UInt8.le_iff_toNat_le.mp hc
    rw [decide_eq_true hm, decide_eq_false hc]
    rfl
  · rw [decide_eq_false hm]
    rfl

/-- What storing leaves, and that it does exactly if there is an entry and the data fit. -/
theorem store_eq_ok_iff {q q' : SendQueue} {b : ByteString} :
    q.store build.os b = .ok q' ↔ SizeFits build.os b ∧ Stores q q' (datapacketOfBytes b) := by
  by_cases hlast : q.lastSend.toNat < Config.maxNumberDataPackets
  · by_cases hfits : SizeFits build.os b
    · rw [SendQueue.store_eq hlast hfits]
      constructor
      · intro h
        exact ⟨hfits, hlast, (Except.ok.inj h).symm⟩
      · rintro ⟨-, -, rfl⟩
        rfl
    · refine iff_of_false (SendRing.store_of_not_sizeFits hfits q') fun h => hfits h.1
  · refine iff_of_false (fun hstore => ?_) fun h => hlast h.2.1
    rw [SendQueue.store, dif_neg hlast, throw_eq_error] at hstore
    cases hstore

/-- The packet that was stored can be read off the queue. -/
theorem Stores.unique {q q' : SendQueue} {p p' : DataPacket} (h : Stores q q' p)
    (h' : Stores q q' p') : p = p' := by
  obtain ⟨hlast, rfl⟩ := h
  obtain ⟨_, h'⟩ := h'
  have hentry := congrArg (fun q : SendQueue => q.packets ⟨_, hlast⟩) h'
  simpa using hentry

theorem Stores.ne {q q' : SendQueue} (h : Stores q q' p) : q' ≠ q := by
  obtain ⟨hlast, rfl⟩ := h
  intro hself
  have hcount := congrArg SendQueue.lastSend hself
  simp at hcount

/-- What is made of the outcome of a call of `recv_message`. -/
def handleOutcome (build : Build) (o : RecvOutcome) (buf : ByteString) (n : Node) :
    Except Halt (Node × ℕ) :=
  match sendClass (o.msg buf 0) with
  | none => .ok ({ n with queues := o.queues n.queues }, 0)
  | some c => (n.sendQueue c).store build.os (o.msg buf) >>= fun q =>
    .ok (({ n with queues := o.queues n.queues } : Node).setSendQueue c q, 1)

/-- The send queues once a packet has been stored in one of them. -/
theorem sendQueue_handled (n : Node) (queues : IpcQueues) (c : SendClass) (q : SendQueue) :
    (({ n with queues := queues } : Node).setSendQueue c q).sendQueue =
      Function.update n.sendQueue c q := by
  rw [sendQueue_setSendQueue]
  congr 1

theorem handleOutcome_of_none (hclass : sendClass (o.msg buf 0) = none) :
    handleOutcome build o buf n = .ok ({ n with queues := o.queues n.queues }, 0) := by
  rw [handleOutcome, hclass]

theorem handleOutcome_stores (hclass : sendClass (o.msg buf 0) = some c)
    (hlast : (n.sendQueue c).lastSend.toNat < Config.maxNumberDataPackets)
    (hfits : SizeFits build.os (o.msg buf)) : ∃ n', handleOutcome build o buf n = .ok (n', 1) := by
  rw [handleOutcome, hclass]
  dsimp only
  rw [SendQueue.store_eq hlast hfits]
  exact ⟨_, rfl⟩

/-- A type that goes to a queue makes the read store the buffer, or not return. -/
theorem handleOutcome_of_some (hclass : sendClass (o.msg buf 0) = some c)
    (h : handleOutcome build o buf n = .ok (n', ret)) :
    ret = 1 ∧ SizeFits build.os (o.msg buf) ∧
      Stores (n.sendQueue c) (n'.sendQueue c) (datapacketOfBytes (o.msg buf)) ∧
      ∀ c' ≠ c, n'.sendQueue c' = n.sendQueue c' := by
  rw [handleOutcome, hclass] at h
  obtain ⟨q, hstore, h⟩ := bind_eq_ok.mp h
  obtain ⟨rfl, rfl⟩ := Prod.mk.inj (Except.ok.inj h)
  obtain ⟨hfits, hstores⟩ := store_eq_ok_iff.mp hstore
  rw [sendQueue_handled, Function.update_self]
  exact ⟨rfl, hfits, hstores, fun c' hc => Function.update_of_ne hc _ _⟩

/-- What is stored is a message that was received exactly if there was one, with its header and its
data. -/
theorem stores_received_iff (hclass : sendClass (o.msg buf 0) = some c)
    (h : handleOutcome build o buf n = .ok (n', ret)) :
    StoresReceived o n n' ↔ ∃ queues length bytes rest, o = .received queues length bytes rest ∧
      dataStart + (bytes 17).toNat ≤ min length Config.packetSizeMac := by
  obtain ⟨-, hfits, hstores, hothers⟩ := handleOutcome_of_some hclass h
  constructor
  · rintro ⟨queues, length, bytes, rest, rfl, c', p, hdecodes, hstores', hothers'⟩
    have hc : c' = c := by
      by_contra hne
      exact hstores'.ne (hothers c' hne)
    subst hc
    obtain rfl := hstores.unique hstores'
    exact ⟨queues, length, bytes, rest, rfl, decodesTo_iff.mp hdecodes⟩
  · rintro ⟨queues, length, bytes, rest, rfl, hlong⟩
    exact ⟨queues, length, bytes, rest, rfl, c, _, decodesTo_iff.mpr hlong, hstores,
      hothers⟩

/-- Once the call is reached, the read is as it should be exactly if it can deal with its outcome. -/
theorem onlyReceived_reached_iff
    (hread : ∀ buf, readWithOutcome build o buf n = handleOutcome build o buf n) :
    OnlyReceived build o n ↔ o.Kept n := by
  unfold OnlyReceived
  simp only [hread]
  -- a buffer that goes to a queue has to be that of a message
  have hstored : ∀ buf c, sendClass (o.msg buf 0) = some c →
      (∃ n' ret, handleOutcome build o buf n = .ok (n', ret) ∧
        (ret = 1 ∧ StoresReceived o n n' ∨ ret = 0 ∧ ∀ c, n'.sendQueue c = n.sendQueue c)) →
      ∃ queues length bytes rest, o = .received queues length bytes rest ∧
        dataStart + (bytes 17).toNat ≤ min length Config.packetSizeMac := by
    rintro buf c hclass ⟨n', ret, hok, h⟩
    obtain ⟨rfl, -⟩ := handleOutcome_of_some hclass hok
    rcases h with ⟨-, h⟩ | ⟨h, -⟩
    · exact (stores_received_iff hclass hok).mp h
    · cases h
  cases o with
  | received queues length bytes rest =>
    refine ⟨?_, ?_⟩
    · -- the buffer may hold the bytes that came anyway
      rintro ⟨h, -⟩ c hclass
      have hmsg : sendClass ((RecvOutcome.received queues length bytes rest).msg bytes 0) =
          some c := hclass
      obtain ⟨n', ret, hok, -⟩ := h bytes
      obtain ⟨-, -, ⟨hlast, -⟩, -⟩ := handleOutcome_of_some hmsg hok
      obtain ⟨_, _, _, _, heq, hlong⟩ := hstored bytes c hclass (h bytes)
      cases heq
      exact ⟨hlast, hlong⟩
    · intro hkept
      refine ⟨fun buf => ?_, fun _ _ => rfl⟩
      cases hclass : sendClass (overlay length bytes rest 0) with
      | none =>
        exact ⟨_, 0, handleOutcome_of_none hclass, .inr ⟨rfl, fun c => by cases c <;> rfl⟩⟩
      | some c =>
        obtain ⟨hlast, hlong⟩ := hkept c hclass
        -- the size of the data is among the bytes that came
        have hfits : SizeFits build.os (overlay length bytes rest) := by
          have hlt : 17 < length := lt_of_lt_of_le (Nat.lt_add_right _ (by decide))
            (hlong.trans (min_le_left _ _))
          intro _
          rw [overlay_of_lt (k := 17) hlt, Nat.add_comm]
          exact hlong.trans (min_le_right _ _)
        have hmsg : sendClass ((RecvOutcome.received queues length bytes rest).msg buf 0) =
            some c := hclass
        obtain ⟨n', hok⟩ := handleOutcome_stores hmsg hlast hfits
        refine ⟨n', 1, hok, .inl ⟨rfl, ?_⟩⟩
        exact (stores_received_iff hmsg hok).mpr ⟨queues, length, bytes, rest, rfl, hlong⟩
  | unwritten queues =>
    -- the buffer may hold anything
    refine iff_of_false ?_ id
    rintro ⟨h, -⟩
    obtain ⟨_, _, _, _, h, -⟩ := hstored (fun _ => 7) .message rfl (h _)
    cases h
  | mistaken bytes =>
    constructor
    · rintro ⟨h, -⟩
      cases hclass : sendClass (bytes 0) with
      | none => exact hclass
      | some c =>
        obtain ⟨_, _, _, _, h, -⟩ := hstored (fun _ => 0) c hclass (h _)
        cases h
    · intro hnone
      exact ⟨fun buf => ⟨_, 0, handleOutcome_of_none hnone, .inr ⟨rfl, fun c => by cases c <;> rfl⟩⟩,
        fun _ _ => rfl⟩

/-- A read that calls nothing is as it should be. -/
theorem onlyReceived_of_unread (hread : ∀ buf, readWithOutcome build o buf n = .ok (n, 0)) :
    OnlyReceived build o n :=
  ⟨fun buf => ⟨n, 0, hread buf, .inr ⟨rfl, fun _ => rfl⟩⟩,
    fun buf buf' => (hread buf).trans (hread buf').symm⟩

/-- **Only received bytes become packets** exactly if the counters of the send queues pass the
assertions, and both queues are full, or nothing waits, or the outcome of `recv_message` can be
dealt with: a message that goes to a send queue holds its header and its data and finds an entry, or
bytes of no message have a type that goes to no queue; never if the buffer was not written. -/
theorem onlyReceived_iff (build : Build) (o : RecvOutcome) (n : Node) :
    OnlyReceived build o n ↔ ReadSupported build o n := by
  unfold ReadSupported
  by_cases hcount : ∀ c, (n.sendQueue c).packetsToSend.toNat ≤ Config.maxNumberDataPackets
  swap
  · -- an assertion fails
    refine iff_of_false ?_ fun h => hcount h.1
    rintro ⟨h, -⟩
    obtain ⟨n', ret, hok, -⟩ := h fun _ => 0
    rw [readWithOutcome_of_count hcount] at hok
    cases hok
  by_cases hfull : mclmacAvailableDataPackets n.toMCLMAC = 2 * Config.maxNumberDataPackets
  · -- both queues are full
    have hread : ∀ buf, readWithOutcome build o buf n = .ok (n, 0) := fun buf => by
      rw [readWithOutcome_eq hcount, if_pos hfull]
    exact iff_of_true (onlyReceived_of_unread hread) ⟨hcount, .inl hfull⟩
  cases helements : elementsOnQueue build.os n.selfPid n.macQueueId n.queues with
  | error e =>
    -- the number of waiting messages cannot be told
    refine iff_of_false ?_ ?_
    · rintro ⟨h, -⟩
      obtain ⟨n', ret, hok, -⟩ := h fun _ => 0
      rw [readWithOutcome_eq hcount, if_neg hfull, helements] at hok
      cases hok
    · rintro ⟨-, h | h | ⟨⟨elements, h⟩, -⟩⟩
      · exact hfull h
      · cases h
      · cases h
  | ok elements =>
    by_cases hempty : elements = 0
    · -- nothing waits
      subst hempty
      have hread : ∀ buf, readWithOutcome build o buf n = .ok (n, 0) := fun buf => by
        rw [readWithOutcome_eq hcount, if_neg hfull, helements]
        rfl
      exact iff_of_true (onlyReceived_of_unread hread) ⟨hcount, .inr (.inl rfl)⟩
    · have hread : ∀ buf, readWithOutcome build o buf n = handleOutcome build o buf n := fun buf => by
        rw [readWithOutcome_eq hcount, if_neg hfull, helements, ok_bind, if_neg hempty]
        rfl
      rw [onlyReceived_reached_iff hread]
      constructor
      · exact fun h => ⟨hcount, .inr (.inr ⟨⟨elements, rfl⟩, h⟩)⟩
      · rintro ⟨-, h | h | ⟨-, h⟩⟩
        · exact absurd h hfull
        · exact absurd (Except.ok.inj h) hempty
        · exact h

end

/-! ### A message of another size on RIOT -/

/-- The queue of a node on RIOT, with a message of ten bytes waiting for its thread. -/
def shortMessage : IpcQueues where
  queues := fun i =>
    if i = 0 then { queueId := 1, messageSize := Config.maxMessageSize, allocated := true } else {}
  mailbox := fun pid => if pid = 0 then [{ senderPid := 2, type := 10, ptr := 0 }] else []
  storedElements := 1

/-- A node that has just been initialised, with that queue. -/
def shortMessageNode : Node :=
  { mclmacInit (fun _ => {}) 0 initQueues with queues := shortMessage }

/-- The message is discarded, and what happened to be in the buffer is stored as a packet. -/
theorem onlyReceived_discarded :
    (∀ buf, mclmacReadQueueElement ⟨.riot, true⟩ buf shortMessageNode =
      readWithOutcome ⟨.riot, true⟩
        (.unwritten { shortMessage with mailbox := Function.update shortMessage.mailbox 0 [] }) buf
        shortMessageNode) ∧
      ¬ OnlyReceived ⟨.riot, true⟩
        (.unwritten { shortMessage with mailbox := Function.update shortMessage.mailbox 0 [] })
        shortMessageNode := by
  refine ⟨fun buf => rfl, ?_⟩
  rintro ⟨-, h⟩
  have hsame := congrArg (fun r => r.toOption.map Prod.snd) (h emptyMessage fun _ => 0)
  revert hsame
  decide +kernel

/-! ## The outcomes of the calls -/

section

variable {build : Build} {caller : Pid} {queueId : ℕ} {buf : ByteString} {Q : IpcQueues} {n : Node}

/-- The read is the one whose call of `recv_message` is that of the module. -/
theorem mclmacReadQueueElement_with :
    mclmacReadQueueElement build buf n =
      readQueueElementWith build (fun buf => (fun r => (r.queues, r.msg)) <$>
        recvMessage build.os n.selfPid n.macQueueId buf Config.maxMessageSize n.queues) buf n := by
  rw [mclmacReadQueueElement, readQueueElementWith]
  simp only [bind_map_left]

/-- **On RIOT** a call that returns has written a message to the buffer or not written to it. -/
theorem recvMessage_riot_outcome {r : Received}
    (h : recvMessage .riot caller queueId buf Config.maxMessageSize Q = .ok r) :
    ∃ o : RecvOutcome, ∀ buf', (fun r => (r.queues, r.msg)) <$>
      recvMessage .riot caller queueId buf' Config.maxMessageSize Q =
        .ok (o.queues Q, o.msg buf') := by
  by_cases hqueue : ∃ q : Fin Config.maxQueues, queueId = q + 1 ∧ Config.maxMessageSize ≠ 0
  swap
  · refine ⟨.unwritten Q, fun buf' => ?_⟩
    rw [(reads_or_refused .riot caller queueId buf' _ Q).resolve_left hqueue]
    rfl
  obtain ⟨q, hid, hsize⟩ := hqueue
  have hcall : ∀ buf', recvMessage .riot caller queueId buf' Config.maxMessageSize Q = _ :=
    fun buf' => recvMessage_riot hid hsize
  rw [hcall] at h
  obtain ⟨_, halloc, h⟩ := bind_eq_ok.mp h
  simp only [hcall, halloc, ok_bind]
  by_cases hstored : Q.storedElements = 0
  · refine ⟨.unwritten Q, fun buf' => ?_⟩
    rw [if_pos hstored]
    rfl
  rw [if_neg hstored] at h
  simp only [if_neg hstored]
  cases hmailbox : Q.mailbox caller with
  | nil =>
    rw [hmailbox] at h
    cases h
  | cons m rest =>
    rw [hmailbox] at h
    dsimp only at h ⊢
    by_cases htype : m.type.toNat ≠ (Q.queues q).messageSize
    · -- a message of another size is discarded
      refine ⟨.unwritten { Q with mailbox := Function.update Q.mailbox caller rest }, fun buf' => ?_⟩
      rw [if_pos htype]
      rfl
    rw [if_neg htype] at h
    by_cases hplaces : m.ptr < storageSize ∧ Q.startStorage < storageSize
    · refine ⟨.received
        { Q with
          mailbox := Function.update Q.mailbox caller rest
          msgStorage := Function.update Q.msgStorage ⟨Q.startStorage, hplaces.2⟩ fun _ => 0
          startStorage := (Q.startStorage + 1) % storageSize
          storedElements := Q.storedElements - 1 }
        (Q.queues q).messageSize (Q.msgStorage ⟨m.ptr, hplaces.1⟩)
        (Q.msgStorage ⟨m.ptr, hplaces.1⟩), fun buf' => ?_⟩
      rw [if_neg htype, dif_pos hplaces]
      refine congrArg Except.ok (Prod.ext rfl ?_)
      funext k
      show (if (k : ℕ) < Config.packetSizeMac then Q.msgStorage ⟨m.ptr, hplaces.1⟩ k else buf' k) =
        if (k : ℕ) < (Q.queues q).messageSize then _ else _
      rw [if_pos k.isLt, ite_self]
    · rw [dif_neg hplaces] at h
      cases h

/-- On RIOT the read is one with the outcome of its call. -/
theorem mclmacReadQueueElement_riot_outcome {native : Bool} {r : Received}
    (h : recvMessage .riot n.selfPid n.macQueueId buf Config.maxMessageSize n.queues = .ok r) :
    ∃ o : RecvOutcome, ∀ buf', mclmacReadQueueElement ⟨.riot, native⟩ buf' n =
      readWithOutcome ⟨.riot, native⟩ o buf' n := by
  obtain ⟨o, ho⟩ := recvMessage_riot_outcome h
  refine ⟨o, fun buf' => ?_⟩
  rw [mclmacReadQueueElement_with, readWithOutcome]
  simp only [ho]

end

/-! ### On Linux -/

section

variable {results : List MqResult} {queueId : ℕ} {heap : ℕ → UInt8} {buf : ByteString}
  {Q : IpcQueues} {i : Fin Config.maxQueues}

/-- The bytes that the buffer of `recv_message` holds behind the thread id. -/
def behindPid (heap : ℕ → UInt8) : ByteString := fun k => heap (k + pidSize)

/-- What is left of a queue from which was received. -/
theorem mq_receive_cases {q : Queue} {length : ℕ} {r : MqResult} {mq : MqQueue}
    {out : Except Errno (List UInt8)} (h : q.mq.receive length r = .ok (mq, out)) :
    (∃ err, out = .error err ∧ mq = q.mq) ∨
      ∃ m rest, q.messages = m :: rest ∧ out = .ok m.out ∧
        mq = Queue.mq { q with messages := rest } := by
  unfold MqQueue.receive at h
  split_ifs at h
  · obtain ⟨rfl, rfl⟩ := Prod.mk.inj (Except.ok.inj h)
    exact .inl ⟨_, rfl, rfl⟩
  · cases r with
    | failed err =>
      obtain ⟨rfl, rfl⟩ := Prod.mk.inj (Except.ok.inj h)
      exact .inl ⟨err, rfl, rfl⟩
    | done =>
      cases hmessages : q.messages with
      | nil => simp [Queue.mq, hmessages] at h
      | cons m rest =>
        simp only [Queue.mq, hmessages, List.map_cons, Except.ok.injEq, Prod.mk.injEq] at h
        obtain ⟨rfl, rfl⟩ := h
        exact .inr ⟨m, rest, rfl, rfl, rfl⟩

/-- A call has left the queues and the buffer that the outcome says. -/
def Leaves (o : RecvOutcome) (Q : IpcQueues) (buf : ByteString) (r : LinuxReceived) : Prop :=
  r.mqs = mqsOf (o.queues Q) ∧ ∀ k : Fin Config.packetSizeMac, r.msg k = o.msg buf k

/-- What is copied out has an outcome that does not depend on the buffer of the caller. -/
theorem copyOut_outcome (heap : ℕ → UInt8) {length : ℕ} {r : MqResult} {mq : MqQueue}
    {out : Except Errno (List UInt8)} (h : (Q.queues i).mq.receive length r = .ok (mq, out)) :
    ∃ o : RecvOutcome, ∀ buf, Leaves o Q buf (copyOut (Function.update (mqsOf Q) i mq)
      (received heap out) (memory buf) Config.maxMessageSize) := by
  rcases mq_receive_cases h with ⟨err, rfl, rfl⟩ | ⟨m, rest, -, rfl, rfl⟩
  · refine ⟨.mistaken (behindPid heap), fun buf => ⟨Function.update_eq_self _ _, fun k => ?_⟩⟩
    show (if (k : ℕ) < Config.maxMessageSize then heap (k + pidSize) else _) = _
    rw [if_pos k.isLt]
    rfl
  · refine ⟨.received
      { Q with queues := Function.update Q.queues i { Q.queues i with messages := rest } }
      m.size m.bytes (behindPid heap), fun buf => ⟨(mqsOf_update Q i _).symm, fun k => ?_⟩⟩
    show (if (k : ℕ) < Config.maxMessageSize then received heap (.ok m.out) (k + pidSize) else _) =
      if (k : ℕ) < m.size then m.bytes k else behindPid heap k
    rw [if_pos k.isLt]
    by_cases hk : (k : ℕ) < m.size
    · rw [if_pos hk, MqMessage.out, received_outMsg heap m.pid _ hk]
      exact congrArg m.bytes (Fin.ofNat_val_eq_self k)
    · rw [if_neg hk]
      refine List.getD_eq_default _ _ ?_
      rw [MqMessage.out, length_outMsg, Nat.add_comm]
      exact Nat.add_le_add_right (not_lt.mp hk) _

/-- **On Linux** a call that returns, also with an error, has one of the outcomes. -/
theorem recvMessageLinux_outcome {r : LinuxReceived}
    (h : recvMessageLinux results queueId heap (memory buf) Config.maxMessageSize Q (mqsOf Q) =
      .ok r) :
    ∃ o : RecvOutcome, ∀ buf', ∃ r', recvMessageLinux results queueId heap (memory buf')
      Config.maxMessageSize Q (mqsOf Q) = .ok r' ∧ Leaves o Q buf' r' := by
  by_cases hqueue : ∃ i : Fin Config.maxQueues, queueId = i + 1 ∧ Config.maxMessageSize ≠ 0
  swap
  · refine ⟨.unwritten Q, fun buf' => ⟨_, recvMessageLinux_of_refused hqueue, rfl, fun k => ?_⟩⟩
    exact congrArg buf' (Fin.ofNat_val_eq_self k)
  obtain ⟨i, hid, hne⟩ := hqueue
  cases results with
  | nil =>
    subst hid
    unfold recvMessageLinux at h
    rw [dif_pos ⟨Nat.succ_pos i, i.isLt⟩, if_neg hne] at h
    obtain ⟨_, -, h⟩ := bind_eq_ok.mp h
    cases h
  | cons report rs =>
    have hcall : ∀ buf', recvMessageLinux (report :: rs) queueId heap (memory buf')
        Config.maxMessageSize Q (mqsOf Q) = _ := fun buf' => recvMessageLinux_eq hid hne
    rw [hcall] at h
    obtain ⟨_, hopened, h⟩ := bind_eq_ok.mp h
    obtain ⟨⟨mq, out⟩, hfirst, h⟩ := bind_eq_ok.mp h
    simp only [hcall, hopened, hfirst, ok_bind]
    dsimp only at h
    split at h
    · split at h
      · cases h
      · -- interrupted, so received from once more
        obtain ⟨⟨mq', out'⟩, hsecond, -⟩ := bind_eq_ok.mp h
        rcases mq_receive_cases hfirst with ⟨err, -, rfl⟩ | ⟨m, rest, -, hout, -⟩
        · obtain ⟨o, ho⟩ := copyOut_outcome heap hsecond
          refine ⟨o, fun buf' => ⟨_, ?_, ho buf'⟩⟩
          simp only [hsecond, ok_bind]
          rfl
        · cases hout
    · refine ⟨.unwritten Q, fun buf' => ⟨_, rfl, rfl, fun k => ?_⟩⟩
      exact congrArg buf' (Fin.ofNat_val_eq_self k)
    · obtain ⟨o, ho⟩ := copyOut_outcome heap hfirst
      exact ⟨o, fun buf' => ⟨_, rfl, ho buf'⟩⟩

end

end WmnIot
