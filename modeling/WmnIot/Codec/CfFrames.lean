import WmnIot.Codec.CfPacket
import WmnIot.Model.RadioFrames

/-! # CF messages over the radio

A CF packet takes 33 bytes of its string and a frame carries 32 of them: the last byte of the
destination is not sent, and the receiver reads it behind the end of its array.

* **`cfpacketConstruct_eq_iff`** — what a string must hold to be read as a packet.
* **`receivedCf_eq_iff`** — the packet is received exactly if the byte behind the array is the one that
  was not sent.
* **`isFor_receivedCf_iff`** — the destination test of every node.
* **`not_fitsFrame`** — no packet fits its frame. -/

namespace WmnIot

/-! ## Reading a string -/

/-- A string with the type of a CF packet is read as the packet whose first 33 bytes it holds. -/
theorem cfpacketConstruct_eq_iff {b : ByteString} (htype : b 0 = 0) (pkt old : CFPacket)
    (n : UInt8) : cfpacketConstructPacketFromBytestring old b = pkt ↔
      ∀ k : Fin Config.packetSizeMac, (k : ℕ) ≤ 32 → b k = cfpacketGetPacketBytestring pkt n k := by
  constructor
  · intro hread k hk
    rw [← hread, cfpacket_get_construct htype old n hk]
  · intro hbytes
    have hheader : cfpacketHeader (cfpacketConstructPacketFromBytestring old b) =
        cfpacketHeader pkt := by
      conv_rhs => rw [← cfpacket_construct_get pkt old n]
      rw [cfpacketHeader_construct htype,
        cfpacketHeader_construct (cfpacketGetPacketBytestring_type pkt n)]
      exact List.map_congr_left fun i _ => hbytes _ (Nat.le_of_lt_succ i.isLt)
    have hget : cfpacketGetPacketBytestring (cfpacketConstructPacketFromBytestring old b) n =
        cfpacketGetPacketBytestring pkt n := by
      funext k
      rw [cfpacketGetPacketBytestring, cfpacketGetPacketBytestring, hheader]
    rw [← cfpacket_construct_get (cfpacketConstructPacketFromBytestring old b) old n, hget,
      cfpacket_construct_get pkt old n]

namespace Accesses

open Traces

/-- What is read of a memory is the packet of the string it starts with. -/
theorem value_cfpacketConstruct (old : CFPacket) (mem : ℕ → UInt8) :
    (cfpacketConstructPacketFromBytestring old mem).value =
      WmnIot.cfpacketConstructPacketFromBytestring old fun k => mem k := by
  by_cases htype : mem 0 ≠ 0
  · simp [cfpacketConstructPacketFromBytestring, WmnIot.cfpacketConstructPacketFromBytestring, htype]
  · have hvalue : (cfpacketConstructPacketFromBytestring old mem).value =
        { nodeId := (word ((List.range' 1 8).map mem), word ((List.range' 9 8).map mem))
          destinationId :=
            (word ((List.range' 17 8).map mem), word ((List.range' 25 8).map mem)) } := by
      simp [cfpacketConstructPacketFromBytestring, not_not.mp htype]
    rw [hvalue]
    exact (if_neg htype).symm

/-- A memory with the type of a CF packet is read up to position 32. -/
theorem mem_positions_cfpacketConstruct (old : CFPacket) {mem : ℕ → UInt8} (htype : mem 0 = 0) :
    32 ∈ (cfpacketConstructPacketFromBytestring old mem).positions := by
  simp [cfpacketConstructPacketFromBytestring, htype]

end Accesses

/-! ## The frame and the array -/

/-- The array that is built from the frame of a packet. -/
theorem cfArray_cfFrame (pkt : CFPacket) (n : UInt8) :
    cfArray Config.maxPayloadWidth (cfFrame pkt n) Config.maxPayloadWidth =
      some (List.ofFn (cfFrame pkt n)) := by
  have htype : ¬ cfFrame pkt n 0 ≠ 0 := not_not.mpr rfl
  have hlength : (List.ofFn (cfFrame pkt n)).length = Config.maxPayloadWidth := List.length_ofFn
  have hall : (List.ofFn (cfFrame pkt n)).take ((Config.maxPayloadWidth : ℕ) : ℤ).toNat =
      List.ofFn (cfFrame pkt n) := List.take_of_length_le hlength.le
  rw [cfArray, if_neg (by decide), if_neg (by decide), if_pos rfl, if_neg (lt_irrefl _),
    if_neg htype, hall]

/-- The positions of the array hold the bytes of the string. -/
theorem readE_cfFrame {k : ℕ} (hk : k < Config.maxPayloadWidth) (pkt : CFPacket) (n : UInt8)
    (junk : ℕ → UInt8) : readE (List.ofFn (cfFrame pkt n)) junk k =
      cfpacketGetPacketBytestring pkt n ⟨k, lt_trans hk (by decide)⟩ := by
  have hlt : k < (List.ofFn (cfFrame pkt n)).length := by rwa [List.length_ofFn]
  rw [readE, List.getD_eq_getElem _ _ hlt, List.getElem_ofFn]
  rfl

/-- Behind the array, `READ_ARRAY` gives an uninitialised value. -/
theorem readE_behind {k : ℕ} (hk : Config.maxPayloadWidth ≤ k) (pkt : CFPacket) (n : UInt8)
    (junk : ℕ → UInt8) : readE (List.ofFn (cfFrame pkt n)) junk k = junk k :=
  List.getD_eq_default _ _ (by rwa [List.length_ofFn])

/-! ## What is received -/

/-- What the decoder makes of the array, with the positions it reads. -/
def receivedCf (pkt old : CFPacket) (n : UInt8) (junk : ℕ → UInt8) : Traces.Traced ℕ CFPacket :=
  Accesses.cfpacketConstructPacketFromBytestring old (readE (List.ofFn (cfFrame pkt n)) junk)

/-- **The packet is received** exactly if the value of the uninitialised variable is the byte that
was not sent. -/
theorem receivedCf_eq_iff (pkt old : CFPacket) (n : UInt8) (junk : ℕ → UInt8) :
    (receivedCf pkt old n junk).value = pkt ↔ junk 32 = cfpacketGetPacketBytestring pkt n 32 := by
  have htype : readE (List.ofFn (cfFrame pkt n)) junk 0 = 0 := readE_cfFrame (by decide) pkt n junk
  rw [receivedCf, Accesses.value_cfpacketConstruct, cfpacketConstruct_eq_iff htype pkt old n]
  constructor
  · intro hbytes
    rw [← hbytes 32 (le_refl 32)]
    exact (readE_behind (le_refl 32) pkt n junk).symm
  · intro hlast k hk
    by_cases hlt : (k : ℕ) < Config.maxPayloadWidth
    · exact readE_cfFrame hlt pkt n junk
    · have hk32 : k = 32 := Fin.ext (le_antisymm hk (not_lt.mp hlt))
      rw [hk32, ← hlast]
      exact readE_behind (le_refl 32) pkt n junk

/-- The destination test of `ACTIVE`: a node takes a CF packet that is for it or for all. -/
def CFPacket.IsFor (pkt : CFPacket) (id : NodeId) : Prop :=
  pkt.destinationId = id ∨ pkt.destinationId = (0, 0)

/-- Two packets that every node tests alike have the same destination. -/
theorem destinationId_eq_of_isFor {pkt pkt' : CFPacket} (h : ∀ id, pkt.IsFor id ↔ pkt'.IsFor id) :
    pkt.destinationId = pkt'.destinationId := by
  by_cases hall : pkt'.destinationId = (0, 0)
  · -- a packet for all is for two nodes at least
    have hone := (h (1, 0)).mpr (.inr hall)
    have htwo := (h (2, 0)).mpr (.inr hall)
    rw [hall]
    rcases hone with hone | hone
    · rcases htwo with htwo | htwo
      · exact absurd (hone.symm.trans htwo) (by decide)
      · exact htwo
    · exact hone
  · by_cases hall' : pkt.destinationId = (0, 0)
    · have hone := (h (1, 0)).mp (.inr hall')
      have htwo := (h (2, 0)).mp (.inr hall')
      exact absurd ((hone.resolve_right hall).symm.trans (htwo.resolve_right hall)) (by decide)
    · exact ((h pkt'.destinationId).mpr (.inl rfl)).resolve_right hall'

/-- **The destination test** of every node is that of the sender exactly if the value of the
uninitialised variable is the byte that was not sent. -/
theorem isFor_receivedCf_iff (pkt old : CFPacket) (n : UInt8) (junk : ℕ → UInt8) :
    (∀ id, (receivedCf pkt old n junk).value.IsFor id ↔ pkt.IsFor id) ↔
      junk 32 = cfpacketGetPacketBytestring pkt n 32 := by
  constructor
  · intro h
    have hdest := destinationId_eq_of_isFor h
    have htype : readE (List.ofFn (cfFrame pkt n)) junk 0 = 0 :=
      readE_cfFrame (by decide) pkt n junk
    have hlast : cfpacketGetPacketBytestring (receivedCf pkt old n junk).value n 32 = junk 32 := by
      rw [receivedCf, Accesses.value_cfpacketConstruct, cfpacket_get_construct htype old n (le_refl 32)]
      exact readE_behind (le_refl 32) pkt n junk
    -- position 32 is the last byte of the destination
    have hbyte : ∀ pkt, cfpacketGetPacketBytestring pkt n 32 =
        (BigEndian.toBytes64 pkt.destinationId.2).getD 7 0 := fun _ => rfl
    rw [← hlast, hbyte, hbyte, hdest]
  · intro hlast id
    rw [(receivedCf_eq_iff pkt old n junk).mpr hlast]

/-- A CF message fits its radio frame: the array that the receiver builds from the frame that the
sender prepares is read as the packet, within its bounds, and the destination test gives every node
the answer it gives at the sender. -/
def FitsFrame (pkt old : CFPacket) (n : UInt8) (junk : ℕ → UInt8) : Prop :=
  ∃ array, cfArray Config.maxPayloadWidth (cfFrame pkt n) Config.maxPayloadWidth = some array ∧
    (Accesses.cfpacketConstructPacketFromBytestring old (readE array junk)).value = pkt ∧
    (∀ i ∈ (Accesses.cfpacketConstructPacketFromBytestring old (readE array junk)).positions,
      i < array.length) ∧
    ∀ id, (Accesses.cfpacketConstructPacketFromBytestring old (readE array junk)).value.IsFor id ↔
      pkt.IsFor id

/-- **No CF message fits its frame**, whatever the padding, the packet it is read into and the
uninitialised values; and it is read as the packet, or tested alike by every node, exactly if the
uninitialised value at position 32 is the last byte of the destination. -/
theorem not_fitsFrame (pkt old : CFPacket) (n : UInt8) (junk : ℕ → UInt8) :
    ¬ FitsFrame pkt old n junk ∧
    ∃ array, cfArray Config.maxPayloadWidth (cfFrame pkt n) Config.maxPayloadWidth = some array ∧
      ((Accesses.cfpacketConstructPacketFromBytestring old (readE array junk)).value = pkt ↔
        junk 32 = cfpacketGetPacketBytestring pkt n 32) ∧
      ((∀ id, (Accesses.cfpacketConstructPacketFromBytestring old (readE array junk)).value.IsFor id ↔
          pkt.IsFor id) ↔ junk 32 = cfpacketGetPacketBytestring pkt n 32) := by
  have harray := cfArray_cfFrame pkt n
  constructor
  · rintro ⟨array, hsome, -, hbounds, -⟩
    obtain rfl : List.ofFn (cfFrame pkt n) = array := Option.some.inj (harray.symm.trans hsome)
    have htype : readE (List.ofFn (cfFrame pkt n)) junk 0 = 0 :=
      readE_cfFrame (by decide) pkt n junk
    have hlt := hbounds 32 (Accesses.mem_positions_cfpacketConstruct old htype)
    rw [List.length_ofFn] at hlt
    exact lt_irrefl 32 hlt
  · exact ⟨_, harray, receivedCf_eq_iff pkt old n junk, isFor_receivedCf_iff pkt old n junk⟩

/-- A packet for the node (0, 1) is received as one for all when the uninitialised value is 0. -/
theorem not_fitsFrame_lastByte :
    ¬ FitsFrame ⟨(3, 5), (0, 1)⟩ {} 0 fun _ => 0 := by
  rintro ⟨array, hsome, hvalue, -, -⟩
  obtain rfl : List.ofFn (cfFrame ⟨(3, 5), (0, 1)⟩ 0) = array :=
    Option.some.inj ((cfArray_cfFrame _ 0).symm.trans hsome)
  have hlast : (0 : UInt8) = cfpacketGetPacketBytestring ⟨(3, 5), (0, 1)⟩ 0 32 :=
    (receivedCf_eq_iff ⟨(3, 5), (0, 1)⟩ {} 0 fun _ => 0).mp hvalue
  exact absurd hlast (by decide)

end WmnIot
