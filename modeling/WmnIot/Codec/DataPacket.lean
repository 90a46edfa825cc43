import WmnIot.Foundations.Runs
import WmnIot.Model.DataPacket

/-! # The data packet codec

Writing a data packet and reading it back, in both directions. A string has `PACKET_SIZE_MAC`
positions and its header takes eighteen of them, so 238 remain for the data, whereas
`datapacket_create` takes up to 255.

* **`datapacketOfBytes_datapacketBytes`** — a packet is read back as it was written.
* **`datapacketBytes_datapacketOfBytes`** — a string is written back as it was read.
* **`datapacketCodec_roundTrip_iff`** — the codec on the packets that can be created. -/

namespace WmnIot

open BigEndian Runs

/-! ## Reading what was written -/

variable {junk : ℕ → UInt8}

/-- The header is followed by the data. -/
theorem datapacketBytes_dataStart_add {pkt : DataPacket} {i : ℕ} (hi : i < pkt.size.toNat)
    (hfits : i + dataStart < Config.packetSizeMac) :
    datapacketBytes junk pkt (Fin.ofNat _ (i + dataStart)) = pkt.data.getD i (junk i) := by
  have hhere : (Fin.ofNat Config.packetSizeMac (i + dataStart) : ℕ) = i + dataStart :=
    Nat.mod_eq_of_lt hfits
  have hheader : (datapacketHeader pkt).length = dataStart := rfl
  rw [datapacketBytes, hhere, List.getD_append_right _ _ _ _ (by rw [hheader]; omega), hheader,
    Nat.add_sub_cancel, List.getD_eq_getElem _ _ (by rwa [length_datapacketData])]
  simp only [datapacketData, List.getElem_map, List.getElem_range]

/-- **Reading what was written**: a packet that fits and has exactly `size` data is read back as it
was written. -/
theorem datapacketOfBytes_datapacketBytes {pkt : DataPacket}
    (hfits : pkt.size.toNat + dataStart ≤ Config.packetSizeMac)
    (hlength : pkt.data.length = pkt.size.toNat) :
    datapacketOfBytes (datapacketBytes junk pkt) = pkt := by
  have htype : (datapacketBytes junk pkt 0).toInt8 = pkt.type := rfl
  have hid : ofBytes64 _ _ _ _ _ _ _ _ = pkt.destinationId.1 := ofBytes64_of_toBytes64 rfl
  have hid' : ofBytes64 _ _ _ _ _ _ _ _ = pkt.destinationId.2 := ofBytes64_of_toBytes64 rfl
  have hsize : datapacketBytes junk pkt 17 = pkt.size := rfl
  have hmin : min pkt.size.toNat (Config.packetSizeMac - dataStart) = pkt.size.toNat :=
    min_eq_left (Nat.le_sub_of_add_le hfits)
  have hdata : (List.range (min (datapacketBytes junk pkt 17).toNat
      (Config.packetSizeMac - dataStart))).map
        (fun i => datapacketBytes junk pkt (Fin.ofNat _ (i + dataStart))) = pkt.data := by
    rw [hsize, hmin]
    refine List.ext_getElem (by simp [hlength]) ?_
    intro i hi hi'
    rw [List.getElem_map, List.getElem_range, datapacketBytes_dataStart_add (by omega) (by omega)]
    exact List.getD_eq_getElem _ _ hi'
  exact DataPacket.mk.injEq .. |>.mpr ⟨htype, hsize, Prod.ext hid hid', hdata⟩

/-! ## Writing what was read -/

/-- The header written from a packet that was read is the header of the string. -/
theorem datapacketHeader_datapacketOfBytes (b : ByteString) :
    datapacketHeader (datapacketOfBytes b) = [b 0, b 1, b 2, b 3, b 4, b 5, b 6, b 7, b 8, b 9,
      b 10, b 11, b 12, b 13, b 14, b 15, b 16, b 17] := by
  have htype : (b 0).toInt8.toUInt8 = b 0 := UInt8.toUInt8_toInt8 _
  simp only [datapacketHeader, datapacketOfBytes, toBytes64_ofBytes64, htype, List.cons_append,
    List.nil_append]

/-- Up to the end of its data, a string is written back as it was read. -/
theorem datapacketBytes_datapacketOfBytes_of_lt {b : ByteString} {k : Fin Config.packetSizeMac}
    (hk : (k : ℕ) < dataStart + (b 17).toNat) :
    datapacketBytes junk (datapacketOfBytes b) k = b k := by
  have hsize : (datapacketOfBytes b).size = b 17 := rfl
  -- the header and the data
  rcases Nat.lt_or_ge k dataStart with hhead | hdata
  · rw [datapacketBytes, datapacketHeader_datapacketOfBytes, List.getD_append _ _ _ _ hhead]
    show ((List.finRange 18).map fun i => b (Fin.castLE (by decide) i)).getD k 0 = b k
    rw [List.getD_eq_getElem _ _ (by simpa using hhead), List.getElem_map, List.getElem_finRange]
    rfl
  · have hstring := k.isLt
    have hi : (k : ℕ) - dataStart < (b 17).toNat := by omega
    have hhere : Fin.ofNat Config.packetSizeMac (k - dataStart + dataStart) = k := by
      rw [Nat.sub_add_cancel hdata]
      exact Fin.ext (Nat.mod_eq_of_lt hstring)
    have hthere : (k : ℕ) - dataStart < (datapacketOfBytes b).data.length := by
      rw [length_datapacketOfBytes]
      exact lt_min hi (by omega)
    have hwritten : datapacketBytes junk (datapacketOfBytes b)
        (Fin.ofNat Config.packetSizeMac (k - dataStart + dataStart)) = _ :=
      datapacketBytes_dataStart_add (by rwa [hsize]) (by omega)
    rw [hhere, List.getD_eq_getElem _ _ hthere] at hwritten
    rw [hwritten]
    simp only [datapacketOfBytes, List.getElem_map, List.getElem_range, hhere]

/-- Behind the data there are zeros. -/
theorem datapacketBytes_of_ge {pkt : DataPacket} {k : Fin Config.packetSizeMac}
    (hk : dataStart + pkt.size.toNat ≤ k) : datapacketBytes junk pkt k = 0 := by
  have hheader : (datapacketHeader pkt).length = dataStart := rfl
  have hbehind : (datapacketHeader pkt ++ datapacketData junk pkt).length ≤ k := by
    rw [List.length_append, hheader, length_datapacketData]
    exact hk
  exact List.getD_eq_default _ _ hbehind

/-- **Writing what was read**: a string whose data are followed by zeros is written back as it was
read. -/
theorem datapacketBytes_datapacketOfBytes {b : ByteString}
    (hzero : ∀ k : Fin Config.packetSizeMac, 17 + (b 17).toNat < k → b k = 0) :
    datapacketBytes junk (datapacketOfBytes b) = b := by
  funext k
  rcases Nat.lt_or_ge k (dataStart + (b 17).toNat) with hk | hk
  · exact datapacketBytes_datapacketOfBytes_of_lt hk
  · rw [datapacketBytes_of_ge hk]
    refine (hzero k ?_).symm
    simp only [dataStart] at hk
    omega

/-- What is written of a packet that was read does not depend on uninitialised variables. -/
theorem datapacketBytes_datapacketOfBytes_junk (junk junk' : ℕ → UInt8) (b : ByteString) :
    datapacketBytes junk (datapacketOfBytes b) = datapacketBytes junk' (datapacketOfBytes b) := by
  funext k
  rcases Nat.lt_or_ge k (dataStart + (b 17).toNat) with hk | hk
  · rw [datapacketBytes_datapacketOfBytes_of_lt hk, datapacketBytes_datapacketOfBytes_of_lt hk]
  · rw [datapacketBytes_of_ge hk, datapacketBytes_of_ge hk]

/-- Packets that are read from two strings are the same if the strings agree up to the end of the
data. -/
theorem datapacketOfBytes_congr {b b' : ByteString}
    (h : ∀ k : Fin Config.packetSizeMac, (k : ℕ) < dataStart + (b 17).toNat → b k = b' k) :
    datapacketOfBytes b = datapacketOfBytes b' := by
  have hhead : ∀ k : Fin Config.packetSizeMac, (k : ℕ) < dataStart → b k = b' k :=
    fun k hk => h k (Nat.lt_add_right _ hk)
  have h17 : b 17 = b' 17 := hhead 17 (by decide)
  unfold datapacketOfBytes
  rw [← h17, hhead 0 (by decide), hhead 1 (by decide), hhead 2 (by decide), hhead 3 (by decide),
    hhead 4 (by decide), hhead 5 (by decide), hhead 6 (by decide), hhead 7 (by decide),
    hhead 8 (by decide), hhead 9 (by decide), hhead 10 (by decide), hhead 11 (by decide),
    hhead 12 (by decide), hhead 13 (by decide), hhead 14 (by decide), hhead 15 (by decide),
    hhead 16 (by decide)]
  congr 1
  refine List.map_congr_left fun i hi => h _ ?_
  have hi' := lt_min_iff.mp (List.mem_range.mp hi)
  rw [Fin.val_ofNat, Nat.mod_eq_of_lt (by omega)]
  omega

/-! ## The codec -/

/-- What `datapacket_create` makes of its arguments. -/
theorem datapacketCreate_eq_ok {type : Int8} {destinationId : NodeId} {data : List UInt8}
    {size : UInt8} {pkt : DataPacket} (h : datapacketCreate type destinationId data size = .ok pkt) :
    size.toNat ≤ data.length ∧ pkt =
      { type := type, size := size, destinationId := destinationId, data := data.take size.toNat } := by
  obtain ⟨-, -, h⟩ := bind_eq_ok.mp h
  obtain ⟨-, -, h⟩ := bind_eq_ok.mp h
  split at h
  · next hle =>
    cases h
    exact ⟨hle, rfl⟩
  · cases h

/-- A type from 0 to 9 and one to `size` data make a packet. -/
theorem datapacketCreate_of_le {type : Int8} {size : UInt8} (destinationId : NodeId)
    {data : List UInt8} (htype : 0 ≤ type ∧ type < 10) (hsize : size > 0)
    (hdata : size.toNat ≤ data.length) :
    datapacketCreate type destinationId data size = .ok
      { type := type, size := size, destinationId := destinationId, data := data.take size.toNat } := by
  simp [datapacketCreate, htype, hsize, hdata]

/-- **The data packet codec**: a packet that `datapacket_create` makes is written within the byte
string and read back as it was written exactly if it has at most 238 data; a string whose data fit
and are followed by zeros is written back as it was read. On RIOT a longer packet is written up to
the end of the string, and what is read back lacks the rest of its data. -/
theorem datapacketCodec_roundTrip_iff (os : OS) (junk : ℕ → UInt8) (type : Int8)
    (destinationId : NodeId) (data : List UInt8) (size : UInt8) (b : ByteString) :
    (∀ pkt, datapacketCreate type destinationId data size = .ok pkt →
      ((∃ bytes, datapacketGetPacketBytestring os junk pkt = .ok bytes ∧
          datapacketConstructFromBytestring os bytes = .ok pkt) ↔
        size.toNat ≤ Config.packetSizeMac - dataStart)) ∧
    ((b 17).toNat ≤ Config.packetSizeMac - dataStart →
      (∀ k : Fin Config.packetSizeMac, 17 + (b 17).toNat < k → b k = 0) →
      ∃ pkt, datapacketConstructFromBytestring os b = .ok pkt ∧
        datapacketGetPacketBytestring os junk pkt = .ok b) := by
  constructor
  · intro pkt hcreate
    obtain ⟨hlength, rfl⟩ := datapacketCreate_eq_ok hcreate
    have hdata : (data.take size.toNat).length = size.toNat := by simpa using hlength
    constructor
    · rintro ⟨bytes, -, hread⟩
      unfold datapacketConstructFromBytestring at hread
      split at hread
      · -- a packet that was read has no more data than a string
        have hread := Except.ok.inj hread
        have hsize : bytes 17 = size := congrArg DataPacket.size hread
        have hread := congrArg (fun p => p.data.length) hread
        rw [length_datapacketOfBytes, hsize] at hread
        exact min_eq_left_iff.mp (hread.trans hdata)
      · cases hread
    · intro hsize
      have hfits : size.toNat + dataStart ≤ Config.packetSizeMac := by
        simp only [Config.packetSizeMac, dataStart] at hsize ⊢
        omega
      have hencodable : DataPacket.Encodable os
          ⟨type, size, destinationId, data.take size.toNat⟩ := fun _ => ⟨hfits, hdata.ge⟩
      have hread : datapacketOfBytes (datapacketBytes junk
          ⟨type, size, destinationId, data.take size.toNat⟩) = _ :=
        datapacketOfBytes_datapacketBytes hfits hdata
      refine ⟨_, if_pos hencodable, ?_⟩
      rw [datapacketConstructFromBytestring, if_pos, hread]
      exact fun _ => hfits
  · intro hsize hzero
    have hfits : SizeFits os b := by
      intro _
      simp only [Config.packetSizeMac, dataStart] at hsize ⊢
      omega
    refine ⟨_, if_pos hfits, ?_⟩
    rw [datapacketGetPacketBytestring, if_pos (encodable_datapacketOfBytes hfits),
      datapacketBytes_datapacketOfBytes hzero]

/-- A packet of 239 data can be created, and its last byte does not fit into the string: on Linux it
is written out of bounds, and on no system does it come back. -/
theorem datapacketCodec_lastByte_outOfBounds :
    ∃ pkt, datapacketCreate 0 (0, 0) (List.replicate 239 7) 239 = .ok pkt ∧
      datapacketGetPacketBytestring .linux (fun _ => 0) pkt = .error .outOfBounds ∧
      ∀ os, ¬ ∃ bytes, datapacketGetPacketBytestring os (fun _ => 0) pkt = .ok bytes ∧
        datapacketConstructFromBytestring os bytes = .ok pkt := by
  have hlength : (239 : UInt8).toNat ≤ (List.replicate 239 (7 : UInt8)).length :=
    List.length_replicate.ge
  have hcreate : datapacketCreate 0 (0, 0) (List.replicate 239 7) 239 =
      .ok ⟨0, 239, (0, 0), (List.replicate 239 7).take (239 : UInt8).toNat⟩ :=
    datapacketCreate_of_le (0, 0) (by decide) (by decide) hlength
  refine ⟨_, hcreate, if_neg fun hencodable => absurd (hencodable rfl).1 (by decide), ?_⟩
  rintro os ⟨bytes, -, hread⟩
  unfold datapacketConstructFromBytestring at hread
  split at hread
  · have hread := Except.ok.inj hread
    have hsize : bytes 17 = 239 := congrArg DataPacket.size hread
    have hread := congrArg (fun p => p.data.length) hread
    rw [length_datapacketOfBytes, hsize, List.length_take, List.length_replicate] at hread
    exact absurd hread (by decide)
  · cases hread

end WmnIot
