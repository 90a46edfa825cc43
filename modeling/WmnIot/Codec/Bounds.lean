import WmnIot.Codec.DataPacket
import WmnIot.Model.Accesses

/-! # The positions a data packet reaches

A byte string has `PACKET_SIZE_MAC` positions, and the header of a data packet takes eighteen of
them. The header says how many data follow: that byte comes from a peer or from the upper layers and
nothing validates it.

* **`Accesses.mem_positions_construct`**, **`Accesses.mem_positions_get`** — the positions that are
  read by the decoder and written by the encoder.
* **`Accesses.datapacketConstructFromBytestring_eq`**, **`Accesses.written_get`** — the codec of
  strings is that of memories, as long as it stays in the string.
* **`datapacketCodec_inBounds_iff`** — decoding any string, and encoding what was decoded. -/

namespace WmnIot

namespace Accesses

open BigEndian Traces

/-- The string at the start of a memory. -/
def stringOf (mem : ℕ → UInt8) : ByteString := fun k => mem k

/-! ## Decoding -/

/-- The decoder reads the header and as many bytes behind it as the header says. -/
theorem mem_positions_construct (mem : ℕ → UInt8) (i : ℕ) :
    i ∈ (datapacketConstructFromBytestring mem).positions ↔ i < dataStart + (mem 17).toNat := by
  simp only [datapacketConstructFromBytestring, positions_bind, positions_read, positions_readEach,
    value_read, positions_pure, List.mem_append, List.mem_singleton, List.mem_range'_1,
    List.mem_map, List.mem_range, List.not_mem_nil, or_false, dataStart]
  constructor
  · rintro (h | h | h | h | ⟨j, hj, rfl⟩) <;> omega
  · intro h
    by_cases hdata : 18 ≤ i
    · exact .inr (.inr (.inr (.inr ⟨i - 18, by omega, by omega⟩)))
    · omega

/-- The size of a decoded packet. -/
theorem size_construct (mem : ℕ → UInt8) :
    (datapacketConstructFromBytestring mem).value.size = mem 17 := rfl

/-- The data of a decoded packet. -/
theorem data_construct (mem : ℕ → UInt8) :
    (datapacketConstructFromBytestring mem).value.data =
      (List.range (mem 17).toNat).map fun i => mem (i + 18) := by
  simp [datapacketConstructFromBytestring, Function.comp_def]

/-- A decoded packet has as many data as its size says. -/
theorem length_data_construct (mem : ℕ → UInt8) :
    (datapacketConstructFromBytestring mem).value.data.length = (mem 17).toNat := by
  simp [data_construct]

/-- The decoder reads nothing behind the string exactly if the size fits. -/
theorem construct_inBounds_iff (mem : ℕ → UInt8) :
    (∀ i ∈ (datapacketConstructFromBytestring mem).positions, i < Config.packetSizeMac) ↔
      SizeFits .linux (stringOf mem) := by
  have hsize : SizeFits .linux (stringOf mem) ↔
      (mem 17).toNat + dataStart ≤ Config.packetSizeMac := forall_prop_of_true rfl
  rw [hsize]
  constructor
  · intro h
    have hlast := h (dataStart + (mem 17).toNat - 1) <| by
      rw [mem_positions_construct]
      simp only [dataStart]
      omega
    simp only [dataStart, Config.packetSizeMac] at hlast ⊢
    omega
  · intro h i hi
    have hlt := (mem_positions_construct mem i).mp hi
    simp only [dataStart, Config.packetSizeMac] at h hlt ⊢
    omega

/-- The packet of a string is what is read, without the elements from behind the string. -/
theorem value_construct (mem : ℕ → UInt8) :
    { (datapacketConstructFromBytestring mem).value with
        data := (datapacketConstructFromBytestring mem).value.data.take
          (Config.packetSizeMac - dataStart) } = datapacketOfBytes (stringOf mem) := by
  have htype : (datapacketConstructFromBytestring mem).value.type =
      (datapacketOfBytes (stringOf mem)).type := rfl
  have hid : (datapacketConstructFromBytestring mem).value.destinationId =
      (datapacketOfBytes (stringOf mem)).destinationId := rfl
  have hsize : (datapacketConstructFromBytestring mem).value.size =
      (datapacketOfBytes (stringOf mem)).size := rfl
  have hdata : (datapacketConstructFromBytestring mem).value.data.take
      (Config.packetSizeMac - dataStart) = (datapacketOfBytes (stringOf mem)).data := by
    rw [data_construct, ← List.map_take, List.take_range, min_comm]
    refine List.map_congr_left fun i hi => ?_
    have hi' := (lt_min_iff.mp (List.mem_range.mp hi)).2
    have hlt : i + dataStart < Config.packetSizeMac := Nat.add_lt_of_lt_sub hi'
    exact congrArg mem (Nat.mod_eq_of_lt hlt).symm
  exact DataPacket.mk.injEq .. |>.mpr ⟨htype, hsize, hid, hdata⟩

/-- **Decoding a string** on Linux is decoding the memory it is at the start of, which is out of
bounds when it reads behind the string. -/
theorem datapacketConstructFromBytestring_eq (mem : ℕ → UInt8) :
    WmnIot.datapacketConstructFromBytestring .linux (stringOf mem) =
      if ∀ i ∈ (datapacketConstructFromBytestring mem).positions, i < Config.packetSizeMac then
        .ok (datapacketConstructFromBytestring mem).value
      else .error .outOfBounds := by
  by_cases hfits : SizeFits .linux (stringOf mem)
  · have hlength : (datapacketConstructFromBytestring mem).value.data.length ≤
        Config.packetSizeMac - dataStart := by
      rw [length_data_construct]
      exact Nat.le_sub_of_add_le (hfits rfl)
    have hvalue : (datapacketConstructFromBytestring mem).value = datapacketOfBytes (stringOf mem) := by
      rw [← value_construct, List.take_of_length_le hlength]
    rw [if_pos ((construct_inBounds_iff mem).mpr hfits), hvalue]
    exact if_pos hfits
  · rw [if_neg (mt (construct_inBounds_iff mem).mp hfits)]
    exact if_neg hfits

/-! ## Encoding -/

/-- What the encoder writes, as one run from the first position on. -/
theorem get_eq_run (junk : ℕ → UInt8) (pkt : DataPacket) :
    datapacketGetPacketBytestring junk pkt = run 0 (datapacketHeader pkt ++
      datapacketData junk pkt ++
        List.replicate (Config.packetSizeMac - 18 - pkt.size.toNat) 0) := by
  have hheader : (datapacketHeader pkt).length = 18 := rfl
  rw [run_append, run_append, List.length_append, hheader, length_datapacketData, Nat.zero_add,
    Nat.zero_add]
  unfold datapacketGetPacketBytestring datapacketData
  by_cases hpad : pkt.size.toNat < Config.packetSizeMac - 18
  · rw [if_pos hpad]
  · rw [if_neg hpad, Nat.sub_eq_zero_of_le (not_lt.mp hpad), List.replicate_zero]
    rfl

/-- The encoder writes the whole string, and behind it if the data reach there. -/
theorem mem_positions_get (junk : ℕ → UInt8) (pkt : DataPacket) (i : ℕ) :
    i ∈ (datapacketGetPacketBytestring junk pkt).map Prod.fst ↔
      i < Config.packetSizeMac ∨ i < dataStart + pkt.size.toNat := by
  have hheader : (datapacketHeader pkt).length = 18 := rfl
  rw [get_eq_run, mem_run_positions, List.length_append, List.length_append, hheader,
    length_datapacketData, List.length_replicate]
  simp only [Config.packetSizeMac, dataStart]
  omega

/-- The encoder writes nothing behind the string exactly if the size fits. -/
theorem get_inBounds_iff (junk : ℕ → UInt8) (pkt : DataPacket) :
    (∀ i ∈ (datapacketGetPacketBytestring junk pkt).map Prod.fst, i < Config.packetSizeMac) ↔
      pkt.size.toNat + dataStart ≤ Config.packetSizeMac := by
  constructor
  · intro h
    have hlast := h (dataStart + pkt.size.toNat - 1) <| by
      rw [mem_positions_get]
      simp only [dataStart]
      omega
    simp only [dataStart, Config.packetSizeMac] at hlast ⊢
    omega
  · intro h i hi
    have hlt := (mem_positions_get junk pkt i).mp hi
    simp only [dataStart, Config.packetSizeMac] at h hlt ⊢
    omega

/-- **Encoding a packet** leaves its bytes in the string, whatever the string held. -/
theorem written_get (junk : ℕ → UInt8) (pkt : DataPacket) (mem : ℕ → UInt8)
    (k : Fin Config.packetSizeMac) :
    written (datapacketGetPacketBytestring junk pkt) mem k = datapacketBytes junk pkt k := by
  have hheader : (datapacketHeader pkt).length = 18 := rfl
  have hlt : (k : ℕ) < (datapacketHeader pkt ++ datapacketData junk pkt ++
      List.replicate (Config.packetSizeMac - 18 - pkt.size.toNat) 0).length := by
    have hk : (k : ℕ) < 256 := k.isLt
    rw [List.length_append, List.length_append, hheader, length_datapacketData,
      List.length_replicate]
    simp only [Config.packetSizeMac]
    omega
  have hwritten : written (run 0 _) mem (0 + k) = _ := written_run _ mem hlt
  rw [Nat.zero_add] at hwritten
  rw [get_eq_run, hwritten, datapacketBytes]
  -- the data, or the zeros behind them
  by_cases hk : (k : ℕ) < (datapacketHeader pkt ++ datapacketData junk pkt).length
  · rw [List.getElem_append_left hk, List.getD_eq_getElem _ _ hk]
  · rw [List.getElem_append_right (not_lt.mp hk), List.getElem_replicate,
      List.getD_eq_default _ _ (not_lt.mp hk)]

end Accesses

/-! ## Both -/

/-- Decoding the string and encoding the packet that was decoded stay in the string and in the
buffer. -/
def Accesses.InBounds (junk byteString : ℕ → UInt8) : Prop :=
  (∀ i ∈ (Accesses.datapacketConstructFromBytestring byteString).positions,
    i < Config.packetSizeMac) ∧
  ∀ i ∈ (Accesses.datapacketGetPacketBytestring junk
      (Accesses.datapacketConstructFromBytestring byteString).value).map Prod.fst,
    i < Config.packetSizeMac

/-- **Data packets in bounds**: a string is decoded, and the packet encoded again, within
`PACKET_SIZE_MAC` positions exactly if its size byte is at most 238. -/
theorem datapacketCodec_inBounds_iff (junk byteString : ℕ → UInt8) :
    Accesses.InBounds junk byteString ↔ (byteString 17).toNat ≤ 238 := by
  have hsize : SizeFits .linux (Accesses.stringOf byteString) ↔
      (byteString 17).toNat + dataStart ≤ Config.packetSizeMac := forall_prop_of_true rfl
  rw [Accesses.InBounds, Accesses.construct_inBounds_iff, Accesses.get_inBounds_iff,
    Accesses.size_construct, hsize, and_self]
  simp only [dataStart, Config.packetSizeMac]
  omega

/-- A string of the type 7 with the size byte 239 is read behind its end. -/
theorem datapacketCodec_not_inBounds :
    ¬ Accesses.InBounds (fun _ => 0) fun i => if i = 0 then 7 else if i = 17 then 239 else 0 := by
  intro h
  have hlast : 256 < Config.packetSizeMac := by
    apply h.1
    rw [Accesses.mem_positions_construct]
    decide
  exact absurd hlast (by decide)

end WmnIot
