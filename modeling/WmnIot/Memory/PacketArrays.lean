import WmnIot.Memory.Refinement
import WmnIot.Model.RiotNode

/-! # The arrays of packets

What the packet functions do to the arrays, on the flat arrays that the memory holds.

* **`writeArray_spec`**, **`readArray_spec`**, **`copyArray_spec`** — the loops.
* **`RiotNode.createString_spec`**, **`RiotNode.freeString_spec`** — the local variable
  `byteString`.
* **`RiotNode.clearData_spec`** — the data of a packet are freed.
* **`RiotNode.construct_spec`**, **`RiotNode.getBytestring_spec`** — the codec of data packets. -/

namespace WmnIot

open Chains Runs

namespace FlatArrays

variable {A : Type} [DecidableEq A] (f : FlatArrays A) (array : A)

/-- A variable loses its value. -/
def forget : FlatArrays A := { f with contents := Function.update f.contents array none }

/-- An array gets other contents. -/
def set (bytes : List UInt8) : FlatArrays A :=
  { f with contents := Function.update f.contents array (some bytes) }

variable {f array}

@[simp] theorem set_self (bytes : List UInt8) : (f.set array bytes).contents array = some bytes :=
  Function.update_self _ _ _

theorem set_of_ne {a : A} (h : a ≠ array) (bytes : List UInt8) :
    (f.set array bytes).contents a = f.contents a :=
  Function.update_of_ne h _ _

@[simp] theorem set_set (bytes bytes' : List UInt8) :
    (f.set array bytes).set array bytes' = f.set array bytes' := by
  unfold set
  rw [Function.update_idem]

theorem set_contents {bytes : List UInt8} (h : f.contents array = some bytes) :
    f.set array bytes = f := by
  unfold set
  rw [update_contents h]

theorem write_eq_set {bytes : List UInt8} (h : f.contents array = some bytes) (element : UInt8)
    (i : ℕ) : f.write array element i = f.set array (bytes.set i element) := by
  unfold write set
  rw [h, Option.map_some]

omit [DecidableEq A] in
theorem size_eq {bytes : List UInt8} (h : f.contents array = some bytes) :
    f.size array = bytes.length := by
  unfold size
  rw [h, Option.getD_some]

theorem free_self {bytes : List UInt8} (h : f.contents array = some bytes) :
    (f.free array).contents array = some [] := by
  unfold free
  simp [h]

theorem free_of_ne {a : A} (h : a ≠ array) : (f.free array).contents a = f.contents a :=
  Function.update_of_ne h _ _

theorem create_of_ne {a : A} (h : a ≠ array) (size : ℕ) :
    (f.create array size).contents a = f.contents a := by
  unfold create
  by_cases hsize : 1 ≤ size ∧ size ≤ f.available
  · rw [if_pos hsize]
    exact Function.update_of_ne h _ _
  · rw [if_neg hsize]

end FlatArrays

/-- The bytes of a list written over those of another one, from index `i` on. -/
def overwrite (l : List UInt8) : ℕ → List UInt8 → List UInt8
  | _, [] => l
  | i, b :: bytes => overwrite (l.set i b) (i + 1) bytes

@[simp] theorem length_overwrite (l : List UInt8) (i : ℕ) (bytes : List UInt8) :
    (overwrite l i bytes).length = l.length := by
  induction bytes generalizing l i with
  | nil => rfl
  | cons b bytes ih => rw [overwrite, ih, List.length_set]

/-- Bytes for every index from that of the end of `written` on. -/
theorem overwrite_append (written l bytes : List UInt8) (h : l.length = bytes.length) :
    overwrite (written ++ l) written.length bytes = written ++ bytes := by
  induction bytes generalizing written l with
  | nil => rw [overwrite, List.length_eq_zero_iff.mp h]
  | cons b bytes ih =>
    cases l with
    | nil => exact absurd h (by simp)
    | cons a l =>
      have hset : (written ++ a :: l).set written.length b = (written ++ [b]) ++ l := by
        rw [List.set_append_right _ _ (Nat.le_refl _), Nat.sub_self]
        simp
      have hlen : written.length + 1 = (written ++ [b]).length := by simp
      rw [overwrite, hset, hlen, ih (written ++ [b]) l (Nat.succ.inj h)]
      simp

/-- Bytes for every index. -/
theorem overwrite_all {l bytes : List UInt8} (h : l.length = bytes.length) :
    overwrite l 0 bytes = bytes :=
  overwrite_append [] l bytes h

/-! ## The loops -/

section Loops

variable {A P S : Type} {Free : Pool P S → Finset P → Prop} {m : Memory A P S} {f : FlatArrays A}
  {array : A} {bytes : List UInt8}

/-- Every byte that is read is that of the array, or indeterminate past its end. -/
theorem readArray_spec (h : Refines Free m f) (hbytes : f.contents array = some bytes)
    (junk : ℕ → UInt8) (i n : ℕ) :
    readArray junk array i n m = .ok ((List.range' i n).map fun k => bytes.getD k (junk k)) := by
  induction n generalizing i with
  | zero => rfl
  | succ n ih =>
    rw [readArray, h.readElement hbytes, ok_bind, ih, ok_bind, pure_eq_ok, List.range'_succ,
      List.map_cons]

variable [DecidableEq A]

/-- A variable that loses its value takes its blocks with it. -/
theorem Refines.forget (h : Refines Free m f) (array : A) :
    Refines Free { m with arrays := Function.update m.arrays array none } (f.forget array) := by
  obtain ⟨F, cells, h⟩ := h
  have hcells : ∀ a, ∀ p ∈ Function.update cells array [] a, p ∈ cells a := by
    intro a p hp
    by_cases ha : a = array
    · subst ha
      rw [Function.update_self] at hp
      exact absurd hp List.not_mem_nil
    · rwa [Function.update_of_ne ha] at hp
  refine ⟨F, Function.update cells array [], h.free, fun a => ?_, ?_, ?_, h.available, fun a => ?_⟩
  · show IsArray m.pool (Function.update m.arrays array none a) (Function.update cells array [] a)
    by_cases ha : a = array
    · subst ha
      rw [Function.update_self, Function.update_self]
      rfl
    · rw [Function.update_of_ne ha, Function.update_of_ne ha]
      exact h.isArray a
  · exact fun a b hab p hpa hpb => h.disjoint a b hab (hcells a p hpa) (hcells b p hpb)
  · exact fun a p hp => h.used a p (hcells a p hp)
  · show Function.update f.contents array none a = _
    by_cases ha : a = array
    · subst ha
      simp
    · simp only [Function.update_of_ne ha, h.contents a]

variable [DecidableEq P] {M : Memarray P S}

theorem writeArray_spec (hM : M.Lawful Free) (h : Refines Free m f)
    (hbytes : f.contents array = some bytes) (written : List UInt8) (i : ℕ) :
    ∃ m', writeArray array written i m = .ok m' ∧
      Refines Free m' (f.set array (overwrite bytes i written)) := by
  induction written generalizing m f bytes i with
  | nil =>
    refine ⟨m, rfl, ?_⟩
    rwa [overwrite, FlatArrays.set_contents hbytes]
  | cons b written ih =>
    obtain ⟨m₁, r, hwrite, h₁, -⟩ := h.writeElement hM hbytes b i
    rw [FlatArrays.write_eq_set hbytes] at h₁
    obtain ⟨m', hrest, h'⟩ := ih h₁ (FlatArrays.set_self _) (i + 1)
    refine ⟨m', ?_, ?_⟩
    · rw [writeArray, hwrite, ok_bind]
      exact hrest
    · rwa [FlatArrays.set_set] at h'

/-- Copying changes nothing but bytes of the target. -/
theorem copyArray_spec (hM : M.Lawful Free) {source target : A} (hne : source ≠ target)
    (h : Refines Free m f) (hsource : f.contents source = some bytes) {bytes' : List UInt8}
    (htarget : f.contents target = some bytes') (junk : ℕ → UInt8) (i j n : ℕ) :
    ∃ m' copied, copyArray junk source target i j n m = .ok m' ∧
      copied.length = bytes'.length ∧ Refines Free m' (f.set target copied) := by
  induction n generalizing m f bytes' i j with
  | zero =>
    refine ⟨m, bytes', rfl, rfl, ?_⟩
    rwa [FlatArrays.set_contents htarget]
  | succ n ih =>
    obtain ⟨m₁, r, hwrite, h₁, -⟩ := h.writeElement hM htarget (bytes.getD i (junk i)) j
    rw [FlatArrays.write_eq_set htarget] at h₁
    obtain ⟨m', copied, hrest, hlen, h'⟩ := ih h₁ (by rwa [FlatArrays.set_of_ne hne])
      (FlatArrays.set_self _) (i + 1) (j + 1)
    refine ⟨m', copied, ?_, ?_, ?_⟩
    · rw [copyArray, h.readElement hsource, ok_bind, hwrite, ok_bind]
      exact hrest
    · rw [hlen, List.length_set]
    · rwa [FlatArrays.set_set] at h'

omit [DecidableEq A] in
/-- Nothing is written to a variable without a value. -/
theorem writeArray_indeterminate (h : m.arrays array = none) {written : List UInt8}
    (hne : written ≠ []) (i : ℕ) : writeArray array written i m = .error .indeterminate := by
  cases written with
  | nil => exact absurd rfl hne
  | cons b written =>
    have hget : m.get array = .error .indeterminate := by
      unfold Memory.get
      rw [h]
    rw [writeArray, writeElement, hget]
    rfl

end Loops

/-! ## The variable `byteString` -/

namespace RiotNode

section

variable {P S : Type} [DecidableEq P] [Fintype P] {M : Memarray P S}
  {Free : Pool P S → Finset P → Prop} {n : RiotNode P S} {f : FlatArrays ArrayName}
  {bytes : List UInt8}

/-- The flat arrays with a local byte string of `size` bytes. -/
def withString (f : FlatArrays ArrayName) (size : ℕ) (bytes : List UInt8) : FlatArrays ArrayName where
  available := f.available - size
  contents := Function.update f.contents .byteString (some bytes)

@[simp] theorem withString_self (size : ℕ) :
    (withString f size bytes).contents .byteString = some bytes := by
  unfold withString
  simp

theorem withString_of_ne {a : ArrayName} (h : a ≠ .byteString) (size : ℕ) :
    (withString f size bytes).contents a = f.contents a :=
  Function.update_of_ne h _ _

omit [Fintype P] in
/-- The call of `create_array` for `byteString` succeeds exactly if there are as many free blocks. -/
theorem createString_spec (hM : M.Lawful Free) (h : Refines Free n.memory f) {size : ℕ}
    (hpos : 1 ≤ size) :
    (size ≤ f.available → ∃ m', (n.declare .byteString).createArray M .byteString size =
        .ok { n with memory := m', created := n.created ++ [1] } ∧
      Refines Free m' (withString f size (List.replicate size 0))) ∧
    (f.available < size → ∃ n', (n.declare .byteString).createArray M .byteString size = .ok n' ∧
      n'.node = n.node ∧ n'.created = n.created ++ [0] ∧ n'.memory.arrays .byteString = none ∧
      Refines Free n'.memory (f.forget .byteString)) := by
  have hforget := h.forget ArrayName.byteString
  obtain ⟨hroom, hfull⟩ := hforget.createArray hM size
  unfold createArray
  constructor
  · intro hsize
    obtain ⟨m', hcreate, h'⟩ := hroom ⟨hpos, hsize⟩
    refine ⟨m', ?_, ?_⟩
    · exact congrArg (· >>= _) hcreate
    · unfold FlatArrays.create FlatArrays.forget at h'
      rw [if_pos ⟨hpos, hsize⟩, Function.update_idem] at h'
      exact h'
  · intro hsize
    have hcreate := (hfull fun hs => Nat.not_le.mpr hsize hs.2).1
    exact ⟨_, congrArg (· >>= _) hcreate, rfl, rfl, by simp, hforget⟩

omit [Fintype P] in
/-- Writing a whole string to `byteString`. -/
theorem writeString_spec (hM : M.Lawful Free) (h : Refines Free n.memory f)
    (hbytes : f.contents .byteString = some bytes) (written : List UInt8) (i : ℕ) :
    ∃ m', n.writeString written i = .ok { n with memory := m' } ∧
      Refines Free m' (f.set .byteString (overwrite bytes i written)) := by
  obtain ⟨m', hwrite, h'⟩ := writeArray_spec hM h hbytes written i
  exact ⟨m', congrArg (· >>= _) hwrite, h'⟩

omit [Fintype P] in
theorem writeString_indeterminate (h : n.memory.arrays .byteString = none) {written : List UInt8}
    (hne : written ≠ []) (i : ℕ) : n.writeString written i = .error .indeterminate :=
  congrArg (· >>= _) (writeArray_indeterminate h hne i)

/-- `byteString` is freed. -/
theorem freeString_spec (hM : M.Lawful Free) {m : Memory ArrayName P S} (h : Refines Free m f)
    (hbytes : f.contents .byteString = some bytes) :
    ∃ m', (∀ node created, freeArray M .byteString ⟨node, m, created⟩ = .ok ⟨node, m', created⟩) ∧
      Refines Free m' (f.free .byteString) := by
  obtain ⟨m', r, hfree, h', -⟩ := h.freeArray hM hbytes
  exact ⟨m', fun _ _ => congrArg (· >>= _) hfree, h'⟩

omit [DecidableEq P] [Fintype P] in
theorem readString_spec {m : Memory ArrayName P S} (h : Refines Free m f)
    (hbytes : f.contents .byteString = some bytes) (junk : ℕ → UInt8) :
    ∃ string, ∀ node created, readString junk ⟨node, m, created⟩ = .ok string :=
  ⟨_, fun _ _ => congrArg (· >>= _) (readArray_spec h hbytes junk 0 Config.packetSizeMac)⟩

/-! ## The data of a packet -/

/-- The data of a packet are freed. -/
theorem clearData_spec (hM : M.Lawful Free) {m : Memory ArrayName P S} (h : Refines Free m f)
    {pkt : ArrayName} (hbytes : f.contents pkt = some bytes) :
    ∃ m', (∀ node created, clearData M pkt ⟨node, m, created⟩ = .ok ⟨node, m', created⟩) ∧
      Refines Free m' (f.free pkt) := by
  obtain ⟨value, hvalue, hsize⟩ : ∃ value, m.arrays pkt = some value ∧
      value.size = bytes.length := by
    obtain ⟨F, cells, h⟩ := h
    obtain ⟨value, hvalue, -, hsize, -⟩ := h.value hbytes
    exact ⟨value, hvalue, hsize⟩
  have hget : m.get pkt = .ok value := by
    unfold Memory.get
    rw [hvalue]
  unfold clearData
  dsimp only
  rw [hget]
  simp only [ok_bind, hsize]
  by_cases hpos : bytes.length > 0
  · obtain ⟨m', r, hfree, h', -⟩ := h.freeArray hM hbytes
    simp only [if_pos hpos]
    exact ⟨m', fun _ _ => congrArg (· >>= _) hfree, h'⟩
  · have hnil : bytes = [] := List.length_eq_zero_iff.mp (by omega)
    simp only [if_neg hpos]
    refine ⟨m, fun _ _ => rfl, ?_⟩
    rwa [FlatArrays.free_of_nil (hnil ▸ hbytes)]

omit [Fintype P] in
/-- The call of `create_array` for data that were freed. -/
theorem createData_spec (hM : M.Lawful Free) (h : Refines Free n.memory f) (pkt : ArrayName)
    (size : ℕ) :
    ∃ m' r, n.createArray M pkt size =
        .ok { n with memory := m', created := n.created ++ [r] } ∧
      Refines Free m' (f.create pkt size) ∧ (r = 1 ↔ 1 ≤ size ∧ size ≤ f.available) ∧
      (r ≠ 1 → r = 0) := by
  obtain ⟨hroom, hfull⟩ := h.createArray hM size
  by_cases hsize : 1 ≤ size ∧ size ≤ f.available
  · obtain ⟨m', hcreate, h'⟩ := hroom hsize
    exact ⟨m', 1, congrArg (· >>= _) hcreate, h', iff_of_true rfl hsize, fun hr => absurd rfl hr⟩
  · obtain ⟨hcreate, hsame⟩ := hfull hsize
    refine ⟨n.memory, 0, congrArg (· >>= _) hcreate, ?_, iff_of_false Nat.zero_ne_one hsize,
      fun _ => rfl⟩
    rwa [hsame]

end

end RiotNode

/-- What storing data of `k` bytes in a packet does: `create_array` returns `r`. -/
structure Stored (f : FlatArrays ArrayName) (pkt : ArrayName) (k : ℕ) (f' : FlatArrays ArrayName)
    (r : ℕ) : Prop where
  others : ∀ a, a ≠ pkt → f'.contents a = f.contents a
  valued : (f'.contents pkt).isSome
  result : r = 1 ↔ 1 ≤ k ∧ k ≤ f.available + f.size pkt
  room : r = 1 → f'.size pkt = k
  full : r ≠ 1 → r = 0 ∧ f'.size pkt = 0
  available : f'.available + f'.size pkt = f.available + f.size pkt

namespace RiotNode

section

variable {P S : Type} [DecidableEq P] [Fintype P] {M : Memarray P S}
  {Free : Pool P S → Finset P → Prop} {n : RiotNode P S} {f : FlatArrays ArrayName}
  {bytes data : List UInt8} {pkt : ArrayName}

/-- The size in the header of a packet is the byte with index 17. -/
theorem size_headerPacket (g : ℕ → UInt8) :
    (headerPacket ((List.range' 0 dataStart).map g)).size = g 17 := rfl

/-- **`datapacket_construct_from_bytestring`** stores as many bytes as the header says. -/
theorem construct_spec (hM : M.Lawful Free) (h : Refines Free n.memory f)
    (hbytes : f.contents .byteString = some bytes) (hpkt : pkt ≠ .byteString)
    (hdata : f.contents pkt = some data) (junk : ℕ → UInt8) :
    ∃ m' r packet f', n.datapacketConstructFromBytestring M junk pkt =
        .ok ({ n with memory := m', created := n.created ++ [r] }, packet) ∧
      Refines Free m' f' ∧ packet.size = bytes.getD 17 (junk 17) ∧
      Stored f pkt packet.size.toNat f' r := by
  generalize hpacket : headerPacket ((List.range' 0 dataStart).map fun k => bytes.getD k (junk k)) =
    packet
  have hsize : packet.size = bytes.getD 17 (junk 17) := by
    rw [← hpacket]
    exact size_headerPacket _
  obtain ⟨m₁, hclear, h₁⟩ := clearData_spec hM h hdata
  have hclear : n.clearData M pkt = .ok { n with memory := m₁ } := hclear n.node n.created
  have hnil := FlatArrays.free_self hdata
  obtain ⟨m₂, r, hcreate, h₂, hr, hr0⟩ :=
    createData_spec (n := { n with memory := m₁ }) hM h₁ pkt packet.size.toNat
  have hbytes₂ : ((f.free pkt).create pkt packet.size.toNat).contents .byteString = some bytes := by
    rw [FlatArrays.create_of_ne hpkt.symm, FlatArrays.free_of_ne hpkt.symm, hbytes]
  -- the new data, as many bytes as the header says if `create_array` succeeds
  obtain ⟨data', hdata', hlen, hfull⟩ : ∃ data',
      ((f.free pkt).create pkt packet.size.toNat).contents pkt = some data' ∧
      ((f.free pkt).create pkt packet.size.toNat).available + data'.length =
        f.available + f.size pkt ∧
      (r = 1 → data'.length = packet.size.toNat) ∧ (r ≠ 1 → data'.length = 0) := by
    unfold FlatArrays.create
    by_cases hroom : 1 ≤ packet.size.toNat ∧ packet.size.toNat ≤ (f.free pkt).available
    · rw [if_pos hroom]
      refine ⟨_, Function.update_self _ _ _, ?_, fun _ => List.length_replicate,
        fun hne => absurd (hr.mpr hroom) hne⟩
      rw [List.length_replicate]
      exact Nat.sub_add_cancel hroom.2
    · rw [if_neg hroom]
      exact ⟨[], hnil, rfl, fun hone => absurd (hr.mp hone) hroom, fun _ => rfl⟩
  obtain ⟨m₃, copied, hcopy, hcopied, h₃⟩ :=
    copyArray_spec hM hpkt.symm h₂ hbytes₂ hdata' junk dataStart 0 packet.size.toNat
  have hsize₃ : (((f.free pkt).create pkt packet.size.toNat).set pkt copied).size pkt =
      data'.length := by
    rw [FlatArrays.size_eq (FlatArrays.set_self copied), hcopied]
  refine ⟨m₃, r, packet, _, ?_, h₃, hsize, ?_⟩
  · unfold datapacketConstructFromBytestring
    rw [readArray_spec h hbytes junk 0 dataStart, ok_bind, hpacket, hclear, ok_bind, hcreate,
      ok_bind, hcopy]
    rfl
  · refine ⟨fun a ha => ?_, ?_, hr, fun hone => ?_, fun hne => ⟨hr0 hne, ?_⟩, ?_⟩
    · rw [FlatArrays.set_of_ne ha, FlatArrays.create_of_ne ha, FlatArrays.free_of_ne ha]
    · rw [FlatArrays.set_self]
      rfl
    · rw [hsize₃]
      exact hfull.1 hone
    · rw [hsize₃]
      exact hfull.2 hne
    · rw [hsize₃]
      exact hlen

omit [Fintype P] in
/-- **`datapacket_get_packet_bytestring`** needs 256 free blocks, and keeps them in `byteString`. -/
theorem getBytestring_spec (hM : M.Lawful Free) (h : Refines Free n.memory f)
    (hpkt : pkt ≠ .byteString) (hdata : f.contents pkt = some data) (junk : ℕ → UInt8)
    (packet : DataPacket) :
    (Config.packetSizeMac ≤ f.available → ∃ m' string,
      n.datapacketGetPacketBytestring M junk pkt packet =
        .ok { n with memory := m', created := n.created ++ [1] } ∧
      string.length = Config.packetSizeMac ∧
      Refines Free m' (withString f Config.packetSizeMac string)) ∧
    (f.available < Config.packetSizeMac →
      n.datapacketGetPacketBytestring M junk pkt packet = .error .indeterminate) := by
  obtain ⟨hroom, hfull⟩ := createString_spec hM h (show 1 ≤ Config.packetSizeMac by decide)
  unfold datapacketGetPacketBytestring
  constructor
  · intro hsize
    obtain ⟨m₁, hcreate, h₁⟩ := hroom hsize
    -- header, then data, then zeros up to the length of a packet
    obtain ⟨m₂, hheader, h₂⟩ := writeString_spec
      (n := { n with memory := m₁, created := n.created ++ [1] }) hM h₁
      (withString_self _) (datapacketHeader packet) 0
    obtain ⟨m₃, copied, hcopy, hcopied, h₃⟩ := copyArray_spec hM hpkt h₂
      (by rw [FlatArrays.set_of_ne hpkt, withString_of_ne hpkt, hdata]) (FlatArrays.set_self _) junk 0 dataStart packet.size.toNat
    rw [FlatArrays.set_set] at h₃
    obtain ⟨m₄, hrest, h₄⟩ := writeString_spec
      (n := { n with memory := m₃, created := n.created ++ [1] }) hM h₃ (FlatArrays.set_self _)
      (List.replicate (Config.packetSizeMac - dataStart - packet.size.toNat) 0)
      (dataStart + packet.size.toNat)
    rw [FlatArrays.set_set] at h₄
    refine ⟨m₄, overwrite copied (dataStart + packet.size.toNat)
      (List.replicate (Config.packetSizeMac - dataStart - packet.size.toNat) 0), ?_, ?_, ?_⟩
    · rw [hcreate, ok_bind, hheader, ok_bind, hcopy, ok_bind]
      exact hrest
    · rw [length_overwrite, hcopied, length_overwrite, List.length_replicate]
    · unfold FlatArrays.set withString at h₄
      rw [Function.update_idem] at h₄
      exact h₄
  · intro hsize
    obtain ⟨n', hcreate, -, -, hnone, -⟩ := hfull hsize
    have hne : datapacketHeader packet ≠ [] := List.cons_ne_nil _ _
    rw [hcreate, ok_bind, writeString_indeterminate hnone hne]
    rfl

end

end RiotNode

end WmnIot
