import WmnIot.Driver.TimeoutTable
import WmnIot.Memory.PacketCalls
import WmnIot.Queues.HandingUp

/-! # The pool over a run

Every block of the pool is either free or in the data of one of the forty packets, as long as no
call leaves its `byteString` behind; and `MAC_internals_destroy` frees them all, as long as no data
are in the second half of the received packets, which it does not clear.

* **`PacketCall`**, **`MacCall`** — the operations of the MAC layer.
* **`RiotNode.clearAll_spec`** — data of packets are freed.
* **`BlocksConserved`**, **`DestroyRefills`** — what should hold between two operations.
* **`blocks_conserved_iff`** — the runs in which they do. -/

namespace WmnIot

open Runs

/-! ## Blocks in packets -/

/-- The blocks in the data of the forty packets. -/
def FlatArrays.held (f : FlatArrays ArrayName) : ℕ :=
  ∑ a ∈ Finset.univ.erase .byteString, f.size a

section

variable {f f' : FlatArrays ArrayName} {pkt : ArrayName} {k : ℕ}

theorem FlatArrays.size_congr {A : Type} {f f' : FlatArrays A} {a : A}
    (h : f'.contents a = f.contents a) : f'.size a = f.size a := by
  unfold size
  rw [h]

/-- Only the data of one packet have changed. -/
theorem FlatArrays.held_of_others (hpkt : pkt ≠ .byteString)
    (h : ∀ a, a ≠ pkt → a ≠ .byteString → f'.contents a = f.contents a) :
    f'.held + f.size pkt = f.held + f'.size pkt := by
  have hmem : pkt ∈ Finset.univ.erase ArrayName.byteString :=
    Finset.mem_erase.mpr ⟨hpkt, Finset.mem_univ _⟩
  have hrest : ∑ a ∈ (Finset.univ.erase ArrayName.byteString).erase pkt, f'.size a =
      ∑ a ∈ (Finset.univ.erase ArrayName.byteString).erase pkt, f.size a := by
    refine Finset.sum_congr rfl fun a ha => size_congr ?_
    obtain ⟨hne, ha⟩ := Finset.mem_erase.mp ha
    exact h a hne (Finset.mem_erase.mp ha).1
  unfold held
  rw [← Finset.sum_erase_add _ f'.size hmem, ← Finset.sum_erase_add _ f.size hmem, hrest]
  omega

/-- Storing data in a packet moves blocks between the pool and the packet. -/
theorem Changed.total (hpkt : pkt ≠ .byteString) (h : Changed f f' pkt k) :
    f'.available + f'.held = f.available + f.held := by
  have hheld := FlatArrays.held_of_others hpkt h.others
  have havailable := h.available
  omega

/-- Lost blocks are neither free nor in a packet. -/
theorem Lost.total (h : Lost f f' k) : f'.available + f'.held + k = f.available + f.held := by
  have hheld : f'.held = f.held :=
    Finset.sum_congr rfl fun a ha => FlatArrays.size_congr (h.others a (Finset.mem_erase.mp ha).1)
  rw [hheld, ← h.available]
  omega

/-- Data that are freed go back to the pool. -/
theorem FlatArrays.total_free (hpkt : pkt ≠ .byteString) (hdata : (f.contents pkt).isSome) :
    (f.free pkt).available + (f.free pkt).held = f.available + f.held := by
  obtain ⟨data, hdata⟩ := Option.isSome_iff_exists.mp hdata
  have hheld := FlatArrays.held_of_others (f := f) hpkt fun a ha _ => FlatArrays.free_of_ne ha
  rw [FlatArrays.size_eq (FlatArrays.free_self hdata)] at hheld
  show f.available + f.size pkt + _ = _
  rw [List.length_nil] at hheld
  omega

end

/-! ## Clearing packets -/

namespace RiotNode

variable {P S : Type} [DecidableEq P] [Fintype P] {M : Memarray P S}
  {Free : Pool P S → Finset P → Prop} {n : RiotNode P S} {f : FlatArrays ArrayName}

/-- **The data of some packets are freed**, and those of the others are as before. -/
theorem clearAll_spec (hM : M.Lawful Free) (pkts : List ArrayName)
    (hpkts : ∀ a ∈ pkts, a ≠ .byteString) (hready : Ready Free n f) :
    ∃ n' f', n.clearAll M pkts = .ok n' ∧ n'.node = n.node ∧ Ready Free n' f' ∧
      (∀ a ∈ pkts, f'.contents a = some []) ∧ (∀ a ∉ pkts, f'.contents a = f.contents a) ∧
      f'.available + f'.held = f.available + f.held := by
  induction pkts generalizing n f with
  | nil => exact ⟨n, f, rfl, rfl, hready, nofun, fun _ _ => rfl, rfl⟩
  | cons pkt pkts ih =>
    have hpkt := hpkts pkt List.mem_cons_self
    obtain ⟨data, hdata⟩ := hready.contents hpkt
    obtain ⟨m₁, hclear, h₁⟩ := clearData_spec hM hready.refines hdata
    -- the packet is empty now, and every other array as it was
    have hready₁ : Ready Free ⟨n.node, m₁, n.created⟩ (f.free pkt) := by
      refine ⟨h₁, fun a ha => ?_⟩
      by_cases hne : a = pkt
      · rw [hne, FlatArrays.free_self hdata]
        rfl
      · rw [FlatArrays.free_of_ne hne]
        exact hready.valued a ha
    obtain ⟨n', f', hrest, hnode, hready', hcleared, hothers, htotal⟩ :=
      ih (fun a ha => hpkts a (List.mem_cons_of_mem _ ha)) hready₁
    refine ⟨n', f', ?_, hnode, hready', fun a ha => ?_, fun a ha => ?_, ?_⟩
    · unfold clearAll
      rw [List.foldlM_cons]
      exact congrArg (· >>= _) (hclear n.node n.created) |>.trans hrest
    · by_cases hmem : a ∈ pkts
      · exact hcleared a hmem
      · obtain rfl : a = pkt := (List.mem_cons.mp ha).resolve_right hmem
        rw [hothers a hmem, FlatArrays.free_self hdata]
    · have hne : a ≠ pkt := fun heq => ha (heq ▸ List.mem_cons_self)
      rw [hothers a fun hmem => ha (List.mem_cons_of_mem _ hmem), FlatArrays.free_of_ne hne]
    · rw [htotal, FlatArrays.total_free hpkt (hready.valued pkt hpkt)]

/-- `FINISHP` clears all packets. -/
theorem mem_finishpPackets (a : ArrayName) : a ∈ finishpPackets ↔ a ≠ .byteString := by
  revert a
  decide +kernel

/-- The others clear all but the second half of the received packets. -/
theorem mem_macInternalsPackets (a : ArrayName) : a ∈ macInternalsPackets ↔
    a ≠ .byteString ∧ ∀ i : Fin (2 * Config.maxNumberDataPackets),
      Config.maxNumberDataPackets ≤ i.val → a ≠ .received i := by
  revert a
  decide +kernel

end RiotNode

/-! ## The operations -/

/-- The operations on data packets. -/
inductive PacketCall
  /-- `mclmac_read_queue_element`, where the message buffer starts out with the contents `buf`. -/
  | read (junk : ℕ → UInt8) (buf : ByteString)
  /-- `mclmac_write_queue_element`. -/
  | write (junk : ℕ → UInt8)
  /-- `mclmac_send_data_packet`. -/
  | sendData (junk : ℕ → UInt8)
  /-- `mclmac_receive_data_packet`, where the radio writes `bytes`. -/
  | receiveData (junk : ℕ → UInt8) (bytes : ByteString)
  /-- Whatever else the node and the other threads do, which is not about the queues of packets. -/
  | between (node : Node)

/-- The operations of the MAC layer that have to do with arrays. -/
inductive MacCall
  | packet (call : PacketCall)
  /-- `mclmac_send_control_packet`. -/
  | sendControl (rand : UInt8)
  /-- `mclmac_receive_ctrlpkt_sync`. -/
  | receiveSync (junk : ℕ → UInt8) (radio : CtrlRadio)
  /-- `mclmac_receive_control_packet`. -/
  | receiveControl (junk : ℕ → UInt8) (radio : CtrlRadio)
  /-- The state `FINISHP`. -/
  | finishp
  /-- `MAC_internals_clear`. -/
  | clear

/-- The bytes in what the radio makes of an attempt. -/
def CtrlRadio.bytes : CtrlRadio → Option ByteString
  | .lost _ => none
  | .heard bytes => some bytes

section

variable {P S : Type} [DecidableEq P] [Fintype P]

/-- The call of an operation on data packets. -/
def PacketCall.exec (M : Memarray P S) : PacketCall → RiotNode P S → Except Fault (RiotNode P S)
  | read junk buf, n => Prod.fst <$> n.mclmacReadQueueElement M junk buf
  | write junk, n => Prod.fst <$> n.mclmacWriteQueueElement M junk
  | sendData junk, n => n.mclmacSendDataPacket M junk
  | receiveData junk bytes, n => n.mclmacReceiveDataPacket M junk bytes
  | between node, n =>
    let mac := n.node.mac
    .ok { n with node :=
      { node with mac.message := mac.message, mac.control := mac.control, mac.received := mac.received } }

/-- The call of an operation. -/
def MacCall.exec (M : Memarray P S) (native : Bool) :
    MacCall → RiotNode P S → Except Fault (RiotNode P S)
  | packet call, n => call.exec M n
  | sendControl rand, n => n.mclmacSendControlPacket M rand
  | receiveSync junk radio, n => Prod.fst <$> n.mclmacReceiveCtrlpktSync M native junk radio
  | receiveControl junk radio, n => Prod.fst <$> n.mclmacReceiveControlPacket M native junk radio
  | finishp, n => n.executeFinishp M
  | clear, n => n.macInternalsClear M

/-- A step of a run: an operation that returns. -/
def macStep (M : Memarray P S) (native : Bool) (call : MacCall) (n : RiotNode P S) :
    Option (RiotNode P S) :=
  (call.exec M native n).toOption

namespace RiotNode

/-- The memory when the program starts: all blocks are free, and the data of the packets empty. -/
structure Initial (Free : Pool P S → Finset P → Prop) (n : RiotNode P S) : Prop where
  blocks : Fintype.card P = Config.maxNumberBlocks
  free : Free n.memory.pool Finset.univ
  packets : ∀ a, a ≠ .byteString → n.memory.arrays a = some {}
  byteString : n.memory.arrays .byteString = none

/-- `data.size` of a packet. -/
def dataSize (n : RiotNode P S) (pkt : ArrayName) : ℕ :=
  ((n.memory.arrays pkt).map ArrayT.size).getD 0

/-- **No block is lost**: the free blocks and those of the data of all packets are
`MAX_NUMBER_BLOCKS`. -/
def BlocksConserved (M : Memarray P S) (n : RiotNode P S) : Prop :=
  M.available n.memory.pool + ∑ a ∈ Finset.univ.erase .byteString, n.dataSize a =
    Config.maxNumberBlocks

/-- **`MAC_internals_destroy`** returns the pool to `MAX_NUMBER_BLOCKS` free blocks. -/
def DestroyRefills (M : Memarray P S) (n : RiotNode P S) : Prop :=
  ∃ n', n.macInternalsDestroy M = .ok n' ∧ M.available n'.memory.pool = Config.maxNumberBlocks

end RiotNode

/-- The call leaves its `byteString` behind: a packet is encoded for a routing queue that is not
full, and `send_message` refuses it; or, without `NATIVE`, no control packet is heard, be it that no
timeout can be set; or, with `NATIVE`, `mclmac_receive_control_packet` hears one. -/
def MacCall.Leaks (M : Memarray P S) (native : Bool) : MacCall → RiotNode P S → Prop
  | packet (.write _), n =>
    n.node.mac.received.numberPacketsReceived ≠ 0 ∧
      elementsOnQueue .riot n.node.selfPid n.node.routingQueueId n.node.queues ≠
        .ok Config.maxElementsOnQueue ∧
      n.node.routingQueueId ≠ 0 ∧
      SelfRefuses .riot n.node.selfPid n.node.routingQueueId n.node.queues
  | receiveSync _ radio, n =>
    Config.packetSizeMac ≤ M.available n.memory.pool ∧ native = false ∧
      ¬ (CanSet n.node n.node.listeningWindow ∧ radio.ctrlpkt ≠ none)
  | receiveControl _ radio, n =>
    Config.packetSizeMac ≤ M.available n.memory.pool ∧
      (if native then radio.bytes ≠ none
        else ¬ (CanSet n.node n.node.listeningWindow ∧ radio.bytes ≠ none))
  | _, _ => False

/-- The call stores data in the second half of the received packets: it receives a packet for an
entry from `MAX_NUMBER_DATA_PACKETS` on, with a size for which there are enough blocks. -/
def MacCall.Overfills (M : Memarray P S) : MacCall → RiotNode P S → Prop
  | packet (.receiveData _ bytes), n =>
    ∃ i : Fin (2 * Config.maxNumberDataPackets),
      i.val = n.node.mac.received.lastReceived.toNat ∧ Config.maxNumberDataPackets ≤ i.val ∧
      1 ≤ (bytes 17).toNat ∧ (bytes 17).toNat + Config.packetSizeMac ≤
        M.available n.memory.pool + n.dataSize (.received i)
  | _, _ => False

/-! ## What holds between two operations -/

/-- No data are in the second half of the received packets. -/
def SecondHalfEmpty (f : FlatArrays ArrayName) : Prop :=
  ∀ i : Fin (2 * Config.maxNumberDataPackets), Config.maxNumberDataPackets ≤ i.val →
    f.size (.received i) = 0

/-- Between two operations all blocks are free or in packets, and none in the second half of the
received ones. -/
def HoldsAll (Free : Pool P S → Finset P → Prop) (n : RiotNode P S) : Prop :=
  ∃ f, Ready Free n f ∧ f.available + f.held = Config.maxNumberBlocks ∧ SecondHalfEmpty f

/-- Of all packets only those in the second half of the received ones can hold blocks. -/
theorem held_eq_zero_iff {f : FlatArrays ArrayName}
    (h : ∀ a ∈ RiotNode.macInternalsPackets, f.contents a = some []) :
    f.held = 0 ↔ SecondHalfEmpty f := by
  unfold FlatArrays.held
  rw [Finset.sum_eq_zero_iff]
  constructor
  · intro hzero i _
    exact hzero _ (Finset.mem_erase.mpr ⟨nofun, Finset.mem_univ _⟩)
  · intro hempty a ha
    by_cases hmem : a ∈ RiotNode.macInternalsPackets
    · rw [FlatArrays.size_eq (h a hmem)]
      rfl
    · -- the packets that are not cleared are those of the second half
      rw [RiotNode.mem_macInternalsPackets] at hmem
      have hsecond : ¬ ∀ i : Fin (2 * Config.maxNumberDataPackets),
          Config.maxNumberDataPackets ≤ i.val → a ≠ .received i :=
        fun hother => hmem ⟨(Finset.mem_erase.mp ha).1, hother⟩
      push Not at hsecond
      obtain ⟨i, hi, rfl⟩ := hsecond
      exact hempty i hi

namespace RiotNode

variable {M : Memarray P S} {Free : Pool P S → Finset P → Prop} {n : RiotNode P S}
  {f : FlatArrays ArrayName}

theorem dataSize_eq (hM : M.Lawful Free) (hready : Ready Free n f) (pkt : ArrayName) :
    n.dataSize pkt = f.size pkt := by
  have hsize := (hready.refines.actsAsFlat hM).size pkt
  unfold dataSize FlatArrays.size
  rw [hsize]
  cases f.contents pkt <;> rfl

theorem blocksConserved_iff (hM : M.Lawful Free) (hready : Ready Free n f) :
    n.BlocksConserved M ↔ f.available + f.held = Config.maxNumberBlocks := by
  unfold BlocksConserved FlatArrays.held
  rw [hready.refines.available hM, Finset.sum_congr rfl fun a _ => dataSize_eq hM hready a]

/-- `MAC_internals_destroy` frees everything but the second half of the received packets. -/
theorem destroyRefills_iff (hM : M.Lawful Free) (hready : Ready Free n f)
    (htotal : f.available + f.held = Config.maxNumberBlocks) :
    n.DestroyRefills M ↔ SecondHalfEmpty f := by
  have hready₁ : Ready Free { n with
      node.mac := { clearPackets n.node.mac with ctrlpkt := {}, ctrlpktRecv := {} } } f :=
    ⟨hready.refines, hready.valued⟩
  obtain ⟨n', f', hdestroy, -, hready', hcleared, hothers, htotal'⟩ := clearAll_spec hM
    macInternalsPackets (fun a ha => ((mem_macInternalsPackets a).mp ha).1) hready₁
  have hsame : SecondHalfEmpty f' ↔ SecondHalfEmpty f := by
    refine forall₂_congr fun i hi => ?_
    rw [FlatArrays.size_congr (hothers _ ?_)]
    exact fun hmem => ((mem_macInternalsPackets _).mp hmem).2 i hi rfl
  rw [← hsame, ← held_eq_zero_iff hcleared]
  unfold DestroyRefills macInternalsDestroy
  dsimp only
  rw [hdestroy]
  constructor
  · rintro ⟨_, ⟨⟩, havailable⟩
    rw [hready'.refines.available hM] at havailable
    omega
  · intro hzero
    refine ⟨n', rfl, ?_⟩
    rw [hready'.refines.available hM]
    omega

omit [DecidableEq P] in
/-- When the program starts, all blocks are free. -/
theorem Initial.holdsAll (h : n.Initial Free) : HoldsAll Free n := by
  have harrays : ∀ a value, n.memory.arrays a = some value → value = {} := by
    intro a value hvalue
    by_cases ha : a = .byteString
    · rw [ha, h.byteString] at hvalue
      cases hvalue
    · rw [h.packets a ha] at hvalue
      exact (Option.some.inj hvalue).symm
  have hnil : ∀ a, a ≠ .byteString →
      (noArrays Finset.univ n.memory.arrays : FlatArrays ArrayName).contents a = some [] :=
    fun a ha => congrArg (Option.map fun _ => []) (h.packets a ha)
  have hsize : ∀ a, a ≠ .byteString →
      (noArrays Finset.univ n.memory.arrays : FlatArrays ArrayName).size a = 0 :=
    fun a ha => FlatArrays.size_eq (hnil a ha)
  refine ⟨noArrays Finset.univ n.memory.arrays, ⟨refines_noArrays h.free harrays, ?_⟩, ?_, ?_⟩
  · intro a ha
    rw [hnil a ha]
    rfl
  · have hheld : (noArrays Finset.univ n.memory.arrays : FlatArrays ArrayName).held = 0 :=
      Finset.sum_eq_zero fun a ha => hsize a (Finset.mem_erase.mp ha).1
    rw [hheld]
    exact h.blocks
  · exact fun i _ => hsize _ nofun

theorem Initial.available (h : n.Initial Free) (hM : M.Lawful Free) (hready : Ready Free n f) :
    f.available = Config.maxNumberBlocks := by
  rw [← hready.refines.available hM, hM.available h.free]
  exact h.blocks

end RiotNode

/-! ## One operation -/

/-- What an operation makes of the pool: it loses blocks if it leaks, and the second half of the
received packets is still empty unless it overfills. -/
def Settles (Free : Pool P S → Finset P → Prop) (f : FlatArrays ArrayName) (leaks overfills : Prop)
    (n' : RiotNode P S) : Prop :=
  ∃ f' lost, Ready Free n' f' ∧ f'.available + f'.held + lost = f.available + f.held ∧
    (lost = 0 ↔ ¬ leaks) ∧ (SecondHalfEmpty f' ↔ ¬ overfills)

section

variable {Free : Pool P S → Finset P → Prop} {n n' : RiotNode P S} {f f' : FlatArrays ArrayName}
  {leaks overfills : Prop} {pkt : ArrayName} {k : ℕ}

omit [DecidableEq P] [Fintype P] in
theorem Settles.same (hempty : SecondHalfEmpty f) (hready : Ready Free n' f) (hleaks : ¬ leaks)
    (hoverfills : ¬ overfills) : Settles Free f leaks overfills n' :=
  ⟨f, 0, hready, Nat.add_zero _, iff_of_true rfl hleaks, iff_of_true hempty hoverfills⟩

omit [DecidableEq P] [Fintype P] in
/-- The packets are as before. -/
theorem Settles.lost (hempty : SecondHalfEmpty f) (hready : Ready Free n f) (hlost : Lost f f' k)
    (hrefines : Refines Free n'.memory f') (hleaks : k = 0 ↔ ¬ leaks) (hoverfills : ¬ overfills) :
    Settles Free f leaks overfills n' := by
  refine ⟨f', k, hready.lost hlost hrefines, hlost.total, hleaks, iff_of_true ?_ hoverfills⟩
  intro i hi
  rw [FlatArrays.size_congr (hlost.others (.received i) nofun)]
  exact hempty i hi

/-- The second half of the received packets is as empty as the packet that was changed. -/
theorem Changed.secondHalfEmpty (hempty : SecondHalfEmpty f) (hchanged : Changed f f' pkt k) :
    SecondHalfEmpty f' ↔ ∀ i : Fin (2 * Config.maxNumberDataPackets),
      Config.maxNumberDataPackets ≤ i.val → pkt = .received i → k = 0 := by
  constructor
  · rintro h i hi rfl
    rw [← hchanged.size]
    exact h i hi
  · intro h i hi
    by_cases hpkt : pkt = .received i
    · rw [← hpkt, hchanged.size]
      exact h i hi hpkt
    · rw [FlatArrays.size_congr (hchanged.others (.received i) (Ne.symm hpkt) nofun)]
      exact hempty i hi

omit [DecidableEq P] [Fintype P] in
/-- The data of one packet are new. -/
theorem Settles.changed (hempty : SecondHalfEmpty f) (hready : Ready Free n f)
    (hpkt : pkt ≠ .byteString) (hchanged : Changed f f' pkt k) (hrefines : Refines Free n'.memory f')
    (hleaks : ¬ leaks) (hoverfills : (∀ i : Fin (2 * Config.maxNumberDataPackets),
      Config.maxNumberDataPackets ≤ i.val → pkt = .received i → k = 0) ↔ ¬ overfills) :
    Settles Free f leaks overfills n' := by
  refine ⟨f', 0, hready.changed hchanged hrefines,
    (Nat.add_zero _).trans (hchanged.total hpkt), iff_of_true rfl hleaks, ?_⟩
  rw [hchanged.secondHalfEmpty hempty, hoverfills]

end

namespace RiotNode

variable {M : Memarray P S} {Free : Pool P S → Finset P → Prop} {n n' : RiotNode P S}
  {f : FlatArrays ArrayName} {ret : ℕ}

theorem messageEntry_ne {msg : ByteString} {m : MACInternals} {pkt : ArrayName}
    (h : pkt ∈ messageEntry msg m) :
    pkt ≠ .byteString ∧ ∀ i, pkt ≠ .received i := by
  unfold messageEntry at h
  split at h
  · split at h
    · obtain rfl := Option.some.inj h
      exact ⟨nofun, nofun⟩
    · cases h
  · split at h
    · split at h
      · obtain rfl := Option.some.inj h
        exact ⟨nofun, nofun⟩
      · cases h
    · cases h

/-- **`mclmac_read_queue_element`** keeps the pool. -/
theorem settles_read (hM : M.Lawful Free) (hready : Ready Free n f) (hempty : SecondHalfEmpty f)
    {junk : ℕ → UInt8} {buf : ByteString} (h : n.mclmacReadQueueElement M junk buf = .ok (n', ret)) :
    Settles Free f False False n' := by
  unfold mclmacReadQueueElement at h
  obtain ⟨taken, -, h⟩ := bind_eq_ok.mp h
  cases taken with
  | none =>
    obtain ⟨rfl, -⟩ := Prod.mk.inj (Except.ok.inj h)
    exact .same hempty hready id id
  | some r =>
    have hready₁ : Ready Free { n with node.queues := r.queues } f := ⟨hready.refines, hready.valued⟩
    obtain ⟨hfull, hroom⟩ := storeMessage_spec hM hready₁ junk r.msg
    dsimp only at h
    -- with too few blocks for the string the read does not return
    by_cases hsize : Config.maxMessageSize ≤ f.available
    · obtain ⟨hsome, hnone⟩ := hroom hsize
      cases hentry : messageEntry r.msg n.node.mac with
      | some pkt =>
        obtain ⟨n₁, hstore, f', r', -, hrefines, -, hchanged, -⟩ := hsome pkt hentry
        obtain ⟨rfl, -⟩ := Prod.mk.inj (Except.ok.inj (hstore.symm.trans h))
        obtain ⟨hpkt, hother⟩ := messageEntry_ne hentry
        exact .changed hempty hready₁ hpkt hchanged hrefines id
          (iff_of_true (fun i _ heq => absurd heq (hother i)) id)
      | none =>
        rcases hnone hentry with hhalts | ⟨n₁, hstore, f', -, hrefines, hlost, -⟩
        · cases hhalts.symm.trans h
        · obtain ⟨rfl, -⟩ := Prod.mk.inj (Except.ok.inj (hstore.symm.trans h))
          exact .lost hempty hready₁ hlost hrefines (iff_of_true rfl id) id
    · cases (hfull (not_le.mp hsize)).symm.trans h

theorem sentEntry_ne {m : MACInternals} {pkt : ArrayName} (h : pkt ∈ sentEntry m) :
    pkt ≠ .byteString := by
  unfold sentEntry at h
  rintro rfl
  split_ifs at h <;> cases h

/-- **`mclmac_send_data_packet`** keeps the pool. -/
theorem settles_sendData (hM : M.Lawful Free) (hready : Ready Free n f) (hempty : SecondHalfEmpty f)
    {junk : ℕ → UInt8} (h : n.mclmacSendDataPacket M junk = .ok n') :
    Settles Free f False False n' := by
  obtain ⟨hsome, hnone⟩ := sendDataPacket_spec hM hready junk
  cases hentry : sentEntry n.node.mac with
  | none =>
    rcases hnone hentry with hsame | hhalts
    · obtain rfl := Except.ok.inj (hsame.symm.trans h)
      exact .same hempty hready id id
    · cases hhalts.symm.trans h
  | some pkt =>
    obtain ⟨hfull, hroom⟩ := hsome pkt hentry
    by_cases hsize : Config.packetSizeMac ≤ f.available
    · obtain ⟨n₁, hsend, f', -, hrefines, hchanged, -⟩ := hroom hsize
      obtain rfl := Except.ok.inj (hsend.symm.trans h)
      exact .changed hempty hready (sentEntry_ne hentry) hchanged hrefines id
        (iff_of_true (fun _ _ _ => rfl) id)
    · cases (hfull (not_le.mp hsize)).symm.trans h

theorem receivedEntry_ne {m : MACInternals} {pkt : ArrayName} (h : pkt ∈ receivedEntry m) :
    pkt ≠ .byteString := by
  unfold receivedEntry at h
  rintro rfl
  split_ifs at h <;> cases h

/-- **`mclmac_receive_data_packet`** keeps the pool. -/
theorem settles_receiveData (hM : M.Lawful Free) (hready : Ready Free n f)
    (hempty : SecondHalfEmpty f) {junk : ℕ → UInt8} {bytes : ByteString}
    (h : n.mclmacReceiveDataPacket M junk bytes = .ok n') :
    Settles Free f False ((MacCall.packet (.receiveData junk bytes)).Overfills M n) n' := by
  obtain ⟨hfull, hroom⟩ := receiveDataPacket_spec hM hready junk bytes
  by_cases hsize : Config.packetSizeMac ≤ f.available
  · obtain ⟨hsome, hnone⟩ := hroom hsize
    unfold receivedEntry at hsome hnone
    by_cases hlast : n.node.mac.received.lastReceived.toNat < 2 * Config.maxNumberDataPackets
    · rw [dif_pos hlast] at hsome
      obtain ⟨n₁, hreceive, f', r, -, hrefines, hr, hchanged, -⟩ := hsome _ rfl
      obtain rfl := Except.ok.inj (hreceive.symm.trans h)
      refine .changed hempty hready (by nofun) hchanged hrefines id ?_
      rw [← not_iff_not, not_not]
      simp only [not_forall, MacCall.Overfills, hready.refines.available hM,
        dataSize_eq hM hready]
      constructor
      · rintro ⟨i, hi, heq, hne⟩
        obtain rfl := ArrayName.received.inj heq
        have hone : r = 1 := by
          by_contra hr1
          exact hne (if_neg hr1)
        exact ⟨_, rfl, hi, hr.mp hone⟩
      · rintro ⟨i, hi, hsecond, hpos, hblocks⟩
        obtain rfl : i = ⟨n.node.mac.received.lastReceived.toNat, hlast⟩ := Fin.ext hi
        refine ⟨_, hsecond, rfl, ?_⟩
        rw [if_pos (hr.mpr ⟨hpos, hblocks⟩)]
        omega
    · rw [dif_neg hlast] at hnone
      cases (hnone rfl).symm.trans h
  · cases (hfull (not_le.mp hsize)).symm.trans h

/-- There is a packet to encode. -/
theorem firstReceived_ok {n : Node} {o : Option (Fin (2 * Config.maxNumberDataPackets))}
    (h : firstReceived n = .ok o) : o.isSome ↔ n.mac.received.numberPacketsReceived ≠ 0 ∧
      elementsOnQueue .riot n.selfPid n.routingQueueId n.queues ≠ .ok Config.maxElementsOnQueue ∧
      n.routingQueueId ≠ 0 := by
  unfold firstReceived at h
  dsimp only at h
  by_cases hnumber : n.mac.received.numberPacketsReceived = 0
  · rw [if_pos hnumber] at h
    obtain rfl := Except.ok.inj h
    exact iff_of_false Bool.false_ne_true fun hsome => hsome.1 hnumber
  rw [if_neg hnumber, if_neg fun hboth => hnumber hboth.2] at h
  obtain ⟨elements, helements, h⟩ := bind_eq_ok.mp h
  rw [helements]
  by_cases hfull : elements = Config.maxElementsOnQueue
  · rw [if_pos hfull] at h
    obtain rfl := Except.ok.inj h
    exact iff_of_false Bool.false_ne_true fun hsome => hsome.2.1 (congrArg _ hfull)
  rw [if_neg hfull] at h
  by_cases hid : n.routingQueueId = 0
  · rw [if_pos hid] at h
    obtain rfl := Except.ok.inj h
    exact iff_of_false Bool.false_ne_true fun hsome => hsome.2.2 hid
  rw [if_neg hid] at h
  split at h
  · obtain rfl := Except.ok.inj h
    exact iff_of_true rfl ⟨hnumber, fun heq => hfull (Except.ok.inj heq), hid⟩
  · cases h

/-- `send_message` returns 0 exactly if it refuses the packets of the node's own thread. -/
theorem handsUp_zero_iff {n : Node} (h : HandsUp n ret) :
    ret = 0 ↔ SelfRefuses .riot n.selfPid n.routingQueueId n.queues := by
  obtain ⟨string, queues, hsend⟩ := h
  rw [← selfRefuses_iff (b := string)]
  constructor
  · rintro rfl
    rcases sendMessage_ret hsend with ⟨-, rfl⟩ | hone
    · exact hsend
    · cases hone
  · intro hrefused
    exact (Prod.mk.inj (Except.ok.inj (hsend.symm.trans hrefused))).2

/-- **`mclmac_write_queue_element`** loses the blocks of `byteString` when `send_message` refuses
the packet. -/
theorem settles_write (hM : M.Lawful Free) (hready : Ready Free n f) (hempty : SecondHalfEmpty f)
    {native : Bool} {junk : ℕ → UInt8} (h : n.mclmacWriteQueueElement M junk = .ok (n', ret)) :
    Settles Free f ((MacCall.packet (.write junk)).Leaks M native n) False n' := by
  unfold mclmacWriteQueueElement at h
  obtain ⟨o, ho, h⟩ := bind_eq_ok.mp h
  have ho : firstReceived n.node = .ok o := by
    cases hfirst : firstReceived n.node with
    | error e =>
      rw [hfirst] at ho
      cases ho
    | ok o' =>
      rw [hfirst] at ho
      rw [Except.ok.inj ho]
  have hsome := firstReceived_ok ho
  cases o with
  | none =>
    obtain ⟨rfl, -⟩ := Prod.mk.inj (Except.ok.inj h)
    refine .same hempty hready (fun hleaks => ?_) id
    exact absurd (hsome.mpr ⟨hleaks.1, hleaks.2.1, hleaks.2.2.1⟩) Bool.false_ne_true
  | some first =>
    obtain ⟨hnumber, helements, hid⟩ := hsome.mp rfl
    obtain ⟨hfull, hroom⟩ := handUp_spec hM hready junk first
    dsimp only at h
    by_cases hsize : Config.packetSizeMac ≤ f.available
    · rcases hroom hsize with ⟨e, hhalts⟩ | ⟨hrefused, n₁, hup, f', -, hrefines, hlost, -⟩ |
        ⟨ret', hne, hup, n₁, hhand, f', -, hrefines, hchanged, -⟩
      · cases hhalts.symm.trans h
      · obtain ⟨rfl, -⟩ := Prod.mk.inj (Except.ok.inj (hup.symm.trans h))
        refine .lost hempty hready hlost hrefines (iff_of_false (by decide) ?_) id
        exact not_not.mpr ⟨hnumber, helements, hid, (handsUp_zero_iff hrefused).mp rfl⟩
      · obtain ⟨rfl, -⟩ := Prod.mk.inj (Except.ok.inj (hhand.symm.trans h))
        refine .changed hempty hready (by nofun) hchanged hrefines (fun hleaks => ?_)
          (iff_of_true (fun _ _ _ => rfl) id)
        exact hne ((handsUp_zero_iff hup).mpr hleaks.2.2.2)
    · cases (hfull (not_le.mp hsize)).symm.trans h

/-- On RIOT something is heard if a timeout can be set for the wait. -/
theorem receiveWithin_bytes (native : Bool) (radio : CtrlRadio) (n : Node) :
    (receiveWithin ⟨.riot, native⟩ radio n).2 =
      if CanSet n n.listeningWindow then radio.bytes else none := by
  unfold receiveWithin
  dsimp only
  rcases setTimeout_used ⟨.riot, native⟩ n n.listeningWindow with
    ⟨hid, -, hcan⟩ | ⟨hne, hcan, -, -⟩
  · unfold Node.listeningWindow at hid
    rw [if_pos hid, if_neg hcan]
  · unfold Node.listeningWindow at hne
    rw [if_neg hne, if_pos hcan]
    cases radio with
    | lost timedOut => cases timedOut <;> rfl
    | heard bytes => rfl

/-- A control packet is heard if its bytes are, and they are those of one. -/
theorem receiveCtrlpktSync_eq_none (radio : CtrlRadio) (n : Node) :
    (WmnIot.mclmacReceiveCtrlpktSync ⟨.riot, false⟩ radio n).2 = none ↔
      ¬ (CanSet n n.listeningWindow ∧ radio.ctrlpkt ≠ none) := by
  have hfilter : radio.bytes.filter (fun b => b 0 == 1) = radio.ctrlpkt := by
    cases radio with
    | lost timedOut => rfl
    | heard bytes =>
      unfold CtrlRadio.bytes CtrlRadio.ctrlpkt
      by_cases htype : bytes 0 = 1
      · simp [htype]
      · simp [htype]
  show ((receiveWithin ⟨.riot, false⟩ radio n).2.filter fun b => b 0 == 1) = none ↔ _
  rw [receiveWithin_bytes]
  by_cases hcan : CanSet n n.listeningWindow
  · rw [if_pos hcan, hfilter]
    simp [hcan]
  · rw [if_neg hcan]
    simp [hcan]

/-- A number of lost blocks that is zero. -/
theorem ite_packetSize_eq_zero {p : Prop} [Decidable p] :
    (if p then Config.packetSizeMac else 0) = 0 ↔ ¬ p := by
  by_cases hp : p
  · rw [if_pos hp]
    exact iff_of_false (by decide) (not_not.mpr hp)
  · rw [if_neg hp]
    exact iff_of_true rfl hp

/-- **`mclmac_receive_ctrlpkt_sync`** loses the blocks of `byteString` when it hears no control
packet. -/
theorem settles_receiveSync (hM : M.Lawful Free) (hready : Ready Free n f)
    (hempty : SecondHalfEmpty f) {native : Bool} {junk : ℕ → UInt8} {radio : CtrlRadio}
    {heard : Option ByteString} (h : n.mclmacReceiveCtrlpktSync M native junk radio = .ok (n', heard)) :
    Settles Free f ((MacCall.receiveSync junk radio).Leaks M native n) False n' := by
  obtain ⟨f', hrefines, hlost⟩ := receiveCtrlpktSync_spec hM hready native junk radio h
  refine .lost hempty hready hlost hrefines ?_ id
  rw [ite_packetSize_eq_zero, not_iff_not]
  simp only [MacCall.Leaks]
  rw [hready.refines.available hM]
  cases native with
  | true => simp
  | false =>
    rw [receiveCtrlpktSync_eq_none]
    tauto

/-- With room for `byteString` the call returns. -/
theorem receiveCtrlpktSync_returns (hM : M.Lawful Free) (hready : Ready Free n f)
    (hsize : Config.packetSizeMac ≤ f.available) (junk : ℕ → UInt8) (radio : CtrlRadio) :
    ∃ r, n.mclmacReceiveCtrlpktSync M false junk radio = .ok r := by
  unfold mclmacReceiveCtrlpktSync
  generalize WmnIot.mclmacReceiveCtrlpktSync ⟨.riot, false⟩ radio n.node = result
  obtain ⟨node, heard⟩ := result
  have hready₁ : Ready Free { n with node := node } f := ⟨hready.refines, hready.valued⟩
  obtain ⟨m₁, m₂, m₃, string, f₁, f₂, f₃, c, hcreate, hwrite, hread, hfree, -⟩ :=
    (hearString_spec hM hready₁ junk (heard.getD fun _ => 0)).2 hsize
  simp only [Bool.false_eq_true, if_false]
  rw [hcreate]
  cases heard with
  | none => exact ⟨_, rfl⟩
  | some bytes =>
    rw [Option.getD_some] at hwrite
    simp only [ok_bind, hwrite, hread, hfree]
    exact ⟨_, rfl⟩

/-- **`mclmac_receive_control_packet`** loses the blocks of `byteString` when it hears no packet,
and its stub when it hears one. -/
theorem settles_receiveControl (hM : M.Lawful Free) (hready : Ready Free n f)
    (hempty : SecondHalfEmpty f) {native : Bool} {junk : ℕ → UInt8} {radio : CtrlRadio} {ret : Bool}
    (h : n.mclmacReceiveControlPacket M native junk radio = .ok (n', ret)) :
    Settles Free f ((MacCall.receiveControl junk radio).Leaks M native n) False n' := by
  obtain ⟨f', hrefines, hlost⟩ := receiveControlPacket_spec hM hready native junk radio h
  refine .lost hempty hready hlost hrefines ?_ id
  rw [ite_packetSize_eq_zero, not_iff_not]
  simp only [MacCall.Leaks]
  unfold hearsControl
  rw [hready.refines.available hM, and_comm]
  refine and_congr_right fun _ => ?_
  cases native with
  | true =>
    rw [if_pos rfl, if_pos rfl]
    cases radio with
    | lost timedOut => simp [CtrlRadio.bytes]
    | heard bytes => simp [CtrlRadio.bytes]
  | false =>
    rw [if_neg Bool.false_ne_true, if_neg Bool.false_ne_true, receiveWithin_bytes]
    by_cases hcan : CanSet n.node n.node.listeningWindow
    · rw [if_pos hcan]
      simp [hcan]
    · rw [if_neg hcan]
      simp [hcan]

/-- **`mclmac_send_control_packet`** keeps the pool. -/
theorem settles_sendControl (hM : M.Lawful Free) (hready : Ready Free n f)
    (hempty : SecondHalfEmpty f) {rand : UInt8} (h : n.mclmacSendControlPacket M rand = .ok n') :
    Settles Free f False False n' := by
  obtain ⟨hfull, hroom⟩ := sendControlPacket_spec hM hready rand
  by_cases hsize : Config.packetSizeMac + 1 ≤ f.available
  · obtain ⟨n₁, f', hsend, hrefines, hlost⟩ := hroom hsize
    obtain rfl := Except.ok.inj (hsend.symm.trans h)
    exact .lost hempty hready hlost hrefines (iff_of_true rfl id) id
  · cases (hfull (not_le.mp hsize)).symm.trans h

/-- **Clearing packets** keeps the pool. -/
theorem settles_clearAll (hM : M.Lawful Free) (hready : Ready Free n f) (hempty : SecondHalfEmpty f)
    {pkts : List ArrayName} (hpkts : ∀ a ∈ pkts, a ≠ .byteString) (h : n.clearAll M pkts = .ok n') :
    Settles Free f False False n' := by
  obtain ⟨n₁, f', hclear, -, hready', hcleared, hothers, htotal⟩ := clearAll_spec hM pkts hpkts hready
  obtain rfl := Except.ok.inj (hclear.symm.trans h)
  refine ⟨f', 0, hready', (Nat.add_zero _).trans htotal, iff_of_true rfl id, iff_of_true ?_ id⟩
  intro i hi
  by_cases hmem : ArrayName.received i ∈ pkts
  · rw [FlatArrays.size_eq (hcleared _ hmem)]
    rfl
  · rw [FlatArrays.size_congr (hothers _ hmem)]
    exact hempty i hi

end RiotNode

section

variable {M : Memarray P S} {Free : Pool P S → Finset P → Prop} {n n' : RiotNode P S}
  {f : FlatArrays ArrayName}

/-- **One operation** loses blocks exactly if it leaks, and leaves the second half of the received
packets empty exactly if it does not overfill. -/
theorem MacCall.settles (hM : M.Lawful Free) (hready : Ready Free n f) (hempty : SecondHalfEmpty f)
    {native : Bool} (call : MacCall) (h : call.exec M native n = .ok n') :
    Settles Free f (call.Leaks M native n) (call.Overfills M n) n' := by
  cases call with
  | packet call =>
    cases call with
    | read junk buf =>
      obtain ⟨r, hread, rfl⟩ := map_eq_ok.mp h
      exact RiotNode.settles_read hM hready hempty hread
    | write junk =>
      obtain ⟨r, hwrite, rfl⟩ := map_eq_ok.mp h
      exact RiotNode.settles_write hM hready hempty hwrite
    | sendData junk => exact RiotNode.settles_sendData hM hready hempty h
    | receiveData junk bytes => exact RiotNode.settles_receiveData hM hready hempty h
    | between node =>
      obtain rfl := Except.ok.inj h
      exact .same hempty ⟨hready.refines, hready.valued⟩ id id
  | sendControl rand => exact RiotNode.settles_sendControl hM hready hempty h
  | receiveSync junk radio =>
    obtain ⟨r, hreceive, rfl⟩ := map_eq_ok.mp h
    exact RiotNode.settles_receiveSync hM hready hempty hreceive
  | receiveControl junk radio =>
    obtain ⟨r, hreceive, rfl⟩ := map_eq_ok.mp h
    exact RiotNode.settles_receiveControl hM hready hempty hreceive
  | finishp =>
    have hready₁ : Ready Free { n with node := executeFinishp n.node } f :=
      ⟨hready.refines, hready.valued⟩
    exact RiotNode.settles_clearAll hM hready₁ hempty
      (fun a ha => (RiotNode.mem_finishpPackets a).mp ha) h
  | clear =>
    refine RiotNode.settles_clearAll hM ?_ hempty
      (fun a ha => ((RiotNode.mem_macInternalsPackets a).mp ha).1) h
    exact ⟨hready.refines, hready.valued⟩

/-! ## The runs that conserve the pool -/

/-- **The pool is conserved**, and `MAC_internals_destroy` refills it, in every state of a run
exactly if no operation of the run leaves its `byteString` behind or stores data in the second half
of the received packets. -/
theorem blocks_conserved_iff (hM : M.Lawful Free) (hinitial : n.Initial Free) (native : Bool)
    (calls : List MacCall) :
    (∀ x ∈ visited (macStep M native) calls n, x.BlocksConserved M ∧ x.DestroyRefills M) ↔
      ∀ t ∈ taken (macStep M native) calls n,
        ¬ t.1.Leaks M native t.2 ∧ ¬ t.1.Overfills M t.2 := by
  have hprop : ∀ x : RiotNode P S, HoldsAll Free x → x.BlocksConserved M ∧ x.DestroyRefills M := by
    rintro x ⟨f, hready, htotal, hempty⟩
    exact ⟨(RiotNode.blocksConserved_iff hM hready).mpr htotal,
      (RiotNode.destroyRefills_iff hM hready htotal).mpr hempty⟩
  -- an operation that neither leaks nor overfills keeps all blocks accounted for
  have hgood : ∀ (call : MacCall) (x x' : RiotNode P S), HoldsAll Free x →
      macStep M native call x = some x' → ¬ call.Leaks M native x ∧ ¬ call.Overfills M x →
      HoldsAll Free x' := by
    rintro call x x' ⟨f, hready, htotal, hempty⟩ hstep ⟨hleaks, hoverfills⟩
    obtain ⟨f', lost, hready', htotal', hlost, hempty'⟩ :=
      call.settles hM hready hempty (toOption_eq_some.mp hstep)
    have hzero := hlost.mpr hleaks
    exact ⟨f', hready', by omega, hempty'.mpr hoverfills⟩
  -- what is lost once is never free again
  have hbad : ∀ (call : MacCall) (x x' : RiotNode P S), HoldsAll Free x →
      macStep M native call x = some x' → ¬ (¬ call.Leaks M native x ∧ ¬ call.Overfills M x) →
      ¬ (x'.BlocksConserved M ∧ x'.DestroyRefills M) := by
    rintro call x x' ⟨f, hready, htotal, hempty⟩ hstep hbad ⟨hconserved, hrefills⟩
    obtain ⟨f', lost, hready', htotal', hlost, hempty'⟩ :=
      call.settles hM hready hempty (toOption_eq_some.mp hstep)
    rw [RiotNode.blocksConserved_iff hM hready'] at hconserved
    rw [RiotNode.destroyRefills_iff hM hready' hconserved] at hrefills
    exact hbad ⟨hlost.mp (by omega), hempty'.mp hrefills⟩
  exact forall_visited_iff (HoldsAll Free) hprop hgood hbad calls hinitial.holdsAll

end

end

namespace RiotNode

/-- A node that knows how long a slot is, with all blocks on a free list. -/
def initialNode : RiotNode (Fin Config.maxNumberBlocks) (Option (Fin Config.maxNumberBlocks)) where
  node := { mac.frame.slotDuration := Config.slotDuration.toNat }
  memory := {
    pool := initPool Config.maxNumberBlocks
    arrays a := if a = .byteString then none else some {} }

theorem initialNode_initial : initialNode.Initial OnList where
  blocks := Fintype.card_fin _
  free := onList_initPool _
  packets _ ha := if_neg ha
  byteString := rfl

/-- A packet of type 7 with 7 bytes of data. -/
def sevenBytes : ByteString := fun k => if k = 0 ∨ k = 17 then 7 else 0

/-- The reception of a data packet when all blocks are free. -/
theorem blocks_conserved_received : ∃ n,
    macStep freeList false (.packet (.receiveData (fun _ => 0) sevenBytes)) initialNode = some n ∧
      n.BlocksConserved freeList ∧ n.DestroyRefills freeList := by
  obtain ⟨f, hready, -, -⟩ := initialNode_initial.holdsAll
  have hsize : Config.packetSizeMac ≤ f.available := by
    rw [initialNode_initial.available freeList_lawful hready]
    decide
  obtain ⟨n, hreceive, -⟩ := ((receiveDataPacket_spec freeList_lawful hready (fun _ => 0)
    sevenBytes).2 hsize).1 (.received 0) rfl
  have hstep : macStep freeList false (.packet (.receiveData (fun _ => 0) sevenBytes)) initialNode =
      some n := toOption_eq_some.mpr hreceive
  refine ⟨n, hstep, (blocks_conserved_iff freeList_lawful initialNode_initial false
    [.packet (.receiveData (fun _ => 0) sevenBytes)]).mpr ?_ n ?_⟩
  · intro t ht
    simp only [taken, hstep, Option.elim_some, List.mem_singleton] at ht
    subst ht
    refine ⟨id, ?_⟩
    rintro ⟨i, hi, hsecond, -⟩
    rw [hi] at hsecond
    exact absurd hsecond (by decide)
  · simp [visited, hstep]

/-- A control packet that is lost: `mclmac_receive_ctrlpkt_sync` returns false, and 256 blocks are
neither free nor in a packet. -/
theorem blocks_conserved_lost :
    ∃ x ∈ visited (macStep freeList false) [.receiveSync (fun _ => 0) (.lost true)] initialNode,
      ¬ x.BlocksConserved freeList := by
  obtain ⟨f, hready, htotal, hempty⟩ := initialNode_initial.holdsAll
  have havailable := initialNode_initial.available freeList_lawful hready
  have hsize : Config.packetSizeMac ≤ f.available := by
    rw [havailable]
    decide
  obtain ⟨r, hreceive⟩ := receiveCtrlpktSync_returns freeList_lawful hready hsize (fun _ => 0)
    (.lost true)
  have hstep : macStep freeList false (.receiveSync (fun _ => 0) (.lost true)) initialNode =
      some r.1 := toOption_eq_some.mpr (map_eq_ok.mpr ⟨r, hreceive, rfl⟩)
  refine ⟨r.1, by simp [visited, hstep], ?_⟩
  obtain ⟨f', lost, hready', htotal', hlost, -⟩ :=
    MacCall.settles freeList_lawful hready hempty _ (toOption_eq_some.mp hstep)
  have hleaks : lost ≠ 0 := by
    refine fun hzero => hlost.mp hzero ⟨?_, rfl, fun h => h.2 rfl⟩
    rwa [hready.refines.available freeList_lawful]
  rw [blocksConserved_iff freeList_lawful hready']
  omega

end RiotNode

end WmnIot
