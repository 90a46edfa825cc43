import WmnIot.Memory.PacketArrays

/-! # The packet functions and the pool

What each of the packet functions does to the pool: the blocks of `byteString` are there for the
time of the call, and the data of at most one packet change.

* **`Ready`** — the memory between two calls.
* **`Changed`**, **`Kept`**, **`Lost`** — what a call does to the pool.
* **`RiotNode.storeMessage_spec`**, **`RiotNode.handUp_spec`**, … — one lemma for each function. -/

namespace WmnIot

open Chains Runs

/-- The size in the header of a packet. -/
def headerSize (m : MACInternals) : ArrayName → ℕ
  | .message i => (m.message.packets i).size.toNat
  | .control i => (m.control.packets i).size.toNat
  | .received i => (m.received.packetsReceived i).size.toNat
  | .byteString => 0

/-- The packet is stored in an entry, as the last one of its queue. -/
def MACInternals.push (m : MACInternals) (pkt : ArrayName) (packet : DataPacket) : MACInternals :=
  match pkt with
  | .message i => { m with message := RiotNode.pushPacket m.message i packet }
  | .control i => { m with control := RiotNode.pushPacket m.control i packet }
  | .received i => { m with received := RiotNode.pushReceived m.received i packet }
  | .byteString => m

/-- Between two calls the memory holds the arrays `f`, and the data of each packet have a value. -/
structure Ready {P S : Type} (Free : Pool P S → Finset P → Prop) (n : RiotNode P S)
    (f : FlatArrays ArrayName) : Prop where
  refines : Refines Free n.memory f
  valued : ∀ a, a ≠ .byteString → (f.contents a).isSome

/-- The data of the packet are `k` bytes now, those of the others are as before, and no block is
lost. -/
structure Changed (f f' : FlatArrays ArrayName) (pkt : ArrayName) (k : ℕ) : Prop where
  others : ∀ a, a ≠ pkt → a ≠ .byteString → f'.contents a = f.contents a
  valued : (f'.contents pkt).isSome
  size : f'.size pkt = k
  available : f'.available + f'.size pkt = f.available + f.size pkt

/-- The data of all packets are as before, and `k` blocks are lost. -/
structure Lost (f f' : FlatArrays ArrayName) (k : ℕ) : Prop where
  others : ∀ a, a ≠ .byteString → f'.contents a = f.contents a
  available : f'.available + k = f.available

section

variable {P S : Type} {Free : Pool P S → Finset P → Prop} {n n' : RiotNode P S}
  {f f' : FlatArrays ArrayName} {pkt : ArrayName} {k : ℕ}

theorem Ready.changed (h : Ready Free n f) (hchanged : Changed f f' pkt k)
    (hrefines : Refines Free n'.memory f') : Ready Free n' f' where
  refines := hrefines
  valued a ha := by
    by_cases hpkt : a = pkt
    · rw [hpkt]
      exact hchanged.valued
    · rw [hchanged.others a hpkt ha]
      exact h.valued a ha

theorem Ready.lost (h : Ready Free n f) (hlost : Lost f f' k) (hrefines : Refines Free n'.memory f') :
    Ready Free n' f' where
  refines := hrefines
  valued a ha := by
    rw [hlost.others a ha]
    exact h.valued a ha

theorem Ready.contents (h : Ready Free n f) (hpkt : pkt ≠ .byteString) :
    ∃ data, f.contents pkt = some data :=
  Option.isSome_iff_exists.mp (h.valued pkt hpkt)

end

/-- Once `byteString` is freed, as many blocks are free as before it was created. -/
theorem lost_free_withString {f : FlatArrays ArrayName} {size : ℕ} {bytes : List UInt8}
    (hlen : bytes.length = size) (hsize : size ≤ f.available) :
    Lost f ((RiotNode.withString f size bytes).free .byteString) 0 where
  others a ha := by rw [FlatArrays.free_of_ne ha, RiotNode.withString_of_ne ha]
  available := by
    show f.available - size + FlatArrays.size _ _ + 0 = f.available
    rw [FlatArrays.size_eq (RiotNode.withString_self size)]
    omega

/-- As long as `byteString` is not freed, its blocks are lost. -/
theorem lost_withString {f : FlatArrays ArrayName} {size : ℕ} (bytes : List UInt8)
    (hsize : size ≤ f.available) : Lost f (RiotNode.withString f size bytes) size where
  others _ ha := RiotNode.withString_of_ne ha size
  available := Nat.sub_add_cancel hsize

namespace RiotNode

variable {P S : Type} [DecidableEq P] [Fintype P] {M : Memarray P S}
  {Free : Pool P S → Finset P → Prop} {n : RiotNode P S} {f : FlatArrays ArrayName}
  {pkt : ArrayName} {size : ℕ}

omit [Fintype P] in
/-- A local byte string is created and filled, if there are as many free blocks. -/
theorem fillString_spec (hM : M.Lawful Free) (h : Refines Free n.memory f) (hpos : 1 ≤ size)
    (bytes : List UInt8) :
    (size ≤ f.available → ∃ m₁ m₂ string, (n.declare .byteString).createArray M .byteString size =
        .ok { n with memory := m₁, created := n.created ++ [1] } ∧
      writeString bytes 0 { n with memory := m₁, created := n.created ++ [1] } =
        .ok { n with memory := m₂, created := n.created ++ [1] } ∧
      string.length = size ∧ (bytes.length = size → string = bytes) ∧
      Refines Free m₂ (withString f size string)) ∧
    (f.available < size → ∃ n₁, (n.declare .byteString).createArray M .byteString size = .ok n₁ ∧
      ∀ written, written ≠ [] → writeString written 0 n₁ = .error .indeterminate) := by
  obtain ⟨hroom, hfull⟩ := createString_spec hM h hpos
  constructor
  · intro hsize
    obtain ⟨m₁, hcreate, h₁⟩ := hroom hsize
    obtain ⟨m₂, hwrite, h₂⟩ := writeString_spec
      (n := { n with memory := m₁, created := n.created ++ [1] }) hM h₁ (withString_self _) bytes 0
    refine ⟨m₁, m₂, overwrite (List.replicate size 0) 0 bytes, hcreate, hwrite, ?_, fun heq => ?_, ?_⟩
    · rw [length_overwrite, List.length_replicate]
    · exact overwrite_all (by rw [List.length_replicate, heq])
    · unfold FlatArrays.set withString at h₂
      rw [Function.update_idem] at h₂
      exact h₂
  · intro hsize
    obtain ⟨n', hcreate, -, -, hnone, -⟩ := hfull hsize
    exact ⟨n', hcreate, fun _ hne => writeString_indeterminate hnone hne 0⟩

/-- A byte string is decoded into a packet and freed. -/
theorem storeString_spec (hM : M.Lawful Free) (hready : Ready Free n f)
    (hsize : Config.packetSizeMac ≤ f.available) (hpkt : pkt ≠ .byteString) {msg : ByteString}
    {m : Memory ArrayName P S}
    (h : Refines Free m (withString f Config.packetSizeMac (List.ofFn msg))) (junk : ℕ → UInt8)
    (node : Node) (created : List ℕ) :
    ∃ m₁ m₂ r packet f',
      datapacketConstructFromBytestring M junk pkt ⟨node, m, created⟩ =
        .ok (⟨node, m₁, created ++ [r]⟩, packet) ∧
      (∀ node', freeArray M .byteString ⟨node', m₁, created ++ [r]⟩ =
        .ok ⟨node', m₂, created ++ [r]⟩) ∧
      packet.size = msg 17 ∧ Refines Free m₂ f' ∧
      (r = 1 ↔ 1 ≤ (msg 17).toNat ∧
        (msg 17).toNat + Config.packetSizeMac ≤ f.available + f.size pkt) ∧
      Changed f f' pkt (if r = 1 then (msg 17).toNat else 0) := by
  obtain ⟨data, hdata⟩ := hready.contents hpkt
  have hdata₁ : (withString f Config.packetSizeMac (List.ofFn msg)).contents pkt = some data := by
    rw [withString_of_ne hpkt, hdata]
  obtain ⟨m₁, r, packet, f₁, hconstruct, h₁, hpacket, hstored⟩ :=
    construct_spec (n := ⟨node, m, created⟩) hM h (withString_self _) hpkt hdata₁ junk
  have hbyte : (List.ofFn msg).getD 17 (junk 17) = msg 17 := by
    have hlt : 17 < (List.ofFn msg).length := by
      rw [List.length_ofFn]
      decide
    rw [List.getD_eq_getElem _ _ hlt, List.getElem_ofFn]
    rfl
  rw [hbyte] at hpacket
  rw [hpacket] at hstored
  -- decoding leaves `byteString` alone, and freeing it leaves the data alone
  have hstring : f₁.contents .byteString = some (List.ofFn msg) := by
    rw [hstored.others _ hpkt.symm, withString_self]
  obtain ⟨m₂, hfree, h₂⟩ := freeString_spec hM h₁ hstring
  have hsizes : (withString f Config.packetSizeMac (List.ofFn msg)).size pkt = f.size pkt := by
    rw [FlatArrays.size_eq hdata₁, FlatArrays.size_eq hdata]
  have havail : (withString f Config.packetSizeMac (List.ofFn msg)).available + Config.packetSizeMac =
      f.available := Nat.sub_add_cancel hsize
  have hfreed : (f₁.free .byteString).available = f₁.available + Config.packetSizeMac := by
    show f₁.available + f₁.size .byteString = _
    rw [FlatArrays.size_eq hstring, List.length_ofFn]
  have hkept : (f₁.free .byteString).contents pkt = f₁.contents pkt := FlatArrays.free_of_ne hpkt
  have hkeptSize : (f₁.free .byteString).size pkt = f₁.size pkt := by
    unfold FlatArrays.size
    rw [hkept]
  have hresult := hstored.result
  rw [hsizes] at hresult
  refine ⟨m₁, m₂, r, packet, f₁.free .byteString, hconstruct, fun node' => hfree node' _, hpacket, h₂,
    ?_, ?_, ?_, ?_, ?_⟩
  · rw [hresult]
    omega
  · intro a ha hab
    rw [FlatArrays.free_of_ne hab, hstored.others a ha, withString_of_ne hab]
  · rw [hkept]
    exact hstored.valued
  · rw [hkeptSize]
    by_cases hr : r = 1
    · rw [if_pos hr, hstored.room hr]
    · rw [if_neg hr, (hstored.full hr).2]
  · have havailable := hstored.available
    rw [hkeptSize, hfreed]
    omega

/-- A packet is encoded into a byte string, and freed with it. -/
theorem takeString_spec (hM : M.Lawful Free) (hready : Ready Free n f) (hpkt : pkt ≠ .byteString)
    (junk : ℕ → UInt8) (packet : DataPacket) :
    (Config.packetSizeMac ≤ f.available → ∃ m₁ m₂ m₃ string f₁ f',
      n.datapacketGetPacketBytestring M junk pkt packet =
        .ok { n with memory := m₁, created := n.created ++ [1] } ∧
      (∀ node created, readString junk ⟨node, m₁, created⟩ = .ok string) ∧
      (∀ node created, clearData M pkt ⟨node, m₁, created⟩ = .ok ⟨node, m₂, created⟩) ∧
      (∀ node created, freeArray M .byteString ⟨node, m₂, created⟩ = .ok ⟨node, m₃, created⟩) ∧
      Refines Free m₁ f₁ ∧ Lost f f₁ Config.packetSizeMac ∧
      Refines Free m₃ f' ∧ Changed f f' pkt 0) ∧
    (f.available < Config.packetSizeMac →
      n.datapacketGetPacketBytestring M junk pkt packet = .error .indeterminate) := by
  obtain ⟨data, hdata⟩ := hready.contents hpkt
  obtain ⟨hroom, hfull⟩ := getBytestring_spec hM hready.refines hpkt hdata junk packet
  refine ⟨fun hsize => ?_, hfull⟩
  obtain ⟨m₁, string, hget, hlen, h₁⟩ := hroom hsize
  obtain ⟨read, hread⟩ := readString_spec h₁ (withString_self _) junk
  have hdata₁ : (withString f Config.packetSizeMac string).contents pkt = some data := by
    rw [withString_of_ne hpkt, hdata]
  obtain ⟨m₂, hclear, h₂⟩ := clearData_spec hM h₁ hdata₁
  -- the string is freed after the data, so both are counted as free at the end
  have hstring : ((withString f Config.packetSizeMac string).free pkt).contents .byteString =
      some string := by
    rw [FlatArrays.free_of_ne hpkt.symm, withString_self]
  obtain ⟨m₃, hfree, h₃⟩ := freeString_spec hM h₂ hstring
  have hempty : (((withString f Config.packetSizeMac string).free pkt).free .byteString).contents pkt
      = some [] := by
    rw [FlatArrays.free_of_ne hpkt, FlatArrays.free_self hdata₁]
  refine ⟨m₁, m₂, m₃, read, _, _, hget, hread, hclear, hfree, h₁, lost_withString string hsize, h₃,
    ?_, ?_, ?_, ?_⟩
  · intro a ha hab
    rw [FlatArrays.free_of_ne hab, FlatArrays.free_of_ne ha, withString_of_ne hab]
  · rw [hempty]
    rfl
  · rw [FlatArrays.size_eq hempty]
    rfl
  · have hstringSize := FlatArrays.size_eq hstring
    have hdataSize := FlatArrays.size_eq hdata₁
    rw [FlatArrays.size_eq hempty, FlatArrays.size_eq hdata]
    show f.available - Config.packetSizeMac + FlatArrays.size _ pkt +
      FlatArrays.size _ ArrayName.byteString + 0 = _
    rw [hstringSize, hdataSize, hlen]
    omega

/-! ## What a call does -/

/-- A byte string with the size `k` was decoded into the packet: the calls of `create_array` for
`byteString` and for the data returned 1 and `r`. -/
def Stores (Free : Pool P S → Finset P → Prop) (n : RiotNode P S) (f : FlatArrays ArrayName)
    (pkt : ArrayName) (k : ℕ) (n' : RiotNode P S) : Prop :=
  ∃ f' r, n'.created = n.created ++ [1, r] ∧ Refines Free n'.memory f' ∧
    (r = 1 ↔ 1 ≤ k ∧ k + Config.packetSizeMac ≤ f.available + f.size pkt) ∧
    Changed f f' pkt (if r = 1 then k else 0) ∧
    ∃ packet : DataPacket, packet.size.toNat = k ∧ n'.node.mac = n.node.mac.push pkt packet

/-- The packet was encoded and cleared. -/
def Takes (Free : Pool P S → Finset P → Prop) (n : RiotNode P S) (f : FlatArrays ArrayName)
    (pkt : ArrayName) (n' : RiotNode P S) : Prop :=
  ∃ f', n'.created = n.created ++ [1] ∧ Refines Free n'.memory f' ∧ Changed f f' pkt 0 ∧
    headerSize n'.node.mac = Function.update (headerSize n.node.mac) pkt 0

/-- The packets are as before, and `k` blocks are lost. -/
def Loses (Free : Pool P S → Finset P → Prop) (n : RiotNode P S) (f : FlatArrays ArrayName) (k : ℕ)
    (n' : RiotNode P S) : Prop :=
  ∃ f', n'.created = n.created ++ [1] ∧ Refines Free n'.memory f' ∧ Lost f f' k ∧
    headerSize n'.node.mac = headerSize n.node.mac

/-- The entry that a message is decoded into, if it is of a valid type and the entry exists. -/
def messageEntry (msg : ByteString) (m : MACInternals) : Option ArrayName :=
  if 7 ≤ msg 0 ∧ msg 0 < 10 then
    if h : m.message.lastSend.toNat < Config.maxNumberDataPackets then
      some (.message ⟨m.message.lastSend.toNat, h⟩)
    else none
  else if 2 ≤ msg 0 ∧ msg 0 < 7 then
    if h : m.control.lastSend.toNat < Config.maxNumberDataPackets then
      some (.control ⟨m.control.lastSend.toNat, h⟩)
    else none
  else none

theorem headerSize_message (m : MACInternals) (q : SendQueue) (i : Fin Config.maxNumberDataPackets)
    (packet : DataPacket) (hq : q.packets = Function.update m.message.packets i packet) :
    headerSize { m with message := q } =
      Function.update (headerSize m) (.message i) packet.size.toNat := by
  funext a
  by_cases ha : a = .message i
  · subst ha
    simp [headerSize, hq]
  · rw [Function.update_of_ne ha]
    cases a with
    | message j =>
      have hj : j ≠ i := fun heq => ha (congrArg _ heq)
      simp only [headerSize, hq]
      rw [Function.update_of_ne hj]
    | _ => rfl

theorem headerSize_control (m : MACInternals) (q : SendQueue) (i : Fin Config.maxNumberDataPackets)
    (packet : DataPacket) (hq : q.packets = Function.update m.control.packets i packet) :
    headerSize { m with control := q } =
      Function.update (headerSize m) (.control i) packet.size.toNat := by
  funext a
  by_cases ha : a = .control i
  · subst ha
    simp [headerSize, hq]
  · rw [Function.update_of_ne ha]
    cases a with
    | control j =>
      have hj : j ≠ i := fun heq => ha (congrArg _ heq)
      simp only [headerSize, hq]
      rw [Function.update_of_ne hj]
    | _ => rfl

theorem headerSize_received (m : MACInternals) (q : ReceivedQueue)
    (i : Fin (2 * Config.maxNumberDataPackets)) (packet : DataPacket)
    (hq : q.packetsReceived = Function.update m.received.packetsReceived i packet) :
    headerSize { m with received := q } =
      Function.update (headerSize m) (.received i) packet.size.toNat := by
  funext a
  by_cases ha : a = .received i
  · subst ha
    simp [headerSize, hq]
  · rw [Function.update_of_ne ha]
    cases a with
    | received j =>
      have hj : j ≠ i := fun heq => ha (congrArg _ heq)
      simp only [headerSize, hq]
      rw [Function.update_of_ne hj]
    | _ => rfl

/-- Storing a packet changes the size in the header of its entry. -/
theorem headerSize_push {pkt : ArrayName} (hpkt : pkt ≠ .byteString) (m : MACInternals)
    (packet : DataPacket) :
    headerSize (m.push pkt packet) = Function.update (headerSize m) pkt packet.size.toNat := by
  cases pkt with
  | message i => exact headerSize_message m _ i packet rfl
  | control i => exact headerSize_control m _ i packet rfl
  | received i => exact headerSize_received m _ i packet rfl
  | byteString => exact absurd rfl hpkt

theorem ofFn_ne_nil (bytes : ByteString) : List.ofFn bytes ≠ [] := by
  rw [Ne, ← List.length_eq_zero_iff, List.length_ofFn]
  decide

/-- The entry that a packet from the radio is decoded into, if it exists. -/
def receivedEntry (m : MACInternals) : Option ArrayName :=
  if h : m.received.lastReceived.toNat < 2 * Config.maxNumberDataPackets then
    some (.received ⟨m.received.lastReceived.toNat, h⟩)
  else none

/-- The entry of the packet that is sent, if there is one and it exists. -/
def sentEntry (m : MACInternals) : Option ArrayName :=
  if m.message.packetsToSend = 0 ∧ m.control.packetsToSend = 0 then none
  else if m.message.firstSend > UInt8.ofNat Config.maxNumberDataPackets then none
  else if m.control.firstSend > UInt8.ofNat Config.maxNumberDataPackets then none
  else if m.control.packetsToSend > 0 then
    if h : m.control.firstSend.toNat < Config.maxNumberDataPackets then
      some (.control ⟨m.control.firstSend.toNat, h⟩)
    else none
  else if m.message.packetsToSend > 0 then
    if h : m.message.firstSend.toNat < Config.maxNumberDataPackets then
      some (.message ⟨m.message.firstSend.toNat, h⟩)
    else none
  else none

/-- `send_message` returns `ret` for a packet of the routing layer. -/
def HandsUp (n : Node) (ret : ℕ) : Prop :=
  ∃ byteString queues, sendMessage .riot n.selfPid n.routingQueueId byteString Config.packetSizeMac
    n.selfPid n.queues = .ok (queues, ret)

/-! ## The functions -/

/-- What is left when a byte string has been decoded and freed, and the packet stored. -/
theorem storeString_stores (hM : M.Lawful Free) (hready : Ready Free n f)
    (hsize : Config.packetSizeMac ≤ f.available) (hpkt : pkt ≠ .byteString) {msg : ByteString}
    {m : Memory ArrayName P S}
    (h : Refines Free m (withString f Config.packetSizeMac (List.ofFn msg))) (junk : ℕ → UInt8) :
    ∃ m₁ m₂ created packet,
      datapacketConstructFromBytestring M junk pkt ⟨n.node, m, n.created ++ [1]⟩ =
        .ok (⟨n.node, m₁, created⟩, packet) ∧
      (∀ node, freeArray M .byteString ⟨node, m₁, created⟩ = .ok ⟨node, m₂, created⟩) ∧
      ∀ node, node.mac = n.node.mac.push pkt packet →
        Stores Free n f pkt (msg 17).toNat ⟨node, m₂, created⟩ := by
  obtain ⟨m₁, m₂, r, packet, f', hconstruct, hfree, hpacket, h₂, hr, hchanged⟩ :=
    storeString_spec hM hready hsize hpkt h junk n.node (n.created ++ [1])
  refine ⟨m₁, m₂, _, packet, hconstruct, hfree, fun node hnode => ?_⟩
  exact ⟨f', r, List.append_assoc _ _ _, h₂, hr, hchanged, packet, congrArg UInt8.toNat hpacket,
    hnode⟩

/-- Decoding a message needs 256 free blocks, and those of its data. -/
theorem storeMessage_spec (hM : M.Lawful Free) (hready : Ready Free n f) (junk : ℕ → UInt8)
    (msg : ByteString) :
    (f.available < Config.maxMessageSize →
      n.storeMessage M junk msg = .error .indeterminate) ∧
    (Config.maxMessageSize ≤ f.available →
      (∀ pkt ∈ messageEntry msg n.node.mac, ∃ n', n.storeMessage M junk msg = .ok (n', 1) ∧
        Stores Free n f pkt (msg 17).toNat n') ∧
      (messageEntry msg n.node.mac = none →
        n.storeMessage M junk msg = .error (.halt .outOfBounds) ∨
        ∃ n', n.storeMessage M junk msg = .ok (n', 0) ∧ Loses Free n f 0 n')) := by
  obtain ⟨hroom, hfull⟩ := fillString_spec hM hready.refines
    (show 1 ≤ Config.maxMessageSize by decide) (List.ofFn msg)
  unfold storeMessage
  constructor
  · intro hsize
    obtain ⟨n₁, hcreate, hwrite⟩ := hfull hsize
    rw [hcreate, ok_bind, hwrite _ (ofFn_ne_nil _)]
    rfl
  · intro hsize
    obtain ⟨m₁, m₂, string, hcreate, hwrite, hlen, hstring, h₂⟩ := hroom hsize
    obtain rfl : string = List.ofFn msg := hstring (List.length_ofFn)
    rw [hcreate, ok_bind, hwrite, ok_bind]
    -- the type of the message names its queue
    unfold messageEntry
    by_cases hmessage : 7 ≤ msg 0 ∧ msg 0 < 10
    · simp only [if_pos hmessage]
      by_cases hlast : n.node.mac.message.lastSend.toNat < Config.maxNumberDataPackets
      · simp only [dif_pos hlast]
        refine ⟨?_, nofun⟩
        rintro pkt ⟨⟩
        have hpkt : ArrayName.message ⟨_, hlast⟩ ≠ .byteString := nofun
        obtain ⟨m₃, m₄, created, packet, hconstruct, hfree, hstores⟩ :=
          storeString_stores hM hready hsize hpkt h₂ junk
        rw [hconstruct]
        simp only [ok_bind, hfree]
        exact ⟨_, rfl, hstores _ rfl⟩
      · simp only [dif_neg hlast]
        exact ⟨nofun, fun _ => .inl rfl⟩
    · simp only [if_neg hmessage]
      by_cases hcontrol : 2 ≤ msg 0 ∧ msg 0 < 7
      · simp only [if_pos hcontrol]
        by_cases hlast : n.node.mac.control.lastSend.toNat < Config.maxNumberDataPackets
        · simp only [dif_pos hlast]
          refine ⟨?_, nofun⟩
          rintro pkt ⟨⟩
          have hpkt : ArrayName.control ⟨_, hlast⟩ ≠ .byteString := nofun
          obtain ⟨m₃, m₄, created, packet, hconstruct, hfree, hstores⟩ :=
            storeString_stores hM hready hsize hpkt h₂ junk
          rw [hconstruct]
          simp only [ok_bind, hfree]
          exact ⟨_, rfl, hstores _ rfl⟩
        · simp only [dif_neg hlast]
          exact ⟨nofun, fun _ => .inl rfl⟩
      · simp only [if_neg hcontrol]
        -- an invalid type: `byteString` is freed and nothing is stored
        refine ⟨nofun, fun _ => .inr ?_⟩
        obtain ⟨m₃, hfree, h₃⟩ := freeString_spec hM h₂ (withString_self _)
        simp only [hfree, ok_bind]
        exact ⟨_, rfl, _, rfl, h₃, lost_free_withString List.length_ofFn hsize, rfl⟩

/-- Receiving a data packet needs 256 free blocks, and those of its data. -/
theorem receiveDataPacket_spec (hM : M.Lawful Free) (hready : Ready Free n f) (junk : ℕ → UInt8)
    (bytes : ByteString) :
    (f.available < Config.packetSizeMac →
      n.mclmacReceiveDataPacket M junk bytes = .error .indeterminate) ∧
    (Config.packetSizeMac ≤ f.available →
      (∀ pkt ∈ receivedEntry n.node.mac, ∃ n', n.mclmacReceiveDataPacket M junk bytes = .ok n' ∧
        Stores Free n f pkt (bytes 17).toNat n') ∧
      (receivedEntry n.node.mac = none →
        n.mclmacReceiveDataPacket M junk bytes = .error (.halt .outOfBounds))) := by
  obtain ⟨hroom, hfull⟩ := fillString_spec hM hready.refines
    (show 1 ≤ Config.packetSizeMac by decide) (List.ofFn bytes)
  unfold mclmacReceiveDataPacket
  constructor
  · intro hsize
    obtain ⟨n₁, hcreate, hwrite⟩ := hfull hsize
    rw [hcreate, ok_bind, hwrite _ (ofFn_ne_nil _)]
    rfl
  · intro hsize
    obtain ⟨m₁, m₂, string, hcreate, hwrite, hlen, hstring, h₂⟩ := hroom hsize
    obtain rfl : string = List.ofFn bytes := hstring (List.length_ofFn)
    rw [hcreate, ok_bind, hwrite, ok_bind]
    unfold receivedEntry
    -- the index may have left the array
    by_cases hlast : n.node.mac.received.lastReceived.toNat < 2 * Config.maxNumberDataPackets
    · simp only [dif_pos hlast]
      refine ⟨?_, nofun⟩
      rintro pkt ⟨⟩
      have hpkt : ArrayName.received ⟨_, hlast⟩ ≠ .byteString := nofun
      obtain ⟨m₃, m₄, created, packet, hconstruct, hfree, hstores⟩ :=
        storeString_stores hM hready hsize hpkt h₂ junk
      rw [hconstruct]
      simp only [ok_bind, hfree]
      exact ⟨_, rfl, hstores _ rfl⟩
    · simp only [dif_neg hlast]
      exact ⟨nofun, fun _ => rfl⟩

/-- Handing a packet up needs 256 free blocks, and loses them when `send_message` returns 0. -/
theorem handUp_spec (hM : M.Lawful Free) (hready : Ready Free n f) (junk : ℕ → UInt8)
    (first : Fin (2 * Config.maxNumberDataPackets)) :
    (f.available < Config.packetSizeMac → n.handUp M junk first = .error .indeterminate) ∧
    (Config.packetSizeMac ≤ f.available →
      (∃ h, n.handUp M junk first = .error (.halt h)) ∨
      (HandsUp n.node 0 ∧ ∃ n', n.handUp M junk first = .ok (n', 0) ∧
        Loses Free n f Config.packetSizeMac n') ∨
      ∃ ret, ret ≠ 0 ∧ HandsUp n.node ret ∧ ∃ n', n.handUp M junk first = .ok (n', 1) ∧
        Takes Free n f (.received first) n') := by
  have hpkt : ArrayName.received first ≠ .byteString := nofun
  obtain ⟨hroom, hfull⟩ := takeString_spec hM hready hpkt junk
    (n.node.mac.received.packetsReceived first)
  unfold handUp
  constructor
  · intro hsize
    rw [hfull hsize]
    rfl
  · intro hsize
    obtain ⟨m₁, m₂, m₃, string, f₁, f', hget, hread, hclear, hfree, h₁, hlost, h₃, hchanged⟩ :=
      hroom hsize
    rw [hget]
    simp only [ok_bind, hread]
    cases hsend : sendMessage .riot n.node.selfPid n.node.routingQueueId string Config.packetSizeMac
        n.node.selfPid n.node.queues with
    | error h => exact .inl ⟨h, rfl⟩
    | ok result =>
      obtain ⟨queues, ret⟩ := result
      simp only [halting, ok_bind]
      -- a string that is refused is not freed: its blocks are lost
      by_cases hret : ret = 0
      · simp only [if_pos hret]
        exact .inr (.inl ⟨⟨string, queues, hret ▸ hsend⟩, _, rfl, f₁, rfl, h₁, hlost, rfl⟩)
      · simp only [if_neg hret, hclear, ok_bind, hfree]
        exact .inr (.inr ⟨ret, hret, ⟨string, queues, hsend⟩, _, rfl, f', rfl, h₃, hchanged,
          headerSize_received n.node.mac _ first datapacketClear rfl⟩)

/-- Sending a data packet needs 256 free blocks. -/
theorem sendDataPacket_spec (hM : M.Lawful Free) (hready : Ready Free n f) (junk : ℕ → UInt8) :
    (∀ pkt ∈ sentEntry n.node.mac,
      (f.available < Config.packetSizeMac →
        n.mclmacSendDataPacket M junk = .error .indeterminate) ∧
      (Config.packetSizeMac ≤ f.available → ∃ n', n.mclmacSendDataPacket M junk = .ok n' ∧
        Takes Free n f pkt n')) ∧
    (sentEntry n.node.mac = none → n.mclmacSendDataPacket M junk = .ok n ∨
      n.mclmacSendDataPacket M junk = .error (.halt .outOfBounds)) := by
  unfold mclmacSendDataPacket sentEntry
  dsimp only
  -- the checks of the function are those of `sentEntry`, in the same order
  by_cases hzero : n.node.mac.message.packetsToSend = 0 ∧ n.node.mac.control.packetsToSend = 0
  · rw [if_pos hzero, if_pos hzero]
    exact ⟨nofun, fun _ => .inl rfl⟩
  rw [if_neg hzero, if_neg hzero]
  by_cases hmessage : n.node.mac.message.firstSend > UInt8.ofNat Config.maxNumberDataPackets
  · rw [if_pos hmessage, if_pos hmessage]
    exact ⟨nofun, fun _ => .inl rfl⟩
  rw [if_neg hmessage, if_neg hmessage]
  by_cases hcontrol : n.node.mac.control.firstSend > UInt8.ofNat Config.maxNumberDataPackets
  · rw [if_pos hcontrol, if_pos hcontrol]
    exact ⟨nofun, fun _ => .inl rfl⟩
  rw [if_neg hcontrol, if_neg hcontrol]
  by_cases hsendControl : n.node.mac.control.packetsToSend > 0
  · rw [if_pos hsendControl, if_pos hsendControl]
    by_cases hfirst : n.node.mac.control.firstSend.toNat < Config.maxNumberDataPackets
    · rw [dif_pos hfirst, dif_pos hfirst]
      refine ⟨?_, nofun⟩
      rintro pkt ⟨⟩
      have hpkt : ArrayName.control ⟨_, hfirst⟩ ≠ .byteString := nofun
      obtain ⟨hroom, hfull⟩ := takeString_spec hM hready hpkt junk
        (n.node.mac.control.packets ⟨_, hfirst⟩)
      unfold sendControl
      refine ⟨fun hsize => by rw [hfull hsize]; rfl, fun hsize => ?_⟩
      obtain ⟨m₁, m₂, m₃, string, f₁, f', hget, hread, hclear, hfree, h₁, hlost, h₃, hchanged⟩ :=
        hroom hsize
      rw [hget]
      simp only [ok_bind, hread, hclear, hfree]
      exact ⟨_, rfl, f', rfl, h₃, hchanged, headerSize_control n.node.mac _ _ datapacketClear rfl⟩
    · rw [dif_neg hfirst, dif_neg hfirst]
      exact ⟨nofun, fun _ => .inr rfl⟩
  rw [if_neg hsendControl, if_neg hsendControl]
  by_cases hsendMessage : n.node.mac.message.packetsToSend > 0
  · rw [if_pos hsendMessage, if_pos hsendMessage]
    by_cases hfirst : n.node.mac.message.firstSend.toNat < Config.maxNumberDataPackets
    · rw [dif_pos hfirst, dif_pos hfirst]
      refine ⟨?_, nofun⟩
      rintro pkt ⟨⟩
      have hpkt : ArrayName.message ⟨_, hfirst⟩ ≠ .byteString := nofun
      obtain ⟨hroom, hfull⟩ := takeString_spec hM hready hpkt junk
        (n.node.mac.message.packets ⟨_, hfirst⟩)
      unfold sendMessagePacket
      refine ⟨fun hsize => by rw [hfull hsize]; rfl, fun hsize => ?_⟩
      obtain ⟨m₁, m₂, m₃, string, f₁, f', hget, hread, hclear, hfree, h₁, hlost, h₃, hchanged⟩ :=
        hroom hsize
      rw [hget]
      simp only [ok_bind, hread, hclear, hfree]
      exact ⟨_, rfl, f', rfl, h₃, hchanged, headerSize_message n.node.mac _ _ datapacketClear rfl⟩
    · rw [dif_neg hfirst, dif_neg hfirst]
      exact ⟨nofun, fun _ => .inr rfl⟩
  rw [if_neg hsendMessage, if_neg hsendMessage]
  exact ⟨nofun, fun _ => .inl rfl⟩

/-! ## Control packets -/

/-- Sending a control packet needs 257 free blocks. -/
theorem sendControlPacket_spec (hM : M.Lawful Free) (hready : Ready Free n f) (rand : UInt8) :
    (f.available < Config.packetSizeMac + 1 →
      n.mclmacSendControlPacket M rand = .error .indeterminate) ∧
    (Config.packetSizeMac + 1 ≤ f.available → ∃ n' f', n.mclmacSendControlPacket M rand = .ok n' ∧
      Refines Free n'.memory f' ∧ Lost f f' 0) := by
  obtain ⟨hroom, hfull⟩ := fillString_spec hM hready.refines
    (show 1 ≤ Config.packetSizeMac + 1 by decide)
    (List.ofFn (controlpacketGetPacketBytestring n.node.mac.ctrlpkt rand))
  unfold mclmacSendControlPacket
  constructor
  · intro hsize
    obtain ⟨n₁, hcreate, hwrite⟩ := hfull hsize
    rw [hcreate, ok_bind, hwrite _ (ofFn_ne_nil _)]
    rfl
  · intro hsize
    obtain ⟨m₁, m₂, string, hcreate, hwrite, hlen, -, h₂⟩ := hroom hsize
    rw [hcreate, ok_bind, hwrite, ok_bind]
    obtain ⟨m₃, hfree, h₃⟩ := freeString_spec hM h₂ (withString_self _)
    simp only [hfree]
    exact ⟨_, _, rfl, h₃, lost_free_withString hlen hsize⟩

/-- `byteString` is filled, read and freed. -/
theorem hearString_spec (hM : M.Lawful Free) (hready : Ready Free n f) (junk : ℕ → UInt8)
    (bytes : ByteString) :
    (f.available < Config.packetSizeMac → ∃ n' f',
      (n.declare .byteString).createArray M .byteString Config.packetSizeMac = .ok n' ∧
      n'.node = n.node ∧ Refines Free n'.memory f' ∧ Lost f f' 0 ∧ ∀ node written, written ≠ [] →
        writeString written 0 { n' with node := node } = .error .indeterminate) ∧
    (Config.packetSizeMac ≤ f.available → ∃ m₁ m₂ m₃ string f₁ f₂ f₃ c,
      (n.declare .byteString).createArray M .byteString Config.packetSizeMac =
        .ok { n with memory := m₁, created := c } ∧
      (∀ node, writeString (List.ofFn bytes) 0 ⟨node, m₁, c⟩ = .ok ⟨node, m₂, c⟩) ∧
      (∀ node, readString junk ⟨node, m₂, c⟩ = .ok string) ∧
      (∀ node, freeArray M .byteString ⟨node, m₂, c⟩ = .ok ⟨node, m₃, c⟩) ∧
      Refines Free m₁ f₁ ∧ Lost f f₁ Config.packetSizeMac ∧
      Refines Free m₂ f₂ ∧ Lost f f₂ Config.packetSizeMac ∧ Refines Free m₃ f₃ ∧ Lost f f₃ 0) := by
  obtain ⟨hroom, hfull⟩ := createString_spec hM hready.refines (show 1 ≤ Config.packetSizeMac by decide)
  constructor
  · intro hsize
    -- no string is created, so every byte that is written to it is lost
    obtain ⟨n', hcreate, hnode, -, hnone, h'⟩ := hfull hsize
    refine ⟨n', _, hcreate, hnode, h', ⟨fun a ha => ?_, rfl⟩, fun node _ hne => ?_⟩
    · exact Function.update_of_ne ha _ _
    · exact writeString_indeterminate (n := { n' with node := node }) hnone hne 0
  · intro hsize
    obtain ⟨m₁, hcreate, h₁⟩ := hroom hsize
    obtain ⟨m₂, hwrite, h₂⟩ := writeArray_spec hM h₁ (withString_self _) (List.ofFn bytes) 0
    -- all 256 positions are written, whatever the string held before
    have hset : ∀ string, (withString f Config.packetSizeMac
        (List.replicate Config.packetSizeMac 0)).set .byteString string =
        withString f Config.packetSizeMac string := by
      intro string
      unfold FlatArrays.set withString
      rw [Function.update_idem]
    rw [hset, overwrite_all (by rw [List.length_replicate, List.length_ofFn])] at h₂
    obtain ⟨string, hread⟩ := readString_spec h₂ (withString_self _) junk
    obtain ⟨m₃, hfree, h₃⟩ := freeString_spec hM h₂ (withString_self _)
    refine ⟨m₁, m₂, m₃, string, _, _, _, _, hcreate, fun _ => congrArg (· >>= _) hwrite,
      fun _ => hread _ _, fun _ => hfree _ _, h₁, lost_withString _ hsize, h₂,
      lost_withString _ hsize, h₃, lost_free_withString List.length_ofFn hsize⟩

/-- A lost control packet loses the 256 blocks of `byteString`, if there are as many. -/
theorem receiveCtrlpktSync_spec (hM : M.Lawful Free) (hready : Ready Free n f) (native : Bool)
    (junk : ℕ → UInt8) (radio : CtrlRadio) {n' : RiotNode P S} {heard : Option ByteString}
    (h : n.mclmacReceiveCtrlpktSync M native junk radio = .ok (n', heard)) :
    ∃ f', Refines Free n'.memory f' ∧ Lost f f' (if native = false ∧
      (WmnIot.mclmacReceiveCtrlpktSync ⟨.riot, native⟩ radio n.node).2 = none ∧
      Config.packetSizeMac ≤ f.available then Config.packetSizeMac else 0) := by
  unfold mclmacReceiveCtrlpktSync at h
  generalize WmnIot.mclmacReceiveCtrlpktSync ⟨.riot, native⟩ radio n.node = result at h ⊢
  obtain ⟨node, radioHeard⟩ := result
  cases native with
  | true =>
    obtain ⟨rfl, rfl⟩ := Prod.mk.inj (Except.ok.inj h)
    refine ⟨f, hready.refines, ?_⟩
    rw [if_neg (by simp)]
    exact ⟨fun _ _ => rfl, rfl⟩
  | false =>
    simp only [Bool.false_eq_true, if_false] at h
    have hready₁ : Ready Free { n with node := node } f := ⟨hready.refines, hready.valued⟩
    obtain ⟨hfull, hroom⟩ :=
      hearString_spec hM hready₁ junk (radioHeard.getD fun _ => 0)
    by_cases hsize : Config.packetSizeMac ≤ f.available
    · obtain ⟨m₁, m₂, m₃, string, f₁, f₂, f₃, c, hcreate, hwrite, hread, hfree, h₁, hlost₁, h₂, hlost₂,
        h₃, hlost₃⟩ := hroom hsize
      rw [hcreate] at h
      cases radioHeard with
      | none =>
        -- the function returns with `byteString` created and not freed
        obtain ⟨rfl, rfl⟩ := Prod.mk.inj (Except.ok.inj h)
        rw [if_pos ⟨rfl, rfl, hsize⟩]
        exact ⟨f₁, h₁, hlost₁⟩
      | some bytes =>
        rw [Option.getD_some] at hwrite
        simp only [ok_bind, hwrite, hread, hfree] at h
        obtain ⟨rfl, rfl⟩ := Prod.mk.inj (Except.ok.inj h)
        rw [if_neg (by simp)]
        exact ⟨f₃, h₃, hlost₃⟩
    · obtain ⟨n₁, f₁, hcreate, -, h₁, hlost₁, hwrite⟩ := hfull (not_le.mp hsize)
      rw [hcreate] at h
      cases radioHeard with
      | none =>
        obtain ⟨rfl, rfl⟩ := Prod.mk.inj (Except.ok.inj h)
        rw [if_neg fun hlost => hsize hlost.2.2]
        exact ⟨f₁, h₁, hlost₁⟩
      | some bytes =>
        have hwrite := hwrite n₁.node _ (ofFn_ne_nil bytes)
        simp only [ok_bind, hwrite, error_bind] at h
        cases h

/-- A control packet is heard, by the stub of a `NATIVE` build or by the radio. -/
def hearsControl (native : Bool) (radio : CtrlRadio) (n : Node) : Bool :=
  if native then
    match radio with
    | .lost _ => false
    | .heard _ => true
  else (receiveWithin ⟨.riot, native⟩ radio n).2.isSome

/-- The 256 blocks of `byteString`, if there are as many, are lost in a `NATIVE` build when a control
packet is heard, and in others when none is. -/
theorem receiveControlPacket_spec (hM : M.Lawful Free) (hready : Ready Free n f) (native : Bool)
    (junk : ℕ → UInt8) (radio : CtrlRadio) {n' : RiotNode P S} {ret : Bool}
    (h : n.mclmacReceiveControlPacket M native junk radio = .ok (n', ret)) :
    ∃ f', Refines Free n'.memory f' ∧ Lost f f' (if hearsControl native radio n.node = native ∧
      Config.packetSizeMac ≤ f.available then Config.packetSizeMac else 0) := by
  unfold mclmacReceiveControlPacket at h
  cases native with
  | true =>
    simp only [if_true] at h
    cases radio with
    | lost timedOut =>
      obtain ⟨rfl, rfl⟩ := Prod.mk.inj (Except.ok.inj h)
      refine ⟨f, hready.refines, ?_⟩
      rw [if_neg (by simp [hearsControl])]
      exact ⟨fun _ _ => rfl, rfl⟩
    | heard bytes =>
      obtain ⟨hfull, hroom⟩ := hearString_spec hM hready junk bytes
      by_cases hsize : Config.packetSizeMac ≤ f.available
      · -- the stub writes and reads `byteString`, and does not free it
        obtain ⟨m₁, m₂, m₃, string, f₁, f₂, f₃, c, hcreate, hwrite, hread, hfree, h₁, hlost₁, h₂,
          hlost₂, h₃, hlost₃⟩ := hroom hsize
        simp only [hcreate, ok_bind, hwrite, hread] at h
        obtain ⟨rfl, rfl⟩ := Prod.mk.inj (Except.ok.inj h)
        rw [if_pos ⟨rfl, hsize⟩]
        exact ⟨f₂, h₂, hlost₂⟩
      · obtain ⟨n₁, f₁, hcreate, -, h₁, hlost₁, hwrite⟩ := hfull (not_le.mp hsize)
        have hwrite := hwrite n₁.node _ (ofFn_ne_nil bytes)
        simp only [hcreate, ok_bind, hwrite, error_bind] at h
        cases h
  | false =>
    simp only [Bool.false_eq_true, if_false] at h
    unfold hearsControl
    rw [if_neg Bool.false_ne_true]
    obtain ⟨hfull, hroom⟩ := hearString_spec hM hready junk
      ((receiveWithin ⟨.riot, false⟩ radio n.node).2.getD fun _ => 0)
    by_cases hsize : Config.packetSizeMac ≤ f.available
    · obtain ⟨m₁, m₂, m₃, string, f₁, f₂, f₃, c, hcreate, hwrite, hread, hfree, h₁, hlost₁, h₂, hlost₂,
        h₃, hlost₃⟩ := hroom hsize
      rw [hcreate] at h
      simp only [ok_bind] at h
      cases hheard : (receiveWithin ⟨.riot, false⟩ radio n.node).2 with
      | none =>
        -- nothing is heard in time, and `byteString` is not freed
        simp only [hheard] at h
        obtain ⟨rfl, rfl⟩ := Prod.mk.inj (Except.ok.inj h)
        rw [if_pos ⟨rfl, hsize⟩]
        exact ⟨f₁, h₁, hlost₁⟩
      | some bytes =>
        rw [hheard, Option.getD_some] at hwrite
        simp only [hheard, ok_bind, hwrite, hread, hfree] at h
        obtain ⟨rfl, rfl⟩ := Prod.mk.inj (Except.ok.inj h)
        rw [if_neg (by simp)]
        exact ⟨f₃, h₃, hlost₃⟩
    · obtain ⟨n₁, f₁, hcreate, hnode, h₁, hlost₁, hwrite⟩ := hfull (not_le.mp hsize)
      rw [hcreate] at h
      simp only [ok_bind] at h
      rw [hnode] at h
      cases hheard : (receiveWithin ⟨.riot, false⟩ radio n.node).2 with
      | none =>
        simp only [hheard] at h
        obtain ⟨rfl, rfl⟩ := Prod.mk.inj (Except.ok.inj h)
        rw [if_neg fun hlost => hsize hlost.2]
        exact ⟨f₁, h₁, hlost₁⟩
      | some bytes =>
        have hwrite := fun node => hwrite node _ (ofFn_ne_nil bytes)
        simp only [hheard, hwrite, error_bind] at h
        cases h

end RiotNode

end WmnIot
