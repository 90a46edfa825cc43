import WmnIot.Memory.Conservation

/-! # The size of the pool

No caller looks at the result of `create_array`. Between two operations the blocks that are not free
are those of the data of the forty packets, as many for each as its size byte says, and an operation
needs 256 more for its byte string. The pool is large enough as long as no size byte is zero and those
of the packets add up to at most `MAX_NUMBER_BLOCKS` less 256; nothing bounds the size that a packet
from outside names.

* **`CreatesAll`** — no call of `create_array` in an operation fails, and each packet has as many
  bytes as its header says.
* **`queuedBytes`**, **`PacketCall.SizesFit`** — the size bytes of the packets, and whether they fit.
* **`creates_all_iff`** — the runs in which no call of `create_array` fails.
* **`creates_all_of_sizes`** — none fails if every size byte is at most 249. -/

namespace WmnIot

open Runs

variable {P S : Type} [DecidableEq P] [Fintype P]

/-- A step of a run: an operation on data packets that returns. -/
def packetStep (M : Memarray P S) (call : PacketCall) (n : RiotNode P S) : Option (RiotNode P S) :=
  (call.exec M n).toOption

/-- Each packet has as many bytes of data as its header says. -/
def RiotNode.SizesMatch (n : RiotNode P S) : Prop :=
  ∀ a, a ≠ .byteString → n.dataSize a = headerSize n.node.mac a

/-- **No call of `create_array` fails**: the operation does not come to use an array that was not
created, all calls have returned 1 when it returns, and each packet then has as many bytes of data
as its header says. -/
def CreatesAll (M : Memarray P S) (call : PacketCall) (n : RiotNode P S) : Prop :=
  call.exec M n ≠ .error .indeterminate ∧ ∀ n', call.exec M n = .ok n' →
    (∀ r ∈ n'.created.drop n.created.length, r = 1) ∧ n'.SizesMatch

/-! ## Size bytes -/

/-- The size bytes of the forty packets, added up; that of an empty entry is zero. -/
def queuedBytes (m : MACInternals) : ℕ :=
  ∑ a ∈ Finset.univ.erase .byteString, headerSize m a

/-- The entry in which an operation stores a packet, and the size byte of the packet. -/
def PacketCall.stores : PacketCall → Node → Option (ArrayName × ℕ)
  | read _ buf, n =>
    match RiotNode.takeMessage buf n with
    | .ok (some r) => (RiotNode.messageEntry r.msg n.mac).map fun pkt => (pkt, (r.msg 17).toNat)
    | _ => none
  | receiveData _ bytes, n => (RiotNode.receivedEntry n.mac).map fun pkt => (pkt, (bytes 17).toNat)
  | _, _ => none

/-- The size byte of a packet that is stored is not zero, and once the packet has replaced the one in
its entry, the size bytes of the forty packets leave the blocks of a byte string. -/
def StoredFits (m : MACInternals) (stored : Option (ArrayName × ℕ)) : Prop :=
  ∀ s ∈ stored, 1 ≤ s.2 ∧
    queuedBytes m + s.2 + Config.packetSizeMac ≤ Config.maxNumberBlocks + headerSize m s.1

/-- The size byte of the packet that the operation stores fits, if it stores one. -/
def PacketCall.SizesFit (call : PacketCall) (n : Node) : Prop :=
  StoredFits n.mac (call.stores n)

/-- A write hands up the packet it encodes, if it encodes one. -/
def PacketCall.Succeeds : PacketCall → Node → Prop
  | write _, n => ∀ first, RiotNode.firstReceived n = .ok (some first) →
      ¬ SelfRefuses .riot n.selfPid n.routingQueueId n.queues
  | _, _ => True

/-! ## One operation -/

/-- Between two operations each packet has as many bytes of data as its header says. -/
def Sized (Free : Pool P S → Finset P → Prop) (n : RiotNode P S) (f : FlatArrays ArrayName) : Prop :=
  Ready Free n f ∧ ∀ a, a ≠ .byteString → f.size a = headerSize n.node.mac a

/-- Between two operations all blocks are free or in packets, and there are enough for a byte
string. -/
structure Roomy (Free : Pool P S → Finset P → Prop) (n : RiotNode P S) (f : FlatArrays ArrayName) :
    Prop where
  sized : Sized Free n f
  total : f.available + f.held = Config.maxNumberBlocks
  room : Config.packetSizeMac ≤ f.available

/-- What is left to show of an operation that returns: all calls of `create_array` have returned 1,
the sizes match, there is room for the next byte string, and no size byte has grown but that of the
packet that was stored. -/
structure Created (Free : Pool P S → Finset P → Prop) (n : RiotNode P S)
    (stored : Option (ArrayName × ℕ)) (n' : RiotNode P S) : Prop where
  all : ∀ r ∈ n'.created.drop n.created.length, r = 1
  roomy : ∃ f', Roomy Free n' f'
  sizes : ∀ a, headerSize n'.node.mac a ≤ headerSize n.node.mac a ∨
    ∃ s ∈ stored, headerSize n'.node.mac a = s.2

section

variable {M : Memarray P S} {Free : Pool P S → Finset P → Prop} {n n' : RiotNode P S}
  {f f' : FlatArrays ArrayName} {pkt : ArrayName} {k : ℕ}

theorem Sized.sizesMatch (hM : M.Lawful Free) (h : Sized Free n f) : n.SizesMatch :=
  fun a ha => (RiotNode.dataSize_eq hM h.1 a).trans (h.2 a ha)

omit [DecidableEq P] [Fintype P] in
/-- The data of one packet are as many bytes as its new header says. -/
theorem Sized.changed (h : Sized Free n f) (hchanged : Changed f f' pkt k)
    (hrefines : Refines Free n'.memory f')
    (hheader : headerSize n'.node.mac = Function.update (headerSize n.node.mac) pkt k) :
    Sized Free n' f' := by
  refine ⟨h.1.changed hchanged hrefines, fun a ha => ?_⟩
  rw [hheader]
  by_cases hpkt : a = pkt
  · subst hpkt
    rw [Function.update_self, hchanged.size]
  · rw [Function.update_of_ne hpkt, FlatArrays.size_congr (hchanged.others a hpkt ha)]
    exact h.2 a ha

omit [DecidableEq P] [Fintype P] in
theorem Sized.lost (h : Sized Free n f) (hlost : Lost f f' k) (hrefines : Refines Free n'.memory f')
    (hheader : headerSize n'.node.mac = headerSize n.node.mac) : Sized Free n' f' := by
  refine ⟨h.1.lost hlost hrefines, fun a ha => ?_⟩
  rw [hheader, FlatArrays.size_congr (hlost.others a ha)]
  exact h.2 a ha

omit [DecidableEq P] [Fintype P] in
/-- The blocks in packets are those of the size bytes. -/
theorem Sized.held (h : Sized Free n f) : f.held = queuedBytes n.node.mac :=
  Finset.sum_congr rfl fun a ha => h.2 a (Finset.mem_erase.mp ha).1

omit [DecidableEq P] [Fintype P] in
/-- There are enough blocks for the data of a packet exactly if its size byte fits. -/
theorem Roomy.fits_iff (h : Roomy Free n f) (hpkt : pkt ≠ .byteString) (k : ℕ) :
    k + Config.packetSizeMac ≤ f.available + f.size pkt ↔ queuedBytes n.node.mac + k +
      Config.packetSizeMac ≤ Config.maxNumberBlocks + headerSize n.node.mac pkt := by
  rw [← h.sized.held, ← h.sized.2 pkt hpkt, ← h.total]
  omega

omit [DecidableEq P] [Fintype P] in
theorem Created.same (h : Roomy Free n' f) (hcreated : n'.created = n.created)
    (hheader : headerSize n'.node.mac = headerSize n.node.mac) : Created Free n none n' where
  all r hr := by
    rw [hcreated, List.drop_length] at hr
    cases hr
  roomy := ⟨f, h⟩
  sizes a := .inl (congrFun hheader a).le

omit [DecidableEq P] [Fintype P] in
theorem Created.takes (h : Roomy Free n f) (hpkt : pkt ≠ .byteString)
    (htakes : RiotNode.Takes Free n f pkt n') : Created Free n none n' := by
  obtain ⟨f', hcreated, hrefines, hchanged, hheader⟩ := htakes
  have havailable := hchanged.available
  rw [hchanged.size] at havailable
  have hroom := h.room
  refine ⟨fun r hr => ?_, ⟨f', h.sized.changed hchanged hrefines hheader,
    (hchanged.total hpkt).trans h.total, by omega⟩, fun a => .inl ?_⟩
  · rw [hcreated, List.drop_left] at hr
    exact List.mem_singleton.mp hr
  · rw [hheader]
    by_cases ha : a = pkt
    · rw [ha, Function.update_self]
      exact Nat.zero_le _
    · rw [Function.update_of_ne ha]

omit [DecidableEq P] [Fintype P] in
theorem Created.loses (h : Roomy Free n f) (hloses : RiotNode.Loses Free n f 0 n') :
    Created Free n none n' := by
  obtain ⟨f', hcreated, hrefines, hlost, hheader⟩ := hloses
  have htotal := hlost.total
  have havailable := hlost.available
  have hroom := h.room
  rw [Nat.add_zero] at htotal havailable
  refine ⟨fun r hr => ?_, ⟨f', h.sized.lost hlost hrefines hheader, htotal.trans h.total,
    by omega⟩, fun a => .inl (congrFun hheader a).le⟩
  rw [hcreated, List.drop_left] at hr
  exact List.mem_singleton.mp hr

omit [DecidableEq P] [Fintype P] in
/-- With enough blocks, both arrays are created. -/
theorem Created.stores (h : Roomy Free n f) (hpkt : pkt ≠ .byteString)
    (hstores : RiotNode.Stores Free n f pkt k n')
    (hroom : 1 ≤ k ∧ k + Config.packetSizeMac ≤ f.available + f.size pkt) :
    Created Free n (some (pkt, k)) n' := by
  obtain ⟨f', r, hcreated, hrefines, hr, hchanged, packet, rfl, hmac⟩ := hstores
  have hone := hr.mpr hroom
  -- so the entry has the data that its header announces
  rw [if_pos hone] at hchanged
  have hheader : headerSize n'.node.mac =
      Function.update (headerSize n.node.mac) pkt packet.size.toNat := by
    rw [hmac, RiotNode.headerSize_push hpkt]
  have havailable := hchanged.available
  rw [hchanged.size] at havailable
  refine ⟨fun r' hr' => ?_, ⟨f', h.sized.changed hchanged hrefines hheader,
    (hchanged.total hpkt).trans h.total, by omega⟩, fun a => ?_⟩
  · rw [hcreated, List.drop_left, hone] at hr'
    simpa using hr'
  · rw [hheader]
    by_cases ha : a = pkt
    · rw [ha, Function.update_self]
      exact .inr ⟨_, rfl, rfl⟩
    · rw [Function.update_of_ne ha]
      exact .inl (le_refl _)

omit [DecidableEq P] [Fintype P] in
/-- Without, the second call returns 0. -/
theorem not_created_stores (hstores : RiotNode.Stores Free n f pkt k n')
    (hroom : ¬ (1 ≤ k ∧ k + Config.packetSizeMac ≤ f.available + f.size pkt)) :
    ¬ ∀ r ∈ n'.created.drop n.created.length, r = 1 := by
  obtain ⟨f', r, hcreated, -, hr, -⟩ := hstores
  intro hall
  rw [hcreated, List.drop_left] at hall
  exact hroom (hr.mp (hall r (by simp)))

/-! ### What an operation comes to -/

/-- An operation at the node `n` comes to `x`: if the size byte of the packet that it stores fits, it
creates all its arrays and keeps the sizes, and otherwise a call of `create_array` fails. -/
def Decides (Free : Pool P S → Finset P → Prop) (n : RiotNode P S) (stored : Option (ArrayName × ℕ))
    (x : Except Fault (RiotNode P S)) : Prop :=
  (StoredFits n.node.mac stored →
    x ≠ .error .indeterminate ∧ ∀ n', x = .ok n' → Created Free n stored n') ∧
  (¬ StoredFits n.node.mac stored →
    ∃ n', x = .ok n' ∧ ¬ ∀ r ∈ n'.created.drop n.created.length, r = 1)

theorem Decides.createsAll_iff (hM : M.Lawful Free) {call : PacketCall}
    (h : Decides Free n (call.stores n.node) (call.exec M n)) :
    CreatesAll M call n ↔ call.SizesFit n.node := by
  constructor
  · rintro ⟨-, hall⟩
    by_contra hfits
    obtain ⟨n', hexec, hfails⟩ := h.2 hfits
    exact hfails (hall n' hexec).1
  · intro hfits
    obtain ⟨hdeterminate, hcreated⟩ := h.1 hfits
    refine ⟨hdeterminate, fun n' hexec => ?_⟩
    obtain ⟨f', hroomy⟩ := (hcreated n' hexec).roomy
    exact ⟨(hcreated n' hexec).all, hroomy.sized.sizesMatch hM⟩

theorem storedFits_none (m : MACInternals) : StoredFits m none :=
  fun _ hs => absurd hs (Option.not_mem_none _)

omit [DecidableEq P] [Fintype P] in
/-- An operation that creates nothing. -/
theorem Decides.halts (e : Halt) : Decides Free n none (.error (.halt e)) := by
  refine ⟨fun _ => ⟨?_, ?_⟩, fun hnot => absurd (storedFits_none _) hnot⟩
  · intro h
    cases h
  · intro n' h
    cases h

omit [DecidableEq P] [Fintype P] in
/-- An operation that returns with all its arrays created. -/
theorem Decides.returns (hcreated : Created Free n none n') : Decides Free n none (.ok n') := by
  refine ⟨fun _ => ⟨?_, ?_⟩, fun hnot => absurd (storedFits_none _) hnot⟩
  · intro h
    cases h
  · intro n₁ h
    cases h
    exact hcreated

omit [DecidableEq P] [Fintype P] in
/-- An operation that stores a packet. -/
theorem Decides.stores (h : Roomy Free n f) (hpkt : pkt ≠ .byteString)
    (hstores : RiotNode.Stores Free n f pkt k n') : Decides Free n (some (pkt, k)) (.ok n') := by
  have hiff : StoredFits n.node.mac (some (pkt, k)) ↔
      1 ≤ k ∧ k + Config.packetSizeMac ≤ f.available + f.size pkt := by
    rw [h.fits_iff hpkt]
    constructor
    · exact fun hfits => hfits (pkt, k) rfl
    · rintro hfits _ ⟨⟩
      exact hfits
  unfold Decides
  rw [hiff]
  refine ⟨fun hfits => ⟨?_, ?_⟩, fun hfits => ⟨n', rfl, not_created_stores hstores hfits⟩⟩
  · intro herror
    cases herror
  · intro n₁ hn₁
    cases hn₁
    exact .stores h hpkt hstores hfits

/-! ### The operations -/

theorem decides_read (hM : M.Lawful Free) (h : Roomy Free n f) (junk : ℕ → UInt8)
    (buf : ByteString) : Decides Free n ((PacketCall.read junk buf).stores n.node)
      ((PacketCall.read junk buf).exec M n) := by
  simp only [PacketCall.stores, PacketCall.exec]
  unfold RiotNode.mclmacReadQueueElement
  cases htake : RiotNode.takeMessage buf n.node with
  | error e => exact .halts e
  | ok taken =>
    cases taken with
    | none => exact .returns (.same h rfl rfl)
    | some r =>
      have h₁ : Ready Free { n with node.queues := r.queues } f :=
        ⟨h.sized.1.refines, h.sized.1.valued⟩
      obtain ⟨hsome, hnone⟩ := (RiotNode.storeMessage_spec hM h₁ junk r.msg).2 h.room
      have hdecides : Decides Free n ((RiotNode.messageEntry r.msg n.node.mac).map fun pkt =>
          (pkt, (r.msg 17).toNat))
          (Prod.fst <$> RiotNode.storeMessage M junk r.msg { n with node.queues := r.queues }) := by
        cases hentry : RiotNode.messageEntry r.msg n.node.mac with
        | none =>
          -- a message of no class gives back the blocks of its byte string
          rcases hnone hentry with hhalts | ⟨n', hstore, hloses⟩
          · rw [hhalts]
            exact .halts _
          · rw [hstore]
            exact .returns (.loses h hloses)
        | some pkt =>
          obtain ⟨n', hstore, hstores⟩ := hsome pkt hentry
          rw [hstore]
          exact .stores h (RiotNode.messageEntry_ne hentry).1 hstores
      exact hdecides

theorem decides_write (hM : M.Lawful Free) (h : Roomy Free n f) (junk : ℕ → UInt8)
    (hsucceeds : (PacketCall.write junk).Succeeds n.node) :
    Decides Free n none ((PacketCall.write junk).exec M n) := by
  simp only [PacketCall.exec]
  unfold RiotNode.mclmacWriteQueueElement
  cases hfirst : RiotNode.firstReceived n.node with
  | error e => exact .halts e
  | ok o =>
    cases o with
    | none => exact .returns (.same h rfl rfl)
    | some first =>
      have hup : Decides Free n none (Prod.fst <$> n.handUp M junk first) := by
        rcases (RiotNode.handUp_spec hM h.sized.1 junk first).2 h.room with
          ⟨e, hhalts⟩ | ⟨hrefused, -⟩ | ⟨ret, -, -, n₁, hup, htakes⟩
        · rw [hhalts]
          exact .halts e
        · -- a write that is refused keeps the blocks of its byte string
          exact absurd ((RiotNode.handsUp_zero_iff hrefused).mp rfl) (hsucceeds first hfirst)
        · rw [hup]
          exact .returns (.takes h (by nofun) htakes)
      exact hup

theorem decides_sendData (hM : M.Lawful Free) (h : Roomy Free n f) (junk : ℕ → UInt8) :
    Decides Free n none ((PacketCall.sendData junk).exec M n) := by
  obtain ⟨hsome, hnone⟩ := RiotNode.sendDataPacket_spec hM h.sized.1 junk
  simp only [PacketCall.exec]
  cases hentry : RiotNode.sentEntry n.node.mac with
  | none =>
    rcases hnone hentry with hsame | hhalts
    · rw [hsame]
      exact .returns (.same h rfl rfl)
    · rw [hhalts]
      exact .halts _
  | some pkt =>
    obtain ⟨n₁, hsend, htakes⟩ := (hsome pkt hentry).2 h.room
    rw [hsend]
    exact .returns (.takes h (RiotNode.sentEntry_ne hentry) htakes)

theorem decides_receiveData (hM : M.Lawful Free) (h : Roomy Free n f) (junk : ℕ → UInt8)
    (bytes : ByteString) : Decides Free n ((PacketCall.receiveData junk bytes).stores n.node)
      ((PacketCall.receiveData junk bytes).exec M n) := by
  obtain ⟨hsome, hnone⟩ := (RiotNode.receiveDataPacket_spec hM h.sized.1 junk bytes).2 h.room
  simp only [PacketCall.stores, PacketCall.exec]
  cases hentry : RiotNode.receivedEntry n.node.mac with
  | none =>
    rw [hnone hentry]
    exact .halts _
  | some pkt =>
    obtain ⟨n', hreceive, hstores⟩ := hsome pkt hentry
    rw [hreceive]
    exact .stores h (RiotNode.receivedEntry_ne hentry) hstores

/-- **One operation** creates all its arrays exactly if the size byte of the packet that it stores
fits, and leaves room for the next byte string then. -/
theorem PacketCall.decides (hM : M.Lawful Free) (h : Roomy Free n f) (call : PacketCall)
    (hsucceeds : call.Succeeds n.node) :
    Decides Free n (call.stores n.node) (call.exec M n) := by
  cases call with
  | read junk buf => exact decides_read hM h junk buf
  | write junk => exact decides_write hM h junk hsucceeds
  | sendData junk => exact decides_sendData hM h junk
  | receiveData junk bytes => exact decides_receiveData hM h junk bytes
  | between node =>
    refine .returns (.same (f := f) ?_ rfl rfl)
    exact ⟨⟨⟨h.sized.1.refines, h.sized.1.valued⟩, h.sized.2⟩, h.total, h.room⟩

/-- When the program starts, all packets are empty. -/
theorem RiotNode.Initial.sized (hinitial : n.Initial Free) (hM : M.Lawful Free)
    (hempty : ∀ a, headerSize n.node.mac a = 0) : ∃ f, Sized Free n f := by
  obtain ⟨f, hready, htotal, -⟩ := hinitial.holdsAll
  have havailable := hinitial.available hM hready
  have hheld : f.held = 0 := by omega
  refine ⟨f, hready, fun a ha => ?_⟩
  rw [hempty]
  exact Finset.sum_eq_zero_iff.mp hheld a (Finset.mem_erase.mpr ⟨ha, Finset.mem_univ a⟩)

theorem RiotNode.Initial.roomy (hinitial : n.Initial Free) (hM : M.Lawful Free)
    (hempty : ∀ a, headerSize n.node.mac a = 0) : ∃ f, Roomy Free n f := by
  obtain ⟨f, hsized⟩ := hinitial.sized hM hempty
  have havailable := hinitial.available hM hsized.1
  have hheld : f.held = 0 := by
    rw [hsized.held]
    exact Finset.sum_eq_zero fun a _ => hempty a
  exact ⟨f, hsized, by rw [havailable, hheld], by rw [havailable]; decide⟩

/-! ## The runs for which the pool is large enough -/

/-- **The pool is large enough** in a run from a full pool whose writes succeed exactly if, whenever a
packet is stored, its size byte is not zero and the size bytes of the forty packets then add up to
at most `MAX_NUMBER_BLOCKS` less the 256 of a byte string. -/
theorem creates_all_iff (hM : M.Lawful Free) (hinitial : n.Initial Free)
    (hempty : ∀ a, headerSize n.node.mac a = 0) (calls : List PacketCall)
    (hwrites : ∀ t ∈ attempted (packetStep M) calls n, t.1.Succeeds t.2.node) :
    (∀ t ∈ attempted (packetStep M) calls n, CreatesAll M t.1 t.2) ↔
      ∀ t ∈ attempted (packetStep M) calls n, t.1.SizesFit t.2.node := by
  -- an operation whose size fits leaves room for the next one, which is all the next one asks for
  have hinv : ∀ call ∈ calls, ∀ x x' : RiotNode P S, (∃ f, Roomy Free x f) →
      call.SizesFit x.node ∧ call.Succeeds x.node → packetStep M call x = some x' →
      ∃ f, Roomy Free x' f := by
    rintro call - x x' ⟨f, hroomy⟩ ⟨hfits, hsucceeds⟩ hstep
    exact (((call.decides hM hroomy hsucceeds).1 hfits).2 x' (toOption_eq_some.mp hstep)).roomy
  have hstep : ∀ call ∈ calls, ∀ x : RiotNode P S, (∃ f, Roomy Free x f) →
      (CreatesAll M call x ∧ call.Succeeds x.node ↔
        call.SizesFit x.node ∧ call.Succeeds x.node) := by
    rintro call - x ⟨f, hroomy⟩
    exact and_congr_left fun hsucceeds => (call.decides hM hroomy hsucceeds).createsAll_iff hM
  have hiff := forall_attempted_iff (fun x => ∃ f, Roomy Free x f) calls hinv hstep
    (hinitial.roomy hM hempty)
  exact ⟨fun hall t ht => (hiff.mp (fun t ht => ⟨hall t ht, hwrites t ht⟩) t ht).1,
    fun hall t ht => (hiff.mpr (fun t ht => ⟨hall t ht, hwrites t ht⟩) t ht).1⟩

/-! ### Forty packets at a time -/

/-- No packet has a size byte above the bound. -/
def SizesAtMost (bound : ℕ) (m : MACInternals) : Prop :=
  ∀ a, headerSize m a ≤ bound

/-- The packet that an operation stores is not empty, and its size byte not above the bound. -/
def PacketCall.StoresAtMost (bound : ℕ) (call : PacketCall) (n : Node) : Prop :=
  ∀ s ∈ call.stores n, 1 ≤ s.2 ∧ s.2 ≤ bound

/-- The size bytes of the other thirty-nine packets add up to at most thirty-nine times the bound. -/
theorem SizesAtMost.queuedBytes_le {bound : ℕ} {m : MACInternals} (h : SizesAtMost bound m)
    (hpkt : pkt ≠ .byteString) : queuedBytes m ≤ 39 * bound + headerSize m pkt := by
  have hmem : pkt ∈ Finset.univ.erase ArrayName.byteString :=
    Finset.mem_erase.mpr ⟨hpkt, Finset.mem_univ _⟩
  have hcard : ((Finset.univ.erase ArrayName.byteString).erase pkt).card = 39 := by
    have hforty : (Finset.univ.erase ArrayName.byteString).card = 40 := by decide +kernel
    rw [Finset.card_erase_of_mem hmem, hforty]
  have hothers := Finset.sum_le_card_nsmul ((Finset.univ.erase ArrayName.byteString).erase pkt)
    (headerSize m) bound fun a _ => h a
  rw [hcard, smul_eq_mul] at hothers
  unfold queuedBytes
  rw [← Finset.sum_erase_add _ (headerSize m) hmem]
  exact Nat.add_le_add_right hothers _

theorem PacketCall.stores_ne {call : PacketCall} {n : Node} {s : ArrayName × ℕ}
    (hs : s ∈ call.stores n) : s.1 ≠ .byteString := by
  cases call with
  | read junk buf =>
    simp only [PacketCall.stores] at hs
    split at hs
    · obtain ⟨pkt, hentry, rfl⟩ := Option.map_eq_some_iff.mp hs
      exact (RiotNode.messageEntry_ne hentry).1
    · cases hs
  | receiveData junk bytes =>
    obtain ⟨pkt, hentry, rfl⟩ := Option.map_eq_some_iff.mp hs
    exact RiotNode.receivedEntry_ne hentry
  | write junk => cases hs
  | sendData junk => cases hs
  | between node => cases hs

/-- The blocks of forty packets of 249 bytes and of a byte string are fewer than
`MAX_NUMBER_BLOCKS`. -/
theorem PacketCall.StoresAtMost.sizesFit {call : PacketCall} {n : Node} (h : call.StoresAtMost 249 n)
    (hn : SizesAtMost 249 n.mac) : call.SizesFit n := by
  intro s hs
  obtain ⟨hpos, hsize⟩ := h s hs
  have hqueued := hn.queuedBytes_le (PacketCall.stores_ne hs)
  have hmax : Config.maxNumberBlocks = 10240 := rfl
  have hstring : Config.packetSizeMac = 256 := rfl
  exact ⟨hpos, by omega⟩

/-- **The worst case**: in a run from a full pool whose writes succeed, no call of `create_array` fails
if every packet that is stored has a size byte between 1 and 249. -/
theorem creates_all_of_sizes (hM : M.Lawful Free) (hinitial : n.Initial Free)
    (hempty : ∀ a, headerSize n.node.mac a = 0) (calls : List PacketCall)
    (hwrites : ∀ t ∈ attempted (packetStep M) calls n, t.1.Succeeds t.2.node)
    (hsizes : ∀ t ∈ attempted (packetStep M) calls n, t.1.StoresAtMost 249 t.2.node) :
    ∀ t ∈ attempted (packetStep M) calls n, CreatesAll M t.1 t.2 := by
  -- the invariant counts the packets that are there, and each operation replaces one of them
  have hinv : ∀ call ∈ calls, ∀ x x' : RiotNode P S,
      (∃ f, Roomy Free x f) ∧ SizesAtMost 249 x.node.mac →
      call.Succeeds x.node ∧ call.StoresAtMost 249 x.node → packetStep M call x = some x' →
      (∃ f, Roomy Free x' f) ∧ SizesAtMost 249 x'.node.mac := by
    rintro call - x x' ⟨⟨f, hroomy⟩, hx⟩ ⟨hsucceeds, hstores⟩ hstep
    have hcreated := ((call.decides hM hroomy hsucceeds).1 (hstores.sizesFit hx)).2 x'
      (toOption_eq_some.mp hstep)
    refine ⟨hcreated.roomy, fun a => ?_⟩
    rcases hcreated.sizes a with hle | ⟨s, hs, heq⟩
    · exact hle.trans (hx a)
    · rw [heq]
      exact (hstores s hs).2
  have hstep : ∀ call ∈ calls, ∀ x : RiotNode P S,
      (∃ f, Roomy Free x f) ∧ SizesAtMost 249 x.node.mac →
      (CreatesAll M call x ∧ call.Succeeds x.node ∧ call.StoresAtMost 249 x.node ↔
        call.Succeeds x.node ∧ call.StoresAtMost 249 x.node) := by
    rintro call - x ⟨⟨f, hroomy⟩, hx⟩
    refine and_iff_right_of_imp fun hgood => ?_
    exact ((call.decides hM hroomy hgood.1).createsAll_iff hM).mpr (hgood.2.sizesFit hx)
  have hstart : SizesAtMost 249 n.node.mac := fun a => by
    rw [hempty]
    exact Nat.zero_le _
  have hiff := forall_attempted_iff (fun x : RiotNode P S => (∃ f, Roomy Free x f) ∧
    SizesAtMost 249 x.node.mac) calls hinv hstep ⟨hinitial.roomy hM hempty, hstart⟩
  exact fun t ht => (hiff.mpr (fun t ht => ⟨hwrites t ht, hsizes t ht⟩) t ht).1

/-- A message whose data do not fit, although its byte string does. -/
theorem Sized.not_createsAll_read (hM : M.Lawful Free) (h : Sized Free n f) (junk : ℕ → UInt8)
    {buf : ByteString} {r : Received} (htake : RiotNode.takeMessage buf n.node = .ok (some r))
    (hentry : RiotNode.messageEntry r.msg n.node.mac = some pkt)
    (hstring : Config.packetSizeMac ≤ f.available)
    (hfull : f.available + f.size pkt < (r.msg 17).toNat + Config.packetSizeMac) :
    ¬ CreatesAll M (.read junk buf) n := by
  rintro ⟨-, hall⟩
  have h₁ : Ready Free { n with node.queues := r.queues } f := ⟨h.1.refines, h.1.valued⟩
  obtain ⟨n', hstore, hstores⟩ :=
    ((RiotNode.storeMessage_spec hM h₁ junk r.msg).2 hstring).1 pkt hentry
  have hexec : (PacketCall.read junk buf).exec M n = .ok n' := by
    simp only [PacketCall.exec]
    unfold RiotNode.mclmacReadQueueElement
    rw [htake]
    exact congrArg (Prod.fst <$> ·) hstore
  exact not_created_stores (n := n) hstores (by omega) (hall n' hexec).1

end

/-! ### A run that empties the pool

Forty packets with 255 bytes of data need 10200 of the 10240 blocks, and the byte string that the
last of them is decoded from 256. -/

/-- A packet whose size byte is 255. -/
def fullPacket (type : UInt8) : ByteString := fun k => if k = 0 then type else 255

/-- A node on RIOT for which one such packet waits in its queue. -/
def waitingNode (type : UInt8) : Node where
  macQueueId := 1
  queues := {
    queues := fun i =>
      if i = 0 then { queueId := 1, messageSize := Config.maxMessageSize, allocated := true } else {}
    mailbox := fun pid => if pid = 0 then [{ senderPid := 2, type := 256, ptr := 0 }] else []
    msgStorage := fun _ => fullPacket type
    storedElements := 1 }

/-- The reception of such a packet. -/
def receiveFull : PacketCall := .receiveData (fun _ => 0) (fullPacket 7)

/-- The upper layers send such a packet, and it is read. -/
def readFull (type : UInt8) : List PacketCall :=
  [.between (waitingNode type), .read (fun _ => 0) fun _ => 0]

/-- Twenty packets are received, ten messages read and ten control packets. -/
def emptyingRun : List PacketCall :=
  (List.replicate 20 [receiveFull]).flatten ++ (List.replicate 10 (readFull 7)).flatten ++
    (List.replicate 10 (readFull 2)).flatten

/-- The state after `i` receptions, `j` messages and `k` control packets. -/
structure Filled (Free : Pool P S → Finset P → Prop) (n : RiotNode P S) (f : FlatArrays ArrayName)
    (i j k : ℕ) : Prop where
  sized : Sized Free n f
  available : f.available + 255 * (i + j + k) = Config.maxNumberBlocks
  received : ∀ x : Fin (2 * Config.maxNumberDataPackets), i ≤ x.val → f.size (.received x) = 0
  message : ∀ x : Fin Config.maxNumberDataPackets, j ≤ x.val → f.size (.message x) = 0
  control : ∀ x : Fin Config.maxNumberDataPackets, k ≤ x.val → f.size (.control x) = 0
  lastReceived : i < 20 → n.node.mac.received.lastReceived.toNat = i
  messages : n.node.mac.message.lastSend.toNat = j ∧ n.node.mac.message.packetsToSend.toNat = j
  controls : n.node.mac.control.lastSend.toNat = k ∧ n.node.mac.control.packetsToSend.toNat = k

section

variable {M : Memarray P S} {Free : Pool P S → Finset P → Prop} {n : RiotNode P S}
  {f : FlatArrays ArrayName} {i j k : ℕ}

theorem toNat_succ {x : UInt8} {m : ℕ} (hx : x.toNat = m) (hm : m < 255) : (x + 1).toNat = m + 1 := by
  rw [UInt8.toNat_add, hx]
  exact Nat.mod_eq_of_lt (by show m + 1 < 256; omega)

omit [DecidableEq P] [Fintype P] in
/-- A packet of 255 bytes is stored in an empty entry. -/
theorem Sized.storesFull {n' : RiotNode P S} {pkt : ArrayName} (h : Sized Free n f)
    (hpkt : pkt ≠ .byteString) (hempty : f.size pkt = 0) (hroom : 511 ≤ f.available)
    (hstores : RiotNode.Stores Free n f pkt 255 n') :
    ∃ f' packet, Sized Free n' f' ∧ f'.available + 255 = f.available ∧
      (∀ a, a ≠ pkt → a ≠ .byteString → f'.size a = f.size a) ∧
      n'.node.mac = n.node.mac.push pkt packet := by
  obtain ⟨f', r, -, hrefines, hr, hchanged, packet, hsize, hmac⟩ := hstores
  have hone : r = 1 := hr.mpr ⟨by decide, by show 255 + 256 ≤ _; omega⟩
  rw [if_pos hone] at hchanged
  have hheader : headerSize n'.node.mac = Function.update (headerSize n.node.mac) pkt 255 := by
    rw [hmac, RiotNode.headerSize_push hpkt, hsize]
  have havailable := hchanged.available
  rw [hchanged.size, hempty] at havailable
  exact ⟨f', packet, h.changed hchanged hrefines hheader, havailable,
    fun a ha hab => FlatArrays.size_congr (hchanged.others a ha hab), hmac⟩

/-- Each reception takes 255 blocks more. -/
theorem Filled.receive (hM : M.Lawful Free) (h : Filled Free n f i j k) (hi : i < 20)
    (htotal : i + j + k < 39) : ∃ n' f', packetStep M receiveFull n = some n' ∧
      Filled Free n' f' (i + 1) j k := by
  have havailable := h.available
  have hlast := h.lastReceived hi
  have hlt : n.node.mac.received.lastReceived.toNat < 2 * Config.maxNumberDataPackets := by
    rw [hlast]
    exact hi
  have hentry : RiotNode.receivedEntry n.node.mac = some (.received ⟨_, hlt⟩) := dif_pos hlt
  have hsize : 511 ≤ f.available := by
    have hmax : Config.maxNumberBlocks = 10240 := rfl
    omega
  obtain ⟨n', hreceive, hstores⟩ := ((RiotNode.receiveDataPacket_spec hM h.sized.1 (fun _ => 0)
    (fullPacket 7)).2 (by show 256 ≤ f.available; omega)).1 _ hentry
  have hentryEmpty : f.size (.received ⟨_, hlt⟩) = 0 := h.received ⟨_, hlt⟩ hlast.ge
  obtain ⟨f', packet, hsized, hless, hothers, hmac⟩ :=
    h.sized.storesFull (by nofun) hentryEmpty hsize hstores
  refine ⟨n', f', toOption_eq_some.mpr hreceive, hsized, by omega, ?_, ?_, ?_, ?_, ?_, ?_⟩
  · -- the entries behind the new one are still empty
    intro x hx
    have hne : ArrayName.received x ≠ .received ⟨_, hlt⟩ := by
      intro heq
      have hval := congrArg Fin.val (ArrayName.received.inj heq)
      dsimp only at hval
      omega
    rw [hothers (.received x) hne nofun]
    exact h.received x (by omega)
  · exact fun x hx => (hothers (.message x) nofun nofun).trans (h.message x hx)
  · exact fun x hx => (hothers (.control x) nofun nofun).trans (h.control x hx)
  · -- the ring wraps around after twenty packets, when none is received any more
    intro hnext
    rw [hmac]
    show ((n.node.mac.received.lastReceived + 1) % 20).toNat = i + 1
    rw [UInt8.toNat_mod, toNat_succ hlast (by omega)]
    exact Nat.mod_eq_of_lt hnext
  · rw [hmac]
    exact h.messages
  · rw [hmac]
    exact h.controls

/-- What `mclmac_read_queue_element` takes of the queue where such a packet waits. -/
theorem takeMessage_waiting {n : Node} (type : UInt8) (buf : ByteString)
    (hmessage : n.mac.message.packetsToSend.toNat ≤ 10)
    (hcontrol : n.mac.control.packetsToSend.toNat ≤ 10)
    (hroom : n.mac.message.packetsToSend.toNat + n.mac.control.packetsToSend.toNat < 20)
    (hpid : n.selfPid = 0) (hid : n.macQueueId = 1) (hqueues : n.queues = (waitingNode type).queues) :
    ∃ r, RiotNode.takeMessage buf n = .ok (some r) ∧ r.msg = fullPacket type := by
  have hassert : ∀ x : UInt8, x.toNat ≤ 10 → decide (x ≤ UInt8.ofNat Config.maxNumberDataPackets) = true :=
    fun x hx => decide_eq_true hx
  have hne : ¬ mclmacAvailableDataPackets n.toMCLMAC = 2 * Config.maxNumberDataPackets := by
    intro heq
    have heq : n.mac.message.packetsToSend.toNat + n.mac.control.packetsToSend.toNat = 20 := heq
    omega
  unfold RiotNode.takeMessage
  rw [hassert _ hmessage, hassert _ hcontrol, hpid, hid, hqueues]
  simp only [if_neg hne]
  refine ⟨_, rfl, ?_⟩
  funext k
  exact if_pos k.isLt

/-- The node for which such a packet waits, with its packets. -/
def RiotNode.waiting (n : RiotNode P S) (type : UInt8) : RiotNode P S :=
  let mac := n.node.mac
  { n with node :=
    { waitingNode type with
        mac.message := mac.message
        mac.control := mac.control
        mac.received := mac.received } }

omit [DecidableEq P] [Fintype P] in
theorem Filled.waiting (h : Filled Free n f i j k) (type : UInt8) :
    Filled Free (n.waiting type) f i j k where
  sized := ⟨⟨h.sized.1.refines, h.sized.1.valued⟩, h.sized.2⟩
  available := h.available
  received := h.received
  message := h.message
  control := h.control
  lastReceived := h.lastReceived
  messages := h.messages
  controls := h.controls

omit [DecidableEq P] [Fintype P] in
/-- What is read of the queue where such a packet waits. -/
theorem Filled.takes (h : Filled Free n f i j k) (hj : j ≤ 10) (hk : k ≤ 10) (hjk : j + k < 20)
    (type : UInt8) : ∃ r, RiotNode.takeMessage (fun _ => 0) (n.waiting type).node = .ok (some r) ∧
      r.msg = fullPacket type := by
  have hmessages := h.messages.2
  have hcontrols := h.controls.2
  refine takeMessage_waiting type (fun _ => 0) ?_ ?_ ?_ rfl rfl rfl
  · show n.node.mac.message.packetsToSend.toNat ≤ 10
    omega
  · show n.node.mac.control.packetsToSend.toNat ≤ 10
    omega
  · show n.node.mac.message.packetsToSend.toNat + n.node.mac.control.packetsToSend.toNat < 20
    omega

/-- Each packet that is read takes 255 blocks more. -/
theorem Filled.read (hM : M.Lawful Free) (h : Filled Free n f i j k) (hj : j ≤ 10) (hk : k ≤ 10)
    (htotal : i + j + k < 39) (hjk : j + k < 20) {type : UInt8} {pkt : ArrayName}
    (hentry : RiotNode.messageEntry (fullPacket type) (n.waiting type).node.mac = some pkt)
    (hempty : f.size pkt = 0) :
    ∃ n' f' packet, (readFull type).foldlM (fun s call => packetStep M call s) n = some n' ∧
      Sized Free n' f' ∧ f'.available + 255 = f.available ∧
      (∀ a, a ≠ pkt → a ≠ .byteString → f'.size a = f.size a) ∧
      n'.node.mac = (n.waiting type).node.mac.push pkt packet := by
  have havailable := h.available
  have hsize : 511 ≤ f.available := by
    have hmax : Config.maxNumberBlocks = 10240 := rfl
    omega
  obtain ⟨r, htake, hmsg⟩ := h.takes hj hk hjk type
  -- the queues between the layers have no part in the pool
  have hwaiting := (h.waiting type).sized
  have hsized₁ : Sized Free { n.waiting type with node.queues := r.queues } f :=
    ⟨⟨hwaiting.1.refines, hwaiting.1.valued⟩, hwaiting.2⟩
  obtain ⟨n', hstore, hstores⟩ := ((RiotNode.storeMessage_spec hM hsized₁.1 (fun _ => 0)
    (fullPacket type)).2 (by show 256 ≤ f.available; omega)).1 pkt hentry
  have hpkt := (RiotNode.messageEntry_ne hentry).1
  obtain ⟨f', packet, hsized, hless, hothers, hmac⟩ := hsized₁.storesFull hpkt hempty hsize hstores
  refine ⟨n', f', packet, ?_, hsized, hless, hothers, hmac⟩
  have hread : packetStep M (.read (fun _ => 0) fun _ => 0) (n.waiting type) = some n' := by
    refine toOption_eq_some.mpr (map_eq_ok.mpr ⟨(n', 1), ?_, rfl⟩)
    unfold RiotNode.mclmacReadQueueElement
    rw [htake, ← hstore, hmsg.symm]
    rfl
  have hbetween : packetStep M (.between (waitingNode type)) n = some (n.waiting type) := rfl
  unfold readFull
  simp only [List.foldlM_cons, hbetween, hread, List.foldlM_nil, Option.bind_eq_bind,
    Option.bind_some]
  rfl

theorem Filled.readMessage (hM : M.Lawful Free) (h : Filled Free n f i j k) (hj : j < 10)
    (hk : k ≤ 10) (htotal : i + j + k < 39) :
    ∃ n' f', (readFull 7).foldlM (fun s call => packetStep M call s) n = some n' ∧
      Filled Free n' f' i (j + 1) k := by
  have hlast := h.messages.1
  have hlt : n.node.mac.message.lastSend.toNat < Config.maxNumberDataPackets := by
    rw [hlast]
    exact hj
  have havailable := h.available
  have hentry : RiotNode.messageEntry (fullPacket 7) (n.waiting 7).node.mac =
      some (.message ⟨_, hlt⟩) := dif_pos hlt
  obtain ⟨n', f', packet, hsteps, hsized, hless, hothers, hmac⟩ :=
    h.read hM hj.le hk htotal (by omega) hentry (h.message ⟨_, hlt⟩ hlast.ge)
  refine ⟨n', f', hsteps, hsized, by omega, ?_, ?_, ?_, ?_, ?_, ?_⟩
  · exact fun x hx => (hothers (.received x) nofun nofun).trans (h.received x hx)
  · intro x hx
    -- the entries behind the one that was filled are still empty
    have hne : ArrayName.message x ≠ .message ⟨_, hlt⟩ := by
      intro heq
      have hval := congrArg Fin.val (ArrayName.message.inj heq)
      dsimp only at hval
      omega
    rw [hothers (.message x) hne nofun]
    exact h.message x (by omega)
  · exact fun x hx => (hothers (.control x) nofun nofun).trans (h.control x hx)
  · rw [hmac]
    exact h.lastReceived
  · rw [hmac]
    exact ⟨toNat_succ hlast (by omega), toNat_succ h.messages.2 (by omega)⟩
  · rw [hmac]
    exact h.controls

omit [DecidableEq P] [Fintype P] in
theorem messageEntry_control {m : MACInternals}
    (hlt : m.control.lastSend.toNat < Config.maxNumberDataPackets) :
    RiotNode.messageEntry (fullPacket 2) m = some (.control ⟨_, hlt⟩) := by
  have hmessage : ¬ (7 ≤ fullPacket 2 0 ∧ fullPacket 2 0 < 10) := by decide
  have hcontrol : 2 ≤ fullPacket 2 0 ∧ fullPacket 2 0 < 7 := by decide
  unfold RiotNode.messageEntry
  rw [if_neg hmessage, if_pos hcontrol]
  exact dif_pos hlt

theorem Filled.readControl (hM : M.Lawful Free) (h : Filled Free n f i j k) (hj : j ≤ 10)
    (hk : k < 10) (htotal : i + j + k < 39) :
    ∃ n' f', (readFull 2).foldlM (fun s call => packetStep M call s) n = some n' ∧
      Filled Free n' f' i j (k + 1) := by
  have hlast := h.controls.1
  have hlt : n.node.mac.control.lastSend.toNat < Config.maxNumberDataPackets := by
    rw [hlast]
    exact hk
  have havailable := h.available
  have hentry : RiotNode.messageEntry (fullPacket 2) (n.waiting 2).node.mac =
      some (.control ⟨_, hlt⟩) := messageEntry_control hlt
  obtain ⟨n', f', packet, hsteps, hsized, hless, hothers, hmac⟩ :=
    h.read hM hj hk.le htotal (by omega) hentry (h.control ⟨_, hlt⟩ hlast.ge)
  have hmore : f'.available + 255 * (i + j + (k + 1)) = Config.maxNumberBlocks := by
    rw [← havailable, ← hless]
    ring
  refine ⟨n', f', hsteps, hsized, hmore, ?_, ?_, ?_, ?_, ?_, ?_⟩
  · exact fun x hx => (hothers (.received x) nofun nofun).trans (h.received x hx)
  · exact fun x hx => (hothers (.message x) nofun nofun).trans (h.message x hx)
  · intro x hx
    have hne : ArrayName.control x ≠ .control ⟨_, hlt⟩ := by
      intro heq
      have hval := congrArg Fin.val (ArrayName.control.inj heq)
      dsimp only at hval
      omega
    rw [hothers (.control x) hne nofun]
    exact h.control x (by omega)
  · rw [hmac]
    exact h.lastReceived
  · rw [hmac]
    exact h.messages
  · rw [hmac]
    exact ⟨toNat_succ hlast (by omega), toNat_succ h.controls.2 (by omega)⟩

end

/-- A node whose blocks are on a free list. -/
abbrev FreeListNode : Type :=
  RiotNode (Fin Config.maxNumberBlocks) (Option (Fin Config.maxNumberBlocks))

/-- The first of the packets is stored. -/
theorem creates_all_received : CreatesAll freeList receiveFull RiotNode.initialNode := by
  have hinitial := RiotNode.initialNode_initial
  have hM := freeList_lawful (P := Fin Config.maxNumberBlocks)
  have hrun : ∀ t ∈ attempted (packetStep freeList) [receiveFull] RiotNode.initialNode,
      t = (receiveFull, RiotNode.initialNode) := by
    intro t ht
    rcases List.mem_cons.mp ht with rfl | ht
    · rfl
    · cases hstep : packetStep freeList receiveFull RiotNode.initialNode <;>
        simp [hstep, attempted] at ht
  have hempty : ∀ a, headerSize RiotNode.initialNode.node.mac a = 0 := fun a => by cases a <;> rfl
  refine (creates_all_iff hM hinitial hempty [receiveFull] ?_).mpr ?_
    (receiveFull, RiotNode.initialNode) List.mem_cons_self
  · intro t ht
    rw [hrun t ht]
    trivial
  · intro t ht
    rw [hrun t ht]
    rintro s ⟨⟩
    have hqueued : queuedBytes RiotNode.initialNode.node.mac = 0 :=
      Finset.sum_eq_zero fun a _ => hempty a
    refine ⟨by decide, ?_⟩
    rw [hqueued]
    decide

/-- A state after `i` receptions, `j` messages and `k` control packets. -/
def FilledNode (i j k : ℕ) (n : FreeListNode) : Prop :=
  ∃ f, Filled OnList n f i j k

/-- All packets but the last one are stored. -/
theorem filledNode_emptying : ∃ n : FreeListNode,
    ((List.replicate 20 [receiveFull]).flatten ++ (List.replicate 10 (readFull 7)).flatten ++
      (List.replicate 9 (readFull 2)).flatten).foldlM (fun s call => packetStep freeList call s)
      RiotNode.initialNode = some n ∧ FilledNode 20 10 9 n := by
  have hM := freeList_lawful (P := Fin Config.maxNumberBlocks)
  have hinitial := RiotNode.initialNode_initial
  obtain ⟨f₀, hsized⟩ := hinitial.sized hM fun a => by cases a <;> rfl
  have hzero : ∀ a, a ≠ .byteString → f₀.size a = 0 := by
    intro a ha
    rw [hsized.2 a ha]
    cases a <;> rfl
  have hstart : FilledNode 0 0 0 RiotNode.initialNode :=
    ⟨f₀, hsized, hinitial.available hM hsized.1, fun x _ => hzero (.received x) nofun,
      fun x _ => hzero (.message x) nofun, fun x _ => hzero (.control x) nofun, fun _ => rfl,
      ⟨rfl, rfl⟩, rfl, rfl⟩
  -- one round each: a reception, a message and a control packet
  have hreceive : ∀ i < 20, ∀ n, FilledNode i 0 0 n →
      ∃ n', [receiveFull].foldlM (fun s call => packetStep freeList call s) n = some n' ∧
        FilledNode (i + 1) 0 0 n' := by
    rintro i hi n ⟨f, h⟩
    obtain ⟨n', f', hstep, h'⟩ := h.receive hM hi (by omega)
    exact ⟨n', by simp [hstep], f', h'⟩
  have hmessage : ∀ j < 10, ∀ n, FilledNode 20 j 0 n →
      ∃ n', (readFull 7).foldlM (fun s call => packetStep freeList call s) n = some n' ∧
        FilledNode 20 (j + 1) 0 n' := by
    rintro j hj n ⟨f, h⟩
    obtain ⟨n', f', hsteps, h'⟩ := h.readMessage hM hj (by omega) (by omega)
    exact ⟨n', hsteps, f', h'⟩
  have hcontrol : ∀ k < 9, ∀ n, FilledNode 20 10 k n →
      ∃ n', (readFull 2).foldlM (fun s call => packetStep freeList call s) n = some n' ∧
        FilledNode 20 10 (k + 1) n' := by
    rintro k hk n ⟨f, h⟩
    obtain ⟨n', f', hsteps, h'⟩ := h.readControl hM (by omega) (by omega) (by omega)
    exact ⟨n', hsteps, f', h'⟩
  obtain ⟨n₁, hreceived, h₁⟩ :=
    foldlM_rounds [receiveFull] (fun i => FilledNode i 0 0) 20 hreceive hstart
  obtain ⟨n₂, hmessages, h₂⟩ :=
    foldlM_rounds (readFull 7) (fun j => FilledNode 20 j 0) 10 hmessage h₁
  obtain ⟨n₃, hcontrols, h₃⟩ :=
    foldlM_rounds (readFull 2) (fun k => FilledNode 20 10 k) 9 hcontrol h₂
  refine ⟨n₃, ?_, h₃⟩
  rw [List.foldlM_append, List.foldlM_append, hreceived, Option.bind_eq_bind, Option.bind_some,
    hmessages, Option.bind_some, hcontrols]

/-- The last call of `create_array` of this run fails: 295 blocks are free when the fortieth packet
is read, 256 of them go to the byte string, and the data of the packet are 255 bytes. -/
theorem creates_all_emptied : ∃ t ∈ attempted (packetStep freeList) emptyingRun
    RiotNode.initialNode, ¬ CreatesAll freeList t.1 t.2 := by
  have hM := freeList_lawful (P := Fin Config.maxNumberBlocks)
  obtain ⟨n, hsteps, f, h⟩ := filledNode_emptying
  have hwaits : ((List.replicate 20 [receiveFull]).flatten ++
      (List.replicate 10 (readFull 7)).flatten ++ (List.replicate 9 (readFull 2)).flatten ++
      [PacketCall.between (waitingNode 2)]).foldlM (fun s call => packetStep freeList call s)
      RiotNode.initialNode = some (n.waiting 2) := by
    rw [List.foldlM_append, hsteps]
    rfl
  have hlt : n.node.mac.control.lastSend.toNat < Config.maxNumberDataPackets := by
    rw [h.controls.1]
    decide
  have havailable := h.available
  have hempty := h.control ⟨_, hlt⟩ h.controls.1.ge
  -- 10240 - 39 * 255 = 295 blocks are free, enough for a byte string but not for its packet too
  have hmax : Config.maxNumberBlocks = 10240 := rfl
  have hstring : Config.packetSizeMac = 256 := rfl
  obtain ⟨r, htake, hmsg⟩ := h.takes (le_refl 10) (by omega) (by omega) 2
  have hentry : RiotNode.messageEntry r.msg (n.waiting 2).node.mac = some (.control ⟨_, hlt⟩) := by
    rw [hmsg]
    exact messageEntry_control hlt
  have hsize : (r.msg 17).toNat = 255 := by
    rw [hmsg]
    rfl
  refine ⟨_, mem_attempted_append _ [] hwaits, ?_⟩
  exact (h.waiting 2).sized.not_createsAll_read hM (fun _ => 0) htake hentry (by omega) (by omega)

end WmnIot
