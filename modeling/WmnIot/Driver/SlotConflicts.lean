import WmnIot.Codec.ControlPacket
import WmnIot.Driver.Destinations
import WmnIot.Driver.TimeoutTable
import WmnIot.Joining.Aggregation
import WmnIot.Joining.SlotSelection

/-! # The slots of neighbours

A node announces its slot map with its control packets, and a node that joins takes the first slot
that no packet it has heard marks. The first node of a network marks its own slot. Any other node
announces the map from which it has taken its slot, and that slot is free in it.

* **`HasSlot`**, **`Reachable.hasSlot`** — how the nodes of a run have come by their slots.
* **`InSessionOf`**, **`JoinsAmong`** — a node in the network, and one that joins.
* **`JoinsAmong.takesSlot_iff`** — the slot that is taken from what was heard.
* **`neighbourSlot_kept_iff`** — when a neighbour's slot is not taken. -/

namespace WmnIot

open Runs

variable {build : Build} {n n' : Node}

/-! ## What the packets mark -/

/-- One of the packets marks the slot as occupied on some channel. -/
def Marked (pkts : List ControlPacket) (p : Fin Config.maxNumberSlots) : Prop :=
  ∃ pkt ∈ pkts, ¬ FreeSlot pkt.occupiedSlots p

/-- A bit of the OR of some bytes. -/
theorem testBit_foldl_or (f : ControlPacket → UInt8) (pkts : List ControlPacket) (b : UInt8)
    (i : ℕ) : (pkts.foldl (fun b pkt => b ||| f pkt) b).toNat.testBit i =
      (b.toNat.testBit i || pkts.any fun pkt => (f pkt).toNat.testBit i) := by
  induction pkts generalizing b with
  | nil => simp
  | cons pkt pkts ih =>
    rw [List.foldl_cons, ih, UInt8.toNat_or, Nat.testBit_or, List.any_cons, Bool.or_assoc]

theorem slotBit_orOfMaps (pkts : List ControlPacket) (k : Fin Config.maxNumberFreqs)
    (p : Fin Config.maxNumberSlots) :
    slotBit (orOfMaps pkts k) p = pkts.any fun pkt => slotBit (pkt.occupiedSlots k) p := by
  unfold slotBit orOfMaps
  rw [testBit_foldl_or, UInt8.toNat_zero, Nat.zero_testBit, Bool.false_or]

/-- A slot is free in the OR of the maps exactly if no packet marks it. -/
theorem freeSlot_orOfMaps_iff (pkts : List ControlPacket) (p : Fin Config.maxNumberSlots) :
    FreeSlot (orOfMaps pkts) p ↔ ¬ Marked pkts p := by
  unfold FreeSlot Marked
  simp only [slotBit_orOfMaps, List.any_eq_false, Bool.not_eq_true]
  constructor
  · rintro hfree ⟨pkt, hpkt, hmarks⟩
    exact hmarks fun k => hfree k pkt hpkt
  · intro hnone k pkt hpkt
    by_contra hbit
    exact hnone ⟨pkt, hpkt, fun hfree => hbit (hfree k)⟩

/-- The scan of the merged maps ends at the slot: no packet marks it, and all before it are marked. -/
theorem isLeast_orOfMaps_iff (pkts : List ControlPacket) (p : Fin Config.maxNumberSlots) :
    IsLeast {t | FreeSlot (orOfMaps pkts) t} p ↔ ¬ Marked pkts p ∧ ∀ q < p, Marked pkts q := by
  simp only [IsLeast, lowerBounds, Set.mem_ofPred_eq, freeSlot_orOfMaps_iff]
  refine and_congr_right fun _ => ?_
  constructor
  · intro hleast q hq
    by_contra hmarked
    exact absurd (hleast hmarked) (not_le.mpr hq)
  · intro hbefore q hq
    by_contra hlt
    exact hq (hbefore q (not_le.mp hlt))

/-- The number that the slot gets when it is taken. -/
def numberOf (p : Fin Config.maxNumberSlots) : UInt8 :=
  slotNumber (slotPosition p).1 (slotPosition p).2

/-- Slot 0 is the only one with the number 0. -/
theorem numberOf_eq_zero_iff (p : Fin Config.maxNumberSlots) : numberOf p = 0 ↔ p = 0 := by
  revert p
  decide

/-! ## How a node has come by its slot -/

/-- The first node has slot 0 and marks it. Any other node has the least free slot of its map, under
its number, and does not mark it. -/
structure HasSlot (n : Node) : Prop where
  first : n.isFirstNode = true →
    n.mac.selectedSlot = 0 ∧ ¬ FreeSlot n.occupiedFrequenciesSlots 0
  joined : n.isFirstNode = false →
    ∃ p, IsLeast {t | FreeSlot n.occupiedFrequenciesSlots t} p ∧ n.mac.selectedSlot = numberOf p

/-- Only `TIMESLOT_AND_CHANNEL_SELECTION` leads to `MEDIUM_ACCESS`. -/
theorem MacTurn.selected {inp : MacInput} (h : MacTurn build inp n n')
    (hstate : n'.macState.currentState = .mediumAccess) :
    ∃ m, executeTimeslotAndChannelSelection build inp.rand inp.frameTicks n = .ok (m, .success) ∧
      m.macState.nextState = .mediumAccess ∧ n' = enterNextState m := by
  cases h with
  | start _ h =>
    obtain ⟨-, queues, rfl⟩ := executeStart_cases h
    cases hstate
  | initialization _ h =>
    obtain ⟨-, timeouts, clock, first, rfl⟩ := executeInitialization_cases h
    cases hstate
  | synchronization _ h =>
    obtain ⟨-, -, ⟨-, hnext⟩ | ⟨hret, -⟩⟩ := executeSynchronization_setup h
    · exact nomatch hnext.symm.trans hstate
    · cases hret
  | unsynchronized hsync h =>
    obtain ⟨-, -, ⟨hret, -⟩ | ⟨-, hsame⟩⟩ := executeSynchronization_setup h
    · cases hret
    · rw [hsame, hsync] at hstate
      cases hstate
  -- the only way into MEDIUM_ACCESS
  | selection _ h => exact ⟨_, h, hstate, rfl⟩
  | noFrameTimer hselect h =>
    rcases executeTimeslotAndChannelSelection_cases h with ⟨-, hret, -⟩ | ⟨-, -, timeouts, rfl⟩ |
      ⟨-, hret, -⟩ | ⟨-, hret, -⟩
    · cases hret
    · exact nomatch hselect.symm.trans hstate
    · cases hret
    · cases hret
  | mediumAccess _ h =>
    obtain ⟨-, hnext⟩ := executeMediumAccess_standing h
    rcases hnext with hnext | hnext
    · exact nomatch hnext.symm.trans hstate
    · exact nomatch hnext.symm.trans hstate

/-- The first node marks slot 0. -/
theorem not_freeSlot_markFirstSlot (n : Node) :
    ¬ FreeSlot (markFirstSlot n).occupiedFrequenciesSlots 0 := by
  intro hfree
  have hbyte : (markFirstSlot n).occupiedFrequenciesSlots 0 (slotByte 0) = 0x80 := by
    simp [markFirstSlot, slotByte]
  have hbit := hfree 0
  rw [slotBit, hbyte] at hbit
  exact absurd hbit (by decide)

/-- **`TIMESLOT_AND_CHANNEL_SELECTION`** gives the node its slot. -/
theorem HasSlot.of_selection {rand : ℕ} {ticks : List Tick}
    (h : executeTimeslotAndChannelSelection build rand ticks n = .ok (n', .success))
    (hnext : n'.macState.nextState = .mediumAccess) : HasSlot n' := by
  rcases executeTimeslotAndChannelSelection_cases h with ⟨hfirst, -, rfl⟩ | ⟨-, hfailed, -⟩ |
    ⟨hfirst, -, timeouts, clock, i, j, k, hfind, rfl⟩ | ⟨-, -, -, timeouts, clock, rfl⟩
  · constructor
    · intro _
      exact ⟨rfl, not_freeSlot_markFirstSlot n⟩
    · intro hjoined
      exact nomatch hfirst.symm.trans hjoined
  · cases hfailed
  · obtain ⟨p, hleast, hposition⟩ := findSlot_eq_some_iff.mp hfind
    constructor
    · intro hfirst'
      exact nomatch hfirst.symm.trans hfirst'
    · intro _
      refine ⟨p, hleast, ?_⟩
      rw [numberOf, hposition]
      rfl
  · cases hnext

/-- **Every node of a run that is in `MEDIUM_ACCESS`** has its slot so. -/
theorem Reachable.hasSlot (h : Reachable build n)
    (hstate : n.macState.currentState = .mediumAccess) : HasSlot n := by
  have hinv : WellFormed n ∧ (n.macState.currentState = .mediumAccess → HasSlot n) := by
    refine h.inv (fun m => WellFormed m ∧ (m.macState.currentState = .mediumAccess → HasSlot m))
      ?_ ?_
    · intro timeouts clock queues
      exact ⟨wellFormed_init timeouts clock queues, fun h => nomatch h⟩
    · intro inp m m' hm hturn
      refine ⟨hm.1.turn hturn, fun hmedium => ?_⟩
      obtain ⟨s, hselect, hnext, rfl⟩ := (driverTurn_cases hm.1.inStep hturn).1.selected hmedium
      have hslot := HasSlot.of_selection hselect hnext
      exact ⟨hslot.first, hslot.joined⟩
  exact hinv.2 hstate

/-- The node `n₀` has reached `MEDIUM_ACCESS`, and `n` is what a session has made of it. -/
structure InSessionOf (build : Build) (n₀ n : Node) : Prop where
  reached : Reachable build n₀
  inNetwork : n₀.macState.currentState = .mediumAccess
  session : ∃ inp n₁ inputs, enterMediumAccess build (n₀.resume inp) = .ok n₁ ∧
    List.foldlM (fun m i => sessionStep build i m) n₁ inputs = some n

/-- A session keeps the place in the network. -/
theorem InSessionOf.standing {n₀ : Node} (h : InSessionOf build n₀ n) : n.standing = n₀.standing := by
  obtain ⟨inp, n₁, inputs, henter, hrun⟩ := h.session
  have hresume : (n₀.resume inp).standing = n₀.standing := rfl
  have hstart : InSession n₁.powerMode.currentState ∧ n₁.standing = n₀.standing :=
    ⟨enterMediumAccess_inSession henter, (enterMediumAccess_standing henter).trans hresume⟩
  have hend := run_inv (fun m => InSession m.powerMode.currentState ∧ m.standing = n₀.standing)
    (fun i m m' hm hstep => ⟨(sessionStep_cases hm.1 hstep).inSession,
      (sessionStep_cases hm.1 hstep).standing.trans hm.2⟩) inputs hstart hrun
  exact hend.2

/-! ## What a node takes that has heard some packets -/

/-- The node `b`, which is not the first one, executes `SYNCHRONIZATION` with success, in which it
hears the packets `pkts`, and goes on as `b₁`. Some time later it executes
`TIMESLOT_AND_CHANNEL_SELECTION` and goes on as `b₂`. -/
structure JoinsAmong (build : Build) (sync : MacInput) (select : DriverInput)
    (pkts : List ControlPacket) (b b₁ b₂ : Node) : Prop where
  joiner : b.isFirstNode = false
  synchronized :
    executeSynchronization build sync.time sync.attempts sync.syncPolls b = .ok (b₁, .success)
  heard : ∃ first rest, pkts = first :: rest ∧
    heardPackets build sync.attempts sync.syncPolls b = some (first, rest)
  selected : ∃ ret, executeTimeslotAndChannelSelection build select.mac.rand select.mac.frameTicks
    ((mclmacUpdateMacStateMachine b₁).1.resume select) = .ok (b₂, ret)

/-- The node goes on to `MEDIUM_ACCESS` with the slot. -/
def TakesSlot (n : Node) (slot : UInt8) : Prop :=
  n.macState.nextState = .mediumAccess ∧ n.mac.selectedSlot = slot

/-- A successful execution of `SYNCHRONIZATION` leaves a free entry in the table of the timeouts. -/
theorem executeSynchronization_unused {time : UInt32} {attempts : List CtrlRadio}
    {polls : List SyncPoll} (hfirst : n.isFirstNode = false)
    (h : executeSynchronization build time attempts polls n = .ok (n', .success)) :
    n'.usedTimeouts < Config.timeouts := by
  rcases executeSynchronization_cases hfirst h with ⟨-, hret⟩ | ⟨n₁, b, -, hjoin⟩
  · cases hret
  · rcases joinFrom_timers hjoin with ⟨hret, -⟩ | ⟨-, -, s, htimers, rfl⟩
    · cases hret
    · have hreleased := htimers.released
      have hall : s.1.usedTimeouts + freeEntries s.1.timeouts = Config.timeouts :=
        usedEntries_add_freeEntries s.1.timeouts
      omega

/-- **What a joining node takes**: the number of the first slot that no packet it has heard marks. -/
theorem JoinsAmong.takesSlot_iff {sync : MacInput} {select : DriverInput} {pkts : List ControlPacket}
    {b b₁ b₂ : Node} (h : JoinsAmong build sync select pkts b b₁ b₂) (slot : UInt8) :
    TakesSlot b₂ slot ↔ ∃ p, (¬ Marked pkts p ∧ ∀ q < p, Marked pkts q) ∧ numberOf p = slot := by
  obtain ⟨first, rest, rfl, hheard⟩ := h.heard
  obtain ⟨ret, hselect⟩ := h.selected
  obtain ⟨macState, hupdate⟩ := mclmacUpdateMacStateMachine_frame b₁
  have hupdated := mclmacUpdateMacStateMachine_used b₁
  generalize (mclmacUpdateMacStateMachine b₁).1 = m at hselect hupdate hupdated
  -- the map is that of the packets
  have hmap : m.occupiedFrequenciesSlots = orOfMaps (first :: rest) := by
    obtain ⟨first', rest', hheard', hgathered⟩ :=
      executeSynchronization_gathered h.joiner h.synchronized
    rw [hheard] at hheard'
    obtain ⟨rfl, rfl⟩ := Prod.mk.inj (Option.some.inj hheard')
    have hoccupied := congrArg Gathered.occupied hgathered
    rw [(mapAndTimes_foldl first rest).occupied] at hoccupied
    rw [hupdate]
    exact hoccupied
  have hjoiner : (m.resume select).isFirstNode = false := by
    rw [hupdate]
    exact (executeSynchronization_setup h.synchronized).2.1.trans h.joiner
  -- and a timer is free
  have hret : ret = .success := by
    rw [executeTimeslotAndChannelSelection_success_iff hjoiner hselect, ← freeEntries_pos_iff]
    have hused := executeSynchronization_unused h.joiner h.synchronized
    have hresumed : (m.resume select).usedTimeouts = m.usedTimeouts := usedTimeouts_tick m select.tick
    have hall : (m.resume select).usedTimeouts + freeEntries (m.resume select).timeouts =
      Config.timeouts := usedEntries_add_freeEntries _
    omega
  have hscan : findSlot (m.resume select).occupiedFrequenciesSlots =
      findSlot (orOfMaps (first :: rest)) := congrArg findSlot hmap
  simp only [← isLeast_orOfMaps_iff]
  rcases executeTimeslotAndChannelSelection_cases hselect with ⟨hfirst, -⟩ | ⟨-, hfailed, -⟩ |
    ⟨-, -, timeouts, clock, i, j, k, hfind, rfl⟩ | ⟨-, -, hfind, timeouts, clock, rfl⟩
  · exact nomatch hfirst.symm.trans hjoiner
  · exact nomatch hfailed.symm.trans hret
  · obtain ⟨p, hleast, hposition⟩ := findSlot_eq_some_iff.mp (hscan.symm.trans hfind)
    have hnumber : numberOf p = slotNumber i j := by
      rw [numberOf, hposition]
    constructor
    · rintro ⟨-, hslot⟩
      exact ⟨p, hleast, hnumber.trans hslot⟩
    · rintro ⟨p', hleast', rfl⟩
      rw [hleast'.unique hleast]
      exact ⟨rfl, hnumber.symm⟩
  · have hnone := findSlot_eq_none_iff.mp (hscan.symm.trans hfind)
    constructor
    · rintro ⟨hnext, -⟩
      cases hnext
    · rintro ⟨p, hleast, -⟩
      exact absurd hleast.1 (hnone p)

/-! ## The slot of a neighbour -/

/-- A packet that is heard carries the slot map of its sender. -/
theorem decodeCtrlpkt_occupiedSlots (a : Node) (pad : UInt8) :
    (decodeCtrlpkt (controlpacketGetPacketBytestring (mclmacCreateControlPacket a).mac.ctrlpkt
      pad)).occupiedSlots = a.occupiedFrequenciesSlots := by
  rw [decodeCtrlpkt, construct_get _ _ pad rfl]
  rfl

/-- The packets keep a node from the slot `p` and its number: one of them marks it, and a later slot
with its number is marked or comes behind one that none of them marks. -/
def Avoided (pkts : List ControlPacket) (p : Fin Config.maxNumberSlots) : Prop :=
  Marked pkts p ∧
    ∀ q, p < q → numberOf q = numberOf p → Marked pkts q ∨ ∃ r < q, ¬ Marked pkts r

/-- **A neighbour's slot** is not taken by a node that has heard its packet, among any others, exactly
if the neighbour is the first node, or the packets keep the node from the slot that the neighbour has
found, which its own packet leaves free. -/
theorem neighbourSlot_kept_iff (buildA buildB : Build) (n₀ a b b₁ b₂ : Node) (pad : UInt8)
    (sync : MacInput) (select : DriverInput) (pkts : List ControlPacket)
    (ha : InSessionOf buildA n₀ a) (hb : JoinsAmong buildB sync select pkts b b₁ b₂)
    (hheard : decodeCtrlpkt (controlpacketGetPacketBytestring
      (mclmacCreateControlPacket a).mac.ctrlpkt pad) ∈ pkts) :
    ¬ TakesSlot b₂ a.mac.selectedSlot ↔
      n₀.isFirstNode = true ∨
        ∀ p, IsLeast {t | FreeSlot a.occupiedFrequenciesSlots t} p → Avoided pkts p := by
  have hslot := ha.reached.hasSlot ha.inNetwork
  have hmap : n₀.occupiedFrequenciesSlots = a.occupiedFrequenciesSlots :=
    (congrArg Standing.occupiedFrequenciesSlots ha.standing).symm
  have hselected : n₀.mac.selectedSlot = a.mac.selectedSlot :=
    (congrArg Standing.selectedSlot ha.standing).symm
  -- what the neighbour marks is marked
  have hmarks : ∀ q, ¬ FreeSlot a.occupiedFrequenciesSlots q → Marked pkts q := by
    intro q hq
    refine ⟨_, hheard, ?_⟩
    rwa [decodeCtrlpkt_occupiedSlots]
  rw [hb.takesSlot_iff]
  cases hfirst : n₀.isFirstNode with
  | true =>
    obtain ⟨hzero, hmarked⟩ := hslot.first hfirst
    refine iff_of_true ?_ (.inl rfl)
    rintro ⟨p, ⟨hfree, -⟩, hnumber⟩
    rw [← hselected, hzero, numberOf_eq_zero_iff] at hnumber
    rw [hnumber] at hfree
    rw [hmap] at hmarked
    exact hfree (hmarks 0 hmarked)
  | false =>
    obtain ⟨p, hleast, hnumber⟩ := hslot.joined hfirst
    rw [hmap] at hleast
    rw [hselected] at hnumber
    rw [hnumber]
    -- all slots before that of the neighbour are marked
    have hbefore : ∀ q < p, Marked pkts q :=
      fun q hq => hmarks q fun hfree => absurd (hleast.2 hfree) (not_le.mpr hq)
    constructor
    · intro hnot
      refine .inr fun p' hleast' => ?_
      rw [hleast'.unique hleast]
      constructor
      · by_contra hfree
        exact hnot ⟨p, ⟨hfree, hbefore⟩, rfl⟩
      · intro q _ hq
        by_contra hneither
        obtain ⟨hfree, hnone⟩ := not_or.mp hneither
        refine hnot ⟨q, ⟨hfree, fun r hr => ?_⟩, hq⟩
        by_contra hr'
        exact hnone ⟨r, hr, hr'⟩
    · rintro (hfirst' | havoided)
      · cases hfirst'
      · obtain ⟨hmarked, hlater⟩ := havoided p hleast
        rintro ⟨q, ⟨hfree, hall⟩, hq⟩
        rcases lt_trichotomy q p with hlt | rfl | hlt
        · exact hfree (hbefore q hlt)
        · exact hfree hmarked
        · rcases hlater q hlt hq with hmarked' | ⟨r, hr, hr'⟩
          · exact hfree hmarked'
          · exact hr' (hall r hr)

/-! ### Two neighbours of a node that joins -/

/-- A node that joins by the turns `joins`, and the same node after the turns of a session. -/
def neighbour (joins : List DriverInput) (inp : DriverInput) (inputs : List PmInput) :
    Option (Node × Node) :=
  (joins.foldlM (fun m inp => driverTurn ⟨.linux, true⟩ inp m) newNode).bind fun n₀ =>
    (enterMediumAccess ⟨.linux, true⟩ (n₀.resume inp)).toOption.bind fun n₁ =>
      (inputs.foldlM (fun m i => sessionStep ⟨.linux, true⟩ i m) n₁).map fun a => (n₀, a)

theorem neighbour_inSession {joins : List DriverInput} {inp : DriverInput} {inputs : List PmInput}
    {n₀ a : Node} (h : neighbour joins inp inputs = some (n₀, a))
    (hstate : n₀.macState.currentState = .mediumAccess) : InSessionOf ⟨.linux, true⟩ n₀ a := by
  obtain ⟨n₀', hrun, h⟩ := Option.bind_eq_some_iff.mp h
  obtain ⟨n₁, henter, h⟩ := Option.bind_eq_some_iff.mp h
  obtain ⟨a', hsession, h⟩ := Option.map_eq_some_iff.mp h
  obtain ⟨rfl, rfl⟩ := Prod.mk.inj h
  exact ⟨⟨_, _, _, joins, hrun⟩, hstate, inp, n₁, inputs, toOption_eq_some.mp henter, hsession⟩

/-- The control packet of the node, as it is sent. -/
def sentBy (a : Node) : ByteString :=
  controlpacketGetPacketBytestring (mclmacCreateControlPacket a).mac.ctrlpkt 0

/-- The control packet of the node is all that is heard. -/
def syncWith (a : Node) : MacInput where
  attempts := [.heard (sentBy a)]

/-- The frame of the selection ends. -/
def selecting : DriverInput where
  tick := ⟨0, false⟩
  mac := { frameTicks := [⟨1280000, true⟩] }

/-- A new node that has detected a network, hears the packet of the node and selects its slot. -/
def joinBehind (a : Node) : Option (Node × (Node × MacExecution) × (Node × MacExecution)) :=
  ((joinNetwork.take 2).foldlM (fun m inp => driverTurn ⟨.linux, true⟩ inp m) newNode).bind fun b =>
    (executeSynchronization ⟨.linux, true⟩ (syncWith a).time (syncWith a).attempts
        (syncWith a).syncPolls b).toOption.bind fun r₁ =>
      (executeTimeslotAndChannelSelection ⟨.linux, true⟩ selecting.mac.rand selecting.mac.frameTicks
        ((mclmacUpdateMacStateMachine r₁.1).1.resume selecting)).toOption.map fun r₂ => (b, r₁, r₂)

theorem heardPackets_syncWith {a b : Node} {first : ControlPacket} {rest : List ControlPacket}
    (h : heardPackets ⟨.linux, true⟩ (syncWith a).attempts (syncWith a).syncPolls b =
      some (first, rest)) : first = decodeCtrlpkt (sentBy a) ∧ rest = [] := by
  have hlisten : listenCtrlpkt ⟨.linux, true⟩ 11 (syncWith a).attempts (beginListening b) =
      .ok (beginListening b, some (sentBy a)) := rfl
  unfold heardPackets at h
  rw [hlisten] at h
  dsimp only at h
  split at h
  · obtain ⟨rfl, hrest⟩ := Prod.mk.inj (Option.some.inj h)
    refine ⟨rfl, hrest.symm.trans ?_⟩
    split <;> rfl
  · cases h

theorem joinBehind_joins {a b b₁ b₂ : Node} {ret : MacExecution}
    (h : joinBehind a = some (b, (b₁, .success), (b₂, ret))) (hjoiner : b.isFirstNode = false) :
    Reachable ⟨.linux, true⟩ b ∧
      JoinsAmong ⟨.linux, true⟩ (syncWith a) selecting [decodeCtrlpkt (sentBy a)] b b₁ b₂ := by
  obtain ⟨b', hrun, h⟩ := Option.bind_eq_some_iff.mp h
  obtain ⟨r₁, hsync, h⟩ := Option.bind_eq_some_iff.mp h
  obtain ⟨r₂, hselect, h⟩ := Option.map_eq_some_iff.mp h
  simp only [Prod.mk.injEq] at h
  obtain ⟨rfl, rfl, rfl⟩ := h
  rw [toOption_eq_some] at hsync hselect
  obtain ⟨first, rest, hheard, -⟩ := executeSynchronization_gathered hjoiner hsync
  obtain ⟨rfl, rfl⟩ := heardPackets_syncWith hheard
  exact ⟨⟨_, _, _, joinNetwork.take 2, hrun⟩, hjoiner, hsync, ⟨_, _, rfl, hheard⟩, ret,
    hselect⟩

/-- The slot of the first node is not taken. -/
theorem neighbourSlot_kept_firstNode :
    ∃ n₀ a b b₁ b₂, InSessionOf ⟨.linux, true⟩ n₀ a ∧ n₀.isFirstNode = true ∧
      JoinsAmong ⟨.linux, true⟩ (syncWith a) selecting [decodeCtrlpkt (sentBy a)] b b₁ b₂ ∧
      ¬ TakesSlot b₂ a.mac.selectedSlot := by
  have heval : ((neighbour joinAlone { tick := ⟨Config.detectionTime, false⟩ } []).bind fun s =>
      (joinBehind s.2).map fun t => decide ((s.1.macState.currentState = .mediumAccess ∧
        s.1.isFirstNode = true) ∧ t.1.isFirstNode = false ∧ t.2.1.2 = .success)) = some true := by
    decide +kernel
  obtain ⟨⟨n₀, a⟩, hneighbour, heval⟩ := Option.bind_eq_some_iff.mp heval
  obtain ⟨⟨b, ⟨b₁, ret₁⟩, b₂, ret₂⟩, hjoin, heval⟩ := Option.map_eq_some_iff.mp heval
  obtain ⟨⟨hstate, hfirst⟩, hjoiner, hret⟩ := of_decide_eq_true heval
  obtain rfl : ret₁ = .success := hret
  have ha := neighbour_inSession hneighbour hstate
  have hb := (joinBehind_joins hjoin hjoiner).2
  exact ⟨n₀, a, b, b₁, b₂, ha, hfirst, hb, (neighbourSlot_kept_iff ⟨.linux, true⟩ ⟨.linux, true⟩ n₀ a
    b b₁ b₂ 0 (syncWith a) selecting _ ha hb (List.mem_singleton_self _)).mpr (.inl hfirst)⟩

/-- The slot of a node that has joined in slot 1 is taken by the node that hears its packet. -/
theorem neighbourSlot_taken :
    ∃ n₀ a b b₁ b₂, InSessionOf ⟨.linux, true⟩ n₀ a ∧ a.powerMode.currentState = .transmit ∧
      Reachable ⟨.linux, true⟩ b ∧
      JoinsAmong ⟨.linux, true⟩ (syncWith a) selecting [decodeCtrlpkt (sentBy a)] b b₁ b₂ ∧
      a.mac.selectedSlot = 1 ∧ TakesSlot b₂ a.mac.selectedSlot := by
  have heval : ((neighbour joinNetwork { tick := ⟨1280000, false⟩, queues := queuesOpened }
      [messageFor (0, 0), quietPhase]).bind fun s =>
      (joinBehind s.2).map fun t => decide ((s.1.macState.currentState = .mediumAccess ∧
        s.2.powerMode.currentState = .transmit ∧ s.2.mac.selectedSlot = 1) ∧
        (t.1.isFirstNode = false ∧ t.2.1.2 = .success) ∧
        t.2.2.1.macState.nextState = .mediumAccess ∧ t.2.2.1.mac.selectedSlot = 1)) =
      some true := by
    decide +kernel
  obtain ⟨⟨n₀, a⟩, hneighbour, heval⟩ := Option.bind_eq_some_iff.mp heval
  obtain ⟨⟨b, ⟨b₁, ret₁⟩, b₂, ret₂⟩, hjoin, heval⟩ := Option.map_eq_some_iff.mp heval
  obtain ⟨⟨hstate, hmode, hslot⟩, ⟨hjoiner, hret⟩, hnext, htaken⟩ := of_decide_eq_true heval
  obtain rfl : ret₁ = .success := hret
  obtain ⟨hreach, hb⟩ := joinBehind_joins hjoin hjoiner
  exact ⟨n₀, a, b, b₁, b₂, neighbour_inSession hneighbour hstate, hmode, hreach, hb, hslot, hnext,
    htaken.trans hslot.symm⟩

end WmnIot
