import WmnIot.Joining.Aggregation
import WmnIot.Driver.Emissions
import WmnIot.Network.Membership
import WmnIot.Network.Stations

/-! # Stations as members

Every move of a station is a step of membership, in which it hears the beacons in the control packets
of the move, and the control packets it sends tell what it knows.

* **`Node.member`**, **`beaconsIn`** — the node as a member, and the beacons it hears.
* **`heardPackets_mem`** — a joining node knows no packets but those it has heard.
* **`StationMove.member`** — the steps.
* **`StationMove.told`** — what a station has told. -/

namespace WmnIot

open Runs

variable {build : Build} {n n' : Node}

/-! ## Beacons -/

/-- What the packet tells. -/
def ControlPacket.beacon (pkt : ControlPacket) : Beacon :=
  ⟨pkt.hopCount, pkt.occupiedSlots, pkt.initTime⟩

/-- The codec keeps what a packet tells. -/
theorem beacon_decode_get (pkt : ControlPacket) (pad : UInt8) :
    (decodeCtrlpkt (controlpacketGetPacketBytestring pkt pad)).beacon = pkt.beacon := by
  rw [decodeCtrlpkt, construct_get pkt controlpacketClear pad rfl]
  rfl

/-- The beacons in what the radio hears. -/
def beaconsIn (radios : List CtrlRadio) : Set Beacon :=
  {b | ∃ bytes, bytes 0 = 1 ∧ CtrlRadio.heard bytes ∈ radios ∧ b = (decodeCtrlpkt bytes).beacon}

/-- The node as a member of a network. -/
def Node.member (n : Node) : Member where
  state := n.macState.currentState
  isFirst := n.isFirstNode
  hopCount := n.hopCount
  occupied := n.occupiedFrequenciesSlots
  initTime := n.initTime
  slot := n.mac.selectedSlot
  channel := n.mac.transmitChannel
  frequencies := n.frequencies

theorem beacon_reportOf (n : Node) : (reportOf n).beacon = n.member.beacon := rfl

/-! ## What is heard when joining -/

theorem receiveWithin_heard {radio : CtrlRadio} {b : ByteString}
    (h : (receiveWithin build radio n).2 = some b) : radio = .heard b := by
  unfold receiveWithin at h
  by_cases hset : (n.setTimeout build (n.mac.frame.slotDuration / 20)).2 = Config.timeoutSetError
  · simp [hset] at h
  · rcases radio with (_ | _) | bytes <;> simp [hset] at h
    rw [h]

/-- A control packet is heard as it is on the air; on Linux none is. -/
theorem mclmacReceiveCtrlpktSync_heard {radio : CtrlRadio} {b : ByteString}
    (h : (mclmacReceiveCtrlpktSync build radio n).2 = some b) :
    radio = .heard b ∧ b 0 = 1 := by
  unfold mclmacReceiveCtrlpktSync at h
  obtain ⟨h, htype⟩ := Option.filter_eq_some_iff.mp h
  have htype : b 0 = 1 := by simpa using htype
  refine ⟨?_, htype⟩
  by_cases hnative : build.native = true
  · rw [if_pos hnative] at h
    rcases radio with timedOut | bytes
    · exact nomatch h
    · exact congrArg _ (Option.some.inj h)
  · rw [if_neg hnative] at h
    cases hos : build.os with
    | linux =>
      rw [hos] at h
      rw [← Option.some.inj h] at htype
      exact absurd htype (by decide)
    | riot =>
      rw [hos] at h
      exact receiveWithin_heard h

theorem listenCtrlpkt_heard {count : ℕ} {attempts : List CtrlRadio} {b : ByteString}
    (h : listenCtrlpkt build count attempts n = .ok (n', some b)) :
    CtrlRadio.heard b ∈ attempts ∧ b 0 = 1 := by
  induction count generalizing attempts n with
  | zero => cases h
  | succ count ih =>
    cases attempts with
    | nil => cases h
    | cons radio attempts =>
      rw [listenCtrlpkt] at h
      have hradio : (mclmacReceiveCtrlpktSync build radio n).2 = some b → radio = .heard b ∧ b 0 = 1 :=
        mclmacReceiveCtrlpktSync_heard
      generalize mclmacReceiveCtrlpktSync build radio n = received at h hradio
      obtain ⟨m, _ | bytes⟩ := received
      · obtain ⟨hmem, htype⟩ := ih h
        exact ⟨List.mem_cons_of_mem _ hmem, htype⟩
      · cases h
        obtain ⟨rfl, htype⟩ := hradio rfl
        exact ⟨List.mem_cons_self, htype⟩

theorem loopPackets_heard {polls : List SyncPoll} {s : Node × SyncLocals} :
    ∀ pkt ∈ loopPackets build polls s, pkt.beacon ∈ beaconsIn (polls.map SyncPoll.radio) := by
  induction polls generalizing s with
  | nil => exact fun pkt hpkt => nomatch hpkt
  | cons p polls ih =>
    intro pkt hpkt
    rw [loopPackets, List.mem_append] at hpkt
    rcases hpkt with hpkt | hpkt
    · rw [Option.mem_toList, packetOf, Option.map_eq_some_iff] at hpkt
      obtain ⟨b, hb, rfl⟩ := hpkt
      obtain ⟨hradio, htype⟩ := mclmacReceiveCtrlpktSync_heard hb
      exact ⟨b, htype, by rw [List.map_cons, hradio]; exact List.mem_cons_self, rfl⟩
    · split at hpkt
      · obtain ⟨b, htype, hmem, hb⟩ := ih pkt hpkt
        exact ⟨b, htype, List.mem_cons_of_mem _ hmem, hb⟩
      · cases hpkt

/-- **A joining node knows no packets but those it has heard.** -/
theorem heardPackets_mem {attempts : List CtrlRadio} {polls : List SyncPoll} {first : ControlPacket}
    {rest : List ControlPacket}
    (h : heardPackets build attempts polls n = some (first, rest)) :
    ∀ pkt ∈ first :: rest, pkt.beacon ∈ beaconsIn (attempts ++ polls.map SyncPoll.radio) := by
  unfold heardPackets at h
  split at h
  · next m b hlisten =>
    obtain ⟨hmem, htype⟩ := listenCtrlpkt_heard hlisten
    split at h
    · cases h
      intro pkt hpkt
      rcases List.mem_cons.mp hpkt with rfl | hpkt
      · exact ⟨b, htype, List.mem_append_left _ hmem, rfl⟩
      · split at hpkt
        · obtain ⟨b', htype', hmem', hb'⟩ := loopPackets_heard pkt hpkt
          exact ⟨b', htype', List.mem_append_right _ hmem', hb'⟩
        · cases hpkt
    · cases h
  · cases h

/-! ## The steps -/

/-- The starting time that a first node draws. -/
def drawnBy (inp : MacInput) (n : Node) : Set UInt32 :=
  {time | n.macState.currentState = .synchronization ∧ n.isFirstNode = true ∧ time = inp.time}

theorem foldl_merge_beacons (pkts : List ControlPacket) (g : Gathered) :
    (pkts.foldl Gathered.merge g).hopCount =
        (pkts.map ControlPacket.beacon).foldl leastHops g.hopCount ∧
      (pkts.foldl Gathered.merge g).occupied =
        (pkts.map ControlPacket.beacon).foldl joinMaps g.occupied := by
  induction pkts generalizing g with
  | nil => exact ⟨rfl, rfl⟩
  | cons pkt pkts ih => exact ih (g.merge pkt)

/-- The node as a member, from what it has gathered and from its setup. -/
theorem member_of_setup {m : Node} (hsetup : m.setup = n.setup)
    (hfirst : m.isFirstNode = n.isFirstNode) :
    m.member = { n.member with
      hopCount := m.gathered.hopCount
      occupied := m.gathered.occupied
      initTime := m.gathered.initTime } := by
  have hmac : m.mac = n.mac := congrArg Setup.mac hsetup
  have hstate : m.macState.currentState = n.macState.currentState :=
    congrArg Setup.currentState hsetup
  have hfrequencies : m.frequencies = n.frequencies := congrArg Setup.frequencies hsetup
  simp [Node.member, Node.gathered, hmac, hstate, hfrequencies, hfirst]

/-- A failed execution of `SYNCHRONIZATION` has heard nothing, or could not arm its timers after the
first packet. -/
theorem executeSynchronization_failed {time : UInt32} {attempts : List CtrlRadio}
    {polls : List SyncPoll} (hfirst : n.isFirstNode = false)
    (h : executeSynchronization build time attempts polls n = .ok (n', .failed)) :
    n'.gathered = { n.gathered with hopCount := 0xffff, networkTime := 0 } ∨
      ∃ b, CtrlRadio.heard b ∈ attempts ∧ b 0 = 1 ∧
        n'.gathered = Gathered.first (decodeCtrlpkt b) := by
  rcases executeSynchronization_cases hfirst h with ⟨hlisten, -⟩ | ⟨n₁, b, hlisten, hjoin⟩
  · obtain ⟨_, rfl⟩ := listenCtrlpkt_frame hlisten
    exact .inl rfl
  · obtain ⟨hmem, htype⟩ := listenCtrlpkt_heard hlisten
    obtain ⟨_, rfl⟩ := listenCtrlpkt_frame hlisten
    obtain ⟨m, s, hadopt, harm, ⟨-, -, rfl⟩ | ⟨-, -, hret, -⟩⟩ := joinFrom_cases hjoin
    · refine .inr ⟨b, hmem, htype, ?_⟩
      obtain ⟨_, hframe⟩ := armSyncTimers_frame build (decodeCtrlpkt b) m
      rw [← harm, hframe]
      show m.gathered = _
      rw [adoptCtrlpkt_gathered hadopt]
      rfl
    · cases hret

/-- **`SYNCHRONIZATION`** as a step of membership. -/
theorem executeSynchronization_member {inp : MacInput} {ret : MacExecution}
    (hstate : n.macState.currentState = .synchronization)
    (h : executeSynchronization build inp.time inp.attempts inp.syncPolls n = .ok (n', ret)) :
    MemberStep (beaconsIn (inp.attempts ++ inp.syncPolls.map SyncPoll.radio)) (drawnBy inp n) n.member
      (if ret = .success then enterNextState n' else n').member := by
  obtain ⟨hsetup, hfirst', hret⟩ := executeSynchronization_setup h
  cases hfirst : n.isFirstNode with
  | true =>
    unfold executeSynchronization at h
    rw [if_pos hfirst] at h
    cases h
    have hfound : (enterNextState (mclmacSetNextMACState { n with initTime := inp.time, hopCount := 0 }
        .timeslotAndChannelSelection)).member = { n.member with
          state := .timeslotAndChannelSelection, hopCount := 0, initTime := inp.time } := rfl
    rw [if_pos rfl, hfound]
    exact .found hfirst ⟨hstate, hfirst, rfl⟩
  | false =>
    have hmember := member_of_setup hsetup hfirst'
    -- with a packet heard the node joins; without one it stays or gives up
    rcases hret with ⟨rfl, hnext⟩ | ⟨rfl, -⟩
    · obtain ⟨first, rest, hheard, hgathered⟩ := executeSynchronization_gathered hfirst h
      obtain ⟨hhops, hmap⟩ := foldl_merge_beacons rest (Gathered.first first)
      have hjoin : (enterNextState n').member = { n.member with
          state := .timeslotAndChannelSelection
          hopCount := (rest.map ControlPacket.beacon).foldl leastHops 0xffff
          occupied := (rest.map ControlPacket.beacon).foldl joinMaps first.beacon.occupied
          initTime := first.beacon.initTime } := by
        have hstate' : (enterNextState n').member =
            { n'.member with state := n'.macState.nextState } := rfl
        rw [hstate', hnext, hmember, hgathered, hhops, hmap,
          (foldl_merge_times rest (Gathered.first first)).2]
        rfl
      rw [if_pos rfl, hjoin]
      refine .join hfirst fun b hb => ?_
      rw [← List.map_cons, List.mem_map] at hb
      obtain ⟨pkt, hpkt, rfl⟩ := hb
      exact heardPackets_mem hheard pkt hpkt
    · rw [if_neg (by decide), hmember]
      rcases executeSynchronization_failed hfirst h with hgathered | ⟨b, hmem, htype, hgathered⟩
      · rw [hgathered]
        exact .silence hstate
      · rw [hgathered]
        exact .giveUp (b := (decodeCtrlpkt b).beacon) hstate
          ⟨b, htype, List.mem_append_left _ hmem, rfl⟩

/-- **A turn of the driver outside `MEDIUM_ACCESS`** as a step of membership. -/
theorem MacTurn.member {inp : MacInput} (h : MacTurn build inp n n')
    (hmedium : n.macState.currentState ≠ .mediumAccess) :
    MemberStep (beaconsIn (inp.attempts ++ inp.syncPolls.map SyncPoll.radio)) (drawnBy inp n) n.member
      n'.member := by
  cases h with
  | start _ h =>
    obtain ⟨-, _, rfl⟩ := executeStart_cases h
    exact .search (.inl rfl)
  | initialization _ h =>
    obtain ⟨-, _, _, _, rfl⟩ := executeInitialization_cases h
    exact .search (.inr rfl)
  | synchronization hstate h =>
    have hstep := executeSynchronization_member hstate h
    rwa [if_pos rfl] at hstep
  | unsynchronized hstate h =>
    have hstep := executeSynchronization_member hstate h
    rwa [if_neg (by decide)] at hstep
  | selection hstate h =>
    rcases executeTimeslotAndChannelSelection_cases h with ⟨hfirst, -, rfl⟩ | ⟨-, hret, -⟩ |
      ⟨hfirst, -, _, _, i, j, k, hfree, rfl⟩ | ⟨-, -, -, _, _, rfl⟩
    · exact .settleFirst hstate hfirst
    · cases hret
    · exact .settle (i := i) (j := j) (k := k) hstate hfirst hfree
    · exact .search (.inr rfl)
  | noFrameTimer hstate h =>
    rcases executeTimeslotAndChannelSelection_cases h with ⟨-, hret, -⟩ | ⟨-, -, _, rfl⟩ |
      ⟨-, hret, -⟩ | ⟨-, hret, -⟩
    · cases hret
    · exact .stay
    · cases hret
    · cases hret
  | mediumAccess hstate _ => exact absurd hstate hmedium

/-- What a member keeps in the loop of `MEDIUM_ACCESS`. -/
theorem member_of_standing {m : Node} (h : m.standing = n.standing) :
    m.member = { n.member with isFirst := m.isFirstNode } := by
  have hstate := congrArg (fun s => s.macState.currentState) h
  have hhops := congrArg Standing.hopCount h
  have hmap := congrArg Standing.occupiedFrequenciesSlots h
  have hinit := congrArg Standing.initTime h
  have hslot := congrArg Standing.selectedSlot h
  have hchannel := congrArg Standing.transmitChannel h
  have hfrequencies := congrArg Standing.frequencies h
  simp only [Node.standing] at hstate hhops hmap hinit hslot hchannel hfrequencies
  simp [Node.member, hstate, hhops, hmap, hinit, hslot, hchannel, hfrequencies]

/-- The starting time that is drawn in a move. -/
def Move.drawn (mv : Move) (s : Station) : Set UInt32 :=
  match mv with
  | .turn inp => drawnBy inp.mac s.node
  | _ => ∅

/-- **Every move of a station is a step of membership.** -/
theorem StationMove.member {mv : Move} {s s' : Station} (h : StationMove build mv s s') :
    MemberStep (beaconsIn mv.radio) (mv.drawn s) s.node.member s'.node.member := by
  cases h with
  | turn hstate h => exact h.member hstate
  | enter hstate h =>
    rw [enterMediumAccess_cases h]
    exact .stay
  | @loop inp n n' hstate h =>
    show MemberStep _ _ n.member n'.member
    rw [member_of_standing h.standing]
    exact .notAlone hstate
  | @leave inp last n m err hstate h =>
    have hstanding := h.standing
    have hmember : (enterNextState (executeFinishp (mclmacSetPowermodeState m .finishp))).member =
        { n.member with state := m.macState.nextState, isFirst := m.isFirstNode } := by
      have hstate : (enterNextState (executeFinishp (mclmacSetPowermodeState m .finishp))).member =
          { m.member with state := m.macState.nextState } := rfl
      have hleft : m.standing = { n with macState := { n.macState with
          nextState := m.macState.nextState } }.standing := hstanding
      rw [hstate, member_of_standing hleft]
      rfl
    show MemberStep _ _ n.member _
    rw [hmember]
    rcases h.nextMacState with ⟨-, hnext⟩ | ⟨-, hnext⟩ <;> rw [hnext]
    · exact .search (.inr rfl)
    · exact .search (.inl rfl)

/-- **What a station has told** after a move, it had told before, or it is a member and tells what it
knows. -/
theorem StationMove.told {mv : Move} {s s' : Station} (h : StationMove build mv s s')
    {pkt : ControlPacket} (hpkt : .control pkt ∈ s'.node.sent) :
    .control pkt ∈ s.node.sent ∨
      (s.node.macState.currentState = .mediumAccess ∧ pkt.beacon = s.node.member.beacon) := by
  have hframes : ∀ {n m : Node}, Emits (IsMemberFrame n) n m → .control pkt ∈ m.sent →
      .control pkt ∈ n.sent ∨ pkt.beacon = n.member.beacon := by
    intro n m hemits hmem
    refine (hemits.mem hmem).imp_right ?_
    rintro (⟨_, hcf⟩ | hcontrol | ⟨_, hdata⟩)
    · cases hcf
    · cases hcontrol
      exact beacon_reportOf n
    · cases hdata
  cases h with
  | turn hstate h =>
    have hsent : _ = _ := h.sent hstate
    rw [hsent] at hpkt
    exact .inl hpkt
  | enter hstate h =>
    rw [enterMediumAccess_cases h] at hpkt
    exact .inl hpkt
  | loop hstate h => exact (hframes h.emits hpkt).imp_right fun hb => ⟨hstate, hb⟩
  | leave hstate h => exact (hframes h.emits hpkt).imp_right fun hb => ⟨hstate, hb⟩

end WmnIot
