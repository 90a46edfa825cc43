import WmnIot.Network.Refinement

/-! # What the nodes of a network agree on

Any number of nodes from `MCLMAC_init` on, making their moves in any order and hearing control packets
that were sent, or missing them. All members of the network have a starting time that a first node
has drawn. They count no hops, and they share two slots.

* **`NetRun`** — the runs of a network.
* **`NetRun.sound`** — what the stations know and tell is sound.
* **`initTime_drawn`**, **`hopCount_hops`** — the starting time and the hop counts.
* **`placed_firstMap`**, **`ten_members_share`** — the places of the members. -/

namespace WmnIot

open Runs Party

variable {ι : Type*} [DecidableEq ι]

/-! ## The runs of a network -/

/-- A station after `MCLMAC_init`, with a node id of its own. -/
def Station.Fresh (s : Station) : Prop :=
  ∃ nodeId timeouts clock queues,
    s = ⟨{ mclmacInit timeouts clock queues with nodeId := nodeId }, false⟩

/-- The nodes start out fresh and make the moves, one after the other. -/
structure NetRun (build : ι → Build) (moves : List (ι × Move)) (net net' : ι → Station) : Prop where
  fresh : ∀ i, (net i).Fresh
  run : moves.foldlM (fun net mv => netStep (fun i => station (build i)) mv net) net = some net'

/-- The starting times that first nodes draw in the moves. -/
def drawnTimes (build : ι → Build) (moves : List (ι × Move)) (net : ι → Station) : Set UInt32 :=
  {time | ∃ t ∈ taken (netStep fun i => station (build i)) moves net, time ∈ t.1.2.drawn (t.2 t.1.1)}

/-- The node is a member of the network. -/
def Station.IsMember (s : Station) : Prop :=
  s.node.macState.currentState = .mediumAccess

/-- A station is sound: it is in step, what it knows and tells is sound, and it has been silent until
a starting time was drawn. -/
structure Station.Sound (times : Set UInt32) (s : Station) : Prop where
  inStep : s.InStep
  member : s.node.member.Sound times
  told : ∀ pkt, .control pkt ∈ s.node.sent → pkt.beacon.Sound times
  silent : s.node.sent ≠ [] → times.Nonempty

variable {build : ι → Build} {moves : List (ι × Move)} {net net' : ι → Station}
  {times : Set UInt32} {s s' : Station}

theorem Station.Fresh.sound (h : s.Fresh) : s.Sound times := by
  obtain ⟨nodeId, timeouts, clock, queues, rfl⟩ := h
  refine ⟨⟨fun _ => .inl ⟨rfl, rfl⟩, fun hloop => (nomatch hloop)⟩, ⟨rfl, .inl rfl, .inl rfl, ?_, ?_,
    ?_⟩, fun pkt hpkt => (nomatch hpkt), fun hsent => absurd rfl hsent⟩
  · rintro (hstate | hstate) <;> cases hstate
  · exact fun hstate => nomatch hstate
  · exact fun hstate => nomatch hstate

/-- A node sends as a member of the network. -/
theorem StationMove.silent {build : Build} {mv : Move} (h : StationMove build mv s s')
    (hsent : s'.node.sent ≠ s.node.sent) : s.IsMember := by
  cases h with
  | turn hstate h =>
    have hsame := h.sent hstate
    exact absurd hsame hsent
  | enter hstate h => exact hstate
  | loop hstate h => exact hstate
  | leave hstate h => exact hstate

/-- **Every move keeps a station sound**, if the control packets it hears tell what is sound. -/
theorem Station.Sound.move {build : Build} {mv : Move} (hs : s.Sound times)
    (hdrawn : mv.drawn s ⊆ times)
    (hheard : ∀ b ∈ mv.heard, (decodeCtrlpkt b).beacon.Sound times)
    (h : Station.move build mv s = some s') : s'.Sound times := by
  obtain ⟨hmove, hstep⟩ := Station.move_cases hs.inStep h
  refine ⟨hstep, hmove.member.sound ?_ hdrawn hs.member, fun pkt hpkt => ?_, fun hsent => ?_⟩
  · rintro b ⟨bytes, htype, hmem, rfl⟩
    exact hheard bytes ⟨htype, hmem⟩
  · rcases hmove.told hpkt with hold | ⟨hstate, hbeacon⟩
    · exact hs.told pkt hold
    · rw [hbeacon]
      exact hs.member.beacon hstate
  · by_cases hsame : s'.node.sent = s.node.sent
    · exact hs.silent (hsame ▸ hsent)
    · exact ⟨_, hs.member.initTime (.inr (hmove.silent hsame))⟩

/-- **Every station of a run is sound.** -/
theorem NetRun.sound (h : NetRun build moves net net') (i : ι) :
    (net' i).Sound (drawnTimes build moves net) := by
  refine net_inv (Station.Sound (drawnTimes build moves net))
    {b | (decodeCtrlpkt b).beacon.Sound (drawnTimes build moves net)}
    (fun mv s => mv.drawn s ⊆ drawnTimes build moves net) ?_ ?_ moves (fun i => (h.fresh i).sound)
    (fun t ht _ htime => ⟨t, ht, htime⟩) h.run i
  · rintro i s hs b ⟨pkt, pad, hpkt, rfl⟩
    show (decodeCtrlpkt _).beacon.Sound _
    rw [beacon_decode_get]
    exact hs.told pkt hpkt
  · intro i mv s s' hs hfits hheard hmove
    exact hs.move hfits (fun b hb => hheard hb) hmove

/-! ### Nodes that hear nothing of each other -/

/-- The moves of a node that joins alone. -/
def aloneMoves : List Move := joinAlone.map Move.turn

/-- The nodes of a list join one after the other, each alone. -/
def eachAlone (l : List ι) : List (ι × Move) := l.flatMap fun i => aloneMoves.map fun mv => (i, mv)

theorem heard_aloneMoves : ∀ mv ∈ aloneMoves, mv.heard = ∅ := by
  intro mv hmv
  obtain ⟨inp, hinp, rfl⟩ := List.mem_map.mp hmv
  refine heard_of_lost ?_
  fin_cases hinp <;> rfl

theorem eachAlone_run (l : List ι) (hl : l.Nodup) :
    ∃ net' : ι → Station, NetRun (fun _ => ⟨.linux, true⟩) (eachAlone l) (fun _ => ⟨newNode, false⟩) net' ∧
      ∀ i ∈ l, (net' i).IsMember := by
  have heval : (aloneMoves.foldlM (fun s mv => Station.move ⟨.linux, true⟩ mv s) ⟨newNode, false⟩).map
      (fun s => s.node.macState.currentState) = some .mediumAccess := by
    decide +kernel
  obtain ⟨s, hrun, hstate⟩ := Option.map_eq_some_iff.mp heval
  have hfresh : (⟨newNode, false⟩ : Station).Fresh := ⟨Config.uuid, fun _ => {}, 0, initQueues, rfl⟩
  refine ⟨_, ⟨fun _ => hfresh, netStep_each_alone aloneMoves (fun _ => heard_aloneMoves)
    (fun _ => hrun) hl fun _ _ => rfl⟩, fun i hi => ?_⟩
  rw [if_pos hi]
  exact hstate

/-! ### A node that hears the first one -/

/-- A node founds a network, and sends its control packet when its slot comes round again. -/
def foundingMoves : List Move :=
  let founds : DriverInput := { tick := ⟨Config.detectionTime, false⟩, mac := { time := 1000 } }
  let session : List PmInput :=
    (List.range' 13 16).flatMap quietSlot ++ [{ transmit := [⟨30 * 80000, true⟩] }]
  (joinAlone.set 2 founds).map Move.turn ++
    .enter { tick := ⟨Config.detectionTime, false⟩ } :: session.map Move.loop

/-- The first of the control packets that were sent. -/
def sentCtrlpkt (sent : List Transmission) : Option ControlPacket :=
  sent.findSome? fun t =>
    match t with
    | .control pkt => some pkt
    | _ => none

theorem mem_of_sentCtrlpkt {sent : List Transmission} {pkt : ControlPacket}
    (h : sentCtrlpkt sent = some pkt) : .control pkt ∈ sent := by
  obtain ⟨t, ht, hpkt⟩ := List.exists_of_findSome?_eq_some h
  cases t with
  | control pkt' =>
    obtain rfl := Option.some.inj hpkt
    exact ht
  | cf _ => cases hpkt
  | data _ => cases hpkt

/-- Two new nodes. -/
def newPair (i : Fin 2) : Station :=
  ⟨{ newNode with nodeId := if i = 0 then (0, 1) else (0, 2) }, false⟩

/-- The first of them founds a network, and the second one hears this packet. -/
def joinMoves (pkt : ControlPacket) : List (Fin 2 × Move) :=
  foundingMoves.map (fun mv => (0, mv)) ++
    ((joinHearing (controlpacketGetPacketBytestring pkt 0)).map Move.turn).map fun mv => (1, mv)

/-- **A node joins behind the first one**, whose control packet it has heard. -/
theorem joinMoves_run :
    ∃ pkt net', NetRun (fun _ => ⟨.linux, true⟩) (joinMoves pkt) newPair net' ∧
      .control pkt ∈ (net' 0).node.sent ∧ (net' 1).node.isFirstNode = false ∧
      ∀ i, (net' i).IsMember := by
  have heval : (foundingMoves.foldlM (fun s mv => Station.move ⟨.linux, true⟩ mv s) (newPair 0)).bind
      (fun s => (sentCtrlpkt s.node.sent).bind fun pkt =>
        (((joinHearing (controlpacketGetPacketBytestring pkt 0)).map Move.turn).foldlM
          (fun s mv => Station.move ⟨.linux, true⟩ mv s) (newPair 1)).map fun t =>
            (s.node.macState.currentState, t.node.macState.currentState, t.node.isFirstNode)) =
      some (.mediumAccess, .mediumAccess, false) := by
    decide +kernel
  obtain ⟨s, hfounds, heval⟩ := Option.bind_eq_some_iff.mp heval
  obtain ⟨pkt, hpkt, heval⟩ := Option.bind_eq_some_iff.mp heval
  obtain ⟨t, hjoins, heval⟩ := Option.map_eq_some_iff.mp heval
  simp only [Prod.mk.injEq] at heval
  obtain ⟨hs, ht, hfirst⟩ := heval
  have hquiet : foundingMoves.all fun mv => mv.radio.all CtrlRadio.isLost := by decide +kernel
  have hfounded : (foundingMoves.map fun mv => ((0 : Fin 2), mv)).foldlM
      (fun net mv => netStep (fun _ => station ⟨.linux, true⟩) mv net) newPair =
        some (Function.update newPair 0 s) := by
    refine netStep_one foundingMoves (fun mv hmv m hm => ?_) hfounds
    have hnothing : mv.heard = ∅ := heard_of_lost (List.all_eq_true.mp hquiet mv hmv)
    have hm : m ∈ mv.heard := hm
    rw [hnothing] at hm
    exact absurd hm (Set.notMem_empty m)
  have hair : controlpacketGetPacketBytestring pkt 0 ∈ (Function.update newPair 0 s 0).node.onAir := by
    rw [Function.update_self]
    exact ⟨pkt, 0, mem_of_sentCtrlpkt hpkt, rfl⟩
  have hjoined : (((joinHearing (controlpacketGetPacketBytestring pkt 0)).map Move.turn).map
      fun mv => ((1 : Fin 2), mv)).foldlM
      (fun net mv => netStep (fun _ => station ⟨.linux, true⟩) mv net) (Function.update newPair 0 s) =
        some (Function.update (Function.update newPair 0 s) 1 t) := by
    refine netStep_one _ (fun mv hmv m hm => ⟨0, by decide, ?_⟩) hjoins
    -- what is heard in `SYNCHRONIZATION` is the packet, and nothing is heard elsewhere
    obtain ⟨inp, hinp, rfl⟩ := List.mem_map.mp hmv
    have hradio : CtrlRadio.heard m ∈ (Move.turn inp).radio := hm.2
    simp only [joinHearing, othersDetected, List.cons_append, List.nil_append, List.mem_cons,
      List.not_mem_nil, or_false] at hinp
    rcases hinp with rfl | rfl | rfl | rfl
    · cases hradio
    · cases hradio
    · obtain rfl := CtrlRadio.heard.inj (List.mem_singleton.mp hradio)
      exact hair
    · cases hradio
  have hrun : NetRun (fun _ => ⟨.linux, true⟩) (joinMoves pkt) newPair
      (Function.update (Function.update newPair 0 s) 1 t) := by
    refine ⟨fun i => ⟨_, fun _ => {}, 0, initQueues, rfl⟩, ?_⟩
    rw [joinMoves, List.foldlM_append, hfounded]
    exact hjoined
  refine ⟨pkt, _, hrun, mem_of_sentCtrlpkt hpkt, ?_, fun i => ?_⟩
  · rw [Function.update_self]
    exact hfirst
  · fin_cases i
    · exact hs
    · exact ht

/-! ## The starting time -/

/-- **The starting time of the network**: in every run of any number of nodes, each member has a
starting time that a first node has drawn, so all agree if only one is drawn; and before that nobody
sends. -/
theorem initTime_drawn (h : NetRun build moves net net') :
    (∀ i, (net' i).IsMember → (net' i).node.initTime ∈ drawnTimes build moves net) ∧
      ((drawnTimes build moves net).Subsingleton → ∀ i j, (net' i).IsMember → (net' j).IsMember →
        (net' i).node.initTime = (net' j).node.initTime) ∧
      ∀ i, (net' i).node.sent ≠ [] → (drawnTimes build moves net).Nonempty := by
  have hdrawn : ∀ i, (net' i).IsMember → (net' i).node.initTime ∈ drawnTimes build moves net :=
    fun i hi => (h.sound i).member.initTime (.inr hi)
  exact ⟨hdrawn, fun hone i j hi hj => hone (hdrawn i hi) (hdrawn j hj), fun i => (h.sound i).silent⟩

/-- A first node and one that has heard it have the starting time of the first one. -/
theorem initTime_drawn_joined :
    ∃ pkt net', NetRun (fun _ => ⟨.linux, true⟩) (joinMoves pkt) newPair net' ∧
      (net' 1).node.isFirstNode = false ∧ ∀ i, (net' i).IsMember ∧ (net' i).node.initTime ∈
        drawnTimes (fun _ => ⟨.linux, true⟩) (joinMoves pkt) newPair := by
  obtain ⟨pkt, net', hrun, -, hfirst, hmembers⟩ := joinMoves_run
  exact ⟨pkt, net', hrun, hfirst, fun i =>
    ⟨hmembers i, (initTime_drawn hrun).1 i (hmembers i)⟩⟩

/-! ## The hop counts -/

/-- **Hops are not counted**: in every run of any number of nodes, the hop count of every node, and of
every control packet on the air, is 0, 255 or 65535. -/
theorem hopCount_hops (h : NetRun build moves net net') (i : ι) :
    (net' i).node.hopCount ∈ Hops ∧
      ∀ pkt, .control pkt ∈ (net' i).node.sent → pkt.hopCount ∈ Hops :=
  ⟨(h.sound i).member.hopCount, fun pkt hpkt => ((h.sound i).told pkt hpkt).hopCount⟩

/-- A first node and one that has heard it. -/
theorem hopCount_hops_joined :
    ∃ pkt net', NetRun (fun _ => ⟨.linux, true⟩) (joinMoves pkt) newPair net' ∧
      (net' 1).node.isFirstNode = false ∧
      ∀ i, (net' i).IsMember ∧ (net' i).node.hopCount ∈ Hops := by
  obtain ⟨pkt, net', hrun, -, hfirst, hmembers⟩ := joinMoves_run
  exact ⟨pkt, net', hrun, hfirst, fun i => ⟨hmembers i, (hopCount_hops hrun i).1⟩⟩

/-! ## The places of the members -/

/-- **The places of the members**: in every run of any number of nodes, each member has slot 0 and the
first channel, or slot 1 and some channel, and it knows of no place but that of the first node. -/
theorem placed_firstMap (h : NetRun build moves net net') (i : ι) (hi : (net' i).IsMember) :
    (net' i).node.member.Placed ∧ (net' i).node.occupiedFrequenciesSlots = firstMap :=
  ((h.sound i).member.settled hi).symm

/-- A first node and one that has heard it. -/
theorem placed_firstMap_joined :
    ∃ pkt net', NetRun (fun _ => ⟨.linux, true⟩) (joinMoves pkt) newPair net' ∧
      (net' 1).node.isFirstNode = false ∧ ∀ i, (net' i).node.member.Placed ∧
        (net' i).node.occupiedFrequenciesSlots = firstMap := by
  obtain ⟨pkt, net', hrun, -, hfirst, hmembers⟩ := joinMoves_run
  exact ⟨pkt, net', hrun, hfirst, fun i => placed_firstMap hrun i (hmembers i)⟩

/-- The places that members can have. -/
def memberPlaces : Finset (UInt8 × UInt32) :=
  insert (0, Config.frequencies 0) (Finset.univ.image fun k => (1, Config.frequencies k))

theorem card_memberPlaces : memberPlaces.card = 9 := by decide

theorem Member.Placed.mem {m : Member} (h : m.Placed) : (m.slot, m.channel) ∈ memberPlaces := by
  rw [memberPlaces, Finset.mem_insert, Finset.mem_image]
  rcases h with ⟨hslot, hchannel⟩ | ⟨hslot, k, hchannel⟩
  · exact .inl (Prod.ext hslot hchannel)
  · exact .inr ⟨k, Finset.mem_univ k, Prod.ext hslot.symm hchannel.symm⟩

/-- **Ten members are too many**: in every run of any number of nodes, of any ten members two have the
same slot and the same channel. -/
theorem ten_members_share (h : NetRun build moves net net') (members : Finset ι)
    (hmembers : ∀ i ∈ members, (net' i).IsMember) (hten : 9 < members.card) :
    ∃ i ∈ members, ∃ j ∈ members, i ≠ j ∧
      (net' i).node.mac.selectedSlot = (net' j).node.mac.selectedSlot ∧
      (net' i).node.mac.transmitChannel = (net' j).node.mac.transmitChannel := by
  have hmaps : ∀ i ∈ members, ((net' i).node.mac.selectedSlot, (net' i).node.mac.transmitChannel) ∈
      memberPlaces := fun i hi => ((h.sound i).member.settled (hmembers i hi)).2.mem
  obtain ⟨i, hi, j, hj, hne, hplace⟩ :=
    Finset.exists_ne_map_eq_of_card_lt_of_maps_to (card_memberPlaces.trans_lt hten) hmaps
  exact ⟨i, hi, j, hj, hne, congrArg Prod.fst hplace, congrArg Prod.snd hplace⟩

/-- Ten nodes that join alone. -/
theorem ten_members_share_alone :
    ∃ net' : Fin 10 → Station, (∀ i, (net' i).IsMember) ∧ ∃ i j, i ≠ j ∧
      (net' i).node.mac.selectedSlot = (net' j).node.mac.selectedSlot ∧
      (net' i).node.mac.transmitChannel = (net' j).node.mac.transmitChannel := by
  obtain ⟨net', hrun, hmembers⟩ := eachAlone_run (List.finRange 10) (List.nodup_finRange 10)
  have hall : ∀ i, (net' i).IsMember := fun i => hmembers i (List.mem_finRange i)
  obtain ⟨i, -, j, -, hshare⟩ := ten_members_share hrun Finset.univ (fun i _ => hall i) (by decide)
  exact ⟨net', hall, i, j, hshare⟩

end WmnIot
