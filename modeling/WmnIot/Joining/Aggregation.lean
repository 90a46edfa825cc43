import WmnIot.Joining.Frames

/-! # What a joining node gathers from the packets it hears

`SYNCHRONIZATION` adopts the network time, the starting time and the slot map of the first control
packet, and merges the slot maps and the hop counts of those it hears in its listening loop. The
hop count of the first packet is left out, and those of the others are read into a byte.

* **`Gathered`**, **`Gathered.merge`** — what is gathered, and a turn of the loop on it.
* **`loopPackets`**, **`heardPackets`** — the packets of an execution.
* **`aggregatesAll_iff`** — when the hop count is that of all packets; the rest always is. -/

namespace WmnIot

open Runs

variable {build : Build} {n n' : Node}

/-! ## Gathering -/

/-- What a joining node knows of the network from the packets it has heard. -/
structure Gathered where
  hopCount : UInt16
  occupied : SlotMap
  networkTime : UInt64
  initTime : UInt32

/-- What the node has gathered. -/
def Node.gathered (n : Node) : Gathered :=
  ⟨n.hopCount, n.occupiedFrequenciesSlots, n.networkTime, n.initTime⟩

/-- What a packet of the listening loop adds. -/
def Gathered.merge (g : Gathered) (pkt : ControlPacket) : Gathered :=
  { g with
    hopCount :=
      if pkt.hopCount.toUInt8.toUInt16 < g.hopCount then pkt.hopCount.toUInt8.toUInt16
      else g.hopCount
    occupied := fun i j => g.occupied i j ||| pkt.occupiedSlots i j }

/-- The control packet heard in a turn of the listening loop, if there is one. -/
def packetOf (build : Build) (p : SyncPoll) (n : Node) : Option ControlPacket :=
  (mclmacReceiveCtrlpktSync build p.radio n).2.map decodeCtrlpkt

/-- The control packets heard in the listening loop, in order. -/
def loopPackets (build : Build) : List SyncPoll → Node × SyncLocals → List ControlPacket
  | [], _ => []
  | p :: polls, s =>
    (packetOf build p s.1).toList ++
      match syncPoll build p s with
      | .ok (s', true) => loopPackets build polls s'
      | _ => []

/-- The control packets heard in an execution of `SYNCHRONIZATION`: the first one, and those of the
listening loop. -/
def heardPackets (build : Build) (attempts : List CtrlRadio) (polls : List SyncPoll) (n : Node) :
    Option (ControlPacket × List ControlPacket) :=
  match listenCtrlpkt build 11 attempts (beginListening n) with
  | .ok (m, some b) =>
    match adoptCtrlpkt m (decodeCtrlpkt b) with
    | .ok m =>
      let s := armSyncTimers build (decodeCtrlpkt b) m
      some (decodeCtrlpkt b, if stillListening s.1 s.2 then loopPackets build polls s else [])
    | .error _ => none
  | _ => none

/-! ### A turn and the whole loop -/

theorem gathered_pollSyncSlot (build : Build) (tick : Tick) (n : Node) (l : SyncLocals) :
    (pollSyncSlot build tick n l).1.gathered = n.gathered := by
  unfold pollSyncSlot
  dsimp only
  split <;> rfl

theorem gathered_pollSyncFrame (build : Build) (tick : Tick) (n : Node) (l : SyncLocals) :
    (pollSyncFrame build tick n l).1.gathered = n.gathered := by
  unfold pollSyncFrame
  dsimp only
  split <;> rfl

/-- **A turn of the listening loop** merges the packet it hears. -/
theorem syncPoll_gathered {p : SyncPoll} {s s' : Node × SyncLocals} {go : Bool}
    (h : syncPoll build p s = .ok (s', go)) :
    s'.1.gathered = (packetOf build p s.1).toList.foldl Gathered.merge s.1.gathered := by
  obtain ⟨n, l⟩ := s
  obtain ⟨m, hm, rfl, -⟩ := syncPoll_cases h
  obtain ⟨timeouts, hframe⟩ := mclmacReceiveCtrlpktSync_frame build p.radio n
  rw [gathered_pollSyncFrame, gathered_pollSyncSlot, packetOf]
  rcases hm with hm | ⟨n₁, b, hm, hmark⟩
  · rw [hm] at hframe ⊢
    rw [show m = _ from hframe]
    rfl
  · rw [hm] at hframe ⊢
    obtain ⟨_, rfl⟩ := markSelectedSlot_frame hmark
    rw [show n₁ = _ from hframe]
    rfl

/-- **The listening loop** merges the packets it hears, one after the other. -/
theorem syncLoop_gathered {polls : List SyncPoll} {s s' : Node × SyncLocals}
    (h : pollLoop .polling (syncPoll build) polls s = .ok s') :
    s'.1.gathered = (loopPackets build polls s).foldl Gathered.merge s.1.gathered := by
  induction polls generalizing s with
  | nil => cases h
  | cons p polls ih =>
    rw [pollLoop] at h
    rw [loopPackets, List.foldl_append]
    split at h
    · cases h
    · next t hturn =>
      rw [hturn, ← syncPoll_gathered hturn]
      exact ih h
    · next t hturn =>
      cases h
      rw [hturn, ← syncPoll_gathered hturn]
      rfl

/-- What the first packet gives. -/
def Gathered.first (pkt : ControlPacket) : Gathered where
  hopCount := 0xffff
  occupied := pkt.occupiedSlots
  networkTime := pkt.networkTime
  initTime := pkt.initTime

theorem adoptCtrlpkt_gathered {pkt : ControlPacket} (h : adoptCtrlpkt n pkt = .ok n') :
    n'.gathered = { Gathered.first pkt with hopCount := n.hopCount } := by
  obtain ⟨m, hmark, h⟩ := bind_eq_ok.mp h
  cases h
  obtain ⟨_, rfl⟩ := markSelectedSlot_frame hmark
  rfl

/-- **A successful execution of `SYNCHRONIZATION`** has gathered what the packets say, the first one
first. -/
theorem executeSynchronization_gathered {time : UInt32} {attempts : List CtrlRadio}
    {polls : List SyncPoll} (hfirst : n.isFirstNode = false)
    (h : executeSynchronization build time attempts polls n = .ok (n', .success)) :
    ∃ first rest, heardPackets build attempts polls n = some (first, rest) ∧
      n'.gathered = rest.foldl Gathered.merge (Gathered.first first) := by
  rcases executeSynchronization_cases hfirst h with ⟨-, hret⟩ | ⟨n₁, b, hlisten, hjoin⟩
  · cases hret
  obtain ⟨m, s, hadopt, harm, hcases⟩ := joinFrom_cases hjoin
  rcases hcases with ⟨-, hret, -⟩ | ⟨-, -, -, s', hloop, rfl⟩
  · cases hret
  -- setting the timers leaves what the first packet said
  have hs : s.1.gathered = Gathered.first (decodeCtrlpkt b) := by
    obtain ⟨timeouts, hframe⟩ := armSyncTimers_frame build (decodeCtrlpkt b) m
    obtain ⟨_, hn₁⟩ := listenCtrlpkt_frame hlisten
    rw [← harm, hframe]
    show m.gathered = _
    rw [adoptCtrlpkt_gathered hadopt, hn₁]
    rfl
  refine ⟨decodeCtrlpkt b, if stillListening s.1 s.2 then loopPackets build polls s else [],
    ?_, ?_⟩
  · unfold heardPackets
    rw [hlisten]
    dsimp only
    rw [hadopt, ← harm]
  · show s'.1.gathered = _
    unfold listenOn at hloop
    split at hloop
    · next hgo => rw [if_pos hgo, ← hs, syncLoop_gathered hloop]
    · next hgo =>
      cases hloop
      rw [if_neg hgo, ← hs]
      rfl

/-! ## What the packets say together -/

/-- The hop counts of the packets. -/
def hopCounts (pkts : List ControlPacket) : Set ℕ := {k | ∃ p ∈ pkts, k = p.hopCount.toNat}

/-- The bitwise OR of the slot maps of the packets. -/
def orOfMaps (pkts : List ControlPacket) : SlotMap := fun i j =>
  pkts.foldl (fun b p => b ||| p.occupiedSlots i j) 0

/-- The hop count of a packet as the listening loop reads it. -/
def hopByte (pkt : ControlPacket) : ℕ := pkt.hopCount.toNat % 256

theorem toNat_hopByte (pkt : ControlPacket) :
    pkt.hopCount.toUInt8.toUInt16.toNat = hopByte pkt := by
  rw [UInt8.toNat_toUInt16, UInt16.toNat_toUInt8]
  rfl

/-- **The merged hop count** is the least of those that were merged, each as it was read. -/
theorem foldl_merge_hopCount (pkts : List ControlPacket) (g : Gathered) :
    IsLeast {k | k = g.hopCount.toNat ∨ ∃ p ∈ pkts, k = hopByte p}
      (pkts.foldl Gathered.merge g).hopCount.toNat := by
  induction pkts generalizing g with
  | nil =>
    refine ⟨.inl rfl, ?_⟩
    rintro k (rfl | ⟨p, hp, -⟩)
    · exact le_rfl
    · cases hp
  | cons pkt pkts ih =>
    obtain ⟨hmem, hle⟩ := ih (g.merge pkt)
    -- one packet is merged by taking the smaller of the two counts
    have hmerge : (g.merge pkt).hopCount.toNat = min (hopByte pkt) g.hopCount.toNat := by
      rw [← toNat_hopByte]
      unfold Gathered.merge
      dsimp only
      split
      · next hlt => exact (min_eq_left (UInt16.lt_iff_toNat_lt.mp hlt).le).symm
      · next hge => exact (min_eq_right (not_lt.mp (mt UInt16.lt_iff_toNat_lt.mpr hge))).symm
    rw [List.foldl_cons]
    constructor
    · rcases hmem with hk | ⟨p, hp, hk⟩
      · rw [hmerge] at hk
        rcases min_choice (hopByte pkt) g.hopCount.toNat with hmin | hmin
        · exact .inr ⟨pkt, List.mem_cons_self, hk.trans hmin⟩
        · exact .inl (hk.trans hmin)
      · exact .inr ⟨p, List.mem_cons_of_mem _ hp, hk⟩
    · have hacc := hle (.inl rfl)
      rw [hmerge] at hacc
      rintro k (rfl | ⟨p, hp, rfl⟩)
      · exact hacc.trans (min_le_right _ _)
      · rcases List.mem_cons.mp hp with rfl | hp
        · exact hacc.trans (min_le_left _ _)
        · exact hle (.inr ⟨p, hp, rfl⟩)

theorem foldl_merge_occupied (pkts : List ControlPacket) (g : Gathered)
    (i : Fin Config.maxNumberFreqs) (j : Fin Config.slotBytes) :
    (pkts.foldl Gathered.merge g).occupied i j =
      pkts.foldl (fun b p => b ||| p.occupiedSlots i j) (g.occupied i j) := by
  induction pkts generalizing g with
  | nil => rfl
  | cons pkt pkts ih => exact ih (g.merge pkt)

theorem foldl_merge_times (pkts : List ControlPacket) (g : Gathered) :
    (pkts.foldl Gathered.merge g).networkTime = g.networkTime ∧
      (pkts.foldl Gathered.merge g).initTime = g.initTime := by
  induction pkts generalizing g with
  | nil => exact ⟨rfl, rfl⟩
  | cons pkt pkts ih => exact ih (g.merge pkt)

/-- Merging does not depend on the order of the packets. -/
theorem foldl_merge_perm {pkts pkts' : List ControlPacket} (h : pkts.Perm pkts') (g : Gathered) :
    pkts.foldl Gathered.merge g = pkts'.foldl Gathered.merge g := by
  have hhop : (pkts.foldl Gathered.merge g).hopCount = (pkts'.foldl Gathered.merge g).hopCount := by
    refine UInt16.toNat_inj.mp ((foldl_merge_hopCount pkts g).unique ?_)
    have hset : {k | k = g.hopCount.toNat ∨ ∃ p ∈ pkts, k = hopByte p} =
        {k | k = g.hopCount.toNat ∨ ∃ p ∈ pkts', k = hopByte p} := by
      ext k
      simp only [Set.mem_ofPred_eq, h.mem_iff]
    rw [hset]
    exact foldl_merge_hopCount pkts' g
  have hmap : (pkts.foldl Gathered.merge g).occupied = (pkts'.foldl Gathered.merge g).occupied := by
    funext i j
    rw [foldl_merge_occupied, foldl_merge_occupied]
    refine h.foldl_eq' (fun p _ q _ b => ?_) _
    rw [UInt8.or_assoc, UInt8.or_assoc, UInt8.or_comm (p.occupiedSlots i j)]
  obtain ⟨htime, hinit⟩ := foldl_merge_times pkts g
  obtain ⟨htime', hinit'⟩ := foldl_merge_times pkts' g
  generalize pkts.foldl Gathered.merge g = a at *
  generalize pkts'.foldl Gathered.merge g = b at *
  cases a
  cases b
  simp_all

/-- The map and the times are those of all packets and of the first one. -/
structure MapAndTimes (first : ControlPacket) (rest : List ControlPacket) (g : Gathered) : Prop where
  occupied : g.occupied = orOfMaps (first :: rest)
  networkTime : g.networkTime = first.networkTime
  initTime : g.initTime = first.initTime

theorem mapAndTimes_foldl (first : ControlPacket) (rest : List ControlPacket) :
    MapAndTimes first rest (rest.foldl Gathered.merge (Gathered.first first)) := by
  obtain ⟨htime, hinit⟩ := foldl_merge_times rest (Gathered.first first)
  refine ⟨?_, htime, hinit⟩
  funext i j
  rw [foldl_merge_occupied, orOfMaps, List.foldl_cons, UInt8.zero_or]
  rfl

/-- Executions that hear the same packets in another order, but for the first one, end with the same
hop count and the same map. -/
def OrderIndependent (first : ControlPacket) (rest : List ControlPacket) (g : Gathered) : Prop :=
  ∀ (build : Build) (time : UInt32) (attempts : List CtrlRadio) (polls : List SyncPoll)
    (n n' : Node) (rest' : List ControlPacket), n.isFirstNode = false →
    executeSynchronization build time attempts polls n = .ok (n', .success) →
    heardPackets build attempts polls n = some (first, rest') → rest'.Perm rest →
    n'.hopCount = g.hopCount ∧ n'.occupiedFrequenciesSlots = g.occupied

theorem orderIndependent_foldl (first : ControlPacket) (rest : List ControlPacket) :
    OrderIndependent first rest (rest.foldl Gathered.merge (Gathered.first first)) := by
  intro build time attempts polls n n' rest' hfirst h hheard hperm
  obtain ⟨first', rest'', hheard', hgathered⟩ := executeSynchronization_gathered hfirst h
  rw [hheard] at hheard'
  obtain ⟨rfl, rfl⟩ := Prod.mk.inj (Option.some.inj hheard')
  rw [← foldl_merge_perm hperm]
  exact ⟨congrArg Gathered.hopCount hgathered, congrArg Gathered.occupied hgathered⟩

/-- **The hop count is that of all packets** when the loop hears none and the first one says 65535,
or when the least hop count of all is the lowest byte of one heard in the loop, and no lowest byte
there is smaller. -/
def HopsHeard (first : ControlPacket) (rest : List ControlPacket) : Prop :=
  (rest = [] ∧ first.hopCount.toNat = 65535) ∨
    ∃ p ∈ rest, IsLeast (hopCounts (first :: rest)) (hopByte p) ∧ ∀ q ∈ rest, hopByte p ≤ hopByte q

theorem hopCount_foldl_iff (first : ControlPacket) (rest : List ControlPacket) :
    IsLeast (hopCounts (first :: rest))
        (rest.foldl Gathered.merge (Gathered.first first)).hopCount.toNat ↔
      HopsHeard first rest := by
  obtain ⟨hmem, hle⟩ := foldl_merge_hopCount rest (Gathered.first first)
  generalize (rest.foldl Gathered.merge (Gathered.first first)).hopCount.toNat = hops at hmem hle ⊢
  have hstart : (Gathered.first first).hopCount.toNat = 65535 := rfl
  unfold HopsHeard
  by_cases hrest : rest = []
  · subst hrest
    have hhops : hops = 65535 := by simpa [hstart] using hmem
    rw [hhops]
    constructor
    · rintro ⟨⟨p, hp, hk⟩, -⟩
      rw [List.mem_singleton.mp hp] at hk
      exact .inl ⟨rfl, hk.symm⟩
    · rintro (⟨-, hk⟩ | ⟨p, hp, -⟩)
      · refine ⟨⟨first, List.mem_singleton_self _, hk.symm⟩, ?_⟩
        rintro k ⟨p, hp, rfl⟩
        rw [List.mem_singleton.mp hp, hk]
      · cases hp
  · -- a byte is less than 65535
    obtain ⟨p, hp, hhops⟩ : ∃ p ∈ rest, hops = hopByte p := by
      rcases hmem with hhops | hbyte
      · obtain ⟨q, hq⟩ := List.exists_mem_of_ne_nil rest hrest
        have hbound : hops ≤ hopByte q := hle (.inr ⟨q, hq, rfl⟩)
        have hbyte : hopByte q < 256 := Nat.mod_lt _ (by decide)
        omega
      · exact hbyte
    have hleast : ∀ q ∈ rest, hops ≤ hopByte q := fun q hq => hle (.inr ⟨q, hq, rfl⟩)
    constructor
    · intro h
      refine .inr ⟨p, hp, ?_, ?_⟩
      · rwa [← hhops]
      · rwa [← hhops]
    · rintro (⟨hnil, -⟩ | ⟨q, hq, hall, hsmallest⟩)
      · exact absurd hnil hrest
      · have heq : hops = hopByte q := le_antisymm (hleast q hq) (hhops ▸ hsmallest p hp)
        rwa [heq]

/-- **What a joining node gathers**: after a successful execution of `SYNCHRONIZATION` that has heard
`first` and then `rest`, the hop count is the least of all, the map the OR of all, the times are
those of the first packet, and the order of the rest does not matter, exactly if the hop count can be
seen in the lowest bytes of the rest. All but the hop count is always so. -/
theorem aggregatesAll_iff (build : Build) (time : UInt32) (attempts : List CtrlRadio)
    (polls : List SyncPoll) (n n' : Node) (first : ControlPacket) (rest : List ControlPacket)
    (hfirst : n.isFirstNode = false)
    (h : executeSynchronization build time attempts polls n = .ok (n', .success))
    (hheard : heardPackets build attempts polls n = some (first, rest)) :
    ((IsLeast (hopCounts (first :: rest)) n'.hopCount.toNat ∧
        MapAndTimes first rest n'.gathered ∧ OrderIndependent first rest n'.gathered) ↔
      HopsHeard first rest) ∧
    MapAndTimes first rest n'.gathered ∧ OrderIndependent first rest n'.gathered := by
  obtain ⟨first', rest', hheard', hgathered⟩ := executeSynchronization_gathered hfirst h
  rw [hheard] at hheard'
  obtain ⟨rfl, rfl⟩ := Prod.mk.inj (Option.some.inj hheard')
  have hhops : n'.hopCount = (rest.foldl Gathered.merge (Gathered.first first)).hopCount :=
    congrArg Gathered.hopCount hgathered
  rw [hgathered, hhops, hopCount_foldl_iff]
  have hmap := mapAndTimes_foldl first rest
  have horder := orderIndependent_foldl first rest
  exact ⟨⟨fun h => h.1, fun h => ⟨h, hmap, horder⟩⟩, hmap, horder⟩

/-! ### Two executions -/

/-- A control packet of the first slot of a network, with the hop count of its sender. -/
def heardWithHops (hops : UInt16) : CtrlRadio :=
  .heard (controlpacketGetPacketBytestring { hopCount := hops } 0)

/-- A node that listens for some frames. -/
def joiningFor (frames : UInt32) : Node where
  wakeupFrame := frames

/-- The turn in which a packet of the given hop count is heard and the frame ends. -/
def lastTurn (hops : UInt16) : SyncPoll where
  radio := heardWithHops hops
  slotTick := ⟨80000, true⟩
  frameTick := ⟨80000, true⟩

/-- Hop counts 5 and 3 give 3. -/
theorem aggregatesAll_fiveThree :
    ∃ n' first rest, executeSynchronization ⟨.linux, true⟩ 0 [heardWithHops 5] [lastTurn 3]
        (joiningFor 2) = .ok (n', .success) ∧
      heardPackets ⟨.linux, true⟩ [heardWithHops 5] [lastTurn 3] (joiningFor 2) =
        some (first, rest) ∧
      IsLeast (hopCounts (first :: rest)) n'.hopCount.toNat := by
  have hret : (executeSynchronization ⟨.linux, true⟩ 0 [heardWithHops 5] [lastTurn 3]
      (joiningFor 2)).toOption.map Prod.snd = some .success := by
    decide +kernel
  obtain ⟨⟨n', ret⟩, h, rfl⟩ := Option.map_eq_some_iff.mp hret
  rw [toOption_eq_some] at h
  have hhops : (heardPackets ⟨.linux, true⟩ [heardWithHops 5] [lastTurn 3] (joiningFor 2)).map
      (fun q => (q.1.hopCount, q.2.map ControlPacket.hopCount)) = some (5, [3]) := by
    decide +kernel
  obtain ⟨⟨first, rest⟩, hheard, heq⟩ := Option.map_eq_some_iff.mp hhops
  obtain ⟨hfive, hthree⟩ := Prod.mk.inj heq
  obtain ⟨p, hp⟩ : ∃ p, rest = [p] :=
    List.length_eq_one_iff.mp (by simpa using congrArg List.length hthree)
  rw [hp, List.map_singleton, List.singleton_inj] at hthree
  refine ⟨n', first, rest, h, hheard,
    ((aggregatesAll_iff _ _ _ _ _ _ _ _ rfl h hheard).1.mpr (.inr ⟨p, ?_, ⟨⟨p, ?_, ?_⟩, ?_⟩, ?_⟩)).1⟩
  · rw [hp]
    exact List.mem_singleton_self p
  · rw [hp]
    exact List.mem_cons_of_mem _ (List.mem_singleton_self p)
  · rw [hopByte, hthree]
    rfl
  · rintro k ⟨q, hq, rfl⟩
    rw [hp] at hq
    rcases List.mem_cons.mp hq with rfl | hq
    · rw [hopByte, hthree, hfive]
      decide
    · rw [List.mem_singleton.mp hq, hopByte, hthree]
      decide
  · rw [hp]
    exact List.forall_mem_singleton.mpr le_rfl

/-- A node that joins from one packet of hop count 0 takes itself for 65535 hops away. -/
theorem aggregatesAll_onePacket :
    ∃ n' first, executeSynchronization ⟨.linux, true⟩ 0 [heardWithHops 0] [] (joiningFor 1) =
        .ok (n', .success) ∧
      heardPackets ⟨.linux, true⟩ [heardWithHops 0] [] (joiningFor 1) = some (first, []) ∧
      first.hopCount = 0 ∧ n'.hopCount = 65535 ∧
      ¬ IsLeast (hopCounts [first]) n'.hopCount.toNat := by
  have hret : (executeSynchronization ⟨.linux, true⟩ 0 [heardWithHops 0] []
      (joiningFor 1)).toOption.map (fun r => (r.2, r.1.hopCount)) = some (.success, 65535) := by
    decide +kernel
  obtain ⟨⟨n', ret⟩, h, heq⟩ := Option.map_eq_some_iff.mp hret
  obtain ⟨rfl, hhop⟩ := Prod.mk.inj heq
  rw [toOption_eq_some] at h
  have hhops : (heardPackets ⟨.linux, true⟩ [heardWithHops 0] [] (joiningFor 1)).map
      (fun q => (q.1.hopCount, q.2.map ControlPacket.hopCount)) = some (0, []) := by
    decide +kernel
  obtain ⟨⟨first, rest⟩, hheard, hpackets⟩ := Option.map_eq_some_iff.mp hhops
  obtain ⟨hzero, hnone⟩ := Prod.mk.inj hpackets
  obtain rfl : rest = [] := List.map_eq_nil_iff.mp hnone
  refine ⟨n', first, h, hheard, hzero, hhop, fun hleast => ?_⟩
  have hbound := hleast.2 ⟨first, List.mem_singleton_self first, rfl⟩
  dsimp only at hzero hhop
  rw [hzero, hhop] at hbound
  exact absurd hbound (by decide)

end WmnIot
