import WmnIot.Joining.Frames

/-! # Membership of a network

What the nodes of a network tell each other when they join, and nothing else: a node that has heard
of no other one founds the network and draws its starting time, and any other joins from what
it hears. A member tells what it knows. Nothing is said here of timers, queues or data.

* **`Beacon`**, **`Member`** — what is told, and what a node knows.
* **`MemberStep`** — the steps of a node.
* **`Beacon.Sound`**, **`Member.Sound`** — what holds of all that is told and known.
* **`MemberStep.sound`** — every step keeps it. -/

namespace WmnIot

/-- What a control packet tells of the network. -/
structure Beacon where
  hopCount : UInt16
  occupied : SlotMap
  initTime : UInt32

/-- What a node knows of the network, and its place in it. -/
structure Member where
  state : MacState
  isFirst : Bool
  hopCount : UInt16
  occupied : SlotMap
  initTime : UInt32
  slot : UInt8
  channel : UInt32
  frequencies : Fin Config.maxNumberFreqs → UInt32

/-- What the node tells. -/
def Member.beacon (m : Member) : Beacon := ⟨m.hopCount, m.occupied, m.initTime⟩

/-- The hop count after another beacon: the least one, each read into a byte. -/
def leastHops (hops : UInt16) (b : Beacon) : UInt16 :=
  if b.hopCount.toUInt8.toUInt16 < hops then b.hopCount.toUInt8.toUInt16 else hops

/-- The slot map after another beacon. -/
def joinMaps (occupied : SlotMap) (b : Beacon) : SlotMap := fun i j => occupied i j ||| b.occupied i j

/-- The slot map with the place of the first node. -/
def markFirst (occupied : SlotMap) : SlotMap :=
  Function.update occupied 0 (Function.update (occupied 0) 0 0x80)

/-- **The steps of a node**, in which it may hear beacons and draw a starting time. -/
inductive MemberStep (heard : Set Beacon) (drawn : Set UInt32) (m : Member) : Member → Prop
  /-- The node looks for a network. -/
  | search {state : MacState} {isFirst : Bool}
      (hnext : state = .initialization ∨ state = .synchronization) :
      MemberStep heard drawn m { m with state := state, isFirst := isFirst }
  /-- It founds one. -/
  | found {time : UInt32} (hfirst : m.isFirst = true) (htime : time ∈ drawn) :
      MemberStep heard drawn m
        { m with state := .timeslotAndChannelSelection, hopCount := 0, initTime := time }
  /-- It hears a first beacon and others, whose hop counts it compares. -/
  | join {b : Beacon} {bs : List Beacon} (hfirst : m.isFirst = false)
      (hheard : ∀ b' ∈ b :: bs, b' ∈ heard) :
      MemberStep heard drawn m
        { m with
          state := .timeslotAndChannelSelection
          hopCount := bs.foldl leastHops 0xffff
          occupied := bs.foldl joinMaps b.occupied
          initTime := b.initTime }
  /-- It hears nothing. -/
  | silence (hstate : m.state = .synchronization) :
      MemberStep heard drawn m { m with hopCount := 0xffff }
  /-- It hears a first beacon and cannot go on. -/
  | giveUp {b : Beacon} (hstate : m.state = .synchronization) (hheard : b ∈ heard) :
      MemberStep heard drawn m
        { m with hopCount := 0xffff, occupied := b.occupied, initTime := b.initTime }
  /-- The node that founded the network takes the first place. -/
  | settleFirst (hstate : m.state = .timeslotAndChannelSelection) (hfirst : m.isFirst = true) :
      MemberStep heard drawn m
        { m with
          state := .mediumAccess
          slot := 0
          channel := m.frequencies 0
          occupied := markFirst m.occupied }
  /-- Any other node takes the first slot that is free on every channel, and some channel. -/
  | settle {i : Fin Config.slotBytes} {j : ℕ} {k : Fin Config.maxNumberFreqs}
      (hstate : m.state = .timeslotAndChannelSelection) (hfirst : m.isFirst = false)
      (hfree : findSlot m.occupied = some (i, j)) :
      MemberStep heard drawn m
        { m with state := .mediumAccess, slot := slotNumber i j, channel := m.frequencies k }
  | stay : MemberStep heard drawn m m
  /-- A member learns that it is not alone. -/
  | notAlone {isFirst : Bool} (hstate : m.state = .mediumAccess) :
      MemberStep heard drawn m { m with isFirst := isFirst }

/-! ## What holds of all that is told and known -/

/-- The hop counts that occur. -/
def Hops : Set UInt16 := {0, 255, 65535}

/-- The slot map that members tell: the place of the first node. -/
def firstMap : SlotMap := markFirst fun _ _ => 0

/-- A beacon is sound: its hop count occurs, its map has the place of the first node and no other,
and its starting time was drawn. -/
structure Beacon.Sound (drawn : Set UInt32) (b : Beacon) : Prop where
  hopCount : b.hopCount ∈ Hops
  occupied : b.occupied = firstMap
  initTime : b.initTime ∈ drawn

/-- The place of a member: that of the first node, or the second slot and some channel. -/
def Member.Placed (m : Member) : Prop :=
  (m.slot = 0 ∧ m.channel = Config.frequencies 0) ∨
    (m.slot = 1 ∧ ∃ k, m.channel = Config.frequencies k)

/-- What a node knows is sound. -/
structure Member.Sound (drawn : Set UInt32) (m : Member) : Prop where
  frequencies : m.frequencies = Config.frequencies
  hopCount : m.hopCount ∈ Hops
  occupied : m.occupied = (fun _ _ => 0) ∨ m.occupied = firstMap
  initTime : m.state = .timeslotAndChannelSelection ∨ m.state = .mediumAccess → m.initTime ∈ drawn
  heard : m.state = .timeslotAndChannelSelection → m.isFirst = false → m.occupied = firstMap
  settled : m.state = .mediumAccess → m.occupied = firstMap ∧ m.Placed

variable {heard : Set Beacon} {drawn times : Set UInt32} {m m' : Member}

/-- What a member tells is sound. -/
theorem Member.Sound.beacon (h : m.Sound times) (hstate : m.state = .mediumAccess) :
    m.beacon.Sound times :=
  ⟨h.hopCount, (h.settled hstate).1, h.initTime (.inr hstate)⟩

theorem leastHops_mem {hops : UInt16} {b : Beacon} (hhops : hops ∈ Hops) (hb : b.hopCount ∈ Hops) :
    leastHops hops b ∈ Hops := by
  unfold leastHops
  split
  · rcases hb with hb | hb | hb <;> rw [hb]
    · exact .inl rfl
    · exact .inr (.inl rfl)
    -- 65535 is read as 255
    · exact .inr (.inl rfl)
  · exact hhops

theorem foldl_leastHops {bs : List Beacon} {hops : UInt16} (hhops : hops ∈ Hops)
    (hbs : ∀ b ∈ bs, b.Sound times) : bs.foldl leastHops hops ∈ Hops := by
  induction bs generalizing hops with
  | nil => exact hhops
  | cons b bs ih =>
    rw [List.forall_mem_cons] at hbs
    exact ih (leastHops_mem hhops hbs.1.hopCount) hbs.2

theorem foldl_joinMaps {bs : List Beacon} (hbs : ∀ b ∈ bs, b.Sound times) :
    bs.foldl joinMaps firstMap = firstMap := by
  induction bs with
  | nil => rfl
  | cons b bs ih =>
    rw [List.forall_mem_cons] at hbs
    rw [List.foldl_cons, show joinMaps firstMap b = firstMap from ?_]
    · exact ih hbs.2
    · funext i j
      rw [joinMaps, hbs.1.occupied, UInt8.or_self]

/-- Marking the place of the first node once more changes nothing. -/
theorem markFirst_firstMap : markFirst firstMap = firstMap := by
  unfold firstMap markFirst
  simp

/-- In the map that members tell, the first free slot is the second one. -/
theorem findSlot_firstMap : findSlot firstMap = some (0, 2) := by
  decide +kernel

/-- A node outside the network knows nothing that has to be sound but its hop count and its map. -/
theorem Member.Sound.outside (hfrequencies : m.frequencies = Config.frequencies)
    (hhops : m.hopCount ∈ Hops) (hmap : m.occupied = (fun _ _ => 0) ∨ m.occupied = firstMap)
    (hstate : m.state = .initialization ∨ m.state = .synchronization) : m.Sound times := by
  refine ⟨hfrequencies, hhops, hmap, ?_, ?_, ?_⟩ <;>
    rcases hstate with hstate | hstate <;> simp [hstate]

/-- **Every step keeps what a node knows sound**, if what it hears is. -/
theorem MemberStep.sound (h : MemberStep heard drawn m m') (hheard : ∀ b ∈ heard, b.Sound times)
    (hdrawn : drawn ⊆ times) (hm : m.Sound times) : m'.Sound times := by
  cases h with
  | search hnext => exact .outside hm.frequencies hm.hopCount hm.occupied hnext
  | found hfirst htime =>
    refine ⟨hm.frequencies, .inl rfl, hm.occupied, fun _ => hdrawn htime, fun _ hjoined => ?_,
      fun hstate => ?_⟩
    · exact nomatch hfirst.symm.trans hjoined
    · cases hstate
  | @join b bs hfirst hbs =>
    rw [List.forall_mem_cons] at hbs
    have hb := hheard b hbs.1
    have hbs : ∀ b' ∈ bs, b'.Sound times := fun b' hb' => hheard b' (hbs.2 b' hb')
    -- the maps of all beacons are the first map, so their union is
    have hmap : bs.foldl joinMaps b.occupied = firstMap := by
      rw [hb.occupied, foldl_joinMaps hbs]
    refine ⟨hm.frequencies, foldl_leastHops (.inr (.inr rfl)) hbs, .inr hmap,
      fun _ => hb.initTime, fun _ _ => hmap, fun hstate => ?_⟩
    cases hstate
  | silence hstate =>
    exact .outside hm.frequencies (.inr (.inr rfl)) hm.occupied (.inr hstate)
  | @giveUp b hstate hb =>
    exact .outside hm.frequencies (.inr (.inr rfl)) (.inr (hheard b hb).occupied) (.inr hstate)
  | settleFirst hstate hfirst =>
    -- a founder marks the first place, whatever it had of the first map
    have hmap : markFirst m.occupied = firstMap := by
      rcases hm.occupied with hmap | hmap <;> rw [hmap]
      · rfl
      · exact markFirst_firstMap
    refine ⟨hm.frequencies, hm.hopCount, .inr hmap, fun _ => hm.initTime (.inl hstate),
      fun hstate => ?_, fun _ => ⟨hmap, .inl ⟨rfl, congrFun hm.frequencies 0⟩⟩⟩
    cases hstate
  | @settle i j k hstate hfirst hfree =>
    have hmap := hm.heard hstate hfirst
    rw [hmap, findSlot_firstMap] at hfree
    cases hfree
    refine ⟨hm.frequencies, hm.hopCount, .inr hmap, fun _ => hm.initTime (.inl hstate),
      fun hstate => ?_, fun _ => ⟨hmap, .inr ⟨rfl, k, congrFun hm.frequencies k⟩⟩⟩
    cases hstate
  | stay => exact hm
  | notAlone hstate =>
    refine ⟨hm.frequencies, hm.hopCount, hm.occupied, hm.initTime, fun htimeslot => ?_, hm.settled⟩
    exact nomatch hstate.symm.trans htimeslot

end WmnIot
