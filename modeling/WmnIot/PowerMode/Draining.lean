import WmnIot.PowerMode.SlotTimer
import WmnIot.Queues.SendQueues

/-! # How `TRANSMIT` drains the send queues

Unless a collision is to be reported, `TRANSMIT` sends the control packets and then the messages
until nothing is left or the slot ends. Each turn takes one packet, so the loop ends after as many
turns as there are packets, and after one if there are none. What stands in its way on Linux is a
packet whose data do not fit into a byte string; on RIOT the rest of such data is left out.

* **`Node.toSend`** — the packets to send, in order.
* **`Removed`**, **`Drained`** — what sending a number of packets does to a queue and to the node.
* **`sendingTurns`** — the turns before the slot timer passes.
* **`transmit_drains_iff`** — the whole state. -/

namespace WmnIot

open RingBuffer Runs

/-! ## A send queue -/

/-- The index of the oldest packet and the counter of a send queue are in range. -/
structure SendBounds (q : SendQueue) : Prop where
  first : q.firstSend.toNat < Config.maxNumberDataPackets
  number : q.packetsToSend.toNat ≤ Config.maxNumberDataPackets

/-- The `k` oldest packets are removed and their entries cleared, and all else is as it was. -/
structure Removed (q : SendQueue) (k : ℕ) (q' : SendQueue) : Prop where
  cleared : ∀ j < k, q'.packets (Fin.ofNat _ (q.firstSend.toNat + j)) = datapacketClear
  others : ∀ j, k ≤ j → j < Config.maxNumberDataPackets →
    q'.packets (Fin.ofNat _ (q.firstSend.toNat + j)) =
      q.packets (Fin.ofNat _ (q.firstSend.toNat + j))
  number : q'.packetsToSend.toNat = q.packetsToSend.toNat - k
  first : q'.firstSend.toNat = (q.firstSend.toNat + k) % Config.maxNumberDataPackets
  last : q'.lastSend = q.lastSend

theorem SendQueue.length_queued (q : SendQueue) : q.queued.length = q.packetsToSend.toNat :=
  length_window _ _ _

/-- Nothing is removed from a queue that is left alone. -/
theorem Removed.zero {q : SendQueue} (h : SendBounds q) : Removed q 0 q :=
  ⟨fun _ hj => absurd hj (Nat.not_lt_zero _), fun _ _ _ => rfl, rfl,
    (Nat.mod_eq_of_lt h.first).symm, rfl⟩

/-- **Taking** the oldest packet of a queue that is not empty. -/
theorem SendQueue.take_spec {q : SendQueue} (os : OS) (junk : ℕ → UInt8) (h : SendBounds q)
    (hpos : q.packetsToSend ≠ 0) :
    ∃ p q', q.queued = p :: q'.queued ∧ Removed q 1 q' ∧ SendBounds q' ∧
      q.take os junk =
        if p.Encodable os then .ok (q', datapacketBytes junk p) else .error .outOfBounds := by
  have hfirst := h.first
  have hnumber := h.number
  have hcount : 0 < q.packetsToSend.toNat :=
    Nat.pos_of_ne_zero fun h0 => hpos (UInt8.toNat_inj.mp h0)
  have hcount' : (q.packetsToSend - 1).toNat = q.packetsToSend.toNat - 1 :=
    packetsToSend_sub_one hpos
  have hfirst' := firstSend_next hfirst
  simp only [Config.maxNumberDataPackets] at hfirst hnumber
  refine ⟨q.packets (Fin.ofNat _ q.firstSend.toNat),
    { q with
      packets := Function.update q.packets (Fin.ofNat _ q.firstSend.toNat) datapacketClear
      firstSend := (q.firstSend + 1) % 10
      packetsToSend := q.packetsToSend - 1 }, ?_, ?_, ?_, ?_⟩
  · -- the window of what is queued begins one entry later
    obtain ⟨k, hk⟩ : ∃ k, q.packetsToSend.toNat = k + 1 := ⟨_, (Nat.succ_pred_eq_of_pos hcount).symm⟩
    unfold SendQueue.queued
    dsimp only
    rw [hfirst', hcount', hk, Nat.add_sub_cancel, window_succ]
    congr 1
    rw [window_mod]
    exact (window_update_before q.packets _ _ (by simp only [Config.maxNumberDataPackets]; omega)).symm
  · constructor
    · -- only the entry that was taken is cleared
      intro j hj
      obtain rfl : j = 0 := by omega
      exact Function.update_self _ _ _
    · intro j hj hlt
      exact Function.update_of_ne (ofNat_ne_of_lt (by omega) (by omega)).symm _ _
    · exact hcount'
    · exact hfirst'
    · rfl
  · refine ⟨?_, ?_⟩
    · dsimp only
      rw [hfirst']
      exact Nat.mod_lt _ (by decide)
    · dsimp only
      rw [hcount']
      exact (Nat.sub_le _ _).trans h.number
  · rw [SendQueue.take, dif_pos h.first, datapacketGetPacketBytestring, ofNat_of_lt h.first]
    split <;> rfl

/-- **Removing some packets and then more of them** removes the sum. -/
theorem Removed.trans {q q₁ q' : SendQueue} {k l : ℕ} (h₁ : Removed q k q₁) (h : Removed q₁ l q')
    (hle : k + l ≤ Config.maxNumberDataPackets) : Removed q (k + l) q' := by
  -- positions counted from the front of `q₁` are `k` further from that of `q`
  have hshift {i j : ℕ} (hij : (k + i) % Config.maxNumberDataPackets =
      j % Config.maxNumberDataPackets) :
      Fin.ofNat Config.maxNumberDataPackets (q₁.firstSend.toNat + i) =
        Fin.ofNat _ (q.firstSend.toNat + j) := by
    refine ofNat_eq_of_mod_eq ?_
    rw [h₁.first, Nat.mod_add_mod, Nat.add_assoc, Nat.add_mod, hij, ← Nat.add_mod]
  constructor
  · intro j hj
    by_cases hjk : j < k
    · have hentry := h.others (Config.maxNumberDataPackets - k + j) (by omega) (by omega)
      rw [hshift (j := j) (by rw [← Nat.add_assoc, Nat.add_sub_cancel' (by omega),
        Nat.add_mod_left])] at hentry
      rw [hentry]
      exact h₁.cleared j hjk
    · rw [← hshift (i := j - k) (by rw [Nat.add_sub_cancel' (by omega)])]
      exact h.cleared _ (by omega)
  · intro j hj hlt
    have hentry := h.others (j - k) (by omega) (by omega)
    rw [hshift (j := j) (by rw [Nat.add_sub_cancel' (by omega)])] at hentry
    rw [hentry]
    exact h₁.others j (by omega) hlt
  · rw [h.number, h₁.number]
    omega
  · rw [h.first, h₁.first, Nat.mod_add_mod, Nat.add_assoc]
  · exact h.last.trans h₁.last

/-! ## A turn of the loop -/

/-- The packets to send: the control packets and then the messages. -/
def Node.toSend (n : Node) : List DataPacket :=
  (n.sendQueue .control).queued ++ (n.sendQueue .message).queued

/-- How many of the first `k` packets to send are of a class. -/
def ofClass (n : Node) (k : ℕ) : SendClass → ℕ
  | .control => min k (n.sendQueue .control).packetsToSend.toNat
  | .message => k - (n.sendQueue .control).packetsToSend.toNat

/-- The first `k` packets to send are sent, and removed from the queues. -/
structure Drained (n : Node) (k : ℕ) (m : Node) : Prop where
  sent : m.sent = n.sent ++ (n.toSend.take k).map fun p => .data (datapacketBytes n.junk p)
  removed : ∀ c, Removed (n.sendQueue c) (ofClass n k c) (m.sendQueue c)

theorem length_toSend (n : Node) : n.toSend.length = mclmacAvailableDataPackets n.toMCLMAC := by
  rw [Node.toSend, List.length_append, SendQueue.length_queued, SendQueue.length_queued,
    Nat.add_comm]
  rfl

@[simp]
theorem ofClass_zero (n : Node) (c : SendClass) : ofClass n 0 c = 0 := by
  cases c with
  | control => exact Nat.zero_min _
  | message => exact Nat.zero_sub _

/-- No class has more packets among those to send than its queue. -/
theorem ofClass_le {n : Node} {k : ℕ} (hk : k ≤ n.toSend.length) (c : SendClass) :
    ofClass n k c ≤ (n.sendQueue c).packetsToSend.toNat := by
  rw [Node.toSend, List.length_append, SendQueue.length_queued, SendQueue.length_queued] at hk
  cases c with
  | control => exact min_le_right _ _
  | message =>
    show k - (n.sendQueue .control).packetsToSend.toNat ≤ _
    omega

theorem Drained.zero {n m : Node} (h : ∀ c, SendBounds (n.sendQueue c)) (hsent : m.sent = n.sent)
    (hqueue : m.sendQueue = n.sendQueue) : Drained n 0 m := by
  refine ⟨by simp [hsent], fun c => ?_⟩
  rw [hqueue, ofClass_zero]
  exact Removed.zero (h c)

/-- What `mclmac_send_data_packet` does with the packet `p` in front. -/
structure Sends (n : Node) (p : DataPacket) (n' : Node) : Prop where
  front : n.toSend = p :: n'.toSend
  drained : Drained n 1 n'
  bounds : ∀ c, SendBounds (n'.sendQueue c)
  shares : ∀ k c, ofClass n (k + 1) c = ofClass n 1 c + ofClass n' k c
  timeouts : n'.timeouts = n.timeouts
  frame : n'.mac.frame = n.mac.frame
  junk : n'.junk = n.junk

section SendFrom

/-! A packet is taken from the queue of a class, which is the class of the packets in front. -/

variable {n n' : Node} {c : SendClass} {p : DataPacket} {q : SendQueue}

/-- The packet that is taken is the one in front. -/
theorem toSend_of_take (hqueue : n'.sendQueue = Function.update n.sendQueue c q)
    (hturn : c = .message → (n.sendQueue .control).packetsToSend = 0)
    (hqueued : (n.sendQueue c).queued = p :: q.queued) : n.toSend = p :: n'.toSend := by
  unfold Node.toSend
  rw [hqueue]
  cases c with
  | control =>
    rw [Function.update_self, Function.update_of_ne (by decide), hqueued, List.cons_append]
  | message =>
    have hnone : (n.sendQueue .control).queued = [] :=
      List.eq_nil_of_length_eq_zero (by rw [SendQueue.length_queued, hturn rfl, UInt8.toNat_zero])
    rw [Function.update_self, Function.update_of_ne (by decide), hnone, hqueued, List.nil_append,
      List.nil_append]

/-- It is removed from its own queue, and nothing from the other one. -/
theorem removed_of_take (h : ∀ c, SendBounds (n.sendQueue c))
    (hturn : c = .message → (n.sendQueue .control).packetsToSend = 0)
    (hcount : 0 < (n.sendQueue c).packetsToSend.toNat) (hremoved : Removed (n.sendQueue c) 1 q)
    (c' : SendClass) :
    Removed (n.sendQueue c') (ofClass n 1 c') (Function.update n.sendQueue c q c') := by
  cases c <;> cases c'
  · rw [Function.update_self, ofClass, hturn rfl]
    exact hremoved
  · rw [Function.update_of_ne (by decide), ofClass, hturn rfl]
    exact Removed.zero (h .control)
  · rw [Function.update_of_ne (by decide), ofClass, Nat.sub_eq_zero_of_le hcount]
    exact Removed.zero (h .message)
  · rw [Function.update_self, ofClass, Nat.min_eq_left hcount]
    exact hremoved

theorem sendBounds_of_take (h : ∀ c, SendBounds (n.sendQueue c)) (hq : SendBounds q)
    (c' : SendClass) : SendBounds (Function.update n.sendQueue c q c') := by
  by_cases hc : c' = c
  · rw [hc, Function.update_self]
    exact hq
  · rw [Function.update_of_ne hc]
    exact h c'

/-- The classes share the packets that remain as they share them all. -/
theorem ofClass_of_take (hqueue : n'.sendQueue = Function.update n.sendQueue c q)
    (hturn : c = .message → (n.sendQueue .control).packetsToSend = 0)
    (hcount : 0 < (n.sendQueue c).packetsToSend.toNat)
    (hnumber : q.packetsToSend.toNat = (n.sendQueue c).packetsToSend.toNat - 1) (k : ℕ)
    (c' : SendClass) : ofClass n (k + 1) c' = ofClass n 1 c' + ofClass n' k c' := by
  have hcontrol : (n'.sendQueue .control).packetsToSend.toNat =
      (n.sendQueue .control).packetsToSend.toNat - 1 := by
    rw [hqueue]
    cases c with
    | control => rw [Function.update_self, hnumber]
    | message =>
      rw [Function.update_of_ne (by decide), hturn rfl]
      rfl
  have hzero : c = .message → (n.sendQueue .control).packetsToSend.toNat = 0 := fun he => by
    rw [hturn he]
    rfl
  cases c <;> cases c' <;> simp only [ofClass, hcontrol] at hcount ⊢
  · have := hzero rfl
    omega
  · have := hzero rfl
    omega
  · omega
  · omega

end SendFrom

/-- Sending from the queue of a class. -/
theorem sendFrom_spec {os : OS} {n : Node} (h : ∀ c, SendBounds (n.sendQueue c)) {c : SendClass}
    (hpos : (n.sendQueue c).packetsToSend ≠ 0)
    (hturn : c = .message → (n.sendQueue .control).packetsToSend = 0) :
    ∃ p n', Sends n p n' ∧
      n.sendFrom os c = if p.Encodable os then .ok n' else .error .outOfBounds := by
  obtain ⟨p, q, hqueued, hremoved, hbounds, htake⟩ := SendQueue.take_spec os n.junk (h c) hpos
  obtain ⟨n', hn'⟩ : ∃ n', n' = (({ n with
      sent := n.sent ++ [.data (datapacketBytes n.junk p)] } : Node).setSendQueue c q) := ⟨_, rfl⟩
  have hqueue : n'.sendQueue = Function.update n.sendQueue c q := by
    rw [hn', sendQueue_setSendQueue]
    rfl
  have hcount : 0 < (n.sendQueue c).packetsToSend.toNat :=
    Nat.pos_of_ne_zero fun h0 => hpos (UInt8.toNat_inj.mp h0)
  have hfront : n.toSend = p :: n'.toSend := toSend_of_take hqueue hturn hqueued
  refine ⟨p, n', ⟨hfront, ⟨?_, fun c' => ?_⟩, fun c' => ?_, ?_, ?_, ?_, ?_⟩, ?_⟩
  · have hsent : n'.sent = n.sent ++ [.data (datapacketBytes n.junk p)] := by
      rw [hn']
      cases c <;> rfl
    rw [hsent, hfront]
    rfl
  · rw [hqueue]
    exact removed_of_take h hturn hcount hremoved c'
  · rw [hqueue]
    exact sendBounds_of_take h hbounds c'
  · exact ofClass_of_take hqueue hturn hcount hremoved.number
  · rw [hn']
    cases c <;> rfl
  · rw [hn']
    cases c <;> rfl
  · rw [hn']
    cases c <;> rfl
  · rw [Node.sendFrom, htake]
    split
    · rw [ok_bind, hn']
    · rfl

/-- **A call of `mclmac_send_data_packet`** sends the packet in front, if there is one. -/
theorem mclmacSendDataPacket_spec (build : Build) {n : Node} (h : ∀ c, SendBounds (n.sendQueue c)) :
    (n.toSend = [] ∧ mclmacSendDataPacket build n = .ok n) ∨
      ∃ p n', Sends n p n' ∧
        mclmacSendDataPacket build n =
          if p.Encodable build.os then .ok n' else .error .outOfBounds := by
  rw [mclmacSendDataPacket_eq fun c => (h c).first]
  by_cases hcontrol : (n.sendQueue .control).packetsToSend = 0
  · rw [if_neg (not_not.mpr hcontrol)]
    by_cases hmessage : (n.sendQueue .message).packetsToSend = 0
    · rw [if_neg (not_not.mpr hmessage)]
      refine .inl ⟨?_, rfl⟩
      refine List.eq_nil_of_length_eq_zero ?_
      rw [Node.toSend, List.length_append, SendQueue.length_queued, SendQueue.length_queued,
        hcontrol, hmessage]
      rfl
    · rw [if_pos hmessage]
      exact .inr (sendFrom_spec h hmessage fun _ => hcontrol)
  · rw [if_pos hcontrol]
    exact .inr (sendFrom_spec h hcontrol fun he => SendClass.noConfusion he)

/-! ## The loop -/

/-- **Sending a packet and then draining more of them.** -/
theorem Sends.drained_succ {n n' m : Node} {p : DataPacket} {k : ℕ} (hsends : Sends n p n')
    (hbounds : ∀ c, SendBounds (n.sendQueue c)) (h : Drained n' k m)
    (hk : k ≤ n'.toSend.length) : Drained n (k + 1) m := by
  have hfront := hsends.front
  constructor
  · have hfirst := hsends.drained.sent
    rw [hfront, List.take_succ_cons, List.take_zero] at hfirst
    rw [h.sent, hfirst, hfront, hsends.junk, List.take_succ_cons, List.map_cons, List.map_cons,
      List.map_nil, List.append_assoc]
    rfl
  · intro c
    have hlength : k + 1 ≤ n.toSend.length := by
      rw [hfront]
      exact Nat.succ_le_succ hk
    have hshare : ofClass n (k + 1) c ≤ Config.maxNumberDataPackets :=
      (ofClass_le hlength c).trans (hbounds c).number
    rw [hsends.shares] at hshare ⊢
    exact (hsends.drained.removed c).trans (h.removed c) hshare

/-- The turns of the loop before the slot timer passes. -/
def sendingTurns (ticks : List Tick) (n : Node) : ℕ :=
  (ticks.takeWhile fun tick => !decide (SlotPassesAt n tick)).length

theorem sendingTurns_passed {n : Node} {tick : Tick} {ticks : List Tick}
    (h : SlotPassesAt n tick) : sendingTurns (tick :: ticks) n = 0 := by
  rw [sendingTurns, List.takeWhile_cons_of_neg (by simp [h])]
  rfl

/-- After a turn that only sends, the slot timer passes when it would have passed before. -/
theorem sendingTurns_pending {n n' : Node} {tick : Tick} {ticks : List Tick}
    (h : ¬ SlotPassesAt n tick) (htimeouts : n'.timeouts = (n.tick tick).timeouts)
    (hframe : n'.mac.frame = n.mac.frame) :
    sendingTurns (tick :: ticks) n = sendingTurns ticks n' + 1 := by
  have hsame : ∀ t, SlotPassesAt n' t ↔ SlotPassesAt n t := by
    refine slotPassesAt_congr (by rw [hframe]) fun hlt => ?_
    rw [htimeouts]
    exact tick_entry h hlt
  unfold sendingTurns
  rw [List.takeWhile_cons_of_pos (by simp [h]), List.length_cons]
  simp only [hsame]

/-- The packets that `TRANSMIT` gets to send. -/
def sendable (ticks : List Tick) (n : Node) : List DataPacket :=
  n.toSend.take (sendingTurns ticks n)

/-- **The loop of `TRANSMIT`** ends after as many turns as there are packets, and at least one: it
sends what it gets to send, unless, on Linux, one of these packets does not fit into a byte string. -/
theorem transmitLoop_spec (build : Build) {ticks : List Tick} {n : Node}
    (h : ∀ c, SendBounds (n.sendQueue c))
    (hticks : max 1 n.toSend.length ≤ ticks.length) :
    ((∀ p ∈ sendable ticks n, p.Encodable build.os) →
      ∃ m, pollLoop .polling (transmitPoll build) ticks n = .ok m ∧
        Drained n (sendable ticks n).length m) ∧
    ((¬ ∀ p ∈ sendable ticks n, p.Encodable build.os) →
      pollLoop .polling (transmitPoll build) ticks n = .error .outOfBounds) := by
  induction ticks generalizing n with
  | nil => exact absurd hticks (by simp)
  | cons tick ticks ih =>
    rw [pollLoop]
    by_cases hpass : SlotPassesAt n tick
    · -- the slot ends: nothing is sent any more
      have hnone : sendable (tick :: ticks) n = [] := by
        rw [sendable, sendingTurns_passed hpass, List.take_zero]
      rw [transmitPoll_passed hpass, hnone]
      refine ⟨fun _ => ⟨_, rfl, Drained.zero h rfl rfl⟩, fun hbad => ?_⟩
      exact absurd (List.forall_mem_nil _) hbad
    rw [transmitPoll_pending hpass]
    have hbounds : ∀ c, SendBounds ((n.tick tick).sendQueue c) := by
      intro c
      cases c
      · exact h .message
      · exact h .control
    obtain ⟨hempty, hsend⟩ | ⟨p, n', hsends, hsend⟩ := mclmacSendDataPacket_spec build hbounds
    · -- nothing to send: the turn ends the loop
      have hnone : sendable (tick :: ticks) n = [] := by
        rw [sendable, show n.toSend = [] from hempty, List.take_nil]
      have havailable : mclmacAvailableDataPackets (n.tick tick).toMCLMAC = 0 := by
        rw [← length_toSend, hempty]
        rfl
      rw [hsend, ok_bind, havailable, hnone]
      refine ⟨fun _ => ⟨_, rfl, Drained.zero h rfl rfl⟩, fun hbad => ?_⟩
      exact absurd (List.forall_mem_nil _) hbad
    -- `p` is sent: it is the first of the packets that the loop gets to send
    have hfront : n.toSend = p :: n'.toSend := hsends.front
    have hsendable : sendable (tick :: ticks) n = p :: sendable ticks n' := by
      rw [sendable, sendingTurns_pending hpass hsends.timeouts hsends.frame, hfront,
        List.take_succ_cons]
      rfl
    rw [hsend, hsendable]
    by_cases hp : p.Encodable build.os
    swap
    · rw [if_neg hp]
      exact ⟨fun hall => absurd (hall p List.mem_cons_self) hp, fun _ => rfl⟩
    rw [if_pos hp, ok_bind]
    have hsucc {m : Node} {k : ℕ} (hk : k ≤ n'.toSend.length) (hdrained : Drained n' k m) :
        Drained n (k + 1) m := by
      have htick := hsends.drained_succ hbounds hdrained hk
      exact ⟨htick.sent, htick.removed⟩
    rw [← length_toSend]
    by_cases hlast : n'.toSend.length = 0
    · -- it was the last one, and the loop ends although the slot has not
      have hnone : sendable ticks n' = [] := by
        rw [sendable, List.eq_nil_of_length_eq_zero hlast, List.take_nil]
      rw [hlast, hnone]
      refine ⟨fun _ => ⟨_, rfl, hsucc (Nat.zero_le _) (Drained.zero hsends.bounds rfl rfl)⟩,
        fun hbad => ?_⟩
      exact absurd (List.forall_mem_singleton.mpr hp) hbad
    · rw [decide_eq_true hlast]
      obtain ⟨hok, herror⟩ := ih hsends.bounds (by
        rw [hfront] at hticks
        simp only [List.length_cons] at hticks
        omega)
      have hlength : (sendable ticks n').length ≤ n'.toSend.length := by
        rw [sendable, List.length_take]
        exact min_le_right _ _
      constructor
      · intro hall
        obtain ⟨m, hloop, hdrained⟩ := hok fun p' hp' => hall p' (List.mem_cons_of_mem _ hp')
        exact ⟨m, hloop, hsucc hlength hdrained⟩
      · intro hbad
        exact herror fun hall => hbad (List.forall_mem_cons.mpr ⟨hp, hall⟩)

/-! ## The whole state -/

/-- **`TRANSMIT` drains the queues in order**: the state ends with `PASSIVE` next, what it gets to
send is sent after its control packet and removed from the queues, control packets first, and
without the slot timer passing both queues end empty. -/
def DrainsInOrder (build : Build) (ticks : List Tick) (n : Node) : Prop :=
  ∃ m, executeTransmit build ticks n = .ok (m, .success) ∧ m.powerMode.nextState = .passive ∧
    m.sent = (afterControlPacket n).sent ++
      (sendable ticks n).map (fun p => .data (datapacketBytes n.junk p)) ∧
    (∀ c, Removed (n.sendQueue c) (ofClass n (sendable ticks n).length c) (m.sendQueue c)) ∧
    (n.toSend.length ≤ sendingTurns ticks n → ∀ c, (m.sendQueue c).packetsToSend = 0)

/-- The shares of the classes in all the packets to send are the whole queues. -/
theorem ofClass_length (n : Node) (c : SendClass) :
    ofClass n n.toSend.length c = (n.sendQueue c).packetsToSend.toNat := by
  rw [Node.toSend, List.length_append, SendQueue.length_queued, SendQueue.length_queued]
  cases c with
  | control => exact min_eq_right (Nat.le_add_right _ _)
  | message => exact Nat.add_sub_cancel_left _ _

/-- **How `TRANSMIT` drains the send queues**: without a collision to report, and polled as often as
there are packets to send and at least once, it drains them in order on Linux exactly if every packet it
gets to send fits into a byte string, and on RIOT always. -/
theorem transmit_drains_iff (build : Build) (ticks : List Tick) (n : Node)
    (hcollision : n.mac.collisionDetected = false) (hbounds : ∀ c, SendBounds (n.sendQueue c))
    (hticks : max 1 (mclmacAvailableDataPackets n.toMCLMAC) ≤ ticks.length) :
    DrainsInOrder build ticks n ↔ ∀ p ∈ sendable ticks n, p.Encodable build.os := by
  have hbounds' : ∀ c, SendBounds ((afterControlPacket n).sendQueue c) := by
    intro c
    cases c
    · exact hbounds .message
    · exact hbounds .control
  have hsame : sendable ticks (afterControlPacket n) = sendable ticks n := rfl
  -- without a collision TRANSMIT is its control packet and the loop
  have hexec : executeTransmit build ticks n =
      pollLoop .polling (transmitPoll build) ticks (afterControlPacket n) >>= fun m =>
        .ok (mclmacSetNextPowermodeState m .passive, .success) := by
    have hnone : (mclmacSendControlPacket (mclmacCreateControlPacket n)).mac.collisionDetected =
        false := hcollision
    unfold executeTransmit
    dsimp only
    rw [hnone, if_neg Bool.false_ne_true]
    rfl
  rw [← length_toSend] at hticks
  obtain ⟨hok, herror⟩ := transmitLoop_spec build hbounds' hticks
  rw [hsame] at hok herror
  constructor
  · rintro ⟨m, h, -⟩
    by_contra hbad
    rw [hexec, herror hbad] at h
    cases h
  · intro hall
    obtain ⟨m, hloop, hdrained⟩ := hok hall
    have hremoved : ∀ c, Removed (n.sendQueue c) (ofClass n (sendable ticks n).length c)
        (m.sendQueue c) := by
      intro c
      have hc := hdrained.removed c
      cases c <;> exact hc
    have hsent := hdrained.sent
    rw [show (afterControlPacket n).toSend = n.toSend from rfl] at hsent
    have htake : n.toSend.take (sendable ticks n).length = sendable ticks n := by
      rw [sendable, List.length_take, ← List.take_eq_take_min]
    rw [htake] at hsent
    refine ⟨mclmacSetNextPowermodeState m .passive, ?_, rfl, hsent, ?_, ?_⟩
    · rw [hexec, hloop]
      rfl
    · intro c
      have hc := hremoved c
      cases c <;> exact hc
    · -- the turns reach to the end of both queues, so nothing is left
      intro hlong c
      have hall' : (sendable ticks n).length = n.toSend.length := by
        rw [sendable, List.length_take, min_eq_right hlong]
      have hnumber := (hremoved c).number
      rw [hall', ofClass_length, Nat.sub_self] at hnumber
      have hzero : (m.sendQueue c).packetsToSend = 0 := UInt8.toNat_inj.mp hnumber
      cases c <;> exact hzero

/-- A node with a control packet and a message to send. -/
def twoToSend : Node where
  mac := { control := { packetsToSend := 1 }, message := { packetsToSend := 1 } }

/-- Both are sent in two turns. -/
theorem transmit_drains_two :
    DrainsInOrder ⟨.linux, true⟩ [⟨0, false⟩, ⟨0, false⟩] twoToSend := by
  refine (transmit_drains_iff _ _ _ rfl ?_ (by decide)).mpr (by decide +kernel)
  intro c
  cases c <;> exact ⟨by decide, by decide⟩

/-- A node with a control packet of 239 bytes to send. -/
def oversized : Node where
  mac :=
    { control :=
        { packetsToSend := 1
          packets := fun _ => { size := 239, data := List.replicate 239 0 } } }

/-- The packet is written past the end of its byte string. -/
theorem transmit_drains_oversized :
    executeTransmit ⟨.linux, true⟩ [⟨0, false⟩] oversized = .error .outOfBounds ∧
      ¬ DrainsInOrder ⟨.linux, true⟩ [⟨0, false⟩] oversized := by
  have herror : executeTransmit ⟨.linux, true⟩ [⟨0, false⟩] oversized = .error .outOfBounds := by
    rfl
  refine ⟨herror, ?_⟩
  rintro ⟨m, h, -⟩
  rw [herror] at h
  cases h

end WmnIot
