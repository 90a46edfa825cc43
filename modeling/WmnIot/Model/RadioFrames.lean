import WmnIot.Model.Accesses

/-! # The frames of the radio

What `Packets_Handlers.c` does with the radio on RIOT without `NATIVE`. A frame of the nRF24L01+ has
32 bytes: a CF message is put into one, and a control packet is taken from eight. A call of the
driver is an input of the functions.

* **`cfFrame`**, **`cfArray`** — the frame that `mclmac_send_cf_message` prepares, and the array that
  `mclmac_receive_cf_message` builds from one.
* **`recvFirst32Bytes`**, **`recvRemainingPacket`** — the two loops of the receivers of control
  packets.
* **`receiveBytes`** — the calls that these make to them. -/

namespace WmnIot

namespace Config

/-- `NRF24L01P_NG_MAX_PAYLOAD_WIDTH`. -/
abbrev maxPayloadWidth : ℕ := 32

end Config

/-- The bytes of a frame. -/
abbrev Frame32 : Type := Fin Config.maxPayloadWidth → UInt8

/-! ## CF messages -/

/-- The frame of `mclmac_send_cf_message`: the first bytes of the string of the packet, where `n`
fills the rest of the string. -/
def cfFrame (pkt : CFPacket) (n : UInt8) : Frame32 := fun i =>
  cfpacketGetPacketBytestring pkt n (i.castLE (by decide))

/-- The array that `mclmac_receive_cf_message` builds: the driver announces `len` bytes, and reading
them returns `ret` and fills the frame. -/
def cfArray (len : ℤ) (frame : Frame32) (ret : ℤ) : Option (List UInt8) :=
  if len = 0 then none
  else if len > 0 ∧ len < Config.maxPayloadWidth then none
  else if len = Config.maxPayloadWidth then
    if ret < Config.maxPayloadWidth then none
    else if frame 0 ≠ 0 then none
    else some ((List.ofFn frame).take ret.toNat)
  else none

/-- `READ_ARRAY` on RIOT: what is read past the end is the value of an uninitialised variable, here
that of `junk`. -/
def readE (array : List UInt8) (junk : ℕ → UInt8) : ℕ → UInt8 := fun i => array.getD i (junk i)

/-! ## Control packets -/

/-- One turn of a loop that polls the radio: the driver announces `len` bytes; reading them, if that
is done, fills the buffer and returns `ret`. The timer of the reception and the slot timer have
passed or not. -/
structure RadioPoll where
  len : ℤ
  buf : Frame32
  ret : ℤ
  timerPassed : Bool
  slotPassed : Bool

/-- What the two loops share: the variables behind their pointers, `out_buf`, which may be written
outside the array it points to, and the positions that frames were copied to. -/
structure RecvState where
  remainingBytes : ℤ
  pos : ℤ
  outBuf : ℤ → UInt8
  targets : List ℤ := []

/-- A loop is still polling, or it has returned and left the rest of the polls. -/
inductive RecvResult
  | polling (s : RecvState)
  | returned (ret : Bool) (s : RecvState) (rest : List RadioPoll)

/-- The state of a result. -/
def RecvResult.state : RecvResult → RecvState
  | polling s => s
  | returned _ s _ => s

/-- `memcpy` of a frame to `&out_buf[target]`, and the new values of `*pos` and
`*remaining_bytes`. -/
def RecvState.take (s : RecvState) (target : ℤ) (buf : Frame32) : RecvState where
  remainingBytes := s.remainingBytes - Config.maxPayloadWidth
  pos := s.pos + Config.maxPayloadWidth
  outBuf i :=
    if target ≤ i ∧ i < target + Config.maxPayloadWidth then
      buf (Fin.ofNat _ (i - target).toNat)
    else s.outBuf i
  targets := s.targets ++ [target]

/-- The loop of `_recv_first_32_bytes`. -/
def recvFirstLoop (type : UInt8) : List RadioPoll → RecvState → RecvResult
  | [], s => .polling s
  | p :: ps, s =>
    if p.len ≠ Config.maxPayloadWidth then
      if p.timerPassed then .returned false s ps else recvFirstLoop type ps s
    else if p.ret < 0 then .returned false s ps
    else if p.buf 0 ≠ type then
      if p.timerPassed then .returned false s ps else recvFirstLoop type ps s
    else .returned true (s.take 0 p.buf) ps

/-- `_recv_first_32_bytes`, with a timer that could be set or not. -/
def recvFirst32Bytes (type : UInt8) (timerSet : Bool) (polls : List RadioPoll) (s : RecvState) :
    RecvResult :=
  if !timerSet then .returned false s polls else recvFirstLoop type polls s

/-- `_recv_remaining_packet`, which starts with `max_recv` retries and has `retransmissions` of them
again after each frame. -/
def recvRemainingPacket (retransmissions : ℤ) : ℤ → List RadioPoll → RecvState → RecvResult
  | _, [], s => .polling s
  | maxRecv, p :: ps, s =>
    let minNumberBytes := if s.remainingBytes < p.len then s.remainingBytes else p.len
    if p.len < minNumberBytes then
      if p.slotPassed then .returned false s ps
      else if maxRecv = 0 then .returned false s ps
      else recvRemainingPacket retransmissions (maxRecv - 1) ps s
    else if p.ret < 0 then .returned false s ps
    else
      let s := s.take s.pos p.buf
      if s.remainingBytes > 0 then recvRemainingPacket retransmissions retransmissions ps s
      else .returned true s ps

/-- The two calls that `mclmac_receive_ctrlpkt_sync` and `mclmac_receive_control_packet` make. The
first one gets `&pos` and `&remaining_bytes` in each other's place. -/
def receiveBytes (retransmissions : ℤ) (timerSet : Bool) (polls : List RadioPoll) : RecvResult :=
  let pos : ℤ := 0
  let remainingBytes : ℤ := Config.packetSizeMac
  match recvFirst32Bytes 1 timerSet polls
      { remainingBytes := pos, pos := remainingBytes, outBuf := fun _ => 0 } with
  | .polling s => .polling s
  | .returned false s rest => .returned false s rest
  | .returned true s rest =>
    let pos := s.remainingBytes
    let remainingBytes := s.pos
    recvRemainingPacket retransmissions retransmissions rest
      { s with remainingBytes := remainingBytes, pos := pos }

end WmnIot
