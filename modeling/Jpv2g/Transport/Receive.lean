import Jpv2g.Transport.ReceiveLoop
import Jpv2g.V2gtp.Parse

/-!
# Receiving Frames

The receive loops of both sides (`secc_recv_bytes`, `evcc_recv_bytes`) and the frame receivers on
top of them (`secc_recv_v2gtp`, `jpv2g_evcc_recv_v2gtp`), over a byte stream that the transport
hands out in pieces.

## Main definitions

* `RecvTurn`: what one iteration of a receive loop meets.
* `seccRecvBytes`, `evccRecvBytes`, `seccRecvV2gtp`, `evccRecvV2gtp`: the source's functions.
* `frameLength`, `frameResult`: how far a frame reaches and what it is worth, from the stream alone.
* `ReceivesFrames`: successive calls return the frames of the stream one after the other.

## Main results

* `recvBytes_delivers`: a receive loop returns the next bytes of the stream however they arrive.
* `seccRecvV2gtp_stored_le`: however a call ends, it has not stored past the buffer.
* `evccRecvV2gtp_receives`: the vehicle's receiver returns the frames of the stream.
* `recvV2gtp_framing_iff`: the station's does exactly as long as no length is lost to its narrowed
  capacity check.
-/

namespace Jpv2g

/-! ## The receive loops -/

/-- What one iteration of a receive loop meets. -/
structure RecvTurn where
  /-- The milliseconds left until the deadline. -/
  remainingMs : ℤ
  /-- What the transport returns: how many bytes it has, `0` when the peer has closed. -/
  answer : Except Errno ℕ

/-- Where a receiver stands: what it has stored, what is left of the stream and of the turns, and
its return, `none` while it waits for another turn. -/
structure Received (α : Type) where
  stored : List UInt8
  stream : Stream' UInt8
  turns : List RecvTurn
  rc : Option (Except Errno α)

namespace Received

variable {α β : Type}

/-- Return without storing anything. -/
def ended (turns : List RecvTurn) (stream : Stream' UInt8) (rc : Except Errno α) : Received α :=
  ⟨[], stream, turns, some rc⟩

/-- Go on behind the stored bytes after a successful return. -/
def andThen (received : Received α)
    (next : List UInt8 → List RecvTurn → Stream' UInt8 → Received β) : Received β :=
  match received.rc with
  | some (.ok _) =>
    let more := next received.stored received.turns received.stream
    { more with stored := received.stored ++ more.stored }
  | some (.error e) => { received with rc := some (.error e) }
  | none => { received with rc := none }

end Received

/-- A turn as a poll, under a clock that starts at zero. -/
def RecvTurn.toPoll (timeoutMs : ℤ) (turn : RecvTurn) : RecvPoll :=
  { nowMs := recvDeadline timeoutMs 0 - turn.remainingMs, answer := turn.answer }

/-- Receive exactly `len` bytes: the receive loop, with the bytes that its calls have brought.
`again` is what `-EAGAIN` ends the loop with, `none` when the loop tries again. -/
def recvBytes (again : Option Errno) (timeoutMs : ℤ) (turns : List RecvTurn) (len : ℕ)
    (stream : Stream' UInt8) : Received Unit :=
  let run := (recvLoop again timeoutMs 0 len).run 0 (turns.map (RecvTurn.toPoll timeoutMs))
  -- the transport is never asked for more than is missing
  let received := min (receivedBytes run.2) len
  { stored := stream.take received
    stream := stream.drop received
    turns := turns.drop run.2.length
    rc := run.1.elim (fun _ => none) some }

/-- The station's receive loop (`secc_recv_bytes`) tries again until the deadline. -/
def seccRecvBytes (timeoutMs : ℤ) : List RecvTurn → ℕ → Stream' UInt8 → Received Unit :=
  recvBytes none timeoutMs

/-- The vehicle's receive loop (`evcc_recv_bytes`) takes `-EAGAIN` for the deadline. -/
def evccRecvBytes (timeoutMs : ℤ) : List RecvTurn → ℕ → Stream' UInt8 → Received Unit :=
  recvBytes (some (if 0 < timeoutMs then .etimedout else .eagain)) timeoutMs

/-! ## The frame receivers -/

/-- Receive a header, check the payload length it declares, receive the payload and parse. -/
def recvV2gtp (iso20 : Bool) (recv : List RecvTurn → ℕ → Stream' UInt8 → Received Unit)
    (check : ℕ → Rc) (turns : List RecvTurn) (stream : Stream' UInt8) : Received V2gtp :=
  (recv turns 8 stream).andThen fun header turns stream =>
    let payloadLen := readBigEndian (header.drop 4)
    match check payloadLen with
    | .error e => .ended turns stream (.error e)
    | .ok () =>
      (recv turns payloadLen stream).andThen fun payload turns stream =>
        .ended turns stream (v2gtpParse iso20 (header ++ payload))

/-- The station's checks on a declared payload length. -/
def seccPayloadCheck (bufLen payloadLen : ℕ) : Rc :=
  if maxPayloadLength < payloadLen then .error .e2big
  -- the room behind the header is narrowed to 32 bits before it is compared
  else if (bufLen - 8) % 2 ^ 32 < payloadLen then .error .enospc
  else if bufLen < 8 + payloadLen then .error .enospc
  else .ok ()

/-- The vehicle's checks on a declared payload length. -/
def evccPayloadCheck (bufLen payloadLen : ℕ) : Rc :=
  if maxPayloadLength < payloadLen then .error .e2big
  else if bufLen < 8 + payloadLen then .error .enospc
  else .ok ()

/-- Receive one frame into a buffer of `bufLen` bytes (`secc_recv_v2gtp`). -/
def seccRecvV2gtp (iso20 : Bool) (timeoutMs : ℤ) (bufLen : ℕ) (turns : List RecvTurn)
    (stream : Stream' UInt8) : Received V2gtp :=
  if bufLen < 8 then .ended turns stream (.error .enospc)
  else recvV2gtp iso20 (seccRecvBytes timeoutMs) (seccPayloadCheck bufLen) turns stream

/-- Receive one frame into a buffer of `bufLen` bytes (`jpv2g_evcc_recv_v2gtp`). -/
def evccRecvV2gtp (iso20 : Bool) (timeoutMs : ℤ) (bufLen : ℕ) (turns : List RecvTurn)
    (stream : Stream' UInt8) : Received V2gtp :=
  if bufLen < 8 then .ended turns stream (.error .enospc)
  else recvV2gtp iso20 (evccRecvBytes timeoutMs) (evccPayloadCheck bufLen) turns stream

/-! ## The frames of a stream -/

/-- The payload length the next header declares. -/
def declaredLength (stream : Stream' UInt8) : ℕ := readBigEndian ((stream.take 8).drop 4)

/-- The bytes the next frame takes: only its header when the payload is refused. -/
def frameLength (bufLen : ℕ) (stream : Stream' UInt8) : ℕ :=
  if maxPayloadLength < declaredLength stream ∨ bufLen < 8 + declaredLength stream then 8
  else 8 + declaredLength stream

/-- What the next frame is worth to a receiver with a buffer of `bufLen` bytes. -/
def frameResult (iso20 : Bool) (bufLen : ℕ) (stream : Stream' UInt8) : Except Errno V2gtp :=
  if maxPayloadLength < declaredLength stream then .error .e2big
  else if bufLen < 8 + declaredLength stream then .error .enospc
  else v2gtpParse iso20 (stream.take (8 + declaredLength stream))

/-- The first `count` frames of the stream, together. -/
def framesLength (bufLen : ℕ) : ℕ → Stream' UInt8 → ℕ
  | 0, _ => 0
  | count + 1, stream =>
    frameLength bufLen stream + framesLength bufLen count (stream.drop (frameLength bufLen stream))

/-- The next `count` calls of a receiver return the next `count` frames of the stream, consume
exactly their bytes and store no more than the buffer holds. -/
def ReceivesFrames (iso20 : Bool) (bufLen : ℕ)
    (call : List RecvTurn → Stream' UInt8 → Received V2gtp) :
    ℕ → List RecvTurn → Stream' UInt8 → Prop
  | 0, _, _ => True
  | count + 1, turns, stream =>
    let received := call turns stream
    received.rc = some (frameResult iso20 bufLen stream) ∧
      received.stored = stream.take (frameLength bufLen stream) ∧
      received.stored.length ≤ bufLen ∧
      received.stream = stream.drop (frameLength bufLen stream) ∧
      ReceivesFrames iso20 bufLen call count received.turns received.stream

/-- The narrowed capacity check lets the declared length through if the buffer does. -/
def LengthFits (bufLen : ℕ) (stream : Stream' UInt8) : Prop :=
  declaredLength stream ≤ maxPayloadLength → 8 + declaredLength stream ≤ bufLen →
    declaredLength stream ≤ (bufLen - 8) % 2 ^ 32

/-- The narrowed capacity check loses none of the first `count` frames. -/
def FramesFit (bufLen : ℕ) : ℕ → Stream' UInt8 → Prop
  | 0, _ => True
  | count + 1, stream =>
    LengthFits bufLen stream ∧ FramesFit bufLen count (stream.drop (frameLength bufLen stream))

/-! ## Receiving the next bytes -/

namespace RecvTurn

/-- The turn brings bytes. -/
def delivers (turn : RecvTurn) : Bool :=
  match turn.answer with
  | .ok count => 0 < count
  | .error _ => false

/-- The turn brings `-EAGAIN`. -/
def triesAgain (turn : RecvTurn) : Bool :=
  match turn.answer with
  | .error .eagain => true
  | _ => false

/-- Before the deadline, the turn brings bytes or `-EAGAIN`. -/
def InTime (turn : RecvTurn) : Prop :=
  0 < turn.remainingMs ∧ (turn.delivers = true ∨ turn.triesAgain = true)

instance (turn : RecvTurn) : Decidable turn.InTime := by
  unfold InTime
  infer_instance

end RecvTurn

/-- The number of turns that bring bytes. -/
def deliveries (turns : List RecvTurn) : ℕ := turns.countP RecvTurn.delivers

section RecvBytes

variable {again : Option Errno} {timeoutMs : ℤ} {turn : RecvTurn} {turns : List RecvTurn}

theorem RecvTurn.answer_of_delivers (h : turn.delivers = true) :
    ∃ count, turn.answer = .ok (count + 1) := by
  rw [RecvTurn.delivers] at h
  split at h
  next count hanswer =>
    obtain ⟨k, rfl⟩ := Nat.exists_eq_add_one_of_ne_zero (Nat.pos_iff_ne_zero.mp (by simpa using h))
    exact ⟨k, hanswer⟩
  next => exact nomatch h

theorem RecvTurn.answer_of_triesAgain (h : turn.triesAgain = true) :
    turn.answer = .error .eagain := by
  rw [RecvTurn.triesAgain] at h
  split at h
  next hanswer => exact hanswer
  next => exact nomatch h

@[simp]
theorem recvBytes_zero (turns : List RecvTurn) (stream : Stream' UInt8) :
    recvBytes again timeoutMs turns 0 stream = .ended turns stream (.ok ()) := by
  rw [recvBytes, Loop.run_of_exit _ (recvLoop_exit_of_le (Nat.le_refl 0))]
  rfl

/-- A receive loop never stores more than it was asked for. -/
theorem recvBytes_stored_le (again : Option Errno) (timeoutMs : ℤ) (turns : List RecvTurn)
    (len : ℕ) (stream : Stream' UInt8) :
    (recvBytes again timeoutMs turns len stream).stored.length ≤ len := by
  rw [recvBytes, Stream'.length_take]
  exact Nat.min_le_right _ _

/-- A turn before the deadline after which the loop goes on hands out as many bytes as it has and as
are missing. -/
theorem recvBytes_of_goes (htime : 0 < turn.remainingMs) {len : ℕ} (hlen : 0 < len)
    (houtcome : recvOutcome again 0 turn.answer = .inl (answeredBytes turn.answer))
    (stream : Stream' UInt8) :
    recvBytes again timeoutMs (turn :: turns) len stream =
      let received := min (answeredBytes turn.answer) len
      let more := recvBytes again timeoutMs turns (len - received) (stream.drop received)
      { more with stored := stream.take received ++ more.stored } := by
  obtain ⟨count, hcount⟩ : ∃ count, count = answeredBytes turn.answer := ⟨_, rfl⟩
  rw [← hcount] at houtcome ⊢
  have hpoll : ¬(0 < timeoutMs ∧
      recvDeadline timeoutMs 0 - (turn.toPoll timeoutMs).nowMs ≤ 0) := by
    have hleft : recvDeadline timeoutMs 0 - (turn.toPoll timeoutMs).nowMs = turn.remainingMs :=
      Int.sub_sub_self _ _
    omega
  have hbody : (recvLoop again timeoutMs 0 len).body 0 (turn.toPoll timeoutMs) =
      (.inl count, _) :=
    (recvLoop_body_of_inTime hpoll 0).trans (congrArg (·, _) houtcome)
  -- the rest of the run is the loop for the bytes that are still missing
  have hrest := recvLoop_run_shift again timeoutMs 0 len count 0
    (turns.map (RecvTurn.toPoll timeoutMs))
  have hrun := Loop.run_cons_of_goes _ (recvLoop_exit_of_lt hlen) (congrArg Prod.fst hbody)
    (turns.map (RecvTurn.toPoll timeoutMs))
  rw [Nat.add_zero] at hrest
  rw [hbody, hrest] at hrun
  have hmissing : len - min count len = len - count := by omega
  dsimp only
  rw [recvBytes, recvBytes, List.map_cons, hrun, hmissing]
  generalize (recvLoop again timeoutMs 0 (len - count)).run 0
    (turns.map (RecvTurn.toPoll timeoutMs)) = rest
  obtain ⟨place, events⟩ := rest
  obtain ⟨asked, hasked, hevent⟩ : ∃ asked, asked = RecvEvent.asked 0 (len - 0)
      (recvSlice timeoutMs 0 (turn.toPoll timeoutMs).nowMs) (turn.toPoll timeoutMs).answer ∧
      asked.bytes = count := ⟨_, rfl, hcount.symm⟩
  have hbytes : min (receivedBytes ([asked] ++ events.map (RecvEvent.shift count))) len =
      min count len + min (receivedBytes events) (len - count) := by
    rw [List.singleton_append, receivedBytes_cons, receivedBytes_shift, hevent]
    omega
  rw [← hasked]
  dsimp only
  rw [hbytes, Stream'.take_add, Stream'.drop_drop, List.length_append, List.length_map,
    List.length_singleton, Nat.add_comm 1, List.drop_succ_cons]
  cases place <;> rfl

/-- A turn that brings bytes hands out as many as it has and as are missing. -/
theorem recvBytes_of_delivers (htime : 0 < turn.remainingMs) {count : ℕ}
    (hanswer : turn.answer = .ok (count + 1)) (len : ℕ) (stream : Stream' UInt8) :
    recvBytes again timeoutMs (turn :: turns) (len + 1) stream =
      let received := min (count + 1) (len + 1)
      let more := recvBytes again timeoutMs turns (len + 1 - received) (stream.drop received)
      { more with stored := stream.take received ++ more.stored } := by
  have hgoes := @recvBytes_of_goes again timeoutMs turn turns htime (len + 1) (Nat.succ_pos len)
  rw [hanswer] at hgoes
  exact hgoes (congrArg Sum.inl (Nat.zero_add _)) stream

/-- A loop that tries again passes over a turn that brings `-EAGAIN`. -/
theorem recvBytes_of_triesAgain (htime : 0 < turn.remainingMs)
    (hanswer : turn.answer = .error .eagain) (len : ℕ) (stream : Stream' UInt8) :
    recvBytes none timeoutMs (turn :: turns) (len + 1) stream =
      recvBytes none timeoutMs turns (len + 1) stream := by
  have hgoes := @recvBytes_of_goes none timeoutMs turn turns htime (len + 1) (Nat.succ_pos len)
  rw [hanswer] at hgoes
  refine (hgoes rfl stream).trans ?_
  rw [show answeredBytes (.error .eagain) = 0 from rfl, Nat.zero_min]
  rfl

variable (timeoutMs) in
/-- **A receive loop returns the next bytes of the stream**, however the transport cuts it and
however often it has nothing yet, as long as enough turns bring bytes. -/
theorem recvBytes_delivers (len : ℕ) (stream : Stream' UInt8)
    (hturns : ∀ turn ∈ turns, turn.InTime ∧ (turn.triesAgain = true → again = none))
    (henough : len ≤ deliveries turns) :
    ∃ left, recvBytes again timeoutMs turns len stream =
        ⟨stream.take len, stream.drop len, left, some (.ok ())⟩ ∧
      left <:+ turns ∧ deliveries turns ≤ len + deliveries left := by
  -- along the turns: those that bring bytes suffice for what is still missing
  induction turns generalizing len stream with
  | nil =>
    obtain rfl : len = 0 := Nat.le_zero.mp henough
    exact ⟨[], rfl, List.suffix_rfl, Nat.zero_le _⟩
  | cons turn turns ih =>
    have hrest : ∀ turn ∈ turns, turn.InTime ∧ (turn.triesAgain = true → again = none) :=
      fun t ht => hturns t (List.mem_cons_of_mem turn ht)
    obtain ⟨⟨htime, hbrings⟩, hagain⟩ := hturns turn List.mem_cons_self
    cases len with
    | zero => exact ⟨turn :: turns, recvBytes_zero _ _, List.suffix_rfl, by omega⟩
    | succ len =>
      by_cases hdelivers : turn.delivers = true
      · obtain ⟨count, hanswer⟩ := RecvTurn.answer_of_delivers hdelivers
        have hcount : deliveries (turn :: turns) = deliveries turns + 1 :=
          List.countP_cons_of_pos hdelivers
        -- the turn brings at least one byte, and the turns left bring the rest
        obtain ⟨received, hreceived⟩ : ∃ k, k = min (count + 1) (len + 1) := ⟨_, rfl⟩
        obtain ⟨left, hmore, hsuffix, hleft⟩ :=
          ih (len + 1 - received) (stream.drop received) hrest (by omega)
        refine ⟨left, ?_, hsuffix.trans (List.suffix_cons turn turns), by omega⟩
        have hlen : received + (len + 1 - received) = len + 1 := by omega
        rw [recvBytes_of_delivers htime hanswer, ← hreceived]
        simp only [hmore, Stream'.drop_drop, ← Stream'.take_add, hlen]
      -- the loop that tries again passes over the turn
      · have htries := hbrings.resolve_left hdelivers
        have hcount : deliveries (turn :: turns) = deliveries turns :=
          List.countP_cons_of_neg hdelivers
        obtain rfl := hagain htries
        rw [recvBytes_of_triesAgain htime (RecvTurn.answer_of_triesAgain htries)]
        obtain ⟨left, hmore, hsuffix, hleft⟩ := ih (len + 1) stream hrest (by omega)
        exact ⟨left, hmore, hsuffix.trans (List.suffix_cons turn turns), by omega⟩

end RecvBytes

/-! ## Receiving frames -/

section RecvV2gtp

variable (iso20 : Bool) (again : Option Errno) (timeoutMs : ℤ) {bufLen : ℕ}
  {turns : List RecvTurn} {stream : Stream' UInt8}

/-- A header is all that is taken of a frame whose length is refused. -/
theorem recvV2gtp_refused {check : ℕ → Rc} {e : Errno}
    (hturns : ∀ turn ∈ turns, turn.InTime ∧ (turn.triesAgain = true → again = none))
    (henough : 8 ≤ deliveries turns) (hcheck : check (declaredLength stream) = .error e) :
    ∃ left, recvV2gtp iso20 (recvBytes again timeoutMs) check turns stream =
        ⟨stream.take 8, stream.drop 8, left, some (.error e)⟩ ∧
      left <:+ turns ∧ deliveries turns ≤ 8 + deliveries left := by
  obtain ⟨left, hheader, hsuffix, hleft⟩ :=
    recvBytes_delivers timeoutMs 8 stream hturns henough
  refine ⟨left, ?_, hsuffix, hleft⟩
  rw [declaredLength] at hcheck
  rw [recvV2gtp, hheader]
  simp only [Received.andThen, hcheck, Received.ended, List.append_nil]

/-- A frame whose length is accepted is received whole and parsed. -/
theorem recvV2gtp_accepted {check : ℕ → Rc}
    (hturns : ∀ turn ∈ turns, turn.InTime ∧ (turn.triesAgain = true → again = none))
    (henough : 8 + declaredLength stream ≤ deliveries turns)
    (hcheck : check (declaredLength stream) = .ok ()) :
    ∃ left, recvV2gtp iso20 (recvBytes again timeoutMs) check turns stream =
        ⟨stream.take (8 + declaredLength stream), stream.drop (8 + declaredLength stream), left,
          some (v2gtpParse iso20 (stream.take (8 + declaredLength stream)))⟩ ∧
      left <:+ turns ∧
      deliveries turns ≤ 8 + declaredLength stream + deliveries left := by
  -- the header first, then the payload in the turns the header left
  obtain ⟨between, hheader, hbetween, hcount⟩ :=
    recvBytes_delivers timeoutMs 8 stream hturns (by omega)
  obtain ⟨left, hpayload, hsuffix, hleft⟩ :=
    recvBytes_delivers timeoutMs (declaredLength stream) (stream.drop 8)
      (fun turn hturn => hturns turn (hbetween.subset hturn)) (by omega)
  refine ⟨left, ?_, hsuffix.trans hbetween, by omega⟩
  have hlength : readBigEndian ((stream.take 8).drop 4) = declaredLength stream := rfl
  rw [recvV2gtp, hheader]
  simp only [Received.andThen, hlength, hcheck, hpayload, Received.ended, List.append_nil,
    Stream'.drop_drop, ← Stream'.take_add]

/-- A receiver whose check is the one on the whole buffer returns the next frame. -/
theorem recvV2gtp_receives (check : ℕ → Rc)
    (hturns : ∀ turn ∈ turns, turn.InTime ∧ (turn.triesAgain = true → again = none))
    (henough : frameLength bufLen stream ≤ deliveries turns)
    (hcheck : check (declaredLength stream) = evccPayloadCheck bufLen (declaredLength stream)) :
    ∃ left, recvV2gtp iso20 (recvBytes again timeoutMs) check turns stream =
        ⟨stream.take (frameLength bufLen stream), stream.drop (frameLength bufLen stream), left,
          some (frameResult iso20 bufLen stream)⟩ ∧
      left <:+ turns ∧ deliveries turns ≤ frameLength bufLen stream + deliveries left := by
  -- the format refuses the length, or the buffer does, or the frame is received whole
  by_cases hlong : maxPayloadLength < declaredLength stream
  · rw [evccPayloadCheck, if_pos hlong] at hcheck
    rw [frameLength, if_pos (.inl hlong)] at henough ⊢
    rw [frameResult, if_pos hlong]
    exact recvV2gtp_refused iso20 again timeoutMs hturns henough hcheck
  rw [evccPayloadCheck, if_neg hlong] at hcheck
  rw [frameResult, if_neg hlong]
  by_cases hroom : bufLen < 8 + declaredLength stream
  · rw [if_pos hroom] at hcheck
    rw [frameLength, if_pos (.inr hroom)] at henough ⊢
    rw [if_pos hroom]
    exact recvV2gtp_refused iso20 again timeoutMs hturns henough hcheck
  · rw [if_neg hroom] at hcheck
    rw [frameLength, if_neg (not_or.mpr ⟨hlong, hroom⟩)] at henough ⊢
    rw [if_neg hroom]
    exact recvV2gtp_accepted iso20 again timeoutMs hturns henough hcheck

/-- The narrowed check decides as the one on the whole buffer does when it loses no length. -/
theorem seccPayloadCheck_eq (h : LengthFits bufLen stream) :
    seccPayloadCheck bufLen (declaredLength stream) =
      evccPayloadCheck bufLen (declaredLength stream) := by
  rw [seccPayloadCheck, evccPayloadCheck]
  by_cases hlong : maxPayloadLength < declaredLength stream
  · rw [if_pos hlong, if_pos hlong]
  rw [if_neg hlong, if_neg hlong]
  by_cases hroom : bufLen < 8 + declaredLength stream
  · rw [if_pos hroom]
    exact ite_self _
  · have hfits : ¬(bufLen - 8) % 2 ^ 32 < declaredLength stream :=
      not_lt.mpr (h (not_lt.mp hlong) (not_lt.mp hroom))
    rw [if_neg hfits]

/-- A length that the narrowed check loses is refused although the buffer would hold it. -/
theorem seccPayloadCheck_narrowed (h : ¬LengthFits bufLen stream) :
    seccPayloadCheck bufLen (declaredLength stream) = .error .enospc ∧
      0 < declaredLength stream ∧
      frameLength bufLen stream = 8 + declaredLength stream := by
  simp only [LengthFits, Classical.not_imp, not_le] at h
  obtain ⟨hlong, hroom, hnarrow⟩ := h
  refine ⟨?_, by omega, ?_⟩
  · rw [seccPayloadCheck, if_neg (by omega), if_pos hnarrow]
  · rw [frameLength, if_neg (by omega)]

/-- A buffer that is shorter than `2 ^ 32 + 8` loses no length. -/
theorem framesFit_of_lt (hbuf : bufLen < 2 ^ 32 + 8) (count : ℕ) (stream : Stream' UInt8) :
    FramesFit bufLen count stream := by
  induction count generalizing stream with
  | zero => trivial
  | succ count ih =>
    refine ⟨?_, ih _⟩
    intro _ hroom
    -- the conversion to `uint32_t` changes nothing below its range
    rw [Nat.mod_eq_of_lt (by omega)]
    omega

/-- However a call ends, it has stored no more than the buffer holds. -/
theorem recvV2gtp_stored_le {check : ℕ → Rc} (hbuf : 8 ≤ bufLen)
    (hcheck : ∀ payloadLen, check payloadLen = .ok () → 8 + payloadLen ≤ bufLen) :
    (recvV2gtp iso20 (recvBytes again timeoutMs) check turns stream).stored.length ≤ bufLen := by
  have hheader := recvBytes_stored_le again timeoutMs turns 8 stream
  rw [recvV2gtp, Received.andThen]
  split
  · dsimp only
    split
    · rw [Received.ended, List.append_nil]
      omega
    next hok =>
      -- the check has left room for the payload behind the header
      have hroom := hcheck _ hok
      generalize readBigEndian _ = payloadLen at hroom ⊢
      have hpayload := recvBytes_stored_le again timeoutMs
        (recvBytes again timeoutMs turns 8 stream).turns payloadLen
        (recvBytes again timeoutMs turns 8 stream).stream
      rw [Received.andThen]
      split <;> simp only [Received.ended, List.append_nil, List.length_append] <;> omega
  · exact hheader.trans hbuf
  · exact hheader.trans hbuf

/-- The station's receiver never stores past its buffer. -/
theorem seccRecvV2gtp_stored_le :
    (seccRecvV2gtp iso20 timeoutMs bufLen turns stream).stored.length ≤ bufLen := by
  rw [seccRecvV2gtp]
  split_ifs with hbuf
  · exact Nat.zero_le _
  · apply recvV2gtp_stored_le iso20 none timeoutMs (not_lt.mp hbuf)
    intro payloadLen hok
    rw [seccPayloadCheck] at hok
    split_ifs at hok with hlong hnarrow hroom
    exact not_lt.mp hroom

/-- A frame that is received fits the buffer. -/
theorem frameLength_le (hbuf : 8 ≤ bufLen) (stream : Stream' UInt8) :
    frameLength bufLen stream ≤ bufLen := by
  rw [frameLength]
  split_ifs with h
  · exact hbuf
  · omega

/-- The next call returns the next frame, and the calls after it go on from there. -/
theorem receivesFrames_succ_iff {call : List RecvTurn → Stream' UInt8 → Received V2gtp}
    {left : List RecvTurn} (hbuf : 8 ≤ bufLen)
    (hcall : call turns stream = ⟨stream.take (frameLength bufLen stream),
      stream.drop (frameLength bufLen stream), left, some (frameResult iso20 bufLen stream)⟩)
    (count : ℕ) :
    ReceivesFrames iso20 bufLen call (count + 1) turns stream ↔
      ReceivesFrames iso20 bufLen call count left
        (stream.drop (frameLength bufLen stream)) := by
  rw [ReceivesFrames]
  simp only [hcall, Stream'.length_take, true_and, frameLength_le hbuf stream]

/-- **The vehicle's receiver returns the frames of the stream**, however the transport cuts it,
as long as there is no `-EAGAIN`. -/
theorem evccRecvV2gtp_receives (hbuf : 8 ≤ bufLen) (hturns : ∀ turn ∈ turns, turn.InTime)
    (hagain : ∀ turn ∈ turns, turn.triesAgain = false) {count : ℕ}
    (henough : framesLength bufLen count stream ≤ deliveries turns) :
    ReceivesFrames iso20 bufLen (evccRecvV2gtp iso20 timeoutMs bufLen) count turns stream := by
  -- along the calls, each from where the one before stopped
  induction count generalizing turns stream with
  | zero => trivial
  | succ count ih =>
    rw [framesLength] at henough
    have henough' : frameLength bufLen stream ≤ deliveries turns := by omega
    have hinTime : ∀ turn ∈ turns, turn.InTime ∧ (turn.triesAgain = true →
        some (if 0 < timeoutMs then Errno.etimedout else .eagain) = none) :=
      fun turn hturn => ⟨hturns turn hturn, fun h => nomatch (hagain turn hturn).symm.trans h⟩
    obtain ⟨left, hframe, hsuffix, hleft⟩ :=
      recvV2gtp_receives iso20 (some (if 0 < timeoutMs then .etimedout else .eagain)) timeoutMs
        (evccPayloadCheck bufLen) hinTime henough' rfl
    have hcall : evccRecvV2gtp iso20 timeoutMs bufLen turns stream = _ :=
      (if_neg (Nat.not_lt.mpr hbuf)).trans hframe
    rw [receivesFrames_succ_iff iso20 hbuf hcall]
    apply ih
    · exact fun turn hturn => hturns turn (hsuffix.subset hturn)
    · exact fun turn hturn => hagain turn (hsuffix.subset hturn)
    · omega

/-- The station's receiver returns the next frame exactly when its length is not lost. -/
theorem seccRecvV2gtp_call (hbuf : 8 ≤ bufLen) (hturns : ∀ turn ∈ turns, turn.InTime)
    (henough : frameLength bufLen stream ≤ deliveries turns) (hfits : LengthFits bufLen stream) :
    ∃ left, seccRecvV2gtp iso20 timeoutMs bufLen turns stream =
        ⟨stream.take (frameLength bufLen stream), stream.drop (frameLength bufLen stream), left,
          some (frameResult iso20 bufLen stream)⟩ ∧
      left <:+ turns ∧ deliveries turns ≤ frameLength bufLen stream + deliveries left := by
  rw [seccRecvV2gtp, if_neg (Nat.not_lt.mpr hbuf)]
  exact recvV2gtp_receives iso20 none timeoutMs (seccPayloadCheck bufLen)
    (fun turn hturn => ⟨hturns turn hturn, fun _ => rfl⟩) henough (seccPayloadCheck_eq hfits)

/-- A frame whose length is lost is refused after its header. -/
theorem seccRecvV2gtp_narrowed (hbuf : 8 ≤ bufLen) (hturns : ∀ turn ∈ turns, turn.InTime)
    (henough : frameLength bufLen stream ≤ deliveries turns)
    (hlost : ¬LengthFits bufLen stream) (count : ℕ) :
    ¬ReceivesFrames iso20 bufLen (seccRecvV2gtp iso20 timeoutMs bufLen) (count + 1) turns
      stream := by
  obtain ⟨hcheck, hpos, hlength⟩ := seccPayloadCheck_narrowed hlost
  obtain ⟨left, hcall, -, -⟩ := recvV2gtp_refused iso20 none timeoutMs
    (fun turn hturn => ⟨hturns turn hturn, fun _ => rfl⟩) (by omega) hcheck
  intro hreceives
  obtain ⟨-, hstored, -⟩ := hreceives
  have hheader : (seccRecvV2gtp iso20 timeoutMs bufLen turns stream).stored = stream.take 8 := by
    rw [seccRecvV2gtp, if_neg (Nat.not_lt.mpr hbuf)]
    exact congrArg Received.stored hcall
  -- the call has stored the header alone, where the frame goes on behind it
  have hlengths := congrArg List.length (hheader.symm.trans hstored)
  rw [Stream'.length_take, Stream'.length_take] at hlengths
  omega

/-- **Successive calls of the station's receiver return the frames of the stream**, in order and
with none lost, exactly when its narrowed capacity check loses none of their lengths. The
vehicle's receiver then returns the same frames whenever there is no `-EAGAIN`. -/
theorem recvV2gtp_framing_iff (hbuf : 8 ≤ bufLen) (hturns : ∀ turn ∈ turns, turn.InTime)
    {count : ℕ} (henough : framesLength bufLen count stream ≤ deliveries turns) :
    (ReceivesFrames iso20 bufLen (seccRecvV2gtp iso20 timeoutMs bufLen) count turns stream ∧
      ((∀ turn ∈ turns, turn.triesAgain = false) →
        ReceivesFrames iso20 bufLen (evccRecvV2gtp iso20 timeoutMs bufLen) count turns stream)) ↔
      FramesFit bufLen count stream := by
  have hevcc : (∀ turn ∈ turns, turn.triesAgain = false) →
      ReceivesFrames iso20 bufLen (evccRecvV2gtp iso20 timeoutMs bufLen) count turns stream :=
    fun hagain => evccRecvV2gtp_receives iso20 timeoutMs hbuf hturns hagain henough
  rw [and_iff_left hevcc]
  clear hevcc
  -- along the calls: the first length that is lost ends the agreement
  induction count generalizing turns stream with
  | zero => exact Iff.rfl
  | succ count ih =>
    rw [framesLength] at henough
    by_cases hfits : LengthFits bufLen stream
    · obtain ⟨left, hcall, hsuffix, hleft⟩ :=
        seccRecvV2gtp_call iso20 timeoutMs hbuf hturns (by omega) hfits
      rw [receivesFrames_succ_iff iso20 hbuf hcall, FramesFit, and_iff_right hfits]
      apply ih
      · exact fun turn hturn => hturns turn (hsuffix.subset hturn)
      · omega
    · have hlost := seccRecvV2gtp_narrowed iso20 timeoutMs hbuf hturns (by omega) hfits count
      exact iff_of_false hlost fun h => hfits h.1

end RecvV2gtp

/-- A frame of one byte, and zeros behind it. -/
def oneByteFrame : Stream' UInt8 :=
  fun i => [0x01, 0xFE, 0x80, 0x01, 0x00, 0x00, 0x00, 0x01, 0x42].getD i 0

/-- Three bytes, nothing yet, and six bytes more. -/
def unevenTurns : List RecvTurn :=
  [⟨900, .ok 3⟩, ⟨700, .error .eagain⟩] ++ List.replicate 8 ⟨500, .ok 2⟩

/-- The frame arrives whole in the station's own receive buffer. -/
theorem recvV2gtp_framing_witness :
    (ReceivesFrames false 4104 (seccRecvV2gtp false 1000 4104) 1 unevenTurns oneByteFrame ∧
      ((∀ turn ∈ unevenTurns, turn.triesAgain = false) →
        ReceivesFrames false 4104 (evccRecvV2gtp false 1000 4104) 1 unevenTurns
          oneByteFrame)) ↔
      FramesFit 4104 1 oneByteFrame :=
  recvV2gtp_framing_iff false 1000 (by decide) (by decide) (by decide)

/-- A buffer of `2 ^ 32 + 8` bytes loses the one-byte frame, which the vehicle's receiver reads. -/
theorem seccRecvV2gtp_loses_frame :
    (∀ turn ∈ unevenTurns, turn.InTime) ∧
      framesLength (2 ^ 32 + 8) 1 oneByteFrame ≤ deliveries unevenTurns ∧
      (seccRecvV2gtp false 1000 (2 ^ 32 + 8) unevenTurns oneByteFrame).rc =
        some (.error .enospc) ∧
      frameResult false (2 ^ 32 + 8) oneByteFrame = .ok (.framed .exi [0x42]) ∧
      ¬ReceivesFrames false (2 ^ 32 + 8) (seccRecvV2gtp false 1000 (2 ^ 32 + 8)) 1 unevenTurns
        oneByteFrame := by
  have hrc : (seccRecvV2gtp false 1000 (2 ^ 32 + 8) unevenTurns oneByteFrame).rc =
      some (.error .enospc) := by decide +kernel
  have hresult : frameResult false (2 ^ 32 + 8) oneByteFrame = .ok (.framed .exi [0x42]) := by
    decide +kernel
  refine ⟨by decide, by decide, hrc, hresult, ?_⟩
  intro hreceives
  obtain ⟨hreturn, -⟩ := hreceives
  rw [hrc, hresult] at hreturn
  exact nomatch hreturn

end Jpv2g
