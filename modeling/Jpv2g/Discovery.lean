import Jpv2g.Sdp
import Jpv2g.Transport.Wait

/-!
# The Search for a Station

The search of the vehicle for a station (`discovery.c`, with the UDP client of `transport.c`, and
`jpv2g_evcc_discover`): the same request is sent again until something arrives in time that is
the response of a station.

## Main definitions

* `udpClientStart`, `udpClientSendrecv`: the UDP client.
* `discoverSecc`, `evccDiscover`: the search.
* `UdpTurn.response`: what an attempt brings.

## Main results

* `discoverSecc_first`: the search returns the first response, and what it does with its socket.
* `discovery_agrees`: what is found where one station answers.
-/

namespace Jpv2g

/-! ## The UDP client -/

/-- What the search does with its socket. -/
inductive UdpEvent where
  | opened (fd : ℕ)
  | sent (datagram : List UInt8)
  | closed (fd : ℕ)
deriving DecidableEq, Repr

/-- A UDP client (`jpv2g_udp_client_t`). -/
structure UdpClient where
  fd : ℕ
  ifIndex : ℕ

/-- What the platform answers when a client is started. -/
structure UdpSocket where
  /-- `socket`: a descriptor. -/
  socket : Except Errno ℕ
  /-- `setsockopt`, for the interface of multicasts. -/
  multicastIf : Rc

/-- Start a client on the interface of a name, which may be empty (`jpv2g_udp_client_start`). -/
def udpClientStart (platform : Config.Platform) (sock : UdpSocket) (iface : List UInt8) :
    List UdpEvent × Except Errno UdpClient :=
  match sock.socket with
  | .error e => ([], .error e)
  | .ok fd =>
    let ifIndex := if iface ≠ [] then platform.ifNameToIndex iface else 0
    match sock.multicastIf with
    | .error e => ([.opened fd, .closed fd], .error e)
    | .ok () => ([.opened fd], .ok { fd, ifIndex })

/-- What the socket meets in one attempt. -/
structure UdpTurn where
  /-- `sendto`: how many bytes it has taken. -/
  sendto : Except Errno ℕ
  /-- What `errno` has been left at before, `none` for zero. -/
  errno : Option Errno
  /-- The clock when the wait begins. -/
  startMs : ℤ
  polls : List (WaitPoll (List UInt8))

/-- Send `reqLen` bytes and wait for a datagram, into a buffer of `respLen` bytes
(`jpv2g_udp_client_sendrecv`). -/
def udpClientSendrecv (reqLen respLen : ℕ) (timeoutMs : ℤ) (turn : UdpTurn) :
    Option (Except Errno (List UInt8)) :=
  match turn.sendto with
  | .error e => some (.error e)
  | .ok count =>
    if count ≠ reqLen then
      -- no call has failed, so that the code is that of an earlier one
      match turn.errno with
      | some e => some (.error e)
      | none => some (.ok [])
    else
      (waitNonblock timeoutMs turn.startMs turn.polls).map fun received =>
        received.map (·.take respLen)

/-! ## The search -/

/-- An address with its port and scope (`struct sockaddr_in6`). -/
structure SockAddrIn6 where
  addr : Ip6
  port : UInt16
  scopeId : ℕ
deriving DecidableEq, Repr

/-- What is found (`jpv2g_discovery_result_t`). -/
structure DiscoveryResult where
  seccAddr : SockAddrIn6
  seccPort : UInt16
  security : UInt8
  transportProtocol : UInt8
  ifIndex : ℕ
deriving DecidableEq, Repr

/-- The result for a response that arrives on an interface. -/
def SdpRes.result (res : SdpRes) (ifIndex : ℕ) : DiscoveryResult where
  seccAddr := { addr := res.seccIp, port := res.seccPort, scopeId := ifIndex }
  seccPort := res.seccPort
  security := res.security
  transportProtocol := res.transportProtocol
  ifIndex := ifIndex

/-- The response in what an attempt has received. -/
def sdpResponse (iso20 : Bool) (received : Except Errno (List UInt8)) : Option SdpRes := do
  let datagram ← received.toOption
  let msg ← (v2gtpParse iso20 datagram).toOption
  guard (msg.payloadType = .sdpRes)
  (sdpResDecode msg.payload).toOption

/-- The attempts, as many as are left; the result is `none` while one of them waits. -/
def discoverLoop (iso20 : Bool) (request : List UInt8) (timeoutMs : ℤ) :
    ℕ → List UdpTurn → List UdpEvent × Option (Except Errno SdpRes)
  | 0, _ => ([], some (.error .etimedout))
  | _ + 1, [] => ([], none)
  | attempts + 1, turn :: turns =>
    match udpClientSendrecv request.length 256 timeoutMs turn with
    | none => ([.sent request], none)
    | some received =>
      match sdpResponse iso20 received with
      | some res => ([.sent request], some (.ok res))
      | none =>
        let rest := discoverLoop iso20 request timeoutMs attempts turns
        (.sent request :: rest.1, rest.2)

/-- `JPV2G_SDP_REQUEST_MAX_COUNTER`. -/
def sdpRequestMaxCounter : ℤ := 50

/-- The number of attempts. -/
def sdpAttempts (maxRetries : ℤ) : ℕ :=
  (if maxRetries ≤ 0 ∨ sdpRequestMaxCounter < maxRetries then sdpRequestMaxCounter
    else maxRetries).toNat

/-- The index that `jpv2g_iface_select` finds with the name, zero for none. -/
def ifaceSelectIndex (platform : Config.Platform) (preferred : Option (List UInt8)) : ℕ :=
  let candidate := preferred.filter (· ≠ [])
  let names := candidate.toList ++ [Config.bytes "pl0", Config.bytes "eth0", Config.bytes "en0",
    Config.bytes "st1"]
  match names.find? (platform.ifNameToIndex · ≠ 0) with
  | some name => platform.ifNameToIndex name
  | none => 0

/-- Search for a station (`jpv2g_discover_secc`). -/
def discoverSecc (iso20 : Bool) (platform : Config.Platform) (sock : UdpSocket)
    (iface : Option (List UInt8)) (req : SdpReq) (timeoutMs maxRetries : ℤ)
    (turns : List UdpTurn) : List UdpEvent × Option (Except Errno DiscoveryResult) :=
  let ifidx := ifaceSelectIndex platform iface
  match udpClientStart platform sock (Config.ifaceSelect platform iface).bytes with
  | (events, .error e) => (events, some (.error e))
  | (events, .ok cli) =>
    match sdpReqEncode req 2 with
    | .error e => (events ++ [.closed cli.fd], some (.error e))
    | .ok payload =>
      match v2gtpBuild iso20 .sdpReq payload 10 with
      | .error e => (events ++ [.closed cli.fd], some (.error e))
      | .ok request =>
        match discoverLoop iso20 request timeoutMs (sdpAttempts maxRetries) turns with
        | (sent, none) => (events ++ sent, none)
        | (sent, some rc) =>
          (events ++ sent ++ [.closed cli.fd],
            some (rc.map (·.result (if ifidx ≠ 0 then ifidx else cli.ifIndex))))

/-- `JPV2G_TIMEOUT_SDP_RESPONSE`. -/
def timeoutSdpResponse : ℤ := 250

/-- The search of the vehicle (`jpv2g_evcc_discover`). -/
def evccDiscover (iso20 : Bool) (platform : Config.Platform) (cfg : Config.EvccConfig)
    (sock : UdpSocket) (turns : List UdpTurn) :
    List UdpEvent × Option (Except Errno DiscoveryResult) :=
  let security := if cfg.useTls then securityWithTls else securityWithoutTls
  discoverSecc iso20 platform sock (some cfg.networkInterface.bytes)
    { security, transportProtocol := transportTcp } timeoutSdpResponse sdpRequestMaxCounter turns

/-! ## Responses -/

/-- A datagram is taken for a response exactly when it begins with the frame of one, to which more
bytes may have been added. -/
theorem sdpResponse_iff {iso20 : Bool} {received : Except Errno (List UInt8)} {res : SdpRes} :
    sdpResponse iso20 received = some res ↔
      ∃ more rest, more.length + 20 ≤ maxPayloadLength ∧
        received =
          .ok (v2gtpHeader .sdpRes (more.length + 20) ++ (res.bytes ++ more) ++ rest) := by
  have hne : ∀ more, res.bytes ++ more ≠ [] := fun more => by
    rw [← List.length_pos_iff, List.length_append, SdpRes.bytes_length]
    omega
  have hlength : ∀ more, (res.bytes ++ more).length = more.length + 20 := fun more => by
    rw [List.length_append, SdpRes.bytes_length, Nat.add_comm]
  simp only [sdpResponse, Option.bind_eq_bind, Option.bind_eq_some_iff, Option.guard_eq_some',
    toOption_eq_some]
  constructor
  -- from the response back through the guards to the datagram
  · rintro ⟨datagram, rfl, msg, hparse, -, htype, hres⟩
    obtain ⟨more, hmore⟩ := sdpResDecode_iff.mp hres
    obtain ⟨hfits, rest, hdatagram⟩ :=
      (v2gtpParse_payload_iff rfl (hne more)).mp ⟨msg, hparse, htype, hmore⟩
    rw [hlength] at hfits hdatagram
    exact ⟨more, rest, hfits, congrArg _ hdatagram⟩
  -- and forth: the datagram passes them all
  · rintro ⟨more, rest, hfits, rfl⟩
    obtain ⟨msg, hparse, htype, hmore⟩ :=
      (@v2gtpParse_payload_iff iso20 .sdpRes _ (res.bytes ++ more) rfl (hne more)).mpr
        ⟨(hlength more).le.trans hfits, rest, by rw [hlength]⟩
    exact ⟨_, rfl, msg, hparse, (), htype, sdpResDecode_iff.mpr ⟨more, hmore⟩⟩

/-- The datagram of a response is taken for it. -/
@[simp]
theorem sdpResponse_datagram (iso20 : Bool) (res : SdpRes) :
    sdpResponse iso20 (.ok res.datagram) = some res :=
  sdpResponse_iff.mpr ⟨[], [], by decide, by
    rw [List.append_nil, List.append_nil]
    rfl⟩

/-! ## The first response -/

/-- What an attempt brings, a response or nothing, `none` while it waits. -/
def UdpTurn.response (iso20 : Bool) (timeoutMs : ℤ) (turn : UdpTurn) : Option (Option SdpRes) :=
  (udpClientSendrecv 10 256 timeoutMs turn).map (sdpResponse iso20)

/-- What the attempt with a number brings. -/
def responseAt (iso20 : Bool) (timeoutMs : ℤ) (turns : List UdpTurn) (k : ℕ) :
    Option (Option SdpRes) :=
  turns[k]?.bind (·.response iso20 timeoutMs)

/-- The index of the interface on which the search goes on. -/
def discoverIfIndex (platform : Config.Platform) (iface : Option (List UInt8)) : ℕ :=
  let name := (Config.ifaceSelect platform iface).bytes
  if ifaceSelectIndex platform iface ≠ 0 then ifaceSelectIndex platform iface
  else if name ≠ [] then platform.ifNameToIndex name
  else 0

@[simp]
theorem SdpReq.datagram_length (req : SdpReq) : req.datagram.length = 10 := by
  simp [datagram]

/-- There is at least one attempt, and at most fifty. -/
theorem sdpAttempts_mem (maxRetries : ℤ) :
    1 ≤ sdpAttempts maxRetries ∧ sdpAttempts maxRetries ≤ 50 := by
  rw [sdpAttempts, sdpRequestMaxCounter]
  split_ifs with hclamp
  · decide
  · rw [not_or, not_le, not_lt] at hclamp
    omega

section Loop

variable {iso20 : Bool} {timeoutMs : ℤ} {req : SdpReq} {attempts : ℕ}

/-- One attempt of the loop, by what it brings. -/
theorem discoverLoop_cons (turn : UdpTurn) (turns : List UdpTurn) :
    discoverLoop iso20 req.datagram timeoutMs (attempts + 1) (turn :: turns) =
      match turn.response iso20 timeoutMs with
      | none => ([.sent req.datagram], none)
      | some (some res) => ([.sent req.datagram], some (.ok res))
      | some none =>
        let rest := discoverLoop iso20 req.datagram timeoutMs attempts turns
        (.sent req.datagram :: rest.1, rest.2) := by
  rw [discoverLoop, UdpTurn.response, SdpReq.datagram_length]
  cases udpClientSendrecv 10 256 timeoutMs turn with
  | none => rfl
  | some received =>
    rw [Option.map_some]
    dsimp only
    cases sdpResponse iso20 received <;> rfl

@[simp]
theorem responseAt_zero (turn : UdpTurn) (turns : List UdpTurn) :
    responseAt iso20 timeoutMs (turn :: turns) 0 = turn.response iso20 timeoutMs := rfl

/-- The loop ends with the first response. -/
theorem discoverLoop_of_response {turns : List UdpTurn} {k : ℕ} {res : SdpRes}
    (hk : k < attempts) (hbefore : ∀ j < k, responseAt iso20 timeoutMs turns j = some none)
    (hres : responseAt iso20 timeoutMs turns k = some (some res)) :
    discoverLoop iso20 req.datagram timeoutMs attempts turns =
      (List.replicate (k + 1) (.sent req.datagram), some (.ok res)) := by
  -- along the turns, up to the one with the response
  induction turns generalizing k attempts with
  | nil => cases hres
  | cons turn turns ih =>
    obtain ⟨attempts, rfl⟩ : ∃ n, attempts = n + 1 := ⟨attempts - 1, by omega⟩
    rw [discoverLoop_cons]
    cases k with
    | zero =>
      rw [responseAt_zero] at hres
      rw [hres]
      rfl
    | succ k =>
      have hfirst := hbefore 0 (Nat.succ_pos k)
      rw [responseAt_zero] at hfirst
      rw [hfirst]
      dsimp only
      rw [ih (Nat.lt_of_succ_lt_succ hk) (fun j hj => hbefore (j + 1) (Nat.succ_lt_succ hj)) hres]
      rfl

/-- Without a response the loop gives up behind its last attempt. -/
theorem discoverLoop_of_none {turns : List UdpTurn}
    (hnone : ∀ j < attempts, responseAt iso20 timeoutMs turns j = some none) :
    discoverLoop iso20 req.datagram timeoutMs attempts turns =
      (List.replicate attempts (.sent req.datagram), some (.error .etimedout)) := by
  induction attempts generalizing turns with
  | zero => rfl
  | succ attempts ih =>
    have hfirst := hnone 0 (Nat.succ_pos attempts)
    cases turns with
    | nil => cases hfirst
    | cons turn turns =>
      rw [responseAt_zero] at hfirst
      rw [discoverLoop_cons, hfirst]
      dsimp only
      rw [ih fun j hj => hnone (j + 1) (Nat.succ_lt_succ hj)]
      rfl

/-- A loop that has returned has found a response or made all its attempts. -/
theorem discoverLoop_returned {turns : List UdpTurn}
    (h : (discoverLoop iso20 req.datagram timeoutMs attempts turns).2 ≠ none) :
    (∃ k < attempts, ∃ res, (∀ j < k, responseAt iso20 timeoutMs turns j = some none) ∧
        responseAt iso20 timeoutMs turns k = some (some res)) ∨
      ∀ j < attempts, responseAt iso20 timeoutMs turns j = some none := by
  induction attempts generalizing turns with
  | zero => exact .inr fun j hj => absurd hj (Nat.not_lt_zero j)
  | succ attempts ih =>
    cases turns with
    | nil => exact absurd rfl h
    | cons turn turns =>
      rw [discoverLoop_cons] at h
      rcases hturn : turn.response iso20 timeoutMs with _ | _ | res
      · rw [hturn] at h
        exact absurd rfl h
      · rw [hturn] at h
        -- what holds of the later attempts, one further on
        have hall : ∀ n, (∀ j < n, responseAt iso20 timeoutMs turns j = some none) →
            ∀ j < n + 1, responseAt iso20 timeoutMs (turn :: turns) j = some none := by
          rintro n hn (_ | j) hj
          · rw [responseAt_zero, hturn]
          · exact hn j (Nat.lt_of_succ_lt_succ hj)
        rcases ih h with ⟨k, hk, res, hbefore, hres⟩ | hnone
        · exact .inl ⟨k + 1, Nat.succ_lt_succ hk, res, hall k hbefore, hres⟩
        · exact .inr (hall attempts hnone)
      · exact .inl ⟨0, Nat.succ_pos attempts, res, fun j hj => absurd hj (Nat.not_lt_zero j),
          by rw [responseAt_zero, hturn]⟩

end Loop

section Search

variable {iso20 : Bool} {platform : Config.Platform} {sock : UdpSocket}
  {iface : Option (List UInt8)} {req : SdpReq} {timeoutMs maxRetries : ℤ} {turns : List UdpTurn}

/-- The search on a socket that is started. -/
theorem discoverSecc_of_started {fd : ℕ} (hsocket : sock.socket = .ok fd)
    (hmulticast : sock.multicastIf = .ok ()) :
    discoverSecc iso20 platform sock iface req timeoutMs maxRetries turns =
      match discoverLoop iso20 req.datagram timeoutMs (sdpAttempts maxRetries) turns with
      | (sent, none) => (.opened fd :: sent, none)
      | (sent, some rc) => (.opened fd :: (sent ++ [.closed fd]),
          some (rc.map (·.result (discoverIfIndex platform iface)))) := by
  have hencode : sdpReqEncode req 2 = .ok [req.security, req.transportProtocol] := rfl
  have hbuild : v2gtpBuild iso20 .sdpReq [req.security, req.transportProtocol] 10 =
      .ok req.datagram := v2gtpBuild_fits rfl (by simp [maxPayloadLength]) (by simp)
  rw [discoverSecc, udpClientStart]
  simp only [hsocket, hmulticast, hencode, hbuild]
  rfl

/-- What a search does that sends so many requests. -/
def searchEvents (fd : ℕ) (req : SdpReq) (count : ℕ) : List UdpEvent :=
  .opened fd :: (List.replicate count (.sent req.datagram) ++ [.closed fd])

/-- The search ends with the first response. -/
theorem discoverSecc_of_response {fd : ℕ} (hsocket : sock.socket = .ok fd)
    (hmulticast : sock.multicastIf = .ok ()) {k : ℕ} (hk : k < sdpAttempts maxRetries)
    {res : SdpRes} (hbefore : ∀ j < k, responseAt iso20 timeoutMs turns j = some none)
    (hres : responseAt iso20 timeoutMs turns k = some (some res)) :
    discoverSecc iso20 platform sock iface req timeoutMs maxRetries turns =
      (searchEvents fd req (k + 1), some (.ok (res.result (discoverIfIndex platform iface)))) := by
  rw [discoverSecc_of_started hsocket hmulticast, discoverLoop_of_response hk hbefore hres]
  rfl

/-- Without a response the search gives up behind its last attempt. -/
theorem discoverSecc_of_none {fd : ℕ} (hsocket : sock.socket = .ok fd)
    (hmulticast : sock.multicastIf = .ok ())
    (hnone : ∀ j < sdpAttempts maxRetries, responseAt iso20 timeoutMs turns j = some none) :
    discoverSecc iso20 platform sock iface req timeoutMs maxRetries turns =
      (searchEvents fd req (sdpAttempts maxRetries), some (.error .etimedout)) := by
  rw [discoverSecc_of_started hsocket hmulticast, discoverLoop_of_none hnone]
  rfl

/-- A search that has returned has found a response or made all its attempts. -/
theorem discoverSecc_returned {fd : ℕ} (hsocket : sock.socket = .ok fd)
    (hmulticast : sock.multicastIf = .ok ())
    (h : (discoverSecc iso20 platform sock iface req timeoutMs maxRetries turns).2 ≠ none) :
    (∃ k < sdpAttempts maxRetries, ∃ res,
        (∀ j < k, responseAt iso20 timeoutMs turns j = some none) ∧
          responseAt iso20 timeoutMs turns k = some (some res)) ∨
      ∀ j < sdpAttempts maxRetries, responseAt iso20 timeoutMs turns j = some none := by
  refine @discoverLoop_returned _ _ req _ _ fun hwaits => h ?_
  rw [discoverSecc_of_started hsocket hmulticast]
  rcases hloop : discoverLoop iso20 req.datagram timeoutMs (sdpAttempts maxRetries) turns
    with ⟨sent, _ | rc⟩
  · rfl
  · rw [hloop] at hwaits
    cases hwaits

/-- **The search returns the first response.** On a socket that is started, and with at least one
attempt and at most fifty: the same request is sent once in every attempt; the first attempt that
brings a response ends the search with that response; without one the search gives up behind its
last attempt; it returns in no other way, and closes its socket once when it returns. -/
theorem discoverSecc_first {fd : ℕ} (hsocket : sock.socket = .ok fd)
    (hmulticast : sock.multicastIf = .ok ()) :
    let run := discoverSecc iso20 platform sock iface req timeoutMs maxRetries turns
    let attempts := sdpAttempts maxRetries
    let response := responseAt iso20 timeoutMs turns
    (1 ≤ attempts ∧ attempts ≤ 50) ∧
    (∀ k < attempts, ∀ res, (∀ j < k, response j = some none) → response k = some (some res) →
      run = (searchEvents fd req (k + 1),
        some (.ok (res.result (discoverIfIndex platform iface))))) ∧
    ((∀ j < attempts, response j = some none) →
      run = (searchEvents fd req attempts, some (.error .etimedout))) ∧
    (run.2 ≠ none →
      (∃ k < attempts, ∃ res, (∀ j < k, response j = some none) ∧ response k = some (some res)) ∨
        ∀ j < attempts, response j = some none) := by
  refine ⟨sdpAttempts_mem maxRetries, fun k hk res hbefore hres => ?_, fun hnone => ?_,
    fun hreturned => ?_⟩
  · exact discoverSecc_of_response hsocket hmulticast hk hbefore hres
  · exact discoverSecc_of_none hsocket hmulticast hnone
  · exact discoverSecc_returned hsocket hmulticast hreturned

end Search

/-! ## One station -/

/-- Of the datagrams that reach the vehicle, the responses are answers of the station to datagrams
it has heard. -/
def OnlyStation (iso20 stationIso20 : Bool) (cfg : Config.SeccConfig) (seccIp : Ip6)
    (heard : List UInt8 → Prop) (turns : List UdpTurn) : Prop :=
  ∀ turn ∈ turns, ∀ poll ∈ turn.polls, ∀ datagram, poll.answer = .ok datagram →
    sdpResponse iso20 (.ok (datagram.take 256)) = none ∨
      ∃ received, heard received ∧
        serviceSdpOnce stationIso20 cfg seccIp (.ok received) = some datagram

/-- The attempt does not wait for ever: it sends nothing to wait for, or a call is answered, or the
deadline has passed when there is nothing to receive. -/
def UdpTurn.Ends (timeoutMs : ℤ) (turn : UdpTurn) : Prop :=
  turn.sendto ≠ .ok 10 ∨ ∃ poll ∈ turn.polls, poll.answer ≠ .error .eintr ∧
    (poll.answer = .error .eagain →
      timeoutMs = 0 ∨ deadlineExpired (makeDeadlineMs timeoutMs turn.startMs) poll.nowMs)

/-- An attempt that does not wait for ever brings a response or nothing. -/
theorem UdpTurn.Ends.response_ne_none {timeoutMs : ℤ} {turn : UdpTurn} (h : turn.Ends timeoutMs)
    (iso20 : Bool) : turn.response iso20 timeoutMs ≠ none := by
  rw [UdpTurn.response, ne_eq, Option.map_eq_none_iff, udpClientSendrecv]
  rcases hsend : turn.sendto with e | count
  · simp
  · dsimp only
    split_ifs with hcount
    · split <;> simp
    · rw [not_not] at hcount
      rcases h with hshort | hpoll
      · exact absurd (hsend.trans (congrArg _ hcount)) hshort
      · rw [Option.map_eq_none_iff, ← Option.not_isSome_iff_eq_none, not_not]
        exact waitNonblock_isSome hpoll

/-- What an attempt receives is empty, or the first part of a datagram. -/
theorem udpClientSendrecv_ok {reqLen respLen : ℕ} {timeoutMs : ℤ} {turn : UdpTurn}
    {bytes : List UInt8} (h : udpClientSendrecv reqLen respLen timeoutMs turn = some (.ok bytes)) :
    bytes = [] ∨ ∃ poll ∈ turn.polls, ∃ datagram,
      poll.answer = .ok datagram ∧ bytes = datagram.take respLen := by
  rw [udpClientSendrecv] at h
  split at h
  · cases h
  · split_ifs at h
    · split at h
      · cases h
      · exact .inl (Except.ok.inj (Option.some.inj h)).symm
    · obtain ⟨received, hreceived, hbytes⟩ := Option.map_eq_some_iff.mp h
      cases received with
      | error e => cases hbytes
      | ok datagram =>
        rw [waitNonblock_eq_findSome?] at hreceived
        obtain ⟨poll, hpoll, hending⟩ := List.exists_of_findSome?_eq_some hreceived
        exact .inr ⟨poll, hpoll, datagram, (WaitPoll.ending_eq_some hending).1,
          (Except.ok.inj hbytes).symm⟩

/-- The station answers a request of the vehicle when it is for TCP. -/
theorem serviceSdpOnce_datagram {iso20 : Bool} {cfg : Config.SeccConfig} {seccIp : Ip6}
    {req : SdpReq} {answer : List UInt8}
    (h : serviceSdpOnce iso20 cfg seccIp (.ok req.datagram) = some answer) :
    req.transportProtocol = transportTcp := by
  obtain ⟨-, security, more, rest, -, hreceived⟩ := serviceSdpOnce_iff.mp h
  have hdatagram := Except.ok.inj hreceived
  rw [SdpReq.datagram, List.append_assoc] at hdatagram
  have htail := (List.append_inj hdatagram
    (by rw [v2gtpHeader_length, v2gtpHeader_length])).2
  exact (List.cons.inj (List.cons.inj htail).2).1

@[simp]
theorem SdpRes.datagram_length (res : SdpRes) : res.datagram.length = 28 := by
  simp [datagram]

section Agreement

variable {iso20 stationIso20 : Bool} {platform : Config.Platform} {sock : UdpSocket}
  {cfg : Config.SeccConfig} {seccIp : Ip6} {heard : List UInt8 → Prop}
  {iface : Option (List UInt8)} {req : SdpReq} {timeoutMs maxRetries : ℤ} {turns : List UdpTurn}

/-- Where only the station answers, a response is its own. -/
theorem OnlyStation.response {k : ℕ} {res : SdpRes}
    (hnetwork : OnlyStation iso20 stationIso20 cfg seccIp heard turns)
    (h : responseAt iso20 timeoutMs turns k = some (some res)) :
    res = stationSdpRes cfg seccIp ∧
      (∃ received, heard received ∧ serviceSdpOnce stationIso20 cfg seccIp (.ok received) =
        some (stationSdpRes cfg seccIp).datagram) ∧
      ∃ turn, turns[k]? = some turn ∧ udpClientSendrecv 10 256 timeoutMs turn =
        some (.ok (stationSdpRes cfg seccIp).datagram) := by
  obtain ⟨turn, hturn, hresponse⟩ := Option.bind_eq_some_iff.mp h
  obtain ⟨received, hreceived, hres⟩ := Option.map_eq_some_iff.mp hresponse
  cases received with
  | error e => cases hres
  | ok bytes =>
    rcases udpClientSendrecv_ok hreceived with rfl | ⟨poll, hpoll, datagram, hanswer, rfl⟩
    · cases hres
    · rcases hnetwork turn (List.mem_of_getElem? hturn) poll hpoll datagram hanswer with
        hnone | ⟨received, hheard, hserved⟩
      · cases hnone.symm.trans hres
      · obtain ⟨rfl, -⟩ := serviceSdpOnce_iff.mp hserved
        -- the answer of the station is not cut
        have hwhole : (stationSdpRes cfg seccIp).datagram.take 256 =
            (stationSdpRes cfg seccIp).datagram :=
          List.take_of_length_le (by rw [SdpRes.datagram_length]; decide)
        rw [hwhole, sdpResponse_datagram] at hres
        rw [hwhole] at hreceived
        exact ⟨(Option.some.inj hres).symm, ⟨received, hheard, hserved⟩, turn, hturn, hreceived⟩

/-- A search that finds something has found a response. -/
theorem exists_response_of_found {result : DiscoveryResult}
    (h : (discoverSecc iso20 platform sock iface req timeoutMs maxRetries turns).2 =
      some (.ok result)) :
    ∃ k < sdpAttempts maxRetries, ∃ res, responseAt iso20 timeoutMs turns k = some (some res) ∧
      result = res.result (discoverIfIndex platform iface) := by
  rcases hsocket : sock.socket with e | fd
  · rw [discoverSecc, udpClientStart, hsocket] at h
    cases h
  rcases hmulticast : sock.multicastIf with e | _
  · rw [discoverSecc, udpClientStart, hsocket, hmulticast] at h
    cases h
  rcases discoverSecc_returned hsocket hmulticast (by rw [h]; simp) with
    ⟨k, hk, res, hbefore, hres⟩ | hnone
  · rw [discoverSecc_of_response hsocket hmulticast hk hbefore hres] at h
    exact ⟨k, hk, res, hres, (Except.ok.inj (Option.some.inj h)).symm⟩
  · rw [discoverSecc_of_none hsocket hmulticast hnone] at h
    cases h

/-- Where only the station answers, it is what is found. -/
theorem OnlyStation.result {result : DiscoveryResult}
    (hnetwork : OnlyStation iso20 stationIso20 cfg seccIp heard turns)
    (h : (discoverSecc iso20 platform sock iface req timeoutMs maxRetries turns).2 =
      some (.ok result)) :
    result = (stationSdpRes cfg seccIp).result (discoverIfIndex platform iface) ∧
      ((∀ received, heard received → received = req.datagram) →
        req.transportProtocol = transportTcp) := by
  obtain ⟨k, hk, res, hres, rfl⟩ := exists_response_of_found h
  obtain ⟨rfl, ⟨received, hheard, hserved⟩, -⟩ := hnetwork.response hres
  refine ⟨rfl, fun honly => ?_⟩
  rw [honly received hheard] at hserved
  exact serviceSdpOnce_datagram hserved

/-- **Where one station answers, it is found as it is.** What the search finds is the address and
the port of the station, and the security the station has, whichever the vehicle has asked for. It
is found only by a request for TCP, when the station hears no other; and where no attempt of a
search waits for ever, it is found when one of them receives the answer of the station. -/
theorem discovery_agrees (hnetwork : OnlyStation iso20 stationIso20 cfg seccIp heard turns) :
    let run := discoverSecc iso20 platform sock iface req timeoutMs maxRetries turns
    let station := stationSdpRes cfg seccIp
    (∀ result, run.2 = some (.ok result) →
      result = station.result (discoverIfIndex platform iface) ∧
      ((∀ received, heard received → received = req.datagram) →
        req.transportProtocol = transportTcp)) ∧
    (∀ fd, sock.socket = .ok fd → sock.multicastIf = .ok () →
      (∀ k < sdpAttempts maxRetries, ∃ turn, turns[k]? = some turn ∧ turn.Ends timeoutMs) →
      ((∃ result, run.2 = some (.ok result)) ↔
        ∃ k < sdpAttempts maxRetries, ∃ turn, turns[k]? = some turn ∧
          udpClientSendrecv 10 256 timeoutMs turn = some (.ok station.datagram))) := by
  intro run station
  constructor
  · exact fun result hrun => hnetwork.result hrun
  · intro fd hsocket hmulticast hends
    have hreturn : ∀ k < sdpAttempts maxRetries, responseAt iso20 timeoutMs turns k ≠ none := by
      intro k hk
      obtain ⟨turn, hturn, hend⟩ := hends k hk
      rw [responseAt, hturn, Option.bind_some]
      exact hend.response_ne_none iso20
    constructor
    · rintro ⟨result, hrun⟩
      obtain ⟨k, hk, res, hres, -⟩ := exists_response_of_found hrun
      obtain ⟨-, -, turn, hturn, hreceived⟩ := hnetwork.response hres
      exact ⟨k, hk, turn, hturn, hreceived⟩
    · rintro ⟨k, hk, turn, hturn, hreceived⟩
      have hres : responseAt iso20 timeoutMs turns k = some (some station) := by
        rw [responseAt, hturn, Option.bind_some, UdpTurn.response, hreceived, Option.map_some,
          sdpResponse_datagram]
      -- the first attempt that brings a response
      have hexists : ∃ j, ∃ res, responseAt iso20 timeoutMs turns j = some (some res) :=
        ⟨k, station, hres⟩
      classical
      obtain ⟨first, hfirst⟩ := Nat.find_spec hexists
      have hlt : Nat.find hexists < sdpAttempts maxRetries :=
        lt_of_le_of_lt (Nat.find_min' hexists ⟨station, hres⟩) hk
      have hbefore : ∀ j < Nat.find hexists,
          responseAt iso20 timeoutMs turns j = some none := by
        intro j hj
        rcases hj' : responseAt iso20 timeoutMs turns j with _ | _ | res
        · exact absurd hj' (hreturn j (hj.trans hlt))
        · rfl
        · exact absurd ⟨res, hj'⟩ (Nat.find_min hexists hj)
      exact ⟨_, congrArg Prod.snd
        (discoverSecc_of_response hsocket hmulticast hlt hbefore hfirst)⟩

end Agreement

/-! ## A search -/

/-- A platform without interfaces. -/
def barePlatform : Config.Platform := ⟨fun _ => 0, [], false⟩

/-- A station without TLS. -/
def sampleSdpConfig : Config.SeccConfig :=
  { Config.seccConfigDefault barePlatform with useTls := false }

/-- Its address, `fe80::1`. -/
def sampleSeccIp : Ip6 := ⟨[0xFE, 0x80, 0, 0, 0, 0, 0, 0, 0, 0, 0, 0, 0, 0, 0, 1], rfl⟩

/-- Its response. -/
def sampleStationSdp : SdpRes := stationSdpRes sampleSdpConfig sampleSeccIp

/-- An attempt that is answered. -/
def sampleAnswered : UdpTurn :=
  ⟨.ok 10, none, 252, [⟨.error .eintr, 0⟩, ⟨.ok sampleStationSdp.datagram, 0⟩]⟩

/-- An attempt that times out, one that is not sent whole, and one that is answered. -/
def sampleTurns : List UdpTurn :=
  [⟨.ok 10, none, 0, [⟨.error .eagain, 100⟩, ⟨.error .eagain, 250⟩]⟩, ⟨.ok 4, none, 251, []⟩,
    sampleAnswered]

theorem sampleTurns_none {j : ℕ} (hj : j < 2) :
    responseAt false 250 sampleTurns j = some none := by
  obtain rfl | rfl : j = 0 ∨ j = 1 := by omega
  · rfl
  · rfl

theorem sampleAnswered_receives :
    udpClientSendrecv 10 256 250 sampleAnswered = some (.ok sampleStationSdp.datagram) := by
  have hwhole : sampleStationSdp.datagram.take 256 = sampleStationSdp.datagram :=
    List.take_of_length_le (by rw [SdpRes.datagram_length]; decide)
  have hreceived : udpClientSendrecv 10 256 250 sampleAnswered =
      some (.ok (sampleStationSdp.datagram.take 256)) := rfl
  rw [hreceived, hwhole]

theorem sampleTurns_response :
    responseAt false 250 sampleTurns 2 = some (some sampleStationSdp) := by
  have hresponse : responseAt false 250 sampleTurns 2 = sampleAnswered.response false 250 := rfl
  rw [hresponse, UdpTurn.response, sampleAnswered_receives, Option.map_some,
    sdpResponse_datagram]

/-- The search of the sample sends three requests. -/
theorem discoverSecc_first_sample :
    discoverSecc false barePlatform ⟨.ok 7, .ok ()⟩ none ⟨securityWithTls, transportTcp⟩ 250 50
        sampleTurns =
      (searchEvents 7 ⟨securityWithTls, transportTcp⟩ 3,
        some (.ok (sampleStationSdp.result (discoverIfIndex barePlatform none)))) :=
  (@discoverSecc_first false barePlatform ⟨.ok 7, .ok ()⟩ none ⟨securityWithTls, transportTcp⟩
    250 50 sampleTurns 7 rfl rfl).2.1 2 (by decide) sampleStationSdp
      (fun _ hj => sampleTurns_none hj) sampleTurns_response

/-- The only response in the sample is the answer of the station to a request for TLS. -/
theorem sampleTurns_onlyStation :
    OnlyStation false true sampleSdpConfig sampleSeccIp
      (· = SdpReq.datagram ⟨securityWithTls, transportTcp⟩) sampleTurns := by
  have hserved : serviceSdpOnce true sampleSdpConfig sampleSeccIp
      (.ok (SdpReq.datagram ⟨securityWithTls, transportTcp⟩)) = some sampleStationSdp.datagram :=
    serviceSdpOnce_iff.mpr ⟨rfl, securityWithTls, [], [], by decide, rfl⟩
  intro turn hturn poll hpoll datagram hanswer
  refine .inr ⟨_, rfl, hserved.trans (congrArg some ?_)⟩
  simp only [sampleTurns, List.mem_cons, List.not_mem_nil, or_false] at hturn
  rcases hturn with rfl | rfl | rfl
  · rcases List.mem_pair.mp hpoll with rfl | rfl <;> cases hanswer
  · cases hpoll
  · rcases List.mem_pair.mp hpoll with rfl | rfl
    · cases hanswer
    · exact Except.ok.inj hanswer

/-- The vehicle asks for TLS, and finds the station that has none. -/
theorem discovery_agrees_sample :
    ∃ result, (discoverSecc false barePlatform ⟨.ok 7, .ok ()⟩ none
      ⟨securityWithTls, transportTcp⟩ 250 3 sampleTurns).2 = some (.ok result) ∧
      result.security = securityWithoutTls := by
  have hends : ∀ k < sdpAttempts 3, ∃ turn, sampleTurns[k]? = some turn ∧ turn.Ends 250 := by
    intro k hk
    have hthree : sdpAttempts 3 = 3 := by decide
    rw [hthree] at hk
    obtain rfl | rfl | rfl : k = 0 ∨ k = 1 ∨ k = 2 := by omega
    · exact ⟨_, rfl, .inr ⟨⟨.error .eagain, 250⟩, by simp, by simp, fun _ => .inr (by decide)⟩⟩
    · exact ⟨_, rfl, .inl (by simp)⟩
    · exact ⟨sampleAnswered, rfl,
        .inr ⟨⟨.ok sampleStationSdp.datagram, 0⟩, by simp [sampleAnswered], by simp, by simp⟩⟩
  obtain ⟨hfound, hiff⟩ := @discovery_agrees false true barePlatform ⟨.ok 7, .ok ()⟩ _ _ _ none
    ⟨securityWithTls, transportTcp⟩ 250 3 sampleTurns sampleTurns_onlyStation
  obtain ⟨result, hresult⟩ :=
    (hiff 7 rfl rfl hends).mpr ⟨2, by decide, _, rfl, sampleAnswered_receives⟩
  exact ⟨result, hresult, congrArg DiscoveryResult.security (hfound result hresult).1⟩

end Jpv2g
