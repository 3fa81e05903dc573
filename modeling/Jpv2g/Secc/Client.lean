import Jpv2g.Secc.Stream.CustomHandler

/-!
# Client Connections

The entry point of an accepted connection (`jpv2g_secc_handle_client_detect_ex` of `secc.c`): it
peeks at the first bytes, serves the stream over TLS or in plaintext, and classifies how the
connection ended. The socket is the list of what its peeks gave; the TLS layer is the outcome of
its handshake.

## Main definitions

* `peekFirstBytes`: wait for the first bytes.
* `Client.route`: whether they go to the TLS handler or to the plaintext stream.
* `classifyDisconnect`: the reason reported for the end of a connection.
* `handleClientDetectEx`: the entry point.
-/

namespace Jpv2g

/-! ## The first bytes -/

/-- What one non-blocking peek at the socket gives. -/
inductive Peek where
  /-- The bytes received and not yet read; there are none once the peer has closed. -/
  | data (available : List UInt8)
  /-- An error, and the monotonic clock after it. -/
  | failed (e : Errno) (nowMs : ℕ)
deriving DecidableEq, Repr

/-- The bytes start a TLS record (`looks_like_tls_client_hello`). -/
def looksLikeTlsClientHello (buf : List UInt8) : Bool :=
  decide (3 ≤ buf.length) && buf[0]? == some 0x16 && buf[1]? == some 0x03

/-- Wait for the first bytes of a connection (`peek_first_bytes`); `none` while it waits. -/
def peekFirstBytes (bufLen startMs : ℕ) (timeoutMs : ℤ) :
    List Peek → Option (Except Errno (List UInt8))
  | [] => none
  | .data available :: _ =>
    -- whatever has arrived first ends the wait
    if available = [] then some (.error .econnreset) else some (.ok (available.take bufLen))
  | .failed e nowMs :: peeks =>
    if e = .eintr then peekFirstBytes bufLen startMs timeoutMs peeks
    else if e = .eagain then
      if timeoutMs = 0 then some (.error .etimedout)
      else if 0 < timeoutMs ∧ (startMs : ℤ) + timeoutMs ≤ nowMs then some (.error .etimedout)
      else peekFirstBytes bufLen startMs timeoutMs peeks
    else some (.error e)

/-- An accepted connection: its socket, and what the receive loop reads from it. -/
structure Client where
  /-- The descriptor (`client_fd`). -/
  fd : ℤ
  /-- The monotonic clock when the wait for the first bytes starts. -/
  startMs : ℕ
  firstTimeoutMs : ℤ
  peeks : List Peek
  /-- The outcome of the TLS handshake (`jpv2g_tls_server_wrap_mem`, `jpv2g_tls_server_wrap`). -/
  wrap : Rc
  /-- The iterations of the receive loop, over TLS or in plaintext, with the request handler that is
  installed. -/
  frames : List ServedFrame

/-- `JPV2G_TIMEOUT_FIRST_HLC`. -/
def timeoutFirstHlc : ℤ := 20000

/-- The time the first bytes may take. -/
def Client.waitMs (client : Client) : ℤ :=
  if 0 < client.firstTimeoutMs then client.firstTimeoutMs else timeoutFirstHlc

/-- The handlers of a connection. -/
inductive Route where
  | tls | plaintext
deriving DecidableEq, Repr

/-- The handler for a connection with the given first bytes. -/
def firstRoute (buf : List UInt8) : Route :=
  -- an unknown prefix is treated as plaintext
  if looksLikeTlsClientHello buf then .tls else .plaintext

/-- Where the connection is routed once its first bytes are there. -/
def Client.route (client : Client) : Option (Except Errno Route) :=
  (peekFirstBytes 8 client.startMs client.waitMs client.peeks).map fun first =>
    first.map firstRoute

/-! ## The end of a connection -/

/-- The reasons a connection can end for (`jpv2g_hlc_drop_reason_t`). -/
inductive DropReason where
  | unknown | firstPacketTimeout | idleTimeout | peerReset | evSessionStop | tcpRecvFail
  | tcpSendFail | codecError | handlerError | localStop | invalidArg | sequenceError
  | unknownSession | appRejected
deriving DecidableEq, Repr

/-- The reason for a return code of the stream (`jpv2g_secc_classify_disconnect`). -/
def classifyDisconnect (rc : Rc) (handledAny sawSessionStop : Bool) : DropReason :=
  match rc with
  | .ok () => if sawSessionStop then .evSessionStop else .idleTimeout
  | .error .etimedout => if handledAny then .idleTimeout else .firstPacketTimeout
  | .error .econnreset => .peerReset
  | .error .eshutdown => .appRejected
  | .error .ebadmsg | .error .enospc | .error .e2big => .codecError
  | .error .eio | .error .epipe => .tcpSendFail
  | .error .eproto => .sequenceError
  | .error .eacces => .unknownSession
  | .error .einval => .invalidArg
  | .error _ => .tcpRecvFail

/-- The reason for a connection whose first bytes never came. -/
def peekFailure : Errno → DropReason
  | .etimedout => .firstPacketTimeout
  | .econnreset => .peerReset
  | _ => .tcpRecvFail

/-- What is reported of a connection that has ended. -/
structure ClientReport where
  rc : Rc
  /-- `*out_reason`. -/
  reason : DropReason
  /-- `*out_saw_session_stop`. -/
  sawSessionStop : Bool
  station : Station

/-! ## Serving a connection -/

section Serve

variable (build : Build) (codec : Codec) (codec20 : Codec20)

/-- Serve a connection over TLS (`jpv2g_secc_handle_client_tls`); `none` while it runs. -/
def handleClientTls (station : Station) (client : Client) : Option (Rc × Station) :=
  match client.wrap with
  | .error e => some (.error e, station)
  | .ok () =>
    let turn := handleServed build codec codec20 station client.frames
    turn.exit.map fun rc => (rc, turn.station)

/-- Serve a connection (`jpv2g_secc_handle_client_detect_ex`); `none` while it runs. -/
def handleClientDetectEx (station : Station) (client : Client) : Option ClientReport :=
  if client.fd < 0 then
    some { rc := .error .einval, reason := .invalidArg, sawSessionStop := false, station }
  else
    match client.route with
    | none => none
    | some (.error e) =>
      some { rc := .error e, reason := peekFailure e, sawSessionStop := false, station }
    | some (.ok .tls) =>
      -- what the stream has seen is not handed out of the TLS handler
      (handleClientTls build codec codec20 station client).map fun (rc, station) =>
        { rc, reason := classifyDisconnect rc false false, sawSessionStop := false, station }
    | some (.ok .plaintext) =>
      let turn := handleServed build codec codec20 station client.frames
      turn.exit.map fun rc =>
        { rc
          reason := classifyDisconnect rc turn.stream.handledAny turn.stream.sawSessionStop
          sawSessionStop := turn.stream.sawSessionStop
          station := turn.station }

end Serve

end Jpv2g
