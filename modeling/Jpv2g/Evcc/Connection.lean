import Jpv2g.Discovery
import Jpv2g.ToMathlib.Machine
import Mathlib.Data.Finset.Card

/-!
# The Sockets of the Vehicle

How the vehicle opens and closes its connection (`jpv2g_evcc_connect`, `jpv2g_evcc_close`, and under
them `jpv2g_tcp_client_connect`, `jpv2g_tls_client_connect` and their counterparts), call by call:
which descriptors it has open, and which it closes that are not its own.

## Main definitions

* `EvccSockets`: the descriptors in the record of the vehicle.
* `evccConnect`, `evccClose`: the source's functions, and `evccSockets` the machine of the two.
* `account`: the descriptors that are open, and how often one was closed that was not.
* `leases`: what the calls leave to be closed, from the calls alone.

## Main results

* `evccSockets_account`: what is open after any calls, and what has been closed twice.
* `evcc_connects_to_station`: where the sockets of a vehicle go that has found a station.
-/

namespace Jpv2g

/-! ## The calls -/

/-- What the vehicle does with descriptors. -/
inductive SocketEvent where
  | opened (fd : ℕ)
  | connecting (fd : ℕ) (target : SockAddrIn6)
  | closed (fd : ℕ)
deriving DecidableEq, Repr

/-- What the platform answers to a call that connects. -/
structure ConnectAnswers where
  /-- `socket`: a descriptor. -/
  socket : Except Errno ℕ
  /-- `fcntl`, by which a socket without TLS does not block. -/
  setNonblock : Rc
  /-- `connect`: whether it is still in progress. -/
  connect : Except Errno Bool
  /-- `poll` until the deadline, and the error of the socket after it. -/
  established : Rc
  /-- The setup of TLS and its handshake. -/
  handshake : Rc

/-- The descriptors in the record of the vehicle, `none` for `-1`. -/
structure EvccSockets where
  tcpFd : Option ℕ
  tlsFd : Option ℕ
  tlsEnabled : Bool
deriving DecidableEq, Repr

/-- What `jpv2g_evcc_init` leaves. -/
def EvccSockets.init (useTls : Bool) : EvccSockets where
  tcpFd := none
  tlsFd := none
  tlsEnabled := useTls

/-- Connect without TLS (`jpv2g_tcp_client_connect`): the descriptor in the record afterwards. -/
def tcpClientConnect (target : SockAddrIn6) (answers : ConnectAnswers) :
    List SocketEvent × Option ℕ × Rc :=
  match answers.socket with
  | .error e => ([], none, .error e)
  | .ok fd =>
    match answers.setNonblock with
    -- a socket that is given up is closed, and its descriptor stays in the record
    | .error e => ([.opened fd, .closed fd], some fd, .error e)
    | .ok () =>
      match answers.connect with
      | .error e => ([.opened fd, .connecting fd target, .closed fd], some fd, .error e)
      | .ok _ =>
        match answers.established with
        | .error e => ([.opened fd, .connecting fd target, .closed fd], some fd, .error e)
        | .ok () => ([.opened fd, .connecting fd target], some fd, .ok ())

/-- Connect with TLS (`jpv2g_tls_client_connect`), in a build that has it: the descriptor in the
record afterwards, which is the old one until the new socket is connected. -/
def tlsClientConnect (mbedtls : Bool) (target : SockAddrIn6) (answers : ConnectAnswers)
    (old : Option ℕ) : List SocketEvent × Option ℕ × Rc :=
  if mbedtls = false then ([], old, .error .enotsup)
  else
    match answers.socket with
    | .error e => ([], old, .error e)
    | .ok fd =>
      match answers.connect with
      | .error e => ([.opened fd, .connecting fd target, .closed fd], old, .error e)
      | .ok inProgress =>
        match if inProgress then answers.established else .ok () with
        | .error e => ([.opened fd, .connecting fd target, .closed fd], old, .error e)
        | .ok () =>
          match answers.handshake with
          | .error e => ([.opened fd, .connecting fd target, .closed fd], none, .error e)
          | .ok () => ([.opened fd, .connecting fd target], some fd, .ok ())

/-- The address to connect to: a scope that is missing is looked up. -/
def connectTarget (platform : Config.Platform) (cfg : Config.EvccConfig)
    (discovery : DiscoveryResult) : SockAddrIn6 :=
  if discovery.seccAddr.scopeId ≠ 0 then discovery.seccAddr
  else if discovery.ifIndex ≠ 0 then { discovery.seccAddr with scopeId := discovery.ifIndex }
  else
    { discovery.seccAddr with
      scopeId := ifaceSelectIndex platform (some cfg.networkInterface.bytes) }

/-- Connect to what was found (`jpv2g_evcc_connect`). -/
def evccConnect (platform : Config.Platform) (cfg : Config.EvccConfig) (mbedtls : Bool)
    (discovery : DiscoveryResult) (answers : ConnectAnswers) (sockets : EvccSockets) :
    List SocketEvent × EvccSockets × Rc :=
  if discovery.seccPort = 0 then ([], sockets, .error .einval)
  else
    let target := connectTarget platform cfg discovery
    if cfg.useTls then
      let (events, tlsFd, rc) := tlsClientConnect mbedtls target answers sockets.tlsFd
      (events, { sockets with tlsFd, tlsEnabled := rc.isOk }, rc)
    else
      let (events, tcpFd, rc) := tcpClientConnect target answers
      (events, { sockets with tcpFd, tlsEnabled := false }, rc)

/-- Close the connection (`jpv2g_evcc_close`). -/
def evccClose (sockets : EvccSockets) : List SocketEvent × EvccSockets :=
  if sockets.tlsEnabled then
    (sockets.tlsFd.toList.map .closed, { sockets with tlsFd := none })
  else (sockets.tcpFd.toList.map .closed, { sockets with tcpFd := none })

/-- A call on the vehicle's connection. -/
inductive EvccCall where
  | connect (discovery : DiscoveryResult) (answers : ConnectAnswers)
  | close

/-- The calls on the vehicle's connection. -/
def evccSockets (platform : Config.Platform) (cfg : Config.EvccConfig) (mbedtls : Bool) :
    Machine EvccSockets EvccCall SocketEvent where
  step sockets
    | .connect discovery answers =>
      let (events, sockets, _) := evccConnect platform cfg mbedtls discovery answers sockets
      (sockets, events)
    | .close =>
      let (events, sockets) := evccClose sockets
      (sockets, events)

/-! ## What is open -/

/-- The descriptors that are open, and how often one was closed that was not. -/
structure Account where
  openFds : Finset ℕ
  idleCloses : ℕ

/-- The account after one more event. -/
def Account.after (acc : Account) : SocketEvent → Account
  | .opened fd => { acc with openFds := insert fd acc.openFds }
  | .connecting _ _ => acc
  | .closed fd =>
    if fd ∈ acc.openFds then { acc with openFds := acc.openFds.erase fd }
    else { acc with idleCloses := acc.idleCloses + 1 }

/-- The account of a trace. -/
def account (t : List SocketEvent) : Account := t.foldl Account.after ⟨∅, 0⟩

/-- The platform hands out a descriptor that is not open. -/
def EvccCall.Fresh (t : List SocketEvent) : EvccCall → Prop
  | .connect _ answers => ∀ fd, answers.socket = .ok fd → fd ∉ (account t).openFds
  | .close => True

/-! ## What the calls leave -/

/-- What the calls so far leave to a call that closes. -/
inductive Lease where
  /-- Nothing. -/
  | free
  /-- A connection. -/
  | held
  /-- A descriptor that has been closed already. -/
  | stale
deriving DecidableEq, Repr

/-- What a call that connects leaves. -/
def ConnectAnswers.lease (useTls mbedtls : Bool) (answers : ConnectAnswers) : Lease :=
  if useTls then
    if mbedtls ∧ answers.socket.isOk ∧ (answers.connect = .ok false ∨
        answers.connect = .ok true ∧ answers.established = .ok ()) ∧ answers.handshake = .ok ()
      then .held
    else .free
  else if answers.socket.isOk = false then .free
  else if answers.setNonblock = .ok () ∧ answers.connect.isOk ∧ answers.established = .ok () then
    .held
  else .stale

theorem ConnectAnswers.lease_tls_ne_stale (answers : ConnectAnswers) (mbedtls : Bool) :
    answers.lease true mbedtls ≠ .stale := by
  rw [lease, if_pos rfl]
  split_ifs <;> decide

/-- A call that connects, when something was found. -/
def EvccCall.connects : EvccCall → Bool
  | .connect discovery _ => discovery.seccPort ≠ 0
  | .close => false

/-- The leases of a vehicle. -/
def leases (useTls mbedtls : Bool) : Machine Lease EvccCall Unit where
  step lease
    | .connect discovery answers =>
      (if discovery.seccPort = 0 then lease else answers.lease useTls mbedtls, [])
    | .close => (.free, [])

/-- A connection is replaced while it is held. -/
def replacesHeld (lease : Lease) (call : EvccCall) : Bool := lease = .held ∧ call.connects

/-- A call closes behind one that has failed to connect. -/
def closesStale (lease : Lease) : EvccCall → Bool
  | .close => lease = .stale
  | .connect _ _ => false

/-! ## The account -/

section Account

variable {t : List SocketEvent} {fd : ℕ} {target : SockAddrIn6}

theorem account_append (t es : List SocketEvent) :
    account (t ++ es) = es.foldl Account.after (account t) :=
  List.foldl_append

/-- A new socket that is closed again leaves the account as it was. -/
theorem account_opened_closed (hfresh : fd ∉ (account t).openFds) :
    account (t ++ [.opened fd, .closed fd]) = account t := by
  have hmem : fd ∈ insert fd (account t).openFds := Finset.mem_insert_self _ _
  simp [account_append, Account.after, hmem, Finset.erase_insert hfresh]

theorem account_connecting_closed (hfresh : fd ∉ (account t).openFds) :
    account (t ++ [.opened fd, .connecting fd target, .closed fd]) = account t := by
  have hmem : fd ∈ insert fd (account t).openFds := Finset.mem_insert_self _ _
  simp [account_append, Account.after, hmem, Finset.erase_insert hfresh]

theorem account_connected :
    account (t ++ [.opened fd, .connecting fd target]) =
      { account t with openFds := insert fd (account t).openFds } := by
  simp [account_append, Account.after]

end Account

/-! ## A call -/

namespace EvccSockets

/-- The descriptor that `evccClose` closes. -/
def leased (sockets : EvccSockets) : Option ℕ :=
  if sockets.tlsEnabled then sockets.tlsFd else sockets.tcpFd

/-- Only the socket that the configuration is for is used. -/
def UsesOne (useTls : Bool) (sockets : EvccSockets) : Prop :=
  if useTls then sockets.tcpFd = none else sockets.tlsEnabled = false

end EvccSockets

/-- What holds behind the events `t` when the calls have left `lease`, and the descriptors `gone`
are open that nothing will close. -/
structure Holds (useTls : Bool) (lease : Lease) (gone : Finset ℕ) (t : List SocketEvent)
    (sockets : EvccSockets) : Prop where
  usesOne : sockets.UsesOne useTls
  free : lease = .free → sockets.leased = none ∧ (account t).openFds = gone
  held : lease = .held →
    ∃ fd ∉ gone, sockets.leased = some fd ∧ (account t).openFds = insert fd gone
  stale : lease = .stale →
    ∃ fd, sockets.leased = some fd ∧ fd ∉ (account t).openFds ∧ (account t).openFds = gone

section Step

variable {t : List SocketEvent} {sockets : EvccSockets} {target : SockAddrIn6}
  {answers : ConnectAnswers} {mbedtls : Bool}

/-- What connecting without TLS leaves. -/
theorem tcpClientConnect_spec
    (hfresh : ∀ fd, answers.socket = .ok fd → fd ∉ (account t).openFds) :
    let run := tcpClientConnect target answers
    (answers.lease false mbedtls = .free → run.2.1 = none ∧ account (t ++ run.1) = account t) ∧
    (answers.lease false mbedtls = .held → ∃ fd ∉ (account t).openFds, run.2.1 = some fd ∧
      account (t ++ run.1) =
        { account t with openFds := insert fd (account t).openFds }) ∧
    (answers.lease false mbedtls = .stale → ∃ fd ∉ (account t).openFds, run.2.1 = some fd ∧
      account (t ++ run.1) = account t) := by
  intro run
  have hrun : run = tcpClientConnect target answers := rfl
  rw [tcpClientConnect] at hrun
  rw [ConnectAnswers.lease]
  -- along the ways through the function; a socket that is given up leaves a stale descriptor
  rcases hsocket : answers.socket with e | fd
  · simp [hrun, hsocket, Except.isOk, Except.toBool]
  · have hnew := hfresh fd hsocket
    rcases hblock : answers.setNonblock with e | _
    · simp [hrun, hsocket, hblock, Except.isOk, Except.toBool, hnew, account_opened_closed]
    · rcases hconnect : answers.connect with e | inProgress
      · simp [hrun, hsocket, hblock, hconnect, Except.isOk, Except.toBool, hnew,
          account_connecting_closed]
      · rcases hestablished : answers.established with e | _
        · simp [hrun, hsocket, hblock, hconnect, hestablished, Except.isOk, Except.toBool, hnew,
            account_connecting_closed]
        · simp [hrun, hsocket, hblock, hconnect, hestablished, Except.isOk, Except.toBool, hnew,
            account_connected]

/-- What connecting with TLS leaves. -/
theorem tlsClientConnect_spec {old : Option ℕ}
    (hfresh : ∀ fd, answers.socket = .ok fd → fd ∉ (account t).openFds) :
    let run := tlsClientConnect mbedtls target answers old
    (answers.lease true mbedtls = .free → run.2.2.isOk = false ∧
      account (t ++ run.1) = account t) ∧
    (answers.lease true mbedtls = .held → ∃ fd ∉ (account t).openFds, run.2.1 = some fd ∧
      run.2.2.isOk = true ∧
      account (t ++ run.1) = { account t with openFds := insert fd (account t).openFds }) := by
  intro run
  have hrun : run = tlsClientConnect mbedtls target answers old := rfl
  rw [tlsClientConnect] at hrun
  rw [ConnectAnswers.lease]
  cases mbedtls with
  | false => simp [hrun, Except.isOk, Except.toBool]
  | true =>
    -- along the ways through the function, each of which closes what it has opened
    rcases hsocket : answers.socket with e | fd
    · simp [hrun, hsocket, Except.isOk, Except.toBool]
    · have hnew := hfresh fd hsocket
      rcases hconnect : answers.connect with e | _ | _
      · simp [hrun, hsocket, hconnect, Except.isOk, Except.toBool, hnew,
          account_connecting_closed]
      · rcases hhandshake : answers.handshake with e | _
        · simp [hrun, hsocket, hconnect, hhandshake, Except.isOk, Except.toBool, hnew,
            account_connecting_closed]
        · simp [hrun, hsocket, hconnect, hhandshake, Except.isOk, Except.toBool, hnew,
            account_connected]
      · rcases hestablished : answers.established with e | _
        · simp [hrun, hsocket, hconnect, hestablished, Except.isOk, Except.toBool, hnew,
            account_connecting_closed]
        · rcases hhandshake : answers.handshake with e | _
          · simp [hrun, hsocket, hconnect, hestablished, hhandshake, Except.isOk, Except.toBool,
              hnew, account_connecting_closed]
          · simp [hrun, hsocket, hconnect, hestablished, hhandshake, Except.isOk, Except.toBool,
              hnew, account_connected]

variable {platform : Config.Platform} {cfg : Config.EvccConfig} {discovery : DiscoveryResult}
  {lease : Lease} {gone : Finset ℕ}

/-- What connecting leaves. -/
theorem evccConnect_spec (hport : discovery.seccPort ≠ 0) (hone : sockets.UsesOne cfg.useTls)
    (hfresh : ∀ fd, answers.socket = .ok fd → fd ∉ (account t).openFds) :
    let run := evccConnect platform cfg mbedtls discovery answers sockets
    Holds cfg.useTls (answers.lease cfg.useTls mbedtls) (account t).openFds (t ++ run.1) run.2.1 ∧
      (account (t ++ run.1)).idleCloses = (account t).idleCloses := by
  intro run
  obtain ⟨target, htarget⟩ : ∃ a, a = connectTarget platform cfg discovery := ⟨_, rfl⟩
  have hrun : run = evccConnect platform cfg mbedtls discovery answers sockets := rfl
  rw [evccConnect, if_neg hport, ← htarget] at hrun
  cases htls : cfg.useTls with
  | false =>
    -- plain TCP: the descriptor is kept whatever connect() has answered
    obtain ⟨hfree, hheld, hstale⟩ := @tcpClientConnect_spec t target answers mbedtls hfresh
    simp only [htls, Bool.false_eq_true, if_false] at hrun
    have hone' : run.2.1.UsesOne false := by rw [hrun]; rfl
    have hleased : run.2.1.leased = (tcpClientConnect target answers).2.1 := by rw [hrun]; rfl
    have hevents : run.1 = (tcpClientConnect target answers).1 := by rw [hrun]
    rw [hevents]
    rcases hlease : answers.lease false mbedtls with _ | _ | _
    · obtain ⟨hnone, hacc⟩ := hfree hlease
      refine ⟨⟨hone', fun _ => ⟨hleased.trans hnone, by rw [hacc]⟩, ?_, ?_⟩, by rw [hacc]⟩
      · exact fun h => nomatch h
      · exact fun h => nomatch h
    · obtain ⟨fd, hfd, hsome, hacc⟩ := hheld hlease
      refine ⟨⟨hone', ?_, fun _ => ⟨fd, hfd, hleased.trans hsome, by rw [hacc]⟩, ?_⟩,
        by rw [hacc]⟩
      · exact fun h => nomatch h
      · exact fun h => nomatch h
    · obtain ⟨fd, hfd, hsome, hacc⟩ := hstale hlease
      refine ⟨⟨hone', ?_, ?_, fun _ => ⟨fd, hleased.trans hsome, by rwa [hacc], by rw [hacc]⟩⟩,
        by rw [hacc]⟩
      · exact fun h => nomatch h
      · exact fun h => nomatch h
  | true =>
    -- TLS: a connection that fails closes its own descriptor
    obtain ⟨hfree, hheld⟩ :=
      @tlsClientConnect_spec t target answers mbedtls sockets.tlsFd hfresh
    rw [htls] at hone
    simp only [htls, if_true] at hrun
    have hone' : run.2.1.UsesOne true := by
      rw [hrun]
      exact hone
    have hleased : run.2.1.leased =
        if (tlsClientConnect mbedtls target answers sockets.tlsFd).2.2.isOk then
          (tlsClientConnect mbedtls target answers sockets.tlsFd).2.1
        else sockets.tcpFd := by rw [hrun]; rfl
    have hevents : run.1 = (tlsClientConnect mbedtls target answers sockets.tlsFd).1 := by
      rw [hrun]
    rw [hevents]
    rcases hlease : answers.lease true mbedtls with _ | _ | _
    · obtain ⟨hfailed, hacc⟩ := hfree hlease
      rw [hfailed, if_neg Bool.false_ne_true] at hleased
      refine ⟨⟨hone', fun _ => ⟨hleased.trans hone, by rw [hacc]⟩, ?_, ?_⟩, by rw [hacc]⟩
      · exact fun h => nomatch h
      · exact fun h => nomatch h
    · obtain ⟨fd, hfd, hsome, hok, hacc⟩ := hheld hlease
      rw [hok, if_pos rfl] at hleased
      refine ⟨⟨hone', ?_, fun _ => ⟨fd, hfd, hleased.trans hsome, by rw [hacc]⟩, ?_⟩,
        by rw [hacc]⟩
      · exact fun h => nomatch h
      · exact fun h => nomatch h
    · exact absurd hlease (answers.lease_tls_ne_stale mbedtls)

/-- What closing leaves. -/
theorem evccClose_spec (h : Holds cfg.useTls lease gone t sockets) :
    let run := evccClose sockets
    Holds cfg.useTls .free gone (t ++ run.1) run.2 ∧
      (account (t ++ run.1)).idleCloses =
        (account t).idleCloses + (decide (lease = .stale)).toNat := by
  intro run
  have hevents : run.1 = sockets.leased.toList.map .closed := by
    simp only [run, evccClose, EvccSockets.leased]
    split_ifs <;> rfl
  have hleased : run.2.leased = none := by
    simp only [run, evccClose, EvccSockets.leased]
    split_ifs <;> rfl
  have hone : run.2.UsesOne cfg.useTls := by
    have hone := h.usesOne
    simp only [run, evccClose, EvccSockets.UsesOne] at hone ⊢
    split_ifs at hone ⊢ <;> simp_all
  -- after the call the connection holds nothing
  have hfree : (account (t ++ run.1)).openFds = gone → Holds cfg.useTls .free gone (t ++ run.1)
      run.2 := by
    intro hopen
    refine ⟨hone, fun _ => ⟨hleased, hopen⟩, ?_, ?_⟩
    · exact fun h => nomatch h
    · exact fun h => nomatch h
  rcases hlease : lease with _ | _ | _
  -- what it held before decides what the call has closed
  · obtain ⟨hnone, hopen⟩ := h.free hlease
    rw [hnone] at hevents
    have hacc : account (t ++ run.1) = account t := by simp [hevents]
    exact ⟨hfree (by rw [hacc, hopen]), by rw [hacc]; rfl⟩
  · obtain ⟨fd, hfd, hsome, hopen⟩ := h.held hlease
    rw [hsome] at hevents
    have hmem : fd ∈ (account t).openFds := hopen ▸ Finset.mem_insert_self fd gone
    have hacc : account (t ++ run.1) =
        { account t with openFds := (account t).openFds.erase fd } := by
      simp [hevents, account_append, Account.after, hmem]
    exact ⟨hfree (by rw [hacc, hopen, Finset.erase_insert hfd]), by rw [hacc]; rfl⟩
  -- a stale descriptor is closed a second time
  · obtain ⟨fd, hsome, hmem, hopen⟩ := h.stale hlease
    rw [hsome] at hevents
    have hacc : account (t ++ run.1) =
        { account t with idleCloses := (account t).idleCloses + 1 } := by
      simp [hevents, account_append, Account.after, hmem]
    exact ⟨hfree (by rw [hacc, hopen]), by rw [hacc]; rfl⟩

/-- Of the descriptors that are open, one at most will be closed. -/
theorem Holds.card_open (h : Holds cfg.useTls lease gone t sockets) :
    (account t).openFds.card = gone.card + (decide (lease = .held)).toNat := by
  rcases hlease : lease with _ | _ | _
  · rw [(h.free hlease).2]
    rfl
  · obtain ⟨fd, hfd, -, hopen⟩ := h.held hlease
    rw [hopen, Finset.card_insert_of_notMem hfd]
    rfl
  · obtain ⟨fd, -, -, hopen⟩ := h.stale hlease
    rw [hopen]
    rfl

/-- One call: what it leaves open is lost when it replaces a connection. -/
theorem Holds.step (h : Holds cfg.useTls lease gone t sockets) {call : EvccCall}
    (hfresh : call.Fresh t) :
    let next := (evccSockets platform cfg mbedtls).step sockets call
    ∃ gone' : Finset ℕ, gone'.card = gone.card + (replacesHeld lease call).toNat ∧
      Holds cfg.useTls ((leases cfg.useTls mbedtls).step lease call).1 gone' (t ++ next.2) next.1 ∧
      (account (t ++ next.2)).idleCloses =
        (account t).idleCloses + (closesStale lease call).toNat := by
  intro next
  cases call with
  | close =>
    obtain ⟨hholds, hidle⟩ := evccClose_spec h
    refine ⟨gone, ?_, hholds, hidle⟩
    rw [replacesHeld, EvccCall.connects, decide_eq_false (by simp)]
    rfl
  | connect discovery answers =>
    -- without a port the call fails before it opens anything
    by_cases hport : discovery.seccPort = 0
    · have hnext : next = (sockets, []) := by
        simp only [next, evccSockets, evccConnect, if_pos hport]
      have hstep : ((leases cfg.useTls mbedtls).step lease (.connect discovery answers)).1 =
          lease := if_pos hport
      rw [hnext, hstep, List.append_nil]
      refine ⟨gone, ?_, h, rfl⟩
      simp [replacesHeld, EvccCall.connects, hport]
    · obtain ⟨hholds, hidle⟩ := @evccConnect_spec _ _ _ mbedtls platform _ _ hport h.usesOne hfresh
      have hstep : ((leases cfg.useTls mbedtls).step lease (.connect discovery answers)).1 =
          answers.lease cfg.useTls mbedtls := if_neg hport
      rw [hstep]
      refine ⟨(account t).openFds, ?_, hholds, hidle⟩
      -- what was open before is left behind, as a connect closes nothing
      rw [h.card_open]
      simp [replacesHeld, EvccCall.connects, hport]

/-- Calls one after the other. -/
theorem Holds.run (h : Holds cfg.useTls lease gone t sockets) {calls : List EvccCall}
    (hfresh : (evccSockets platform cfg mbedtls).Meets (fun t _ call => call.Fresh t) t sockets
      calls) :
    let after := (evccSockets platform cfg mbedtls).run sockets calls
    ∃ gone' : Finset ℕ,
      gone'.card = gone.card + (leases cfg.useTls mbedtls).count replacesHeld lease calls ∧
      Holds cfg.useTls ((leases cfg.useTls mbedtls).run lease calls).1 gone' (t ++ after.2)
        after.1 ∧
      (account (t ++ after.2)).idleCloses =
        (account t).idleCloses + (leases cfg.useTls mbedtls).count closesStale lease calls := by
  -- along the calls, with what each of them leaves behind added up
  induction calls generalizing lease gone t sockets with
  | nil =>
    intro after
    have hnil : t ++ after.2 = t := List.append_nil t
    rw [hnil]
    exact ⟨gone, rfl, h, rfl⟩
  | cons call calls ih =>
    intro after
    obtain ⟨gone₁, hcard₁, hholds₁, hidle₁⟩ := h.step hfresh.1
    obtain ⟨gone₂, hcard₂, hholds₂, hidle₂⟩ := ih hholds₁ hfresh.2
    rw [List.append_assoc] at hholds₂ hidle₂
    refine ⟨gone₂, ?_, hholds₂, ?_⟩
    · rw [hcard₂, hcard₁, Machine.count, Nat.add_assoc]
    · refine hidle₂.trans ?_
      rw [hidle₁, Machine.count, Nat.add_assoc]

end Step

/-- With TLS no call closes behind one that has failed to connect. -/
theorem count_closesStale_tls (mbedtls : Bool) {lease : Lease} (hlease : lease ≠ .stale)
    (calls : List EvccCall) : (leases true mbedtls).count closesStale lease calls = 0 := by
  induction calls generalizing lease with
  | nil => rfl
  | cons call calls ih =>
    have hquiet : closesStale lease call = false := by
      cases call with
      | close => exact decide_eq_false hlease
      | connect _ _ => rfl
    have hnext : ((leases true mbedtls).step lease call).1 ≠ .stale := by
      cases call with
      | close => exact fun h => nomatch h
      | connect discovery answers =>
        change (if _ then _ else _) ≠ _
        split_ifs
        · exact hlease
        · exact answers.lease_tls_ne_stale mbedtls
    rw [Machine.count, hquiet, ih hnext]
    rfl

/-- **The descriptors of a vehicle.** After any calls that connect and close, however each of them
ends, on a platform that hands out descriptors that are not open: as many are open as connections
have been replaced by connecting again, and the one that is held; and as often as a call has closed
behind one that had failed to connect without TLS, one has been closed that was not open. -/
theorem evccSockets_account (platform : Config.Platform) (cfg : Config.EvccConfig)
    (mbedtls : Bool) {calls : List EvccCall}
    (hfresh : (evccSockets platform cfg mbedtls).Meets (fun t _ call => call.Fresh t) []
      (.init cfg.useTls) calls) :
    let acc := account ((evccSockets platform cfg mbedtls).run (.init cfg.useTls) calls).2
    let leases := leases cfg.useTls mbedtls
    acc.openFds.card = leases.count replacesHeld .free calls +
      (decide ((leases.run .free calls).1 = .held)).toNat ∧
    acc.idleCloses = leases.count closesStale .free calls ∧
    (cfg.useTls = true → acc.idleCloses = 0) := by
  intro acc leases
  -- a new connection object holds nothing
  have hinit : Holds cfg.useTls .free ∅ [] (.init cfg.useTls) := by
    refine ⟨?_, fun _ => ⟨?_, rfl⟩, ?_, ?_⟩
    · cases cfg.useTls <;> rfl
    · cases cfg.useTls <;> rfl
    · exact fun h => nomatch h
    · exact fun h => nomatch h
  obtain ⟨gone, hcard, hholds, hidle⟩ := hinit.run hfresh
  rw [List.nil_append] at hholds hidle
  have hidle' : acc.idleCloses = leases.count closesStale .free calls :=
    hidle.trans (Nat.zero_add _)
  refine ⟨?_, hidle', fun htls => ?_⟩
  · refine hholds.card_open.trans ?_
    rw [hcard, Finset.card_empty, Nat.zero_add]
  · rw [hidle']
    simp only [leases, htls]
    exact count_closesStale_tls mbedtls (by decide) calls

/-- A vehicle without TLS whose connection is refused, and which is closed after that. -/
def sampleRefused : List EvccCall :=
  [.connect (sampleStationSdp.result 0) ⟨.ok 3, .ok (), .ok true, .error (.other 111), .ok ()⟩,
    .close]

/-- It closes a descriptor that is not its own any more. -/
theorem evccSockets_account_sample :
    (account ((evccSockets barePlatform (Config.evccConfigDefault barePlatform) true).run
      (.init false) sampleRefused).2).idleCloses = 1 :=
  (@evccSockets_account barePlatform (Config.evccConfigDefault barePlatform) true sampleRefused
    ⟨fun _ _ => Finset.notMem_empty _, trivial, trivial⟩).2.1.trans (by decide)

/-! ## Connecting to what was found -/

section Target

variable {platform : Config.Platform} {vehicle : Config.EvccConfig} {mbedtls : Bool}
  {discovery : DiscoveryResult} {answers : ConnectAnswers} {sockets : EvccSockets}

theorem connectTarget_addr :
    (connectTarget platform vehicle discovery).addr = discovery.seccAddr.addr ∧
      (connectTarget platform vehicle discovery).port = discovery.seccAddr.port := by
  rw [connectTarget]
  split_ifs <;> exact ⟨rfl, rfl⟩

theorem tcpClientConnect_connecting {fd : ℕ} {addr target : SockAddrIn6}
    (h : .connecting fd addr ∈ (tcpClientConnect target answers).1) : addr = target := by
  rw [tcpClientConnect] at h
  repeat' split at h
  all_goals simp_all

theorem tlsClientConnect_connecting {fd : ℕ} {addr target : SockAddrIn6} {old : Option ℕ}
    (h : .connecting fd addr ∈ (tlsClientConnect mbedtls target answers old).1) :
    addr = target := by
  rw [tlsClientConnect] at h
  split at h
  · simp at h
  · repeat' split at h
    all_goals simp_all

/-- A call that connects goes to the address and the port found, and one that succeeds has
connected as the vehicle is configured. -/
theorem evccConnect_target :
    let run := evccConnect platform vehicle mbedtls discovery answers sockets
    (∀ fd target, .connecting fd target ∈ run.1 →
      target.addr = discovery.seccAddr.addr ∧ target.port = discovery.seccAddr.port) ∧
    (run.2.2 = .ok () → run.2.1.tlsEnabled = vehicle.useTls) := by
  intro run
  have hrun : run = evccConnect platform vehicle mbedtls discovery answers sockets := rfl
  rw [evccConnect] at hrun
  by_cases hport : discovery.seccPort = 0
  · rw [if_pos hport] at hrun
    simp [hrun]
  · rw [if_neg hport] at hrun
    cases htls : vehicle.useTls with
    | false =>
      simp only [htls, Bool.false_eq_true, if_false] at hrun
      refine ⟨fun fd target hmem => ?_, fun _ => by rw [hrun]⟩
      rw [hrun] at hmem
      rw [tcpClientConnect_connecting hmem]
      exact connectTarget_addr
    | true =>
      simp only [htls, if_true] at hrun
      -- over TLS the flag is set once the handshake has succeeded
      refine ⟨fun fd target hmem => ?_, fun hok => ?_⟩
      · rw [hrun] at hmem
        rw [tlsClientConnect_connecting hmem]
        exact connectTarget_addr
      · rw [hrun] at hok ⊢
        dsimp only at hok ⊢
        rw [hok]
        rfl

/-- **The vehicle connects to the station it has found.** Where one station answers, every socket
goes to its address and to its port, and none to port zero; and the connection uses TLS as the
vehicle is configured, whatever the station has said, which is in the result. -/
theorem evcc_connects_to_station {iso20 stationIso20 : Bool} {sock : UdpSocket}
    {station : Config.SeccConfig} {seccIp : Ip6} {heard : List UInt8 → Prop} {turns : List UdpTurn}
    (hnetwork : OnlyStation iso20 stationIso20 station seccIp heard turns)
    (hfound : (evccDiscover iso20 platform vehicle sock turns).2 = some (.ok discovery)) :
    let run := evccConnect platform vehicle mbedtls discovery answers sockets
    (∀ fd target, .connecting fd target ∈ run.1 →
      target.addr = seccIp ∧ target.port = UInt16.ofInt station.tcpPort) ∧
    (UInt16.ofInt station.tcpPort = 0 → run = ([], sockets, .error .einval)) ∧
    (run.2.2 = .ok () → run.2.1.tlsEnabled = vehicle.useTls) ∧
    discovery.security = if station.useTls then securityWithTls else securityWithoutTls := by
  intro run
  obtain ⟨rfl, -⟩ := hnetwork.result hfound
  obtain ⟨htarget, htls⟩ := @evccConnect_target platform vehicle mbedtls _ answers sockets
  exact ⟨htarget, fun hport => if_pos hport, htls, rfl⟩

end Target

/-- A vehicle that wants TLS connects with it to a station that has said it has none. -/
theorem evcc_connects_to_station_sample :
    let vehicle := { Config.evccConfigDefault barePlatform with useTls := true }
    ∃ discovery,
      (evccDiscover false barePlatform vehicle ⟨.ok 7, .ok ()⟩ sampleTurns).2 =
        some (.ok discovery) ∧
      (evccConnect barePlatform vehicle true discovery
        ⟨.ok 3, .ok (), .ok false, .ok (), .ok ()⟩ (.init true)).2.1.tlsEnabled = true ∧
      discovery.security = securityWithoutTls := by
  intro vehicle
  have hfound : (evccDiscover false barePlatform vehicle ⟨.ok 7, .ok ()⟩ sampleTurns).2 =
      some (.ok (sampleStationSdp.result
        (discoverIfIndex barePlatform (some vehicle.networkInterface.bytes)))) :=
    congrArg Prod.snd (@discoverSecc_of_response false barePlatform ⟨.ok 7, .ok ()⟩ _ _ 250 50
      sampleTurns 7 rfl rfl 2 (by decide) _ (fun _ hj => sampleTurns_none hj)
      sampleTurns_response)
  obtain ⟨-, -, htls, hsecurity⟩ := @evcc_connects_to_station barePlatform vehicle true _
    ⟨.ok 3, .ok (), .ok false, .ok (), .ok ()⟩ (.init true) _ _ _ _ _ _ _
    sampleTurns_onlyStation hfound
  exact ⟨_, hfound, htls rfl, hsecurity⟩

end Jpv2g
