import Jpv2g.SeccIso20.Runs

/-!
# The Contactor Interlock

The contactor is commanded closed only at the end of the full ladder of an ISO 15118-20 session,
over every order of frames and resets, every answer of the hooks and every clock.

## Main definitions

* `interlock`: the milestones of a session, in order.
* `Secured`: the milestones a session has passed in each of its states.

## Main results

* `contactor_interlock`: a command to close the contactor has the milestones behind it.
-/

namespace Jpv2g

open Trace

/-! ## Milestones -/

namespace Event20

/-- The frame handled a request of the given kind. -/
def handledKind (kind : Req20) : Event20 → Prop
  | .frame f => ∃ doc, f.request = some doc ∧ doc.body.kind = kind
  | .reset => False

/-- The session is over: it is reset or replaced. -/
def startsOver (e : Event20) : Prop :=
  e = .reset ∨ e.handledKind .sessionSetup

/-- The SessionSetupReq that gave the session its identifier. -/
def setsUp (sid : Sid) (e : Event20) : Prop :=
  e.handledKind .sessionSetup ∧ ∃ f, e = .frame f ∧ f.result.session.sessionId = sid

/-- The frame handled a request under the given session identifier. -/
def handledUnder (sid : Sid) (body : Body20) : Event20 → Prop
  | .frame f => f.request = some ⟨sid.1, body⟩
  | .reset => False

/-- The frame answered a request under the given session identifier with OK. -/
def accepted (sid : Sid) (body : Body20) : Event20 → Prop
  | .frame f => f.request = some ⟨sid.1, body⟩ ∧
      f.result.session.lastResponseCode = ResponseCode20.ok.value
  | .reset => False

/-- A hook was invoked. -/
def invoked (call : Call20) (e : Event20) : Prop :=
  call ∈ e.calls

/-- The clock the handler of the frame read. -/
def time : Event20 → ℕ
  | .frame f => f.env.nowHandler
  | .reset => 0

/-- The contactor is commanded closed. -/
def commandsClose (e : Event20) : Prop :=
  ∃ confirmed, e.invoked (.contactorSet true confirmed)

end Event20

open Event20

/-- The milestones of a session, whose first AuthorizationReq was handled at `start`. -/
def interlock (sid : Sid) (start : ℕ) : List (Event20 → Prop) :=
  [fun e => e.handledUnder sid (.common (.authorizationReq .eim)) ∧
      e.invoked (.authStatus .granted) ∧ e.time ≤ start + Secc20.eimOngoingTimeoutMs,
    accepted sid (.common (.serviceSelectionReq dcServiceId dcParameterSetId 0)),
    fun e => ∃ ev, e.accepted sid (.dc (.chargeParameterDiscoveryReq false (some ev))),
    accepted sid (.common (.scheduleExchangeReq false true)),
    fun e => e.accepted sid (.dc .cableCheckReq) ∧ e.invoked (.cableCheckStatus .finished),
    fun e => ∃ target present, e.accepted sid (.dc (.preChargeReq target present))]

/-- The session has passed the first `n` milestones, in order. -/
def Passed (sid : Sid) (n : ℕ) (session : List Event20) : Prop :=
  ∃ first, FirstSat (handledKind .authorization) first session ∧
    InOrder ((interlock sid first.time).take n) session

/-- A command to close the contactor comes from a PowerDeliveryReq(Start) of the live session,
which has passed all milestones since its setup and was never reset. -/
def ClosesSecured (pre : List Event20) (e : Event20) : Prop :=
  e.commandsClose → ∃ f tuple, e = .frame f ∧
    f.request = some ⟨f.before.sessionId.1, .common (.powerDeliveryReq .start tuple)⟩ ∧
    FollowedBy (setsUp f.before.sessionId)
      (fun session => (∀ x ∈ session, ¬x.startsOver) ∧ Passed f.before.sessionId 6 session) pre

/-! ## The invariant -/

/-- The EIM timer runs from the first AuthorizationReq of the session. -/
def TimedFrom (s : Secc20) (session : List Event20) : Prop :=
  (s.eimOngoingDeadlineMs = 0 ∧ ∀ e ∈ session, ¬e.handledKind .authorization) ∨
    ∃ first, FirstSat (handledKind .authorization) first session ∧
      s.eimOngoingDeadlineMs = first.time + Secc20.eimOngoingTimeoutMs

/-- What the events since the setup must contain for the session to be in its state. -/
def Secured (s : Secc20) (session : List Event20) : Prop :=
  match s.state with
  | .authSetup | .authorization => TimedFrom s session
  | .serviceDiscovery | .serviceDetail => Passed s.sessionId 1 session
  | .dcCpd => Passed s.sessionId 2 session
  | .scheduleExchange => Passed s.sessionId 3 session
  | .cableCheck => Passed s.sessionId 4 session
  | .preCharge => Passed s.sessionId 5 session
  | .powerDelivery | .chargeLoop | .welding | .sessionStop => Passed s.sessionId 6 session
  | .sessionSetup | .ended => True

/-- The interlock invariant: a session that has not ended was set up, has not started over since
and is secured; before the setup the EIM timer is unarmed. -/
structure InterlockInv (t : List Event20) (s : Secc20) : Prop where
  unarmed : s.state = .sessionSetup → s.eimOngoingDeadlineMs = 0
  secured : s.state ≠ .sessionSetup → s.state ≠ .ended → s.sessionEstablished = true ∧
    FollowedBy (setsUp s.sessionId)
      (fun session => (∀ x ∈ session, ¬x.startsOver) ∧ Secured s session) t

section Lemmas

variable {s session after : Secc20} {post : List Event20} {e : Event20} {sid : Sid} {n : ℕ}

theorem Passed.concat (h : Passed sid n post) : Passed sid n (post ++ [e]) := by
  obtain ⟨first, hfirst, hpassed⟩ := h
  exact ⟨first, hfirst.append, hpassed.append⟩

/-- The next milestone is passed by an event that satisfies it. -/
theorem Passed.next (h : Passed sid n post)
    (he : ∀ start, ∃ p, (interlock sid start)[n]? = some p ∧ p e) :
    Passed sid (n + 1) (post ++ [e]) := by
  obtain ⟨first, hfirst, hpassed⟩ := h
  obtain ⟨p, hp, hpe⟩ := he first.time
  refine ⟨first, hfirst.append, ?_⟩
  rw [List.take_add_one, hp]
  exact hpassed.concat hpe

/-- The EIM timer keeps running from the first AuthorizationReq. -/
theorem TimedFrom.concat (h : TimedFrom s post) (he : ¬e.handledKind .authorization) :
    TimedFrom s (post ++ [e]) := by
  rcases h with ⟨hunarmed, hnone⟩ | ⟨first, hfirst, hdeadline⟩
  · refine .inl ⟨hunarmed, ?_⟩
    intro x hx
    rcases List.mem_append.mp hx with hx | hx
    · exact hnone x hx
    · rwa [List.mem_singleton.mp hx]
  · exact .inr ⟨first, hfirst.append, hdeadline⟩

/-- After an AuthorizationReq the EIM timer runs from the first one. -/
theorem TimedFrom.ask (h : TimedFrom s post) (he : e.handledKind .authorization) :
    ∃ first, FirstSat (handledKind .authorization) first (post ++ [e]) ∧
      (s.startEimTimer e.time).eimOngoingDeadlineMs =
        first.time + Secc20.eimOngoingTimeoutMs := by
  unfold Secc20.startEimTimer
  rcases h with ⟨hunarmed, hnone⟩ | ⟨first, hfirst, hdeadline⟩
  · exact ⟨e, firstSat_concat he hnone, by rw [if_pos hunarmed]⟩
  · have harmed : s.eimOngoingDeadlineMs ≠ 0 := by
      rw [hdeadline]
      exact Nat.add_one_ne_zero _
    exact ⟨first, hfirst.append, by rw [if_neg harmed, hdeadline]⟩

/-- A request other than an AuthorizationReq that keeps the state keeps the session secured. -/
theorem Secured.concat (h : Secured s post) (he : ¬e.handledKind .authorization) :
    Secured s (post ++ [e]) := by
  unfold Secured at h ⊢
  split <;> rename_i hstate <;> simp only [hstate] at h
  · exact h.concat he
  · exact h.concat he
  all_goals first | trivial | exact Passed.concat h

/-- Whatever concludes the response leaves the session secured. -/
theorem Secured.conclude {code : ℕ} (h : Secured session post)
    (hafter : ConcludesAs session code after) : Secured after post := by
  obtain ⟨state, deadline, rfl | rfl, rfl⟩ := hafter
  · exact h
  · trivial

end Lemmas

/-! ## The steps -/

section Steps

variable {s session : Secc20} {env : Env20} {body : Body20} {calls : List Call20}
  {code : ResponseCode20} {disposition : Disposition20} {post : List Event20} {f : Frame20}

/-- A request after the setup keeps the identifier of the session. -/
theorem Handles.sessionId_eq (h : Handles s env body session calls code disposition)
    (hkind : body.kind ≠ .sessionSetup) :
    session.sessionId = s.sessionId ∧ session.sessionEstablished = s.sessionEstablished := by
  cases h with
  | sessionSetup => exact absurd rfl hkind
  | authorizationSelectionInvalid | authorizationExpired | authorizationRejected
  | authorizationPending | scheduleExchangeFailed => simp
  | preCharge | welding => split <;> exact ⟨rfl, rfl⟩
  | _ => exact ⟨rfl, rfl⟩

/-- Handling a request keeps the session secured. -/
theorem Handles.secured (h : Handles s env body session calls code disposition)
    (haccepts : s20StateAccepts s.state body.kind = true) (hkind : body.kind ≠ .sessionSetup)
    (hsecured : Secured s post) (hrequest : f.request = some ⟨s.sessionId.1, body⟩)
    (henv : f.env = env) (hcalls : f.result.calls = calls)
    (hcode : f.result.session.lastResponseCode = code.value) :
    Secured session (post ++ [.frame f]) := by
  have hstates := mem_acceptingStates haccepts
  have hauth : (body.kind == .authorization) = false →
      ¬(Event20.frame f).handledKind .authorization := by
    rintro hne ⟨doc, hdoc, heq⟩
    rw [hrequest] at hdoc
    cases hdoc
    rw [heq] at hne
    cases hne
  have hask : body.kind = .authorization → (Event20.frame f).handledKind .authorization :=
    fun heq => ⟨_, hrequest, heq⟩
  have htime : (Event20.frame f).time = env.nowHandler := by rw [← henv]; rfl
  cases h with
  | sessionSetup => exact absurd rfl hkind
  | authSetup =>
    have hstate : s.state = .authSetup := List.mem_singleton.mp hstates
    simp only [Secured, hstate] at hsecured ⊢
    exact hsecured.concat (hauth rfl)
  | authorizationSelectionInvalid | authorizationExpired | authorizationRejected
  | authorizationPending =>
    have hstate : s.state = .authorization := List.mem_singleton.mp hstates
    simp only [Secured, hstate] at hsecured
    obtain ⟨first, hfirst, hdeadline⟩ := hsecured.ask (hask rfl)
    simp only [Secured, startEimTimer_state, hstate]
    exact .inr ⟨first, hfirst, htime ▸ hdeadline⟩
  -- the timer has run since the first AuthorizationReq, so the grant is in time
  | authorizationGranted hintime =>
    have hstate : s.state = .authorization := List.mem_singleton.mp hstates
    simp only [Secured, hstate] at hsecured ⊢
    obtain ⟨first, hfirst, hdeadline⟩ := hsecured.ask (hask rfl)
    rw [← htime, hdeadline] at hintime
    refine ⟨first, hfirst, inOrder_nil.concat ⟨hrequest, ?_, hintime⟩⟩
    simp [invoked, Event20.calls, hcalls]
  | serviceDiscovery =>
    have hstate : s.state = .serviceDiscovery := List.mem_singleton.mp hstates
    simp only [Secured, hstate] at hsecured ⊢
    exact hsecured.concat
  | serviceSelection =>
    have hstate : s.state = .serviceDetail := List.mem_singleton.mp hstates
    simp only [Secured, hstate] at hsecured ⊢
    exact hsecured.next fun start => ⟨_, rfl, hrequest, hcode⟩
  | dcCpd =>
    have hstate : s.state = .dcCpd := List.mem_singleton.mp hstates
    simp only [Secured, hstate] at hsecured ⊢
    exact hsecured.next fun start => ⟨_, rfl, _, hrequest, hcode⟩
  | scheduleExchange =>
    have hstate : s.state = .scheduleExchange := List.mem_singleton.mp hstates
    simp only [Secured, hstate] at hsecured ⊢
    exact hsecured.next fun start => ⟨_, rfl, hrequest, hcode⟩
  | cableCheckFinished hinstalled hstatus =>
    have hstate : s.state = .cableCheck := List.mem_singleton.mp hstates
    simp only [Secured, hstate] at hsecured ⊢
    refine hsecured.next fun start => ⟨_, rfl, ⟨hrequest, hcode⟩, ?_⟩
    simp [invoked, Event20.calls, hcalls, cableCheckCalls, invoke, hinstalled, hstatus]
  -- the first PreChargeReq is the last milestone, the later ones stay behind it
  | preCharge =>
    rcases List.mem_cons.mp hstates with hstate | hstate
    · rw [if_pos hstate]
      simp only [Secured, hstate] at hsecured ⊢
      exact hsecured.next fun start => ⟨_, rfl, _, _, hrequest, hcode⟩
    · have hstate : s.state = .powerDelivery := List.mem_singleton.mp hstate
      rw [if_neg (by simp [hstate])]
      exact hsecured.concat (hauth rfl)
  | start hloop =>
    rcases List.mem_cons.mp hstates with hstate | hstate
    · simp only [Secured, hstate] at hsecured ⊢
      exact hsecured.concat
    · exact absurd (List.mem_singleton.mp hstate) hloop
  | stop =>
    rcases List.mem_cons.mp hstates with hstate | hstate
    · simp only [Secured, hstate] at hsecured ⊢
      exact hsecured.concat
    · simp only [Secured, List.mem_singleton.mp hstate] at hsecured ⊢
      exact hsecured.concat
  | welding =>
    have hstate : s.state = .welding := List.mem_singleton.mp hstates
    split
    · simp only [Secured, hstate] at hsecured ⊢
      exact hsecured.concat
    · exact hsecured.concat (hauth rfl)
  | scheduleExchangeFailed =>
    have hkeep : Secured s (post ++ [.frame f]) := hsecured.concat (hauth rfl)
    unfold Secc20.startSeTimer
    split <;> exact hkeep
  -- every other outcome keeps the state
  | _ => exact hsecured.concat (hauth rfl)

/-- No handled request leads back before the setup. -/
theorem Handles.state_ne_sessionSetup (h : Handles s env body session calls code disposition)
    (haccepts : s20StateAccepts s.state body.kind = true) (hkind : body.kind ≠ .sessionSetup) :
    session.state ≠ .sessionSetup := by
  rcases h.state_cases with hstate | hstate
  · rw [hstate]
    intro hsetup
    rw [hsetup] at haccepts
    exact hkind (beq_iff_eq.mp haccepts)
  · exact hstate.1

/-- The contactor is commanded closed by a PowerDelivery Start outside the charge loop only. -/
theorem Handles.commandsClose (h : Handles s env body session calls code disposition)
    (haccepts : s20StateAccepts s.state body.kind = true) {confirmed : Bool}
    (hclose : .contactorSet true confirmed ∈ calls) :
    ∃ tuple, body = .common (.powerDeliveryReq .start tuple) ∧ s.state ≠ .chargeLoop := by
  cases h.contactorStep haccepts with
  | close hbody hstate | refused hbody hstate => exact ⟨_, hbody, hstate⟩
  | stop _ hcalls =>
    rw [hcalls] at hclose
    exact Bool.noConfusion (stopCalls_contactor hclose)
  | other hcalls =>
    simp only [List.any_eq_false] at hcalls
    exact absurd rfl (hcalls _ hclose)

/-- A request handled after the setup carries the identifier of the session. -/
theorem sessionId_of_admits {doc : V2gDoc Body20} (h : s20Admits s doc = true)
    (hestablished : s.sessionEstablished = true) (hkind : doc.body.kind ≠ .sessionSetup) :
    doc = ⟨s.sessionId.1, doc.body⟩ := by
  obtain ⟨sessionId, body⟩ := doc
  simp_all [s20Admits, s20UnknownSession, s20SessionIdMatches]

end Steps

/-- A frame that handles no SessionSetupReq does not start over. -/
theorem not_startsOver {f : Frame20} (h : ¬(Event20.frame f).handledKind .sessionSetup) :
    ¬(Event20.frame f).startsOver := by
  rintro (heq | hsetup)
  · cases heq
  · exact h hsetup

section Frames

variable {t : List Event20} {f : Frame20}

/-- A rejected frame keeps the invariant. -/
theorem InterlockInv.rejected {code : ℕ} (h : InterlockInv t f.before) (hrequest : f.request = none)
    (hsession : ConcludesAs f.before code f.result.session) :
    InterlockInv (t ++ [.frame f]) f.result.session := by
  have hnone : ∀ kind, ¬(Event20.frame f).handledKind kind := by
    rintro kind ⟨doc, hdoc, -⟩
    simp [hrequest] at hdoc
  -- the session is as before, or has ended and owes nothing
  obtain ⟨state, deadline, rfl | rfl, hafter⟩ := hsession
  · rw [hafter]
    refine ⟨h.unarmed, ?_⟩
    intro hsetup hended
    obtain ⟨hestablished, hfollowed⟩ := h.secured hsetup hended
    refine ⟨hestablished, hfollowed.append fun post ⟨hover, hpost⟩ => ⟨fun x hx => ?_, ?_⟩⟩
    · rcases List.mem_append.mp hx with hx | hx
      · exact hover x hx
      · rw [List.mem_singleton.mp hx]
        exact not_startsOver (hnone _)
    · exact hpost.concat (hnone _)
  · rw [hafter]
    exact ⟨nofun, fun _ hended => absurd rfl hended⟩

/-- A SessionSetupReq starts a session that is secured. -/
theorem InterlockInv.setup {doc : V2gDoc Body20} {session : Secc20} {calls : List Call20}
    {code : ResponseCode20} {disposition : Disposition20} (h : InterlockInv t f.before)
    (hrequest : f.request = some doc)
    (haccepts : s20StateAccepts f.before.state doc.body.kind = true)
    (houtcome : Handles f.before.received f.env doc.body session calls code disposition)
    (hsession : ConcludesAs session code.value f.result.session)
    (hkind : doc.body.kind = .sessionSetup) :
    InterlockInv (t ++ [.frame f]) f.result.session := by
  have hstate := mem_acceptingStates haccepts
  rw [hkind] at hstate
  -- before the setup no clock is running
  have hunarmed := h.unarmed (List.mem_singleton.mp hstate)
  obtain ⟨sessionId, body⟩ := doc
  cases houtcome <;> try cases hkind
  obtain ⟨state, deadline, rfl | rfl, hafter⟩ := hsession
  · refine ⟨by simp [hafter], fun _ _ => ⟨by simp [hafter], ?_⟩⟩
    refine followedBy_concat ⟨⟨_, hrequest, rfl⟩, f, rfl, rfl⟩ ⟨by simp, ?_⟩
    rw [hafter]
    exact .inl ⟨hunarmed, by simp⟩
  · rw [hafter]
    exact ⟨nofun, fun _ hended => absurd rfl hended⟩

/-- The frame of a session that is secured keeps it secured. -/
theorem InterlockInv.frame (h : InterlockInv t f.before) (hframe : FrameOutcome f) :
    InterlockInv (t ++ [.frame f]) f.result.session := by
  cases hframe with
  | rejected hrequest hsession =>
    obtain ⟨code, hsession⟩ := hsession
    exact h.rejected hrequest hsession
  | @handled doc session calls code disposition hrequest hadmits houtcome hsession hcalls =>
    have haccepts : s20StateAccepts f.before.state doc.body.kind = true :=
      s20StateAccepts_of_admits hadmits
    -- a SessionSetupReq starts the history over, any other request extends it
    by_cases hkind : doc.body.kind = .sessionSetup
    · exact h.setup hrequest haccepts houtcome hsession hkind
    · have hsetup : f.before.state ≠ .sessionSetup := by
        intro hstate
        rw [hstate] at haccepts
        exact hkind (beq_iff_eq.mp haccepts)
      have hended : f.before.state ≠ .ended := by
        intro hstate
        simp [hstate, s20StateAccepts] at haccepts
      obtain ⟨hestablished, hfollowed⟩ := h.secured hsetup hended
      have hdoc := sessionId_of_admits hadmits hestablished hkind
      obtain ⟨hid, hestablished'⟩ := houtcome.sessionId_eq hkind
      -- so no event of the frame starts the session over
      have hover : ¬(Event20.frame f).startsOver := by
        refine not_startsOver ?_
        rintro ⟨doc', hdoc', hsetup'⟩
        rw [hrequest] at hdoc'
        cases hdoc'
        exact hkind hsetup'
      obtain ⟨-, hid'', hestablished'', -, hcode⟩ := hsession.fields
      -- established sessions stay established, under the same identifier
      refine ⟨fun hstate => ?_, fun _ _ => ⟨?_, ?_⟩⟩
      · exact absurd (hsession.state_eq hstate (by simp))
          (houtcome.state_ne_sessionSetup haccepts hkind)
      · rw [hestablished'', hestablished']
        exact hestablished
      · rw [hid'', hid]
        refine hfollowed.append fun post hpast => ⟨fun x hx => ?_, ?_⟩
        · rcases List.mem_append.mp hx with hx | hx
          · exact hpast.1 x hx
          · rwa [List.mem_singleton.mp hx]
        · have hsecured : Secured f.before.received post := hpast.2
          exact (houtcome.secured haccepts hkind hsecured (hdoc ▸ hrequest) rfl hcalls
            hcode).conclude hsession

/-- A frame of a session that is secured commands the contactor closed only when all milestones
have been passed. -/
theorem InterlockInv.closesSecured (h : InterlockInv t f.before) (hframe : FrameOutcome f) :
    ClosesSecured t (.frame f) := by
  rintro ⟨confirmed, hclose⟩
  change Call20.contactorSet true confirmed ∈ f.result.calls at hclose
  cases hframe with
  | rejected _ _ hcalls => simp [hcalls] at hclose
  | @handled doc session calls code disposition hrequest hadmits houtcome hsession hcalls =>
    rw [hcalls] at hclose
    have haccepts : s20StateAccepts f.before.state doc.body.kind = true :=
      s20StateAccepts_of_admits hadmits
    obtain ⟨tuple, hbody, hloop⟩ := houtcome.commandsClose haccepts hclose
    -- of the two states that take a PowerDeliveryReq, only this one closes the contactor
    have hstate : f.before.state = .powerDelivery := by
      have hstates := mem_acceptingStates haccepts
      rw [hbody] at hstates
      rcases List.mem_cons.mp hstates with hstate | hstate
      · exact hstate
      · exact absurd (List.mem_singleton.mp hstate) hloop
    obtain ⟨hestablished, hfollowed⟩ := h.secured (by simp [hstate]) (by simp [hstate])
    have hdoc := sessionId_of_admits hadmits hestablished (by rw [hbody]; nofun)
    refine ⟨f, tuple, rfl, ?_, hfollowed.imp fun post ⟨hover, hpost⟩ => ⟨hover, ?_⟩⟩
    · rw [hrequest, hdoc, hbody]
    · simpa only [Secured, hstate] using hpost

end Frames

/-- A fresh session owes no milestones. -/
theorem interlockInv_init (cfg : Config20) : InterlockInv [] (.init cfg) :=
  ⟨fun _ => rfl, fun hsetup => absurd rfl hsetup⟩

/-- Every step keeps the milestones. -/
theorem InterlockInv.step {t : List Event20} {s : Secc20} (h : InterlockInv t s) (codec : Codec20)
    (i : Input20) : InterlockInv (t ++ ((secc20Machine codec).step s i).2)
      ((secc20Machine codec).step s i).1 := by
  rcases secc20_step_cases codec s i with ⟨nowMs, -, heq⟩ | ⟨f, heq, rfl, hframe⟩ <;> rw [heq]
  · exact ⟨fun _ => rfl, fun hsetup => absurd rfl hsetup⟩
  · exact h.frame hframe

/-- Over every order of frames and resets, every answer of the hooks and every clock, a command to
close the contactor comes from a PowerDeliveryReq(Start) of the live session, which since its setup
has passed, in order: the grant for an AuthorizationReq within 180 s of the first one, the service
selection, the DC charge parameters, the schedule, the finished cable check and a pre-charge. -/
theorem contactor_interlock (codec : Codec20) (cfg : Config20) (inputs : List Input20) :
    Justified ClosesSecured ((secc20Machine codec).run (.init cfg) inputs).2 := by
  have hrun := (secc20Machine codec).run_induction
    (fun t s => InterlockInv t s ∧ Justified ClosesSecured t) (t := []) (s := .init cfg)
    ?_ ⟨interlockInv_init cfg, justified_nil⟩ inputs
  · exact hrun.2
  · rintro t s i ⟨hinv, hjust⟩
    refine ⟨hinv.step codec i, ?_⟩
    rcases secc20_step_cases codec s i with ⟨nowMs, -, heq⟩ | ⟨f, heq, rfl, hframe⟩ <;> rw [heq]
    -- a reset invokes no hook
    · refine hjust.concat ?_
      rintro ⟨confirmed, ⟨⟩⟩
    · exact hjust.concat (hinv.closesSecured hframe)

end Jpv2g
