import Jpv2g.Secc.Client

/-!
# The Routing of Connections

A connection is routed by the bytes the first successful peek happens to see. The route is that
of the whole byte stream unless the stream starts a TLS handshake and fewer than three of its
bytes had arrived by then.

## Main definitions

* `startsTls`: the byte stream starts a TLS handshake record.
* `Client.FirstSees`: the pieces in which the byte stream arrives.

## Main results

* `Client.FirstSees.route_eq`: the route is decided by the first bytes seen.
* `routing_iff`: when that is the route of the whole stream.
-/

namespace Jpv2g

/-- The byte stream begins with `0x16 0x03` and at least one more byte. -/
def startsTls : List UInt8 → Bool
  | a :: b :: _ :: _ => a == 0x16 && b == 0x03
  | _ => false

/-- The route of a connection with the given byte stream. -/
def streamRoute (sent : List UInt8) : Route :=
  if startsTls sent then .tls else .plaintext

/-- The peek gives nothing yet, and the wait goes on. -/
def Client.waits (client : Client) : Peek → Prop
  | .data _ => False
  | .failed e nowMs =>
    e = .eintr ∨ e = .eagain ∧ (nowMs : ℤ) < client.startMs + client.waitMs

instance (client : Client) : DecidablePred client.waits
  | .data _ => inferInstanceAs (Decidable False)
  | .failed _ _ => inferInstanceAs (Decidable (_ ∨ _))

/-- In time, a peek sees the first bytes of the byte stream, however it is cut into pieces. -/
structure Client.FirstSees (client : Client) (sent first : List UInt8) : Prop where
  peeks_eq : ∃ waiting later, client.peeks = waiting ++ .data first :: later ∧
    ∀ p ∈ waiting, client.waits p
  ne_nil : first ≠ []
  isPrefix : first <+: sent

section Routing

variable {client : Client} {sent first : List UInt8}

/-- The wait is not cut short at once. -/
theorem Client.waitMs_pos (client : Client) : 0 < client.waitMs := by
  unfold Client.waitMs
  split_ifs with hpos
  · exact hpos
  · decide

/-- The peeks that give nothing are passed over. -/
theorem peekFirstBytes_waits {bufLen : ℕ} {waiting later : List Peek}
    (hwaits : ∀ p ∈ waiting, client.waits p) :
    peekFirstBytes bufLen client.startMs client.waitMs (waiting ++ later) =
      peekFirstBytes bufLen client.startMs client.waitMs later := by
  -- along the peeks, each of which is interrupted or comes before the deadline
  induction waiting with
  | nil => rfl
  | cons p waiting ih =>
    have hpos := client.waitMs_pos
    have hrest := ih fun q hq => hwaits q (by simp [hq])
    have hp := hwaits p (by simp)
    cases p with
    | data available => exact hp.elim
    | failed e nowMs =>
      rw [List.cons_append, peekFirstBytes]
      rcases hp with rfl | ⟨rfl, hnow⟩
      · rw [if_pos rfl]
        exact hrest
      -- the deadline has not passed
      · have hzero : ¬client.waitMs = 0 := by omega
        have hdeadline : ¬(0 < client.waitMs ∧ (client.startMs : ℤ) + client.waitMs ≤ nowMs) := by
          omega
        rw [if_neg (by simp), if_pos rfl, if_neg hzero, if_neg hdeadline]
        exact hrest

/-- The peek buffer is long enough for the decision. -/
theorem looksLikeTlsClientHello_take :
    looksLikeTlsClientHello (first.take 8) = looksLikeTlsClientHello first := by
  have hlength : (first.take 8).length = min 8 first.length := List.length_take
  have hshort : 3 ≤ min 8 first.length ↔ 3 ≤ first.length := by omega
  simp [looksLikeTlsClientHello, hlength, hshort]

/-- The decision of the code is whether the bytes seen start a TLS handshake. -/
theorem looksLikeTlsClientHello_eq : looksLikeTlsClientHello first = startsTls first := by
  rcases first with _ | ⟨a, _ | ⟨b, _ | ⟨c, rest⟩⟩⟩
  · rfl
  · simp [looksLikeTlsClientHello, startsTls]
  · simp [looksLikeTlsClientHello, startsTls]
  · simp [looksLikeTlsClientHello, startsTls]

/-- The route is decided by the first bytes seen. -/
theorem Client.FirstSees.route_eq (h : client.FirstSees sent first) :
    client.route = some (.ok (streamRoute first)) := by
  obtain ⟨waiting, later, hpeeks, hwaits⟩ := h.peeks_eq
  rw [Client.route, hpeeks, peekFirstBytes_waits hwaits, peekFirstBytes, if_neg h.ne_nil]
  show some (Except.ok (firstRoute (first.take 8))) = _
  rw [firstRoute, looksLikeTlsClientHello_take, looksLikeTlsClientHello_eq, streamRoute]

/-- A piece starts a TLS handshake when the stream does and three bytes are seen. -/
theorem startsTls_of_prefix (hsent : first <+: sent) :
    startsTls first = (startsTls sent && decide (3 ≤ first.length)) := by
  obtain ⟨rest, rfl⟩ := hsent
  -- a piece of fewer than three bytes is never taken for a handshake
  rcases first with _ | ⟨a, _ | ⟨b, _ | ⟨c, tail⟩⟩⟩
  · simp [startsTls]
  · simp [startsTls]
  · simp [startsTls]
  · have hlength : 3 ≤ (a :: b :: c :: tail).length := by simp
    rw [decide_eq_true hlength, Bool.and_true]
    rfl

end Routing

/-- For every byte stream and every way it arrives in pieces, the connection is routed by the
whole stream exactly when the stream does not start a TLS handshake or the first bytes seen are at
least three. -/
theorem routing_iff (client : Client) (sent first : List UInt8)
    (h : client.FirstSees sent first) :
    client.route = some (.ok (streamRoute sent)) ↔
      startsTls sent = false ∨ 3 ≤ first.length := by
  have hfirst : startsTls first = (startsTls sent && decide (3 ≤ first.length)) :=
    startsTls_of_prefix h.isPrefix
  rw [h.route_eq, streamRoute, streamRoute, hfirst]
  by_cases htls : startsTls sent = true <;> by_cases hseen : 3 ≤ first.length <;>
    simp [htls, hseen]

/-- A connection whose first peek sees the given bytes. -/
def sampleClient (first : List UInt8) (wrap : Rc) (frames : List ServedFrame) : Client :=
  { fd := 3, startMs := 0, firstTimeoutMs := 0, peeks := [.failed .eagain 1, .data first],
    wrap, frames }

theorem sampleClient_firstSees {first : List UInt8} {wrap : Rc} {frames : List ServedFrame}
    {sent : List UInt8} (hne : first ≠ []) (hsent : first <+: sent) :
    (sampleClient first wrap frames).FirstSees sent first :=
  ⟨⟨[.failed .eagain 1], [], rfl, by simp [Client.waits, sampleClient, Client.waitMs,
    timeoutFirstHlc]⟩, hne, hsent⟩

/-- A ClientHello of which the first peek sees five bytes. -/
theorem routing_iff_sample :
    (sampleClient [0x16, 0x03, 0x01, 0x02, 0x00] (.ok ()) []).FirstSees
        [0x16, 0x03, 0x01, 0x02, 0x00, 0x01] [0x16, 0x03, 0x01, 0x02, 0x00] ∧
      ((sampleClient [0x16, 0x03, 0x01, 0x02, 0x00] (.ok ()) []).route =
          some (.ok (streamRoute [0x16, 0x03, 0x01, 0x02, 0x00, 0x01])) ↔
        startsTls [0x16, 0x03, 0x01, 0x02, 0x00, 0x01] = false ∨
          3 ≤ [(0x16 : UInt8), 0x03, 0x01, 0x02, 0x00].length) :=
  ⟨sampleClient_firstSees (by decide) (by decide),
    routing_iff _ _ _ (sampleClient_firstSees (by decide) (by decide))⟩

/-- A ClientHello of which one byte arrives first is served in plaintext. -/
theorem clientHello_served_in_plaintext :
    ¬∀ (client : Client) (sent first : List UInt8), client.FirstSees sent first →
      client.route = some (.ok (streamRoute sent)) := by
  intro h
  have hroute := h (sampleClient [0x16] (.ok ()) []) [0x16, 0x03, 0x01] [0x16]
    (sampleClient_firstSees (by decide) (by decide))
  revert hroute
  decide

end Jpv2g
