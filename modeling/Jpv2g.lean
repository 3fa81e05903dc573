import Jpv2g.ToMathlib.Machine
import Jpv2g.ToMathlib.Trace
import Jpv2g.Config.Lines
import Jpv2g.Secc.AppProtocol.Selection
import Jpv2g.Secc.ResponseMemory
import Jpv2g.Secc.Client.OrderlyStop
import Jpv2g.Secc.EchoClamp
import Jpv2g.Secc.EnergyMode.DinOffer
import Jpv2g.Secc.EnergyMode.IsoOffer
import Jpv2g.Secc.SessionFrame
import Jpv2g.Secc.Stream.Authorization
import Jpv2g.Secc.Stream.Continuity
import Jpv2g.Secc.Stream.FailedResponse
import Jpv2g.Secc.Stream.GateRejection
import Jpv2g.Secc.Stream.Isolation
import Jpv2g.Secc.Stream.Negotiation
import Jpv2g.Secc.Stream.PauseMode
import Jpv2g.Secc.Stream.ProtocolMask
import Jpv2g.Secc.Stream.Rearm
import Jpv2g.Secc.Stream.RejectDiagnostics
import Jpv2g.Secc.Stream.ResumeGrant
import Jpv2g.Secc.Stream.SendThenTerminate
import Jpv2g.Secc.Stream.Tolerance
import Jpv2g.SeccIso20.AuthorizationBound
import Jpv2g.SeccIso20.Contactor
import Jpv2g.SeccIso20.Interlock
import Jpv2g.SeccIso20.Lifecycle
import Jpv2g.SeccIso20.RationalPrecision
import Jpv2g.SeccIso20.Rejection
import Jpv2g.SeccIso20.SequenceTimer
import Jpv2g.SeccIso20.ServiceOffer
import Jpv2g.SeccIso20.Termination
import Jpv2g.SeccIso20.Values
import Jpv2g.StateSecc.Idempotence
import Jpv2g.StateSecc.ModeExclusion
import Jpv2g.StateSecc.PowerOrdering
import Jpv2g.StateSecc.RejectedCalls
import Jpv2g.StateSecc.SetupOrder
import Jpv2g.Transport.Receive
import Jpv2g.Transport.ReceiveLoop
import Jpv2g.Transport.SendLoop
import Jpv2g.Session.Fresh
import Jpv2g.Session.Draws
import Jpv2g.Exi.Memory
import Jpv2g.Evcc.Connection
import Jpv2g.Evcc.SessionSetup
import Jpv2g.Iso2MsgDef
import Jpv2g.Iso2MsgDef.RoundTrip
