import Conduit.Failure.Basic
import Conduit.Readiness
import Conduit.Settings
import Conduit.Roster.Script
import Conduit.Session.Run
import Conduit.Scenario.Run
import Conduit.Proofs.Roster.Desk
import Conduit.Proofs.Session.InboundLedger
import Conduit.Proofs.Session.OutboundLedger
import Conduit.Proofs.Session.Lifecycle
import Conduit.Proofs.Session.Reaching
import Conduit.Proofs.Session.Finality
import Conduit.Proofs.Session.Joined
import Conduit.Proofs.Session.Interleaving
import Conduit.Proofs.Session.Closing
import Conduit.Proofs.Session.Panics
import Conduit.Proofs.Session.Noninterference
import Conduit.Proofs.Session.Storage
import Conduit.Proofs.Session.RecordSize
import Conduit.Proofs.Roster.History
import Conduit.Proofs.Session.Draining
import Conduit.Proofs.Session.DrainingBound
import Conduit.Proofs.Scenario.ReadLoop
import Conduit.Proofs.Scenario.LimitedLine
import Conduit.Proofs.Failure.Nesting
