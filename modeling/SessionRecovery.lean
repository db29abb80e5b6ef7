import SessionRecovery.Settings.Document
import SessionRecovery.Settings.Environment
import SessionRecovery.Client.Operation
import SessionRecovery.Transport
import SessionRecovery.Proofs.Run
import SessionRecovery.Proofs.Recovery.Course
import SessionRecovery.Proofs.Recovery.Lockstep
import SessionRecovery.Proofs.Recovery.Bounds
import SessionRecovery.Proofs.Recovery.Shape
import SessionRecovery.Proofs.Recovery.Cause
import SessionRecovery.Proofs.Recovery.Motion
import SessionRecovery.Proofs.Recovery.Walk
import SessionRecovery.Proofs.Recovery.Cost
import SessionRecovery.Proofs.Recovery.HandOver
import SessionRecovery.Proofs.Recovery.Limits
import SessionRecovery.Proofs.Recovery.Account
import SessionRecovery.Proofs.Session.Headers
import SessionRecovery.Proofs.Session.Faults
import SessionRecovery.Proofs.Session.Alike
import SessionRecovery.Proofs.Session.Disguise
import SessionRecovery.Proofs.Client.Dispatch
import SessionRecovery.Proofs.Client.Motion
import SessionRecovery.Proofs.Client.Replay
import SessionRecovery.Proofs.Client.Exchange
import SessionRecovery.Proofs.Client.Conversation
import SessionRecovery.Proofs.Client.Settled
import SessionRecovery.Proofs.Client.Resend
import SessionRecovery.Proofs.Client.Outlook
import SessionRecovery.Proofs.Client.Cancellation
import SessionRecovery.Proofs.Client.Cost
import SessionRecovery.Proofs.Client.Custody
import SessionRecovery.Proofs.Client.Armed
import SessionRecovery.Proofs.Client.Coupling
import SessionRecovery.Proofs.Client.Disguise
import SessionRecovery.Proofs.Client.Twins
import SessionRecovery.Proofs.Client.Concealment
import SessionRecovery.Proofs.Client.Independence
import SessionRecovery.Proofs.Json.Decoders
import SessionRecovery.Proofs.Request.Recall
import SessionRecovery.Proofs.Client.Destination
import SessionRecovery.Proofs.Client.Login
import SessionRecovery.Proofs.Client.Reception
import SessionRecovery.Proofs.Session.Precedence
import SessionRecovery.Proofs.Request.Query
import SessionRecovery.Proofs.Recovery.Indulgence
import SessionRecovery.Proofs.Client.Logout
import SessionRecovery.Proofs.Settings.BaseUrl
import SessionRecovery.Proofs.Settings.Addressing
import SessionRecovery.Proofs.ErrorBody
import SessionRecovery.Proofs.Settings.Environment
import SessionRecovery.Proofs.Client.Confirmation
import SessionRecovery.Proofs.Client.Spelling
import SessionRecovery.Proofs.Json.Naturals
import SessionRecovery.Proofs.Json.Shapes
import SessionRecovery.Proofs.Json.Defaults
import SessionRecovery.Proofs.Json.Encoding
import SessionRecovery.Proofs.Settings.Document
import SessionRecovery.Proofs.Digest.Bits
import SessionRecovery.Proofs.Digest.Sha256
import SessionRecovery.Proofs.Digest.Base64
import SessionRecovery.Proofs.Client.Attestation
