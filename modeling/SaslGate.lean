import SaslGate.Config.Options
import SaslGate.Rehearsal.Scene
import SaslGate.Proofs.Amqp.Spelling
import SaslGate.Proofs.Auth.InPlace
import SaslGate.Proofs.Client.Challenge
import SaslGate.Proofs.Client.Requests
import SaslGate.Proofs.Closing
import SaslGate.Proofs.Config.Options
import SaslGate.Proofs.Directory.Template
import SaslGate.Proofs.Directory.Endpoint
import SaslGate.Proofs.Registry
import SaslGate.Proofs.Session.Agreement
import SaslGate.Proofs.Session.Contract
import SaslGate.Proofs.Session.Secrecy
import SaslGate.Proofs.Session.Overflow
import SaslGate.Proofs.Session.Sequence
import SaslGate.Proofs.Session.Writes
import SaslGate.Proofs.Session.PlainCompleteness
import SaslGate.Proofs.Session.ScramCompleteness
import SaslGate.Proofs.Setup
import SaslGate.Proofs.Waiting
