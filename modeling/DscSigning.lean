import DscSigning.Library.Program
import DscSigning.Library.Transactions
import DscSigning.Library.Alone
import DscSigning.Library.Runs
import DscSigning.Library.Clients
import DscSigning.Library.Scripts
import DscSigning.Library.Relabelling
import DscSigning.Library.ExpiringStore
import DscSigning.Library.Table
import DscSigning.Library.Tallies
import DscSigning.Library.Base64
import DscSigning.Library.Delimited
import DscSigning.Library.JsonText
import DscSigning.Library.PythonText
import DscSigning.Library.Calendar
import DscSigning.Library.Der
import DscSigning.Library.Sha1
import DscSigning.Library.DecimalFormat
import DscSigning.Primitives
import DscSigning.Server.Records
import DscSigning.Server.Database
import DscSigning.Server.Permissions
import DscSigning.Server.SigningEngine
import DscSigning.Server.SignatureAnchor
import DscSigning.Server.SigningApi
import DscSigning.Server.OverallStatus
import DscSigning.Forms.TemplateDesigner
import DscSigning.Server.Discipline
import DscSigning.Server.EndpointRules
import DscSigning.Server.RequestHistory
import DscSigning.Server.Absorption
import DscSigning.Server.Provenance
import DscSigning.Server.SignerIdentity
import DscSigning.Server.SignedPdf
import DscSigning.Server.AttemptEvidence
import DscSigning.Server.SignedFiles
import DscSigning.Server.SignerPosition
import DscSigning.Server.Lifecycle
import DscSigning.Server.SigningPolicy
import DscSigning.Server.Preparation
import DscSigning.Server.PrintFormat
import DscSigning.Server.CertificateBinding
import DscSigning.Server.Guards
import DscSigning.Server.PrintGate
import DscSigning.Server.CanSign
import DscSigning.Server.SingleFile
import DscSigning.Server.Desk
import DscSigning.Server.RuleConditions
import DscSigning.Server.ConditionSemantics
import DscSigning.Server.RuleEngine
import DscSigning.Server.OneRequest
import DscSigning.Server.FirstMatch
import DscSigning.Server.Sources
import DscSigning.Server.StatusWrites
import DscSigning.Server.DocumentMirror
import DscSigning.Server.MirrorRules
import DscSigning.Server.MirrorRuns
import DscSigning.Server.DocumentRequest
import DscSigning.Bridge.Tokens
import DscSigning.Bridge.Surroundings
import DscSigning.Bridge.Agent
import DscSigning.Bridge.AgentRules
import DscSigning.Bridge.SigningKey
import DscSigning.Bridge.Keystore
import DscSigning.Bridge.Metadata
import DscSigning.Bridge.SiteIsolation
import DscSigning.Bridge.LatestSecret
import DscSigning.Bridge.FailedPairing
import DscSigning.Bridge.Middleware
import DscSigning.Bridge.PinCache
import DscSigning.Bridge.Replay
import DscSigning.Bridge.HmacRequired
import DscSigning.Bridge.Consent
import DscSigning.Bridge.SignedDigest
import DscSigning.Bridge.Aia
import DscSigning.Bridge.OcspRequest
import DscSigning.Bridge.DerEncoders
import DscSigning.Bridge.Startup
import DscSigning.Bridge.Identity
import DscSigning.Bridge.Recovery
import DscSigning.Bridge.CertChain
import DscSigning.Handshake.CertificateChoice
import DscSigning.Handshake.SignerInfo
import DscSigning.Handshake.SigningScript
import DscSigning.Handshake.Authorisation
import DscSigning.Server.AgentApi
import DscSigning.Server.PairingCodes
import DscSigning.Server.Exchange
import DscSigning.Server.Secrets
import DscSigning.Server.EvidencePack
import DscSigning.Server.EmailGate
import DscSigning.Server.EmailAttachments
import DscSigning.Server.GateScope
import DscSigning.Server.Retention
import DscSigning.Server.Visibility
import DscSigning.Server.Exposure
import DscSigning.Server.Renewal
import DscSigning.Server.AgentAnswers
import DscSigning.Server.CertificateTrace
import DscSigning.Server.Expiry
import DscSigning.Server.StaleRecovery
import DscSigning.Server.Reopening
import DscSigning.Server.Placement
import DscSigning.Server.TemplatePlacement
import DscSigning.Server.TemplateVersions
import DscSigning.Server.TrustStore
import DscSigning.Server.EventHash
import DscSigning.Server.AuditTrail
import DscSigning.Server.TrailRules
import DscSigning.Server.TrailRuns
import DscSigning.Server.TemplateForks
import DscSigning.Server.TemplateLineage
import DscSigning.Library.Hundredths
import DscSigning.Forms.PlacementViewer
import DscSigning.Server.StampAppearance
import DscSigning.Forms.AutoPrompt
import DscSigning.Server.Recording
import DscSigning.Server.TimeReport
import DscSigning.Server.TimeToSign
import DscSigning.Server.SignedFileNames
import DscSigning.Server.ExpiryWarnings
import DscSigning.Server.Geocoding
import DscSigning.Server.AddressProvenance
import DscSigning.Handshake.Page
import DscSigning.Handshake.SigningFlow
import DscSigning.Handshake.TokenForms
import DscSigning.Handshake.Installation
import DscSigning.Handshake.FlowRules
import DscSigning.Server.Completion
import DscSigning.Handshake.SignedFlow
import DscSigning.Handshake.FormRules
import DscSigning.Handshake.Enrolment
import DscSigning.Handshake.PinSecrecy
import DscSigning.Handshake.FlowCalls
import DscSigning.Server.StatusChanges
