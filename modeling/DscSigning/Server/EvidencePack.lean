/-
The evidence pack of a signed request, as the list of its members.

`check_permission` is the role table of the DocType and the `has_permission`
hook; sharing and user permissions are left out.
-/

import DscSigning.Server.AgentApi
import DscSigning.Server.Permissions
import Mathlib.Data.List.Sort

namespace DscSigning

/-- What `export_evidence_pack` reads. -/
structure EvidenceSite where
  requests : Table String SigningRequest
  files : Table String FileRow
  /-- The audit events with their names, oldest first. -/
  events : List (String × AuditEvent)
  profile : String → Option Profile
  certificates : Table String AgentApi.ProfileCertificates
  roles : String → List Role
  getContent : FileRow → Except Exn Bytes
  now : Instant

structure EvidencePack where
  fileName : String
  members : List (String × Bytes)
deriving DecidableEq

structure EvidenceLibraries extends toAgent : AgentApi.Libraries where
  /-- `json.dumps(value, indent=2, default=str)` -/
  jsonDumpsIndented : Json → String

variable (lib : EvidenceLibraries) (site : EvidenceSite)

/-- A datetime as text, or what stands for `None`. -/
def showMoment (absent : String) (moment : Option Instant) : String :=
  (moment.map lib.showInstant).getD absent

/-- The events of a request, by the time they occurred. -/
def EvidenceSite.auditEvents (signingRequest : String) : List (String × AuditEvent) :=
  (site.events.filter fun entry => entry.2.request == signingRequest).insertionSort
    fun left right => left.2.occurredAt ≤ right.2.occurredAt

def eventJson (entry : String × AuditEvent) : Json :=
  .object
    [("name", .text entry.1),
      ("event_type", .text entry.2.eventType),
      ("occurred_at", .text (lib.showInstant entry.2.occurredAt)),
      ("actor_user", .text entry.2.actorUser),
      ("client_ip", .ofText entry.2.clientIp),
      ("user_agent", .ofText entry.2.userAgent),
      ("details_json", .ofText entry.2.detailsJson),
      ("event_hash", .text entry.2.eventHash)]

def auditJson (signingRequest : String) (req : SigningRequest)
    (auditEvents : List (String × AuditEvent)) : Json :=
  .object
    [("signing_request", .text signingRequest),
      ("source_doctype", .text req.sourceDoctype),
      ("source_name", .text req.sourceName),
      ("status", .text req.status.text),
      ("signed_on", .text (showMoment lib "None" req.signedOn)),
      ("signer_user", .ofText req.actualSignerUser),
      ("certificate_fingerprint", .ofText req.certificateFingerprintPresented),
      ("hash_algorithm", .ofText req.hashAlgorithm),
      ("events", .list (auditEvents.map (eventJson lib)))]

/-- `build_readme` -/
def buildReadme (name : String) (req : SigningRequest) (profile : Profile)
    (certificate : AgentApi.ProfileCertificates) (auditEvents : List (String × AuditEvent))
    (now : Instant) : String :=
  let duration := match req.signDurationSeconds with
    | some 0 => "N/A"
    | some count => toString count
    | none => "N/A"
  "\n".intercalate
    ["DIGITAL SIGNATURE EVIDENCE PACK",
      "================================",
      "",
      s!"Signing Request:  {name}",
      s!"Source Document:   {req.sourceDoctype} / {req.sourceName}",
      s!"Status:           {req.status.text}",
      "",
      "SIGNER INFORMATION",
      "------------------",
      s!"Profile:          {profile.profileName}",
      s!"Signer Name:      {(certificate.certificateCommonName.orElse profile.label).show}",
      "Designation:      " ++ (profile.designationForStamp.orElse profile.label).orValue "N/A",
      "Certificate:      " ++ certificate.certificateFingerprint.orValue "N/A",
      "Issuer:           " ++ certificate.certificateIssuer.orValue "N/A",
      "Valid From:        " ++ showMoment lib "N/A" certificate.certificateNotBefore,
      "Valid Until:       " ++ showMoment lib "N/A" certificate.certificateNotAfter,
      "",
      "SIGNING DETAILS",
      "---------------",
      s!"Signed By User:   {req.actualSignerUser.show}",
      "Signed On:        " ++ showMoment lib "None" req.signedOn,
      s!"Hash Algorithm:   {req.hashAlgorithm.show}",
      s!"Duration:         {duration} seconds",
      "Client IP:        " ++ req.clientIp.orValue "N/A",
      "",
      "CONTENTS OF THIS PACK",
      "---------------------",
      s!"1. signed_{req.sourceName}.pdf  — The digitally signed PDF document",
      s!"2. audit_trail.json             — Complete audit trail with {auditEvents.length} events",
      "3. signer_certificate.pem       — Public certificate of the signer (PEM format)",
      "4. ocsp_response.der            — OCSP response at time of signing (DER format)",
      "5. README.txt                   — This file",
      "",
      "VERIFICATION",
      "------------",
      "To verify the signed PDF:",
      "1. Open the PDF in Adobe Acrobat Reader",
      "2. Check the signature panel for validity",
      "3. The signature should show as valid if the signer's CA root",
      "   is in Adobe's Approved Trust List (AATL)",
      "",
      "For Indian CAs (eMudhra, Sify, nCode), the root certificates",
      "are included in Adobe's AATL by default.",
      "",
      "LEGAL NOTICE",
      "------------",
      "This evidence pack is generated by the frappe_dsc digital signing",
      "platform. The audit trail records are append-only and tamper-evident.",
      "The signed PDF conforms to the PAdES B-B signature standard.",
      "",
      s!"Generated on: {lib.showInstant now}",
      ""]

/-- `rstrip(".")` -/
def stripDots (text : String) : String :=
  String.ofList (text.toList.reverse.dropWhile (· == '.')).reverse

/-- `1. Signed PDF` -/
def EvidenceSite.signedPdf (req : SigningRequest) : Except Exn (List (String × Bytes)) :=
  if req.signedFile.given then do
    let fileDoc ← orMissing "File" req.signedFile.show (site.files.lookup req.signedFile.show)
    let fileContent ← site.getContent fileDoc
    pure [(s!"signed_{req.sourceName}.pdf", fileContent)]
  else pure []

/-- `4. OCSP response`: one that does not decode is left out. -/
def ocspMember (req : SigningRequest) : List (String × Bytes) :=
  if req.ocspResponseB64.given then
    match b64decode (stripDots req.ocspResponseB64.show) with
    | .ok ocspDer => [("ocsp_response.der", ocspDer)]
    | .error _ => []
  else []

def exportEvidencePack (user signingRequest : String) : Except Exn EvidencePack := do
  let req ← orMissing "DSC Signing Request" signingRequest (site.requests.lookup signingRequest)
  let roles := site.roles user
  if !(hasPermission roles .read && requestHasPermission req .read user roles) then
    .error ⟨"PermissionError", "Insufficient Permission for DSC Signing Request"⟩
  else if req.status != .signed then
    .error (thrown "Evidence pack can only be exported for signed requests.")
  else do
    let signedPdf ← site.signedPdf req
    let auditEvents := site.auditEvents signingRequest
    let profile ← orMissing "DSC Profile" req.profile (site.profile req.profile)
    let certificate ← orMissing "DSC Profile" req.profile (site.certificates.lookup req.profile)
    let pem := if certificate.certificatePemPublic.given then
        [("signer_certificate.pem", utf8 certificate.certificatePemPublic.show)]
      else []
    pure
      { fileName := s!"evidence_pack_{signingRequest}.zip"
        members := signedPdf ++
          [("audit_trail.json",
            utf8 (lib.jsonDumpsIndented (auditJson lib signingRequest req auditEvents)))] ++
          pem ++ ocspMember req ++
          [("README.txt",
            utf8 (buildReadme lib signingRequest req profile certificate auditEvents site.now))] }

end DscSigning
