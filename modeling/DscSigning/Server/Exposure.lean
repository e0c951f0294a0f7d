/-
The HMAC secret and what a user of the site gets to see.

The whole site answers the calls of one user, one after the other; between them
everybody else may change anything.  A sequence conceals the secret if the user
sees the same on a site that keeps and generates other secrets and whose MAC
gives under them what it gave under the secrets: then all that the responses
carry of a secret are MACs under it.
-/

import DscSigning.Server.Secrets
import DscSigning.Server.EvidencePack
import DscSigning.Server.EmailGate
import DscSigning.Library.Runs

namespace DscSigning

open Interaction Engine

/-- What the app leaves to Frappe. -/
structure Core where
  hasPermission : String → String → String → Except Exn Bool
  getContent : FileRow → Except Exn Bytes
  declares : String → Bool
  eventName : Nat → String

/-- Everything the whitelisted endpoints read and write. -/
structure WholeSite where
  data : Database
  shared : Shared
  registrations : Table String AgentApi.AgentRegistration
  certificates : Table String AgentApi.ProfileCertificates
  codes : Table String (AgentApi.CodeData × Instant)
  issued : List (Option Nat × String)
  printRules : Table String PrintRule
  emailRules : Table String EmailRule
  core : Core

def WholeSite.agentData (site : WholeSite) : AgentApi.Database :=
  { registrations := site.registrations
    profiles := site.certificates
    hmacSecret := site.data.masters.settings.hmacSecret
    roles := site.data.masters.roles }

def WholeSite.agentShared (site : WholeSite) : AgentApi.Shared :=
  ⟨site.shared.now, site.codes, site.issued⟩

/-- The certificate that is stored for a profile. -/
def Profile.certified (profile : Profile) : Option AgentApi.ProfileCertificates → Profile
  | some certificate =>
      { profile with
        certificateFingerprint := certificate.certificateFingerprint
        certificateCommonName := certificate.certificateCommonName
        certificateNotAfter := certificate.certificateNotAfter }
  | none => profile

def WholeSite.afterAgent (site : WholeSite) (data : AgentApi.Database)
    (shared : AgentApi.Shared) : WholeSite :=
  { site with
    data := { site.data with masters := { site.data.masters with
      profile := fun name => (site.data.masters.profile name).map fun profile =>
        profile.certified (data.profiles.lookup name)
      settings := { site.data.masters.settings with hmacSecret := data.hmacSecret } } }
    registrations := data.registrations
    certificates := data.profiles
    codes := shared.codes
    issued := shared.issued }

def WholeSite.printSite (site : WholeSite) (user : String) : PrintSite :=
  { rules := site.printRules
    requests := site.data.requests
    files := site.data.files
    hasPermission := site.core.hasPermission user
    getContent := site.core.getContent
    declares := site.core.declares }

def WholeSite.emailSite (site : WholeSite) : EmailSite :=
  ⟨site.emailRules, site.data.requests, site.data.files⟩

def WholeSite.evidenceSite (site : WholeSite) : EvidenceSite :=
  { requests := site.data.requests
    files := site.data.files
    events := site.data.events.reverse.zipIdx.map fun entry =>
      (site.core.eventName entry.2, entry.1)
    profile := site.data.masters.profile
    certificates := site.certificates
    roles := site.data.masters.roles
    getContent := site.core.getContent
    now := site.shared.now }

/-! ### Calls -/

/-- A call of a whitelisted endpoint with the answers it gets from outside. -/
inductive SiteCall where
  | signing (origin : Origin) (script : List Oracle)
  | agent (origin : AgentApi.Origin) (script : List AgentApi.Oracle)
  | downloadPdf (user doctype name : String) (arguments : PrintArguments)
      (rulePick requestPick : Nat)
  | makeEmail (arguments : EmailArguments) (rulePick checkPick requestPick : Nat)
  | exportEvidencePack (user signingRequest : String)

inductive SiteAnswer where
  | signing (response : Response)
  | agent (response : AgentApi.Response)
  | download (download : Download)
  | email (arguments : EmailArguments)
  | evidence (pack : EvidencePack)

abbrev Seen : Type := Except Exn SiteAnswer

/-- The secret a response carries. -/
def secretOf : Seen → Text
  | .ok (.agent (.paired response)) => some response.hmacSecret
  | _ => none

section Serving

variable (lib : EvidenceLibraries)

def serveSite (at_ : WholeSite) : SiteCall → Option (WholeSite × Seen)
  | .signing origin script =>
      (site.play (body lib.toAgent.toLibraries origin) at_.data at_.shared [] script).map
        fun outcome => ({ at_ with data := outcome.left, shared := outcome.shared },
          outcome.result.map SiteAnswer.signing)
  | .agent origin script =>
      (AgentApi.site.play (AgentApi.body lib.toAgent origin) at_.agentData at_.agentShared []
        script).map fun outcome => (at_.afterAgent outcome.left outcome.shared,
          outcome.result.map SiteAnswer.agent)
  | .downloadPdf user doctype name arguments rulePick requestPick =>
      some (at_, (downloadPdf (at_.printSite user) doctype name arguments rulePick
        requestPick).map SiteAnswer.download)
  | .makeEmail arguments rulePick checkPick requestPick =>
      some (at_, (makeEmail at_.emailSite arguments rulePick checkPick requestPick).map
        SiteAnswer.email)
  | .exportEvidencePack user signingRequest =>
      some (at_, (exportEvidencePack lib at_.evidenceSite user signingRequest).map
        SiteAnswer.evidence)

inductive Turn where
  | call (call : SiteCall)
  /-- The others and time leave the site like this. -/
  | others (site : WholeSite)

/-- The site with what the user has seen of it, newest first. -/
abbrev Viewed : Type := WholeSite × List Seen

def turn (watched : Viewed) : Turn → Option Viewed
  | .call call => (serveSite lib watched.1 call).map fun served =>
      (served.1, served.2 :: watched.2)
  | .others site => some (site, watched.2)

/-- What the user sees of a sequence of turns. -/
def watch (site : WholeSite) (turns : List Turn) : Option (List Seen) :=
  (Runs.run (turn lib) (site, []) turns).map Prod.snd

end Serving

/-! ### Other secrets -/

variable (swap : Exchange)

def WholeSite.exchanged (site : WholeSite) : WholeSite :=
  { site with
    data := site.data.exchanged swap
    issued := site.issued.map (AgentApi.issue swap) }

def SiteCall.exchanged : SiteCall → SiteCall
  | .signing origin script => .signing origin (script.map (Oracle.exchanged swap))
  | .agent origin script => .agent origin (script.map (AgentApi.Oracle.exchanged swap))
  | call => call

def Turn.exchanged : Turn → Turn
  | .call made => .call (made.exchanged swap)
  | .others site => .others (site.exchanged swap)

def SiteAnswer.exchanged : SiteAnswer → SiteAnswer
  | .agent response => .agent (response.exchanged swap)
  | answer => answer

def Viewed.exchanged (watched : Viewed) : Viewed :=
  (watched.1.exchanged swap, watched.2.map (Except.map (SiteAnswer.exchanged swap)))

def EvidenceLibraries.withMac (lib : EvidenceLibraries) (mac : Bytes → Bytes → Bytes) :
    EvidenceLibraries :=
  { lib with hmacSha256 := mac }

/-- The user sees the same whatever the secrets are, as long as the MACs under
them are the same. -/
def Concealed (lib : EvidenceLibraries) (site : WholeSite) (turns : List Turn) : Prop :=
  ∀ (swap : Exchange) (mac : Bytes → Bytes → Bytes), SameMac swap lib.toAgent.toLibraries mac →
    watch (lib.withMac mac) (site.exchanged swap) (turns.map (Turn.exchanged swap)) =
      watch lib site turns

/-! ### The same with other secrets -/

section Exchanged

variable {swap} {lib : EvidenceLibraries} {mac : Bytes → Bytes → Bytes}

theorem signing_exchanged (same : SameMac swap lib.toAgent.toLibraries mac) (at_ : WholeSite)
    (origin : Origin) (script : List Oracle) :
    serveSite (lib.withMac mac) (at_.exchanged swap) ((SiteCall.signing origin script).exchanged swap) =
      (serveSite lib at_ (.signing origin script)).map fun served =>
        (served.1.exchanged swap, served.2.map (SiteAnswer.exchanged swap)) := by
  have played := (exchange swap).play_relabel (body lib.toAgent.toLibraries origin) at_.data at_.shared
    [] script
  have relabelled : (body lib.toAgent.toLibraries origin).relabel (exchange swap).toRelabelling =
      body (lib.toAgent.toLibraries.withMac mac) origin := body_relabel same origin
  rw [relabelled] at played
  have ran : site.play (body (lib.withMac mac).toAgent.toLibraries origin) (at_.exchanged swap).data
      (at_.exchanged swap).shared [] (script.map (Oracle.exchanged swap)) =
      (site.play (body lib.toAgent.toLibraries origin) at_.data at_.shared [] script).map
        (exchange swap).outcome := played
  simp only [SiteCall.exchanged, serveSite, ran, Option.map_map]
  congr 1
  funext outcome
  have left := (exchange swap).left_outcome outcome
  simp only [Function.comp_apply, left]
  cases result : outcome.result with
  | ok response => simp only [Engine.Symmetry.outcome, result]; rfl
  | error exn => simp only [Engine.Symmetry.outcome, result]; rfl

theorem agent_exchanged (at_ : WholeSite) (origin : AgentApi.Origin)
    (script : List AgentApi.Oracle) :
    serveSite (lib.withMac mac) (at_.exchanged swap) ((SiteCall.agent origin script).exchanged swap) =
      (serveSite lib at_ (.agent origin script)).map fun served =>
        (served.1.exchanged swap, served.2.map (SiteAnswer.exchanged swap)) := by
  have played := (AgentApi.exchange swap).play_relabel (AgentApi.body lib.toAgent origin)
    at_.agentData at_.agentShared [] script
  have relabelled : (AgentApi.body lib.toAgent origin).relabel (AgentApi.exchange swap).toRelabelling =
      (AgentApi.body lib.toAgent origin).bind fun response => .done (response.exchanged swap) :=
    AgentApi.body_relabel swap origin
  rw [relabelled, play_bind_done] at played
  have ran : AgentApi.site.play (AgentApi.body (lib.withMac mac).toAgent origin)
      (at_.exchanged swap).agentData (at_.exchanged swap).agentShared []
      (script.map (AgentApi.Oracle.exchanged swap)) =
      (AgentApi.site.play (AgentApi.body lib.toAgent origin) at_.agentData at_.agentShared []
        script).map fun outcome => ⟨outcome.result.map (AgentApi.Response.exchanged swap),
          outcome.data.exchanged swap, outcome.shared.exchanged swap,
          outcome.trace.map (AgentApi.exchange swap).event⟩ := by
    -- The secret in the response exchanged once more on both sides.
    have again := congrArg (Option.map fun outcome : AgentApi.site.Outcome AgentApi.Response =>
      (⟨outcome.result.map (AgentApi.Response.exchanged swap), outcome.data, outcome.shared,
        outcome.trace⟩ : AgentApi.site.Outcome AgentApi.Response)) played
    rw [Option.map_map, Option.map_map] at again
    have undone : ((fun outcome : AgentApi.site.Outcome AgentApi.Response =>
        (⟨outcome.result.map (AgentApi.Response.exchanged swap), outcome.data, outcome.shared,
          outcome.trace⟩ : AgentApi.site.Outcome AgentApi.Response)) ∘
        fun outcome : AgentApi.site.Outcome AgentApi.Response =>
          ⟨outcome.result.map (AgentApi.Response.exchanged swap), outcome.data, outcome.shared,
            outcome.trace⟩) = id := by
      funext outcome
      obtain ⟨result, data, shared, trace⟩ := outcome
      cases result with
      | ok response =>
          simp only [Function.comp_apply, Except.map, AgentApi.Response.exchanged_twice, id]
      | error exn => rfl
    rw [undone, Option.map_id, id] at again
    exact again
  simp only [SiteCall.exchanged, serveSite, ran, Option.map_map]
  congr 1
  funext outcome
  obtain ⟨result, data, shared, trace⟩ := outcome
  have left := (AgentApi.exchange swap).left_outcome ⟨result, data, shared, trace⟩
  cases result with
  | ok response =>
      exact congrArg (fun kept => ((at_.exchanged swap).afterAgent kept (shared.exchanged swap),
        Except.ok (SiteAnswer.agent (response.exchanged swap)))) left
  | error exn => rfl

theorem serveSite_exchanged (same : SameMac swap lib.toAgent.toLibraries mac) (at_ : WholeSite)
    (call : SiteCall) :
    serveSite (lib.withMac mac) (at_.exchanged swap) (call.exchanged swap) =
      (serveSite lib at_ call).map fun served =>
        (served.1.exchanged swap, served.2.map (SiteAnswer.exchanged swap)) := by
  cases call with
  | signing origin script => exact signing_exchanged same at_ origin script
  | agent origin script => exact agent_exchanged at_ origin script
  | downloadPdf user doctype name arguments rulePick requestPick =>
      have read : downloadPdf ((at_.exchanged swap).printSite user) doctype name arguments rulePick
          requestPick = downloadPdf (at_.printSite user) doctype name arguments rulePick
            requestPick := rfl
      simp only [SiteCall.exchanged, serveSite, read, Option.map_some]
      cases downloadPdf (at_.printSite user) doctype name arguments rulePick requestPick <;> rfl
  | makeEmail arguments rulePick checkPick requestPick =>
      have read : makeEmail (at_.exchanged swap).emailSite arguments rulePick checkPick requestPick =
          makeEmail at_.emailSite arguments rulePick checkPick requestPick := rfl
      simp only [SiteCall.exchanged, serveSite, read, Option.map_some]
      cases makeEmail at_.emailSite arguments rulePick checkPick requestPick <;> rfl
  | exportEvidencePack user signingRequest =>
      have read : exportEvidencePack (lib.withMac mac) (at_.exchanged swap).evidenceSite user
          signingRequest = exportEvidencePack lib at_.evidenceSite user signingRequest := rfl
      simp only [SiteCall.exchanged, serveSite, read, Option.map_some]
      cases exportEvidencePack lib at_.evidenceSite user signingRequest <;> rfl

theorem turn_exchanged (same : SameMac swap lib.toAgent.toLibraries mac) (watched : Viewed)
    (made : Turn) :
    turn (lib.withMac mac) (watched.exchanged swap) (made.exchanged swap) =
      (turn lib watched made).map (Viewed.exchanged swap) := by
  cases made with
  | call call =>
      have served := serveSite_exchanged same watched.1 call
      simp only [turn, Turn.exchanged, Viewed.exchanged, served, Option.map_map]
      rfl
  | others site => rfl

/-- With other secrets the user sees the same, up to the secrets of paired agents. -/
theorem watch_exchanged (same : SameMac swap lib.toAgent.toLibraries mac) (site : WholeSite)
    (turns : List Turn) :
    watch (lib.withMac mac) (site.exchanged swap) (turns.map (Turn.exchanged swap)) =
      (watch lib site turns).map (List.map (Except.map (SiteAnswer.exchanged swap))) := by
  have ran := Runs.run_map (turn_exchanged same) (site, []) turns
  have start : Viewed.exchanged swap (site, []) = (site.exchanged swap, []) := rfl
  rw [start] at ran
  unfold watch
  rw [ran, Option.map_map, Option.map_map]
  rfl

end Exchanged

/-! ### Who gets to see a secret -/

/-- The code is in the cache and has not expired. -/
def WholeSite.LiveCode (site : WholeSite) (code : String) : Prop :=
  ∃ data expiry, site.codes.lookup (AgentApi.pairingKey code) = some (data, expiry) ∧
    site.shared.now < expiry

/-- The turn is a call that presents a live pairing code. -/
def PresentsCode (watched : Viewed) : Turn → Prop
  | .call (.agent origin _) => ∃ arguments, origin.endpoint = .validatePairingCode arguments ∧
      watched.1.LiveCode arguments.pairingCode
  | _ => False

section Seeing

variable {lib : AgentApi.Libraries} {data : AgentApi.Database} {shared : AgentApi.Shared}
  {script : List AgentApi.Oracle}

theorem dead_code_refused {arguments : AgentApi.PairingArguments}
    {outcome : AgentApi.site.Outcome AgentApi.Paired}
    (dead : ∀ stored, shared.codes.lookup (AgentApi.pairingKey arguments.pairingCode) = some stored →
      ¬ shared.now < stored.2)
    (played : AgentApi.site.play (AgentApi.validatePairingCode lib arguments) data shared [] script =
      some outcome) : ∃ exn, outcome.result = .error exn := by
  obtain ⟨oracle, rest, reply, later, rfl, replied, played⟩ := play_ask.mp played
  have told : reply = .ok none ∨ ∃ exn, reply = .error exn := by
    simp only [AgentApi.reply] at replied
    cases faulty : oracle.fault with
    | some exn =>
        simp only [faulty, Option.some.injEq, Prod.mk.injEq] at replied
        exact Or.inr ⟨exn, replied.1.symm⟩
    | none =>
        simp only [faulty, AgentApi.answer, Option.some.injEq, Prod.mk.injEq] at replied
        rw [← replied.1]
        cases cached : shared.codes.lookup (AgentApi.pairingKey arguments.pairingCode) with
        | none => exact Or.inl rfl
        | some stored =>
            simp only [Option.bind_some, if_neg (dead stored cached), true_or]
  rcases told with rfl | ⟨exn, rfl⟩
  · obtain ⟨_, rfl⟩ := play_fail.mp played
    exact ⟨_, rfl⟩
  · obtain ⟨_, rfl⟩ := play_fail.mp played
    exact ⟨exn, rfl⟩

/-- Only the validation of a live code ends in a paired agent. -/
theorem paired_presented {origin : AgentApi.Origin} {outcome : AgentApi.site.Outcome AgentApi.Response}
    {response : AgentApi.Paired}
    (played : AgentApi.site.play (AgentApi.body lib origin) data shared [] script = some outcome)
    (paired : outcome.result = .ok (.paired response)) : ∃ arguments stored,
      origin.endpoint = .validatePairingCode arguments ∧
      shared.codes.lookup (AgentApi.pairingKey arguments.pairingCode) = some stored ∧
      shared.now < stored.2 := by
  unfold AgentApi.body at played
  split at played
  · obtain ⟨_, rfl⟩ := play_fail.mp played
    cases paired
  · cases endpoint : origin.endpoint with
    | validatePairingCode arguments =>
        rw [endpoint, AgentApi.serve, play_bind_done] at played
        obtain ⟨inner, validated, rfl⟩ := Option.map_eq_some_iff.mp played
        by_contra absent
        obtain ⟨exn, refused⟩ := dead_code_refused (fun stored cached live =>
          absent ⟨arguments, stored, rfl, cached, live⟩) validated
        simp only [refused] at paired
        cases paired
    | generatePairingCode request =>
        rw [endpoint, AgentApi.serve, play_bind_done] at played
        obtain ⟨⟨result, _, _, _⟩, _, rfl⟩ := Option.map_eq_some_iff.mp played
        cases result <;> cases paired
    | verifySiteToken siteToken agentFingerprint =>
        rw [endpoint, AgentApi.serve, play_bind_done] at played
        obtain ⟨⟨result, _, _, _⟩, _, rfl⟩ := Option.map_eq_some_iff.mp played
        cases result <;> cases paired
    | registerCertificate profileName certDerB64 =>
        rw [endpoint, AgentApi.serve, play_bind_done] at played
        obtain ⟨⟨result, _, _, _⟩, _, rfl⟩ := Option.map_eq_some_iff.mp played
        cases result <;> cases paired
    | listAgentCertificates agentPort =>
        rw [endpoint, AgentApi.serve, play_bind_done] at played
        obtain ⟨⟨result, _, _, _⟩, _, rfl⟩ := Option.map_eq_some_iff.mp played
        cases result <;> cases paired

end Seeing

theorem turn_unpaired {lib : EvidenceLibraries} {watched next : Viewed} {made : Turn}
    (none_seen : ∀ answer ∈ watched.2, secretOf answer = none)
    (absent : ¬ PresentsCode watched made) (turned : turn lib watched made = some next) :
    ∀ answer ∈ next.2, secretOf answer = none := by
  cases made with
  | others site =>
      cases turned
      exact none_seen
  | call call =>
      obtain ⟨⟨after, answer⟩, served, rfl⟩ := Option.map_eq_some_iff.mp turned
      intro seen member
      cases member with
      | tail _ before => exact none_seen seen before
      | head =>
          cases call with
          | agent origin script =>
              obtain ⟨outcome, played, same⟩ := Option.map_eq_some_iff.mp served
              cases same
              cases result : outcome.result with
              | error exn => rfl
              | ok response =>
                  cases response with
                  | paired paired =>
                      obtain ⟨arguments, stored, endpoint, cached, live⟩ :=
                        paired_presented played result
                      exact absurd ⟨arguments, endpoint, stored.1, stored.2, cached, live⟩ absent
                  | _ => rfl
          | signing origin script =>
              obtain ⟨outcome, played, same⟩ := Option.map_eq_some_iff.mp served
              cases same
              cases outcome.result <;> rfl
          | downloadPdf user doctype name arguments rulePick requestPick =>
              cases served
              cases downloadPdf (watched.1.printSite user) doctype name arguments rulePick
                requestPick <;> rfl
          | makeEmail arguments rulePick checkPick requestPick =>
              cases served
              cases makeEmail watched.1.emailSite arguments rulePick checkPick requestPick <;> rfl
          | exportEvidencePack user signingRequest =>
              cases served
              cases exportEvidencePack lib watched.1.evidenceSite user signingRequest <;> rfl

/-- A user who never presents a live pairing code sees no secret, and nothing
that depends on one but MACs under it. -/
theorem secret_concealed (lib : EvidenceLibraries) (site : WholeSite) (turns : List Turn)
    (unpaired : Runs.Along (turn lib) (fun watched made => ¬ PresentsCode watched made) (site, [])
      turns) :
    Concealed lib site turns ∧
      ∀ seen, watch lib site turns = some seen → ∀ answer ∈ seen, secretOf answer = none := by
  have silent (seen : List Seen) (watched : watch lib site turns = some seen) :
      ∀ answer ∈ seen, secretOf answer = none := by
    obtain ⟨last, ran, rfl⟩ := Option.map_eq_some_iff.mp watched
    have kept (state : Viewed) (made : Turn) (next : Viewed)
        (held : ∀ answer ∈ state.2, secretOf answer = none) (absent : ¬ PresentsCode state made)
        (turned : turn lib state made = some next) :
        ∀ answer ∈ next.2, secretOf answer = none :=
      turn_unpaired held absent turned
    exact Runs.run_invariant kept (fun answer member => by cases member) unpaired ran
  refine ⟨fun swap mac same => ?_, silent⟩
  rw [watch_exchanged same]
  cases watched : watch lib site turns with
  | none => rfl
  | some seen =>
      have fixed (answer : Seen) (member : answer ∈ seen) :
          answer.map (SiteAnswer.exchanged swap) = answer := by
        have hidden := silent seen watched answer member
        cases answer with
        | error exn => rfl
        | ok shown =>
            cases shown with
            | agent response =>
                cases response with
                | paired paired => cases hidden
                | _ => rfl
            | _ => rfl
      rw [Option.map_some, List.map_congr_left fixed, List.map_id']

/-! ### Two users -/

def exposureLibraries : EvidenceLibraries :=
  { toLibraries := sampleLibraries
    certificateFields := fun _ => .error ⟨"ValueError", "not a certificate"⟩
    jsonDumpsIndented := fun _ => "{}" }

def exposureSite : WholeSite :=
  { data := sampleSite.data
    shared := sampleSite.shared
    registrations := ∅
    certificates := ∅
    codes := ∅
    issued := []
    printRules := ∅
    emailRules := ∅
    core := ⟨fun _ _ _ => .ok true, fun row => .ok row.content, fun _ => true, fun _ => "AE"⟩ }

/-- A call of mallory, who has no role, with these fresh tokens and names. -/
def malloryCalls (endpoint : AgentApi.Endpoint) (names : List String) : Turn :=
  .call (.agent ⟨"mallory", endpoint⟩ (names.map fun fresh => ⟨none, 0, fun _ => fresh, fresh⟩))

def validating (code : String) : AgentApi.Endpoint := .validatePairingCode ⟨code, "FP", none, none⟩

/-- Mallory guesses a code, and asks for the status of a document. -/
def guessing : List Turn :=
  [malloryCalls (.generatePairingCode none) ["CODE", "", ""],
    malloryCalls (validating "EDOC") [""],
    .call (.signing ⟨sampleUser "mallory", .getSigningStatus "Sales Invoice" "INV-1"⟩
      [sampleOracle "" ""])]

/-- Mallory validates the code that she has generated. -/
def selfPairing : List Turn :=
  [malloryCalls (.generatePairingCode none) ["CODE", "", ""],
    malloryCalls (validating "CODE") ["", "", "TOKEN", "", "", "AGENT", "", "", ""]]

/-- A check of the condition: the cache holds no code under the key. -/
def codeAbsent (watched : Viewed) : Turn → Bool
  | .call (.agent origin _) =>
      match origin.endpoint with
      | .validatePairingCode arguments =>
          (watched.1.codes.lookup (AgentApi.pairingKey arguments.pairingCode)).isNone
      | _ => true
  | _ => true

theorem codeAbsent_presents (watched : Viewed) (made : Turn)
    (checked : codeAbsent watched made = true) : ¬ PresentsCode watched made := by
  intro presents
  cases made with
  | others site => exact presents
  | call call =>
      cases call with
      | agent origin script =>
          obtain ⟨arguments, endpoint, data, expiry, cached, _⟩ := presents
          simp only [codeAbsent, endpoint, cached] at checked
          cases checked
      | _ => exact presents

theorem secret_concealed_sample :
    (watch exposureLibraries exposureSite guessing).isSome = true ∧
      Concealed exposureLibraries exposureSite guessing := by
  have absent : Runs.alongCheck (turn exposureLibraries) codeAbsent (exposureSite, []) guessing =
      true := by
    decide +kernel
  have along := Runs.along_of_check codeAbsent_presents absent
  exact ⟨by decide +kernel, (secret_concealed exposureLibraries exposureSite guessing along).1⟩

def codeOf : Seen → Text
  | .ok (.agent (.code response)) => some response.pairingCode
  | _ => none

/-- The response to the second call carries the secret of the site; the code that
the call presents is the one that the first call has returned. -/
theorem secret_exposed :
    exposureSite.data.masters.roles "mallory" = [] ∧
      ∃ seen, watch exposureLibraries exposureSite selfPairing = some seen ∧
        seen.map codeOf = [none, some "CODE"] ∧
        seen.map secretOf = [exposureSite.data.masters.settings.hmacSecret, none] := by
  have ends : (watch exposureLibraries exposureSite selfPairing).map
      (fun seen => (seen.map codeOf, seen.map secretOf)) =
      some ([none, some "CODE"], [some "secret", none]) := by
    decide +kernel
  obtain ⟨seen, watched, shown⟩ := Option.map_eq_some_iff.mp ends
  simp only [Prod.mk.injEq] at shown
  exact ⟨rfl, seen, watched, shown.1, shown.2⟩

end DscSigning
