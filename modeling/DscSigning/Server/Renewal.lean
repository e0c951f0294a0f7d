/-
The evidence pack of a signed request, and the certificates that the profile of
the request is given before and after.

A request keeps the fingerprint that it was signed with; the pack takes the
certificate from the profile as it is when the pack is made.
-/

import DscSigning.Server.CertificateBinding
import DscSigning.Server.Exposure
import DscSigning.Server.PairingCodes
import DscSigning.Server.SignedFiles

namespace DscSigning

open Interaction Engine

namespace AgentApi

/-! ### The last certificate of a profile -/

/-- The certificate that the call is to register for the profile. -/
def Origin.registers (origin : Origin) (profile : String) : Option Bytes :=
  match origin.endpoint with
  | .registerCertificate profileName certDerB64 =>
      if profileName = profile then (b64decode certDerB64).toOption else none
  | _ => none

def Write.saves (profile : String) : Write → Bool
  | .saveProfile name _ => name == profile
  | _ => false

/-- What the calls with these origins registered for the profile in one commit. -/
def committed (origins : List Origin) (profile : String) (entry : Nat × List Write) :
    Option Bytes :=
  if entry.2.any (Write.saves profile) then
    (origins[entry.1]?).bind fun origin => origin.registers profile
  else none

/-- The certificate of the last successful `register_certificate` for the profile. -/
def lastRegistered (world : AgentWorld) (profile : String) : Option Bytes :=
  world.journal.findSome? (committed (world.calls.map Call.origin) profile)

variable (lib : Libraries)

/-- The fields that are made from the certificate. -/
structure ProfileCertificates.Holds (row : ProfileCertificates) (certDer : Bytes) : Prop where
  fingerprint : row.certificateFingerprint = some (lib.sha256Hex certDer)
  pem : row.certificatePemPublic = some (pemOf certDer)

/-- A profile is saved with the certificate of the call. -/
def Renews (origin : Origin) : Operation → Prop
  | .saveProfile name row =>
      ∃ certDer, origin.registers name = some certDer ∧ row.Holds lib certDer
  | _ => True

variable {lib}

theorem registers_decoded {origin : Origin} {profileName certDerB64 : String} {certDer : Bytes}
    (endpoint : origin.endpoint = .registerCertificate profileName certDerB64)
    (decoded : b64decode certDerB64 = .ok certDer) :
    origin.registers profileName = some certDer := by
  unfold Origin.registers
  simp only [endpoint, if_true, decoded, Except.toOption]

/-- Neither loads nor saves a profile. -/
def Unprofiled : Operation → Prop
  | .getProfile _ => False
  | .saveProfile .. => False
  | _ => True

theorem renews_unprofiled {origin : Origin} (operation : Operation)
    (unprofiled : Unprofiled operation) : Renews lib origin operation := by
  cases operation with
  | saveProfile name row => exact unprofiled.elim
  | _ => trivial

theorem generatePairingCode_unprofiled (user : String) (request : Option WebRequest) :
    (generatePairingCode lib user request).Uses Unprofiled :=
  Program.Uses.bind (Program.Uses.perform trivial) fun _ =>
    Program.Uses.bind (Program.Uses.perform trivial) fun _ =>
      Program.Uses.bind (Program.Uses.perform trivial) fun _ => trivial

theorem validatePairingCode_unprofiled (arguments : PairingArguments) :
    (validatePairingCode lib arguments).Uses Unprofiled := by
  refine Program.Uses.bind (Program.Uses.perform trivial) fun raw => ?_
  cases raw with
  | none => trivial
  | some data =>
      refine Program.Uses.bind (Program.Uses.perform trivial) fun _ => ?_
      refine Program.Uses.bind (Program.Uses.perform trivial) fun siteToken => ?_
      refine Program.Uses.bind (Program.Uses.perform trivial) fun pairedOn => ?_
      refine Program.Uses.bind (Program.Uses.perform trivial) fun lastSeenOn => ?_
      refine Program.Uses.bind (Program.Uses.perform trivial) fun name => ?_
      refine Program.Uses.bind (Program.Uses.perform trivial) fun _ => ?_
      exact Program.Uses.bind (getOrCreateHmacSecret_uses trivial trivial trivial
        (fun _ => trivial) trivial) fun _ => trivial

/-- Only `register_certificate` loads and saves a profile. -/
theorem body_unprofiled (origin : Origin)
    (other : ∀ profileName certDerB64,
      origin.endpoint ≠ .registerCertificate profileName certDerB64) :
    (body lib origin).Uses Unprofiled := by
  unfold body
  split
  · trivial
  · unfold serve
    cases endpoint : origin.endpoint with
    | generatePairingCode request =>
        exact (generatePairingCode_unprofiled origin.user request).bind fun _ => trivial
    | validatePairingCode arguments =>
        exact (validatePairingCode_unprofiled arguments).bind fun _ => trivial
    | verifySiteToken siteToken agentFingerprint =>
        exact (verifySiteToken_uses (fun _ _ => trivial) trivial (fun _ _ => trivial) siteToken
          agentFingerprint).bind fun _ => trivial
    | registerCertificate profileName certDerB64 => exact absurd endpoint (other _ _)
    | listAgentCertificates agentPort => trivial

theorem body_renews (origin : Origin) : (body lib origin).Uses (Renews lib origin) := by
  cases endpoint : origin.endpoint with
  | registerCertificate profileName certDerB64 =>
      unfold body
      split
      · trivial
      · simp only [serve, endpoint]
        refine (registerCertificate_uses origin.user profileName certDerB64 trivial trivial trivial
          ?_).bind fun _ => trivial
        intro certDer decoded old fields replacedOn registeredOn
        exact ⟨certDer, registers_decoded endpoint decoded, rfl, rfl⟩
  | _ =>
      exact Program.Uses.weaken (body_unprofiled origin (by simp [endpoint])) renews_unprofiled

/-! ### The invariant -/

structure ProfileCertificates.Blank (row : ProfileCertificates) : Prop where
  fingerprint : row.certificateFingerprint.given = false
  pem : row.certificatePemPublic.given = false

/-- The certificate of every profile is the one that was registered last. -/
structure Current (lib : Libraries) (world : AgentWorld) : Prop where
  disciplined : world.Disciplined (fun origin _ => Renews lib origin) (fun _ _ _ => True)
  recorded : world.Recorded
  profiles : ∀ name row, world.data.profiles.lookup name = some row →
    (lastRegistered world name = none ∧ row.Blank) ∨
      ∃ certDer, lastRegistered world name = some certDer ∧ row.Holds lib certDer

theorem saveProfile_effect {event : AgentEvent} {name : String} {row : ProfileCertificates}
    (member : Write.saveProfile name row ∈ effects event) :
    ∃ loaded, event = ⟨.saveProfile name loaded, .ok (), event.stamp⟩ ∧
      row = { loaded with modified := event.stamp } := by
  obtain ⟨operation, result, stamp⟩ := event
  cases operation <;> cases result <;> simp [effects] at member
  obtain ⟨rfl, rfl⟩ := member
  exact ⟨_, rfl, rfl⟩

theorem move_profiles {move : Move} {data : Database} {later : Database × Shared} {shared : Shared}
    (moved : some (move.apply data shared) = some later)
    (keeps : ∀ database, move = .administer database → database.profiles = data.profiles) :
    later.1.profiles = data.profiles := by
  cases moved
  cases move with
  | administer database => exact keeps database rfl
  | _ => rfl

/-- A profile is the stored one, unless the writes save it. -/
theorem view_profiles (database : Database) (writes : List Write) (name : String) :
    (writes.any (Write.saves name) = false ∧
      (site.view database writes).profiles.lookup name = database.profiles.lookup name) ∨
      ∃ row, Write.saveProfile name row ∈ writes ∧
        (site.view database writes).profiles.lookup name = some row := by
  induction writes generalizing database with
  | nil => exact Or.inl ⟨rfl, rfl⟩
  | cons write rest ih =>
      rcases ih (write.perform database) with ⟨unsaved, there⟩ | ⟨row, member, there⟩
      · cases write with
        | saveProfile other saved =>
            by_cases same : name = other
            · subst same
              exact Or.inr ⟨saved, List.mem_cons_self, there.trans (AList.lookup_insert _)⟩
            · have distinct : (other == name) = false := by
                simpa using fun equal => same equal.symm
              exact Or.inl ⟨by simp only [List.any_cons, Write.saves, distinct, unsaved,
                Bool.or_self], there.trans (AList.lookup_insert_ne same)⟩
        | _ => exact Or.inl ⟨by simpa only [List.any_cons, Write.saves, Bool.false_or], there⟩
      · exact Or.inr ⟨row, List.mem_cons_of_mem _ member, there⟩

variable {world next : AgentWorld} {label : AgentLabel}

/-- What was committed before stays what it was. -/
theorem lastRegistered_kept (recorded : world.Recorded)
    (stepped : step (body lib) world label = some next) (profile : String) :
    world.journal.findSome? (committed (next.calls.map Call.origin) profile) =
      lastRegistered world profile := by
  unfold lastRegistered
  have each : ∀ entry ∈ world.journal, committed (next.calls.map Call.origin) profile entry =
      committed (world.calls.map Call.origin) profile entry := by
    intro entry member
    obtain ⟨call, located, _⟩ := recorded entry member
    obtain ⟨later, there, same, _⟩ := step_grows (body lib) stepped located
    simp only [committed, List.getElem?_map, located, there, Option.map_some, same]
  generalize world.journal = journal at each
  induction journal with
  | nil => rfl
  | cons entry rest ih =>
      rw [List.findSome?_cons, List.findSome?_cons, each entry (by simp),
        ih fun other member => each other (by simp [member])]

theorem current_step (current : Current lib world)
    (keeps : ∀ database, label = .move (.administer database) →
      database.profiles = world.data.profiles)
    (stepped : step (body lib) world label = some next) : Current lib next where
  disciplined := disciplined_step (body lib)
    (fun origin => (Program.Uses.follows (body_renews origin) [] fun _ _ renews => renews).weaken
      fun _ _ _ _ => trivial) current.disciplined stepped
  recorded := recorded_step (body lib) current.recorded stepped
  profiles := by
    intro name row found
    rcases step_data (body lib) stepped with
      ⟨index, call, committed_, after, journal⟩ | ⟨_, journal, rest⟩
    · obtain ⟨located, _⟩ := committing_located committed_
      obtain ⟨later, there, same, _⟩ := step_grows (body lib) stepped located
      have origin : (next.calls.map Call.origin)[index]? = some call.origin := by
        rw [List.getElem?_map, there, Option.map_some, same]
      rw [after] at found
      rcases view_profiles world.data (site.pending call.trace) name with
        ⟨unsaved, before⟩ | ⟨saving, saved, there_⟩
      · have kept : lastRegistered next name = lastRegistered world name := by
          rw [← lastRegistered_kept current.recorded stepped]
          unfold lastRegistered
          rw [journal, List.findSome?_cons]
          simp only [committed, unsaved, Bool.false_eq_true, if_false]
        rw [kept]
        exact current.profiles name row (before.symm.trans found)
      · rw [there_] at found
        cases found
        obtain ⟨event, earlier, newer, split, effect, _⟩ := mem_pending saved
        obtain ⟨loaded, saves, same⟩ := saveProfile_effect effect
        have member : event ∈ call.trace := by
          rw [split]
          simp
        obtain ⟨before, suffix, renews⟩ :=
          (disciplined_running current.disciplined located).of_mem member
        rw [saves] at renews
        obtain ⟨certDer, registers, holds⟩ := renews
        refine Or.inr ⟨certDer, ?_, by rw [same]; exact ⟨holds.fingerprint, holds.pem⟩⟩
        have any : (site.pending call.trace).any (Write.saves name) = true :=
          List.any_eq_true.mpr ⟨_, saved, beq_self_eq_true name⟩
        unfold lastRegistered
        rw [journal, List.findSome?_cons]
        simp only [committed, any, if_true, origin, Option.bind_some, registers]
    · have kept : lastRegistered next name = lastRegistered world name := by
        rw [← lastRegistered_kept current.recorded stepped]
        unfold lastRegistered
        rw [journal]
      rw [kept]
      refine current.profiles name row ?_
      rcases rest with same | ⟨move, shared, rfl, moved⟩
      · rw [← same]
        exact found
      · rw [← move_profiles moved fun database same => keeps database (by rw [same])]
        exact found

end AgentApi

/-! ### Signing, registering and exporting -/

/-- The profiles with the certificates that are stored for them. -/
def Masters.certified (masters : Masters)
    (certificates : Table String AgentApi.ProfileCertificates) : Masters :=
  { masters with
    profile := fun name => (masters.profile name).map fun profile =>
      profile.certified (certificates.lookup name) }

structure RenewalWorld where
  server : ServerWorld
  agent : AgentApi.AgentWorld

inductive RenewalLabel where
  | server (label : ServerLabel)
  | agent (label : AgentApi.AgentLabel)

/-- Administrators change profiles, but not their certificates. -/
def ServerLabel.keeping (certificates : Table String AgentApi.ProfileCertificates) :
    ServerLabel → ServerLabel
  | .move (.administer masters) => .move (.administer (masters.certified certificates))
  | label => label

def keepingCertificates (certificates : Table String AgentApi.ProfileCertificates) :
    AgentApi.AgentLabel → AgentApi.AgentLabel
  | .move (.administer database) =>
      .move (.administer { database with profiles := certificates })
  | label => label

def renewalStep (lib : AgentApi.Libraries) (world : RenewalWorld) :
    RenewalLabel → Option RenewalWorld
  | .server label =>
      (step (body lib.toLibraries) world.server
        (ServerLabel.keeping world.agent.data.profiles label)).map fun server =>
          { world with server := server }
  | .agent label =>
      (step (AgentApi.body lib) world.agent
        (keepingCertificates world.agent.data.profiles label)).map fun agent =>
          { server := { world.server with data := { world.server.data with
              masters := world.server.data.masters.certified agent.data.profiles } }
            agent := agent }

def RenewalWorld.installed (masters : Masters) (database : AgentApi.Database) (now : Instant)
    (zone : Int) : RenewalWorld :=
  ⟨DscSigning.installed (masters.certified database.profiles) now zone,
    AgentApi.installed database now⟩

/-- What an export reads of the site. -/
def RenewalWorld.evidenceSite (world : RenewalWorld) (core : Core) : EvidenceSite :=
  { requests := world.server.data.requests
    files := world.server.data.files
    events := world.server.data.events.reverse.zipIdx.map fun entry =>
      (core.eventName entry.2, entry.1)
    profile := world.server.data.masters.profile
    certificates := world.agent.data.profiles
    roles := world.server.data.masters.roles
    getContent := core.getContent
    now := world.server.shared.now }

/-- The thirteenth line of the README is the certificate line with the fingerprint. -/
def ShowsCertificate (readme fingerprint : String) : Prop :=
  ∃ above below, above.length = 12 ∧
    readme = "\n".intercalate (above ++ ("Certificate:      " ++ fingerprint) :: below)

/-- The certificate and the README of the pack have the fingerprint that the
request was signed with. -/
def Consistent (lib : EvidenceLibraries) (row : SigningRequest) (exported : EvidencePack) : Prop :=
  ∃ fingerprint, row.certificateFingerprintPresented = some fingerprint ∧
    (∃ certDer, ("signer_certificate.pem", utf8 (AgentApi.pemOf certDer)) ∈ exported.members ∧
      lib.sha256Hex certDer = fingerprint) ∧
    ∃ readme, ("README.txt", utf8 readme) ∈ exported.members ∧ ShowsCertificate readme fingerprint

section Export

variable {lib : EvidenceLibraries} {site : EvidenceSite} {user name : String}
  {exported : EvidencePack} {row : SigningRequest}

theorem buildReadme_certificate (lib : EvidenceLibraries) (name : String) (req : SigningRequest)
    (profile : Profile) (certificate : AgentApi.ProfileCertificates)
    (auditEvents : List (String × AuditEvent)) (now : Instant) :
    ShowsCertificate (buildReadme lib name req profile certificate auditEvents now)
      (certificate.certificateFingerprint.orValue "N/A") := by
  unfold buildReadme
  exact ⟨[_, _, _, _, _, _, _, _, _, _, _, _], _, rfl, congrArg "\n".intercalate rfl⟩

theorem signedPdf_plain {members : List (String × Bytes)} (signed : site.signedPdf row = .ok members)
    (content : Bytes) : ("signer_certificate.pem", content) ∉ members := by
  unfold EvidenceSite.signedPdf at signed
  split at signed
  · obtain ⟨fileDoc, _, rest⟩ := bind_ok signed
    obtain ⟨fileContent, _, rest⟩ := bind_ok rest
    cases rest
    intro member
    have same : "signer_certificate.pem" = "signed_" ++ row.sourceName ++ ".pdf" :=
      congrArg Prod.fst (List.mem_singleton.mp member)
    have letters : "signer_certificate.pem".toList =
        "signed_".toList ++ (row.sourceName.toList ++ ".pdf".toList) := by
      rw [same, String.toList_append, String.toList_append, List.append_assoc]
    have sixth : some 'r' = some 'd' := congrArg (fun letters => letters[5]?) letters
    exact absurd sixth (by decide)
  · cases signed
    exact List.not_mem_nil

theorem ocspMember_plain (req : SigningRequest) (content : Bytes) :
    ("signer_certificate.pem", content) ∉ ocspMember req := by
  unfold ocspMember
  split
  · split
    · intro member
      have same : "signer_certificate.pem" = "ocsp_response.der" :=
        congrArg Prod.fst (List.mem_singleton.mp member)
      exact absurd same (by decide)
    · exact List.not_mem_nil
  · exact List.not_mem_nil

/-- The members of a pack that depend on the certificate of the profile. -/
theorem export_members
    (exports : exportEvidencePack lib site user name = .ok exported)
    (found : site.requests.lookup name = some row) :
    ∃ certificate readme, site.certificates.lookup row.profile = some certificate ∧
      (∀ content, ("signer_certificate.pem", content) ∈ exported.members ↔
        certificate.certificatePemPublic.given = true ∧
          content = utf8 certificate.certificatePemPublic.show) ∧
      ("README.txt", utf8 readme) ∈ exported.members ∧
      ShowsCertificate readme (certificate.certificateFingerprint.orValue "N/A") := by
  obtain ⟨req, loaded, rest⟩ := bind_ok exports
  rw [found] at loaded
  cases loaded
  simp only at rest
  split at rest
  · cases rest
  · split at rest
    · cases rest
    · obtain ⟨signedPdf, signed, rest⟩ := bind_ok rest
      obtain ⟨profile, _, rest⟩ := bind_ok rest
      obtain ⟨certificate, stored, rest⟩ := bind_ok rest
      cases rest
      refine ⟨certificate, _, ?_, ?_, ?_, buildReadme_certificate lib name row profile certificate
        (site.auditEvents name) site.now⟩
      · cases there : site.certificates.lookup row.profile with
        | none =>
            rw [there] at stored
            cases stored
        | some other =>
            rw [there] at stored
            cases stored
            rfl
      · intro content
        have audit : ("signer_certificate.pem", content).1 ≠ "audit_trail.json" := by
          change "signer_certificate.pem" ≠ "audit_trail.json"
          decide
        have readme : ("signer_certificate.pem", content).1 ≠ "README.txt" := by
          change "signer_certificate.pem" ≠ "README.txt"
          decide
        simp only [List.mem_append, List.mem_singleton, signedPdf_plain signed,
          ocspMember_plain, false_or, or_false]
        constructor
        · rintro ((same | member) | same)
          · exact absurd (congrArg Prod.fst same) audit
          · split at member
            · rename_i given
              exact ⟨given, congrArg Prod.snd (List.mem_singleton.mp member)⟩
            · cases member
          · exact absurd (congrArg Prod.fst same) readme
        · rintro ⟨given, rfl⟩
          rw [if_pos given]
          exact Or.inl (Or.inr (List.mem_singleton_self _))
      · exact List.mem_append_right _ (List.mem_singleton_self _)

end Export

theorem pemOf_inj {left right : Bytes} (same : AgentApi.pemOf left = AgentApi.pemOf right) :
    left = right := by
  unfold AgentApi.pemOf at same
  have letters := congrArg String.toList same
  simp only [String.toList_append] at letters
  have middle := List.append_cancel_left (List.append_cancel_right letters)
  exact Base64.encode_inj (String.toList_inj.mp middle)

theorem pemOf_given (certDer : Bytes) : Text.given (some (AgentApi.pemOf certDer)) = true := by
  refine given_some fun empty => ?_
  have letters := congrArg String.toList empty
  unfold AgentApi.pemOf at letters
  rw [String.toList_append] at letters
  have last : "\n-----END CERTIFICATE-----".toList = [] := (List.append_eq_nil_iff.mp letters).2
  exact List.cons_ne_nil _ _ last

theorem keepingCertificates_profiles {certificates : Table String AgentApi.ProfileCertificates}
    {label : AgentApi.AgentLabel} {database : AgentApi.Database}
    (administers : keepingCertificates certificates label = .move (.administer database)) :
    database.profiles = certificates := by
  cases label with
  | move move =>
      cases move with
      | administer other =>
          cases administers
          rfl
      | _ => cases administers
  | _ => cases administers

theorem current_renewal {lib : AgentApi.Libraries} {before after : RenewalWorld}
    {label : RenewalLabel} (current : AgentApi.Current lib before.agent)
    (stepped : renewalStep lib before label = some after) : AgentApi.Current lib after.agent := by
  cases label with
  | server label =>
      obtain ⟨server, _, rfl⟩ := Option.map_eq_some_iff.mp stepped
      exact current
  | agent label =>
      obtain ⟨agent, moved, rfl⟩ := Option.map_eq_some_iff.mp stepped
      exact AgentApi.current_step current (fun _ => keepingCertificates_profiles) moved

theorem current_run {lib : AgentApi.Libraries} {masters : Masters}
    {database : AgentApi.Database} {now : Instant} {zone : Int}
    (blank : ∀ name row, database.profiles.lookup name = some row → row.Blank)
    {labels : List RenewalLabel} {world : RenewalWorld}
    (reached : Runs.run (renewalStep lib) (RenewalWorld.installed masters database now zone)
      labels = some world) : AgentApi.Current lib world.agent := by
  have start : AgentApi.Current lib (RenewalWorld.installed masters database now zone).agent :=
    { disciplined := by
        intro index call located
        cases located
      recorded := by
        intro entry member
        cases member
      profiles := fun name row found => Or.inl ⟨rfl, blank name row found⟩ }
  exact Runs.run_invariant (fun _ _ _ current _ stepped => current_renewal current stepped) start
    (Runs.along_members (fun _ _ _ => trivial) _) reached

theorem consistent_iff {lib : EvidenceLibraries} (digest : ∀ data, lib.sha256 data ≠ [])
    {world : RenewalWorld} (current : AgentApi.Current lib.toAgent world.agent) {core : Core}
    {user name : String} {exported : EvidencePack}
    (exports : exportEvidencePack lib (world.evidenceSite core) user name = .ok exported)
    {row : SigningRequest} (found : world.server.data.requests.lookup name = some row) :
    Consistent lib row exported ↔
      ∃ certDer, AgentApi.lastRegistered world.agent row.profile = some certDer ∧
        row.certificateFingerprintPresented = some (lib.sha256Hex certDer) := by
  obtain ⟨certificate, readme, stored, pem, written, shown⟩ := export_members exports found
  have profile := current.profiles row.profile certificate stored
  constructor
  · rintro ⟨fingerprint, presented, ⟨certDer, member, hash⟩, _⟩
    obtain ⟨given, content⟩ := (pem _).mp member
    rcases profile with ⟨_, nothing⟩ | ⟨registered, last, holds⟩
    · rw [nothing.pem] at given
      cases given
    · rw [holds.pem] at content
      rw [pemOf_inj (utf8_inj content)] at hash
      exact ⟨registered, last, by rw [presented, ← hash]⟩
  · rintro ⟨certDer, last, presented⟩
    rcases profile with ⟨never, _⟩ | ⟨registered, again, holds⟩
    · rw [never] at last
      cases last
    · rw [again] at last
      cases last
      have given : Text.given (some (lib.sha256Hex certDer)) = true := hex_given (digest certDer)
      refine ⟨_, presented, ⟨certDer, (pem _).mpr ⟨?_, ?_⟩, rfl⟩, readme, written, ?_⟩
      · rw [holds.pem]
        exact pemOf_given certDer
      · rw [holds.pem]
        rfl
      · rw [holds.fingerprint, Text.orValue, if_pos given] at shown
        exact shown

/-- The pack of a signed request has the certificate it was signed with exactly
while that is the certificate last registered for the profile. -/
theorem pack_after_renewal_iff (lib : EvidenceLibraries) (digest : ∀ data, lib.sha256 data ≠ [])
    (masters : Masters) (database : AgentApi.Database) (now : Instant) (zone : Int)
    (blank : ∀ name row, database.profiles.lookup name = some row → row.Blank)
    (labels : List RenewalLabel) (world : RenewalWorld)
    (reached : Runs.run (renewalStep lib.toAgent)
      (RenewalWorld.installed masters database now zone) labels = some world)
    (core : Core) (user name : String) (exported : EvidencePack)
    (exports : exportEvidencePack lib (world.evidenceSite core) user name = .ok exported)
    (row : SigningRequest) (found : world.server.data.requests.lookup name = some row) :
    Consistent lib row exported ↔
      ∃ certDer, AgentApi.lastRegistered world.agent row.profile = some certDer ∧
        row.certificateFingerprintPresented = some (lib.sha256Hex certDer) :=
  consistent_iff digest (current_run blank reached) exports found

/-! ### A certificate that is renewed after the signing -/

def renewalLibraries : EvidenceLibraries :=
  { toLibraries := strictLibraries
    certificateFields := fun _ => .ok ⟨⟨["A Signer"], ""⟩, ⟨["A CA"], ""⟩, 1, none, none⟩
    jsonDumpsIndented := fun _ => "{}" }

def blankProfile : AgentApi.ProfileCertificates :=
  ⟨none, none, none, none, none, none, none, none, [], 0⟩

def blankDatabase : AgentApi.Database :=
  { registrations := ∅
    profiles := AList.insert "P-1" blankProfile ∅
    hmacSecret := some "secret"
    roles := fun _ => [.dscAdministrator] }

theorem blankDatabase_row {name : String} {row : AgentApi.ProfileCertificates}
    (found : blankDatabase.profiles.lookup name = some row) : row = blankProfile := by
  by_cases same : name = "P-1"
  · subst same
    exact (Option.some.inj found).symm
  · have nothing := (AList.lookup_insert_ne same).symm.trans found
    cases nothing

theorem blankDatabase_blank {name : String} {row : AgentApi.ProfileCertificates}
    (found : blankDatabase.profiles.lookup name = some row) : row.Blank := by
  rw [blankDatabase_row found]
  exact ⟨rfl, rfl⟩

/-- The administrator registers a certificate, in a call of its own. -/
def registering (index : Nat) (certDerB64 : String) (questions : Nat) : List RenewalLabel :=
  (.start ⟨"admin", .registerCertificate "P-1" certDerB64⟩ ::
    (List.replicate questions (.ask index (AgentApi.handing "")) ++ [.finish index])).map .agent

def registeredThenSigned : List RenewalLabel :=
  registering 0 "AQID" 4 ++ (registeredSigning "AQID").map .server

def sampleCore : Core :=
  ⟨fun _ _ _ => .ok true, fun row => .ok row.content, fun _ => true, fun _ => "AE"⟩

def renewalSite : RenewalWorld := RenewalWorld.installed sampleMasters blankDatabase 0 0

def exportIn (world : RenewalWorld) : Except Exn EvidencePack :=
  exportEvidencePack renewalLibraries (world.evidenceSite sampleCore) "alice" "SR-1"

/-- The request of the sample and its pack, with the certificate last registered. -/
def packIn (world : RenewalWorld) : Option (SigningRequest × EvidencePack × Option Bytes) :=
  (world.server.data.requests.lookup "SR-1").bind fun row =>
    (exportIn world).toOption.map fun exported =>
      (row, exported, AgentApi.lastRegistered world.agent row.profile)

theorem packIn_parts {world : RenewalWorld} {row : SigningRequest} {exported : EvidencePack}
    {last : Option Bytes} (packed : packIn world = some (row, exported, last)) :
    world.server.data.requests.lookup "SR-1" = some row ∧ exportIn world = .ok exported ∧
      AgentApi.lastRegistered world.agent row.profile = last := by
  obtain ⟨found, lookup, mapped⟩ := Option.bind_eq_some_iff.mp packed
  obtain ⟨pack, exports, same⟩ := Option.map_eq_some_iff.mp mapped
  cases same
  refine ⟨lookup, ?_, rfl⟩
  cases result : exportIn world with
  | error exn =>
      rw [result] at exports
      cases exports
  | ok other =>
      rw [result] at exports
      rw [Option.some.inj exports]

theorem pack_after_renewal_sample :
    ∃ world row exported, Runs.run (renewalStep renewalLibraries.toAgent) renewalSite
        registeredThenSigned = some world ∧
      world.server.data.requests.lookup "SR-1" = some row ∧ row.status = .signed ∧
      exportIn world = .ok exported ∧ Consistent renewalLibraries row exported := by
  have ends : ((Runs.run (renewalStep renewalLibraries.toAgent) renewalSite
      registeredThenSigned).bind fun world => (packIn world).map fun packed =>
        packed.1.status == .signed && packed.2.2 == some [1, 2, 3] &&
          packed.1.certificateFingerprintPresented ==
            some (renewalLibraries.sha256Hex [1, 2, 3])) = some true := by
    decide +kernel
  simp only [Option.bind_eq_some_iff, Option.map_eq_some_iff, Bool.and_eq_true, beq_iff_eq] at ends
  obtain ⟨world, reached, ⟨row, exported, last⟩, packed, ⟨⟨signed, registered⟩, presented⟩⟩ := ends
  obtain ⟨found, exports, same⟩ := packIn_parts packed
  refine ⟨world, row, exported, reached, found, signed, exports, ?_⟩
  exact (pack_after_renewal_iff renewalLibraries strictLibraries_nonempty sampleMasters
    blankDatabase 0 0 (fun _ _ => blankDatabase_blank) registeredThenSigned world reached sampleCore
    "alice" "SR-1" exported exports row found).mpr ⟨[1, 2, 3], same.trans registered, presented⟩

/-- After the signing the profile is given another certificate, and the pack has that one. -/
theorem pack_after_renewal_differs :
    ∃ world row exported, Runs.run (renewalStep renewalLibraries.toAgent) renewalSite
        (registeredThenSigned ++ registering 1 "CQ==" 5) = some world ∧
      world.server.data.requests.lookup "SR-1" = some row ∧ row.status = .signed ∧
      exportIn world = .ok exported ∧ ¬ Consistent renewalLibraries row exported := by
  have ends : ((Runs.run (renewalStep renewalLibraries.toAgent) renewalSite
      (registeredThenSigned ++ registering 1 "CQ==" 5)).bind fun world =>
        (packIn world).map fun packed =>
          packed.1.status == .signed && packed.2.2 == some [9] &&
            packed.1.certificateFingerprintPresented ==
              some (renewalLibraries.sha256Hex [1, 2, 3])) = some true := by
    decide +kernel
  simp only [Option.bind_eq_some_iff, Option.map_eq_some_iff, Bool.and_eq_true, beq_iff_eq] at ends
  obtain ⟨world, reached, ⟨row, exported, last⟩, packed, ⟨⟨signed, registered⟩, presented⟩⟩ := ends
  obtain ⟨found, exports, same⟩ := packIn_parts packed
  refine ⟨world, row, exported, reached, found, signed, exports, fun consistent => ?_⟩
  obtain ⟨certDer, registered', presented'⟩ := (consistent_iff strictLibraries_nonempty
    (current_run (fun _ _ => blankDatabase_blank) reached) exports found).mp consistent
  have other : certDer = [9] := Option.some.inj (registered'.symm.trans (same.trans registered))
  rw [presented, other] at presented'
  exact absurd (hex_inj (Option.some.inj presented')) (by decide)

end DscSigning
