/-
What the signing script of the form does before it asks the server to prepare.

It compares the sites of the bridge with its own by their origins, while the
bridge compares texts; and it takes the first certificate of the token, while
the server compares fingerprints.
-/

import DscSigning.Bridge.Middleware
import DscSigning.Handshake.CertificateChoice

namespace DscSigning

open Interaction Engine

/-- What the script needs of the browser. -/
structure Browser where
  /-- `new URL(text)`: its protocol and host, where it does not throw. -/
  parseUrl : String → Option (String × String)
  /-- `toLowerCase` -/
  toLowerCase : String → String

/-! ### Pairing -/

section Pairing

variable (browser : Browser)

/-- `text.replace(/\/+$/, "")` -/
def dropSlashes (text : String) : String :=
  String.ofList (text.toList.reverse.dropWhile (· == '/')).reverse

/-- `normaliseSiteUrl` -/
def normaliseSiteUrl (siteURL : String) : String :=
  if siteURL == "" then ""
  else
    match browser.parseUrl siteURL with
    | some (protocol, host) => browser.toLowerCase (protocol ++ "//" ++ host)
    | none => browser.toLowerCase (dropSlashes siteURL)

/-- `paired_sites` of the status. -/
def pairedSites (agentStatus : Bridge.Response) : List String :=
  match agentStatus.body with
  | .status sites _ => sites
  | _ => []

/-- `isAlreadyPaired`, on a page of this origin. -/
def isAlreadyPaired (page : String) (agentStatus : Bridge.Response) : Bool :=
  let here := normaliseSiteUrl browser page
  (pairedSites agentStatus).any fun site => normaliseSiteUrl browser site == here

/-- An origin in the serialisation of the browser: it is made of the parts it parses to. -/
structure IsOrigin (page : String) : Prop where
  parts : ∃ protocol host, browser.parseUrl page = some (protocol, host) ∧
    protocol ++ "//" ++ host = page
  lowercase : browser.toLowerCase page = page

/-- Another spelling of the origin: with a path, a slash behind it, its port or capitals. -/
structure Respells (page siteURL : String) : Prop where
  filled : siteURL ≠ ""
  other : siteURL ≠ page
  spelled : (∃ protocol host, browser.parseUrl siteURL = some (protocol, host) ∧
      browser.toLowerCase (protocol ++ "//" ++ host) = page) ∨
    (browser.parseUrl siteURL = none ∧ browser.toLowerCase (dropSlashes siteURL) = page)

variable {browser} {page : String}

theorem origin_ne (origin : IsOrigin browser page) : page ≠ "" := by
  obtain ⟨protocol, host, _, rfl⟩ := origin.parts
  intro blank
  have lengths := congrArg String.length blank
  rw [String.length_append, String.length_append] at lengths
  exact absurd lengths (by simp)

theorem normaliseSiteUrl_origin (origin : IsOrigin browser page) :
    normaliseSiteUrl browser page = page := by
  obtain ⟨protocol, host, parses, same⟩ := origin.parts
  unfold normaliseSiteUrl
  rw [if_neg (by simpa using origin_ne origin), parses]
  exact (congrArg browser.toLowerCase same).trans origin.lowercase

/-- A text is normalised to the origin where it is the origin, or spells it otherwise. -/
theorem normaliseSiteUrl_eq (origin : IsOrigin browser page) (siteURL : String) :
    normaliseSiteUrl browser siteURL = page ↔ siteURL = page ∨ Respells browser page siteURL := by
  constructor
  · intro normal
    by_cases same : siteURL = page
    · exact Or.inl same
    · unfold normaliseSiteUrl at normal
      split at normal
      · exact absurd normal.symm (origin_ne origin)
      · rename_i filled
        refine Or.inr ⟨by simpa using filled, same, ?_⟩
        split at normal
        · rename_i protocol host parses
          exact Or.inl ⟨protocol, host, parses, normal⟩
        · rename_i fails
          exact Or.inr ⟨fails, normal⟩
  · rintro (rfl | ⟨filled, _, spelled⟩)
    · exact normaliseSiteUrl_origin origin
    · unfold normaliseSiteUrl
      rw [if_neg (by simpa using filled)]
      rcases spelled with ⟨protocol, host, parses, same⟩ | ⟨fails, same⟩
      · rw [parses]
        exact same
      · rw [fails]
        exact same

theorem handleStatus_lists {lib : Bridge.Libraries} {request : Bridge.HttpRequest}
    {shared : Bridge.Shared} {script : List Bridge.Oracle}
    {outcome : (Bridge.bridge lib).Outcome Bridge.Response} {status : Bridge.Response}
    (get : request.method = "GET")
    (played : (Bridge.bridge lib).play (Bridge.handleStatus request) () shared [] script =
      some outcome) (answered : outcome.result = .ok status) (siteURL : String) :
    siteURL ∈ pairedSites status ↔ Bridge.isPairedSite shared siteURL = true := by
  unfold Bridge.handleStatus at played
  rw [get] at played
  obtain ⟨_, rest, rfl, _, played⟩ := Bridge.play_asked played
  rw [Bridge.reply_memory rfl] at played
  obtain ⟨_, _, rfl, _, played⟩ := Bridge.play_asked played
  rw [Bridge.reply_memory rfl] at played
  obtain ⟨_, rfl⟩ := play_done.mp played
  cases answered
  exact Bridge.lists_iff shared siteURL

theorem isAlreadyPaired_iff (origin : IsOrigin browser page) (agentStatus : Bridge.Response) :
    isAlreadyPaired browser page agentStatus = true ↔
      ∃ siteURL ∈ pairedSites agentStatus, siteURL = page ∨ Respells browser page siteURL := by
  unfold isAlreadyPaired
  simp only [List.any_eq_true, beq_iff_eq, normaliseSiteUrl_origin origin,
    normaliseSiteUrl_eq origin]

/-- The script and the bridge agree on the pairing of a page exactly where no site is
paired under another spelling of the origin of the page alone. -/
theorem paired_agree_iff (lib : Bridge.Libraries) (origin : IsOrigin browser page)
    (request : Bridge.HttpRequest) (get : request.method = "GET") (shared : Bridge.Shared)
    (script : List Bridge.Oracle) (outcome : (Bridge.bridge lib).Outcome Bridge.Response)
    (status : Bridge.Response)
    (played : (Bridge.bridge lib).play (Bridge.handleStatus request) () shared [] script =
      some outcome) (answered : outcome.result = .ok status) :
    (isAlreadyPaired browser page status = true ↔ Bridge.isPairedSite shared page = true) ↔
      ((∃ siteURL, Bridge.isPairedSite shared siteURL = true ∧ Respells browser page siteURL) →
        Bridge.isPairedSite shared page = true) := by
  have listed := handleStatus_lists get played answered
  rw [isAlreadyPaired_iff origin]
  constructor
  · rintro agree ⟨siteURL, paired, spelled⟩
    exact agree.mp ⟨siteURL, (listed siteURL).mpr paired, Or.inr spelled⟩
  · intro beside
    constructor
    · rintro ⟨siteURL, member, rfl | spelled⟩
      · exact (listed siteURL).mp member
      · exact beside ⟨siteURL, (listed siteURL).mp member, spelled⟩
    · intro paired
      exact ⟨page, (listed page).mpr paired, Or.inl rfl⟩

end Pairing

/-- `new URL` and `toLowerCase` on secure addresses of one host name. -/
def sampleBrowser : Browser :=
  { parseUrl := fun text =>
      if "https://".toList <+: text.toList then
        some ("https:", lower (String.ofList ((text.toList.drop 8).takeWhile (· != '/'))))
      else none
    toLowerCase := lower }

theorem sampleBrowser_origin : IsOrigin sampleBrowser "https://site.example" :=
  ⟨⟨"https:", "site.example", by decide +kernel, by decide +kernel⟩, by decide +kernel⟩

def pinging : Bridge.HttpRequest :=
  { Bridge.pairing with method := "GET", path := "/v1/status", pairBody := none }

/-- The site is paired by hand, with a slash behind its address. -/
def pairingSlash : Bridge.HttpRequest :=
  { Bridge.pairing with pairBody := some ⟨"123456", "https://site.example/"⟩ }

/-- The status after a pairing, and the keystore that it was taken of. -/
def pingAfter (request : Bridge.HttpRequest) : Option (Bridge.Shared × Bridge.Response) :=
  ((Bridge.bridge Bridge.plainLibraries).play (Bridge.handlePair request) () Bridge.besideOther []
    (List.replicate 6 Bridge.agreeing)).bind fun paired =>
      ((Bridge.bridge Bridge.plainLibraries).play (Bridge.handleStatus pinging) () paired.shared []
        [Bridge.calm, Bridge.calm]).bind fun told =>
          told.result.toOption.map fun status => (paired.shared, status)

theorem pingAfter_played {request : Bridge.HttpRequest} {shared : Bridge.Shared}
    {status : Bridge.Response} (after : pingAfter request = some (shared, status)) :
    ∃ outcome, (Bridge.bridge Bridge.plainLibraries).play (Bridge.handleStatus pinging) () shared []
      [Bridge.calm, Bridge.calm] = some outcome ∧ outcome.result = .ok status := by
  simp only [pingAfter, Option.bind_eq_some_iff, Option.map_eq_some_iff, Prod.mk.injEq] at after
  obtain ⟨_, _, told, played, _, answered, rfl, rfl⟩ := after
  refine ⟨told, played, ?_⟩
  cases result : told.result with
  | error error =>
      rw [result] at answered
      cases answered
  | ok response =>
      rw [result] at answered
      cases answered
      rfl

theorem paired_agree_sample :
    ∃ shared status, pingAfter Bridge.pairing = some (shared, status) ∧
      (isAlreadyPaired sampleBrowser "https://site.example" status = true ↔
        Bridge.isPairedSite shared "https://site.example" = true) := by
  have ends : (pingAfter Bridge.pairing).map (fun after =>
      Bridge.isPairedSite after.1 "https://site.example") = some true := by decide +kernel
  obtain ⟨⟨shared, status⟩, after, paired⟩ := Option.map_eq_some_iff.mp ends
  obtain ⟨outcome, played, answered⟩ := pingAfter_played after
  exact ⟨shared, status, after, (paired_agree_iff Bridge.plainLibraries sampleBrowser_origin pinging
    rfl shared [Bridge.calm, Bridge.calm] outcome status played answered).mpr fun _ => paired⟩

/-- Paired with a slash, the script takes the site for paired and the bridge does not. -/
theorem paired_by_slash :
    ¬ ∀ (browser : Browser) (page : String), IsOrigin browser page →
      ∀ (lib : Bridge.Libraries) (request : Bridge.HttpRequest), request.method = "GET" →
      ∀ (shared : Bridge.Shared) (script : List Bridge.Oracle)
        (outcome : (Bridge.bridge lib).Outcome Bridge.Response) (status : Bridge.Response),
      (Bridge.bridge lib).play (Bridge.handleStatus request) () shared [] script = some outcome →
      outcome.result = .ok status →
      (isAlreadyPaired browser page status = true ↔ Bridge.isPairedSite shared page = true) := by
  intro agree
  have ends : (pingAfter pairingSlash).map (fun after =>
      (isAlreadyPaired sampleBrowser "https://site.example" after.2,
        Bridge.isPairedSite after.1 "https://site.example")) = some (true, false) := by
    decide +kernel
  simp only [Option.map_eq_some_iff, Prod.mk.injEq] at ends
  obtain ⟨⟨shared, status⟩, after, already, unpaired⟩ := ends
  obtain ⟨outcome, played, answered⟩ := pingAfter_played after
  have paired := (agree sampleBrowser "https://site.example" sampleBrowser_origin
    Bridge.plainLibraries pinging rfl shared [Bridge.calm, Bridge.calm] outcome status played
    answered).mp already
  rw [unpaired] at paired
  cases paired

/-! ### The certificate -/

/-- `fetchSignerCertDer` -/
def fetchSignerCertDer (resp : Bridge.Response) : Except String String :=
  if resp.status < 200 || 299 < resp.status then
    .error "Could not read certificate from the token."
  else
    match resp.body with
    | .certs (cert :: _) =>
        if cert.certDERBase64 == "" then
          .error ("The DSC Bridge on this machine is too old — please update it to receive " ++
            "the cert DER.")
        else .ok cert.certDERBase64
    | _ => .error "No certificate found on the token."

/-- What `initiate` throws at a certificate with another fingerprint. -/
def otherFingerprint (profileName expected presented : String) : Exn := thrown (
  s!"Certificate on token does not match the one registered on DSC Profile {profileName}. " ++
  s!"Expected fingerprint {clip expected 16}…, " ++ s!"got {clip presented 16}….")

section Certificate

variable {lib : Libraries} {bridge : Bridge.Libraries}

/-- What an entry of the list was made of. -/
theorem enumerateCerts_entry {modules : List Bridge.Module} {cert : Bridge.CertInfo}
    (member : cert ∈ Bridge.enumerateCerts bridge modules) :
    ∃ certDer, certDer ≠ [] ∧ cert.fingerprintSHA256 = bridge.fingerprint certDer ∧
      cert.certDERBase64 = Base64.encode certDer := by
  simp only [Bridge.enumerateCerts, List.mem_flatMap] at member
  obtain ⟨ctx, _, slot, _, member⟩ := member
  split at member
  · obtain ⟨object, _, entry⟩ := List.mem_filterMap.mp member
    unfold Bridge.certInfo at entry
    split at entry
    · cases entry
    · rename_i certDer _
      split at entry
      · cases entry
      · rename_i filled
        obtain ⟨parsed, _, rfl⟩ := Option.map_eq_some_iff.mp entry
        exact ⟨certDer, filled, rfl, rfl⟩
  · cases member

/-- The bridge answers with the certificates of all tokens. -/
theorem handleCerts_lists {request : Bridge.HttpRequest} {shared : Bridge.Shared}
    {script : List Bridge.Oracle} {outcome : (Bridge.bridge bridge).Outcome Bridge.Response}
    {resp : Bridge.Response} (get : request.method = "GET")
    (played : (Bridge.bridge bridge).play (Bridge.handleCerts bridge request) () shared [] script =
      some outcome) (answered : outcome.result = .ok resp) :
    resp = Bridge.respond 200 (.certs (Bridge.enumerateCerts bridge shared.tokens)) := by
  unfold Bridge.handleCerts at played
  rw [get] at played
  obtain ⟨_, _, rfl, _, played⟩ := Bridge.play_asked played
  rw [Bridge.reply_memory rfl] at played
  obtain ⟨_, rfl⟩ := play_done.mp played
  cases answered
  rfl

theorem encode_filled {bytes : Bytes} (filled : bytes ≠ []) : Base64.encode bytes ≠ "" := by
  intro blank
  exact filled (Base64.encode_inj (blank.trans rfl))

theorem checkFingerprint_eq (digest : ∀ data, lib.sha256 data ≠ []) {profileName : String}
    {profile : Profile} {registered certDer : Bytes}
    (stored : profile.certificateFingerprint = some (lib.sha256Hex registered)) :
    checkFingerprint lib profileName profile certDer =
      if lib.sha256Hex certDer = lib.sha256Hex registered then .done ()
      else .fail (otherFingerprint profileName (lib.sha256Hex registered)
        (lib.sha256Hex certDer)) := by
  have given : Text.given (some (lib.sha256Hex registered)) = true :=
    hex_given (digest registered)
  unfold checkFingerprint
  simp only [stored, given, Bool.true_and]
  by_cases same : lib.sha256Hex certDer = lib.sha256Hex registered
  · rw [if_pos same, same]
    simp [demand, Program.demand]
  · rw [if_neg same]
    have distinct : (some (lib.sha256Hex registered) != some (lib.sha256Hex certDer)) = true := by
      simpa using fun equal => same equal.symm
    rw [distinct]
    rfl

/-- Where the list of the bridge holds the registered certificate, the script presents the
first certificate of the list, and `initiate` takes it where it is the registered one. -/
theorem first_certificate_presented (agreed : bridge.sha256 = lib.sha256)
    (digest : ∀ data, lib.sha256 data ≠ []) (request : Bridge.HttpRequest)
    (get : request.method = "GET") (shared : Bridge.Shared) (script : List Bridge.Oracle)
    (outcome : (Bridge.bridge bridge).Outcome Bridge.Response) (resp : Bridge.Response)
    (played : (Bridge.bridge bridge).play (Bridge.handleCerts bridge request) () shared [] script =
      some outcome) (answered : outcome.result = .ok resp) (profileName : String)
    (profile : Profile) (registered : Bytes)
    (stored : profile.certificateFingerprint = some (lib.sha256Hex registered))
    (listed : ∃ cert ∈ Bridge.enumerateCerts bridge shared.tokens,
      cert.certDERBase64 = Base64.encode registered) :
    ∃ first rest certDer, Bridge.enumerateCerts bridge shared.tokens = first :: rest ∧
      fetchSignerCertDer resp = .ok first.certDERBase64 ∧
      b64decode first.certDERBase64 = .ok certDer ∧
      checkFingerprint lib profileName profile certDer =
        if first.fingerprintSHA256 = lib.sha256Hex registered then .done ()
        else .fail (otherFingerprint profileName (lib.sha256Hex registered)
          first.fingerprintSHA256) := by
  rw [handleCerts_lists get played answered]
  obtain ⟨cert, member, _⟩ := listed
  obtain ⟨first, rest, certs⟩ := List.exists_cons_of_ne_nil (List.ne_nil_of_mem member)
  obtain ⟨certDer, filled, fingerprint, encoded⟩ :=
    enumerateCerts_entry (show first ∈ Bridge.enumerateCerts bridge shared.tokens by simp [certs])
  have presented : first.fingerprintSHA256 = lib.sha256Hex certDer := by
    rw [fingerprint, Bridge.Libraries.fingerprint, agreed]
    rfl
  refine ⟨first, rest, certDer, certs, ?_, ?_, ?_⟩
  · rw [certs]
    have nonempty : (first.certDERBase64 == "") = false := by
      rw [encoded]
      simpa using encode_filled filled
    simp [fetchSignerCertDer, Bridge.respond, nonempty]
  · rw [encoded, b64decode, Base64.decode_encode]
  · rw [checkFingerprint_eq digest stored, presented]

end Certificate

def twoCertificates (first second : Bytes) : Bridge.Shared :=
  { Bridge.besideOther with tokens :=
      [{ path := "/usr/lib/token.so"
         slots := some
          [{ number := 0
             info := some ("Token", "01")
             openSession := none
             login := fun _ => none
             objects := [.certificate ⟨.ok first, false⟩, .certificate ⟨.ok second, false⟩] }] }] }

def listing : Bridge.HttpRequest := { pinging with path := "/v1/certs" }

/-- What the bridge answers to the script at this token. -/
theorem listing_played (first second : Bytes) :
    (Bridge.bridge sampleBridge).play (Bridge.handleCerts sampleBridge listing) ()
        (twoCertificates first second) [] [Bridge.calm] =
      some ⟨.ok (Bridge.respond 200 (.certs
          (Bridge.enumerateCerts sampleBridge (twoCertificates first second).tokens))),
        (), twoCertificates first second,
        [⟨.tokens, .ok (twoCertificates first second).tokens, 0⟩]⟩ := rfl

theorem hashing_nonempty (data : Bytes) : hashingLibraries.sha256 data ≠ [] := by
  intro empty
  have size := sampleSha256_length data
  rw [show sampleSha256 data = [] from empty] at size
  cases size

def certifiedProfile (registered : Bytes) : Profile :=
  { profileName := "P-1"
    label := some "Director"
    isActive := true
    allowedUsers := []
    certificateFingerprint := some (hashingLibraries.sha256Hex registered)
    certificateCommonName := some "A Signer"
    certificateNotAfter := none
    designationForStamp := none }

theorem first_certificate_sample :
    ∃ first rest certDer,
      Bridge.enumerateCerts sampleBridge (twoCertificates [1, 2, 3] [4]).tokens = first :: rest ∧
      fetchSignerCertDer (Bridge.respond 200 (.certs (Bridge.enumerateCerts sampleBridge
        (twoCertificates [1, 2, 3] [4]).tokens))) = .ok first.certDERBase64 ∧
      b64decode first.certDERBase64 = .ok certDer ∧
      checkFingerprint hashingLibraries "P-1" (certifiedProfile [1, 2, 3]) certDer =
        if first.fingerprintSHA256 = hashingLibraries.sha256Hex [1, 2, 3] then .done ()
        else .fail (otherFingerprint "P-1" (hashingLibraries.sha256Hex [1, 2, 3])
          first.fingerprintSHA256) :=
  first_certificate_presented rfl hashing_nonempty listing rfl (twoCertificates [1, 2, 3] [4])
    [Bridge.calm] _ _ (listing_played [1, 2, 3] [4]) rfl "P-1" (certifiedProfile [1, 2, 3]) [1, 2, 3]
    rfl ⟨_, List.mem_cons_self, rfl⟩

/-- The registered certificate is the second one of the token, and `initiate` throws at
the one that the script presents. -/
theorem second_certificate_refused :
    ¬ ∀ (lib : Libraries) (bridge : Bridge.Libraries), bridge.sha256 = lib.sha256 →
      (∀ data, lib.sha256 data ≠ []) → ∀ request : Bridge.HttpRequest, request.method = "GET" →
      ∀ (shared : Bridge.Shared) (script : List Bridge.Oracle)
        (outcome : (Bridge.bridge bridge).Outcome Bridge.Response) (resp : Bridge.Response),
      (Bridge.bridge bridge).play (Bridge.handleCerts bridge request) () shared [] script =
        some outcome → outcome.result = .ok resp →
      ∀ (profileName : String) (profile : Profile) (registered : Bytes),
      profile.certificateFingerprint = some (lib.sha256Hex registered) →
      (∃ cert ∈ Bridge.enumerateCerts bridge shared.tokens,
        cert.certDERBase64 = Base64.encode registered) →
      fetchSignerCertDer resp = .ok (Base64.encode registered) ∧
        checkFingerprint lib profileName profile registered = .done () := by
  intro presents
  have both := presents hashingLibraries sampleBridge rfl hashing_nonempty listing rfl
    (twoCertificates [4] [1, 2, 3]) [Bridge.calm] _ _ (listing_played [4] [1, 2, 3]) rfl "P-1"
    (certifiedProfile [1, 2, 3]) [1, 2, 3] rfl ⟨_, List.mem_cons_of_mem _ List.mem_cons_self, rfl⟩
  exact absurd both.1 (by decide +kernel)

end DscSigning
