/-
What stands behind a document that a page calls signed: one call of `initiate`,
one of the agent on the computer of the user and one of `finalize`, which belong
to this flow and to no other.
-/

import DscSigning.Handshake.FlowRules
import DscSigning.Handshake.Installation
import DscSigning.Server.Completion

namespace DscSigning.Page

open Interaction Clients

variable {lib : AgentApi.Libraries} {bridge : Bridge.Libraries} {platform : Platform}
  {ports : Nat → Int}

section Answers

variable {system : (desk lib bridge platform ports).System} (genuine : system.Genuine) {index : Nat}
  {client : (desk lib bridge platform ports).Client} (located : system.clients[index]? = some client)

include genuine located

/-- An answer of the signing endpoints is the end of a call of the page's own user. -/
theorem signing_answered {endpoint : Endpoint} {answer : Response}
    (told : Told client.trace (.signing endpoint) answer) :
    ∃ call, system.Ended ⟨.signing, call⟩ ⟨client.who.window.ctx, endpoint⟩ (.ok answer) ∧
      ⟨.signing, call⟩ ∈ client.places := by
  obtain ⟨stamp, member⟩ := told
  rcases heard_cases (genuine.heard index client located _ member) with
    ⟨own, _⟩ | ⟨⟨peer, call⟩, origin, result, sends, ended, stamped, reply⟩ |
    ⟨message, error, _, reply⟩
  · cases own
  · cases sends
    cases result with
    | error exn => cases reply
    | ok response =>
        cases reply
        exact ⟨call, ended, List.mem_append_right _ (List.mem_filterMap.mpr ⟨_, member, stamped⟩)⟩
  · cases reply

/-- An answer of an agent is the end of a call on the computer of the page. -/
theorem fetch_answered {port : Int} {request : Bridge.HttpRequest} {resp : Bridge.Response}
    (told : Told client.trace (.fetch port request) resp) :
    ∃ call, system.Ended ⟨.machine client.who.window.machine, call⟩ (.http request) (.ok resp) ∧
      resp.allowOrigin = some client.who.window.origin ∧
      ⟨.machine client.who.window.machine, call⟩ ∈ client.places := by
  obtain ⟨stamp, member⟩ := told
  rcases heard_cases (genuine.heard index client located _ member) with
    ⟨_, possible⟩ | ⟨⟨peer, call⟩, origin, result, sent, ended, stamped, reply⟩ |
    ⟨message, error, _, reply⟩
  · cases possible
  · simp only [sends] at sent
    split at sent
    · cases sent
      cases result with
      | error error => cases reply
      | ok response =>
          simp only [receives, readable] at reply
          split at reply
          · rename_i allowed
            cases reply
            exact ⟨call, ended, allowed,
              List.mem_append_right _ (List.mem_filterMap.mpr ⟨_, member, stamped⟩)⟩
          · cases reply
    · cases sent
  · cases reply

omit genuine located in
theorem local_sends (visit : Visit) {operation : Operation} (isLocal : operation.isLocal = true) :
    sends lib bridge ports visit operation = none := by
  cases operation <;> first | rfl | cases isLocal

/-- Nothing local fails. -/
theorem not_faulted : ¬ Faulted client.trace := by
  rintro ⟨event, member, isLocal, error, failed⟩
  have own : sends lib bridge ports client.who event.query = none := local_sends client.who isLocal
  rcases heard_cases (genuine.heard index client located event member) with
    ⟨_, possible⟩ | ⟨place, origin, result, sent, _⟩ | ⟨message, error, sent, _⟩
  · rw [failed] at possible
    simp only [tells, isLocal, Bool.not_true] at possible
    cases possible
  · cases own.symm.trans sent
  · cases own.symm.trans sent

end Answers

/-! ### The rules of the pages -/

/-- A question that takes part in a signing. -/
def Operation.signs : Operation → Bool
  | .fetch _ request => request.signBody.isSome
  | .signing (.initiate _) => true
  | .signing (.finalize _) => true
  | .signing (.abortInProgress ..) => true
  | _ => false

section Modest

variable {window : Window}

def Modest (operation : Operation) : Prop := operation.signs = false

theorem pingAgent_modest (port : Int) : (pingAgent window port).Uses Modest :=
  Program.Uses.recover (Program.Uses.bind (Program.Uses.perform rfl) fun _ => trivial) fun _ => trivial

theorem pairingCode_modest : (pairingCode window).Uses Modest := by
  refine Program.Uses.bind (Program.Uses.recover (Program.Uses.perform rfl) fun _ => trivial) ?_
  intro response
  cases response <;> trivial

theorem ensurePairedForm_modest : (ensurePairedForm platform window).Uses Modest := by
  refine Program.Uses.bind (pingAgent_modest _) fun found => ?_
  cases found with
  | none => trivial
  | some status =>
      show (if _ then _ else _ : Script Unit).Uses Modest
      split
      · trivial
      · refine Program.Uses.bind pairingCode_modest fun codeResp => ?_
        refine Program.Uses.bind (Program.Uses.perform rfl) fun resp => ?_
        split <;> trivial

theorem fetchTokenCerts_modest : (fetchTokenCerts platform window).Uses Modest := by
  refine Program.Uses.bind ?_ fun siteToken => ?_
  · exact Program.Uses.bind (Program.Uses.perform rfl) fun _ => trivial
  · refine Program.Uses.bind (Program.Uses.recover (Program.Uses.perform rfl) fun _ => trivial) ?_
    intro resp
    split
    · trivial
    · split
      · trivial
      · split <;> trivial

theorem registerSelected_modest (profileName : String) (cert : Option Bridge.CertInfo) :
    (registerSelected profileName cert).Uses Modest := by
  unfold registerSelected
  split
  · exact Program.Uses.perform rfl
  · split
    · exact Program.Uses.perform rfl
    · refine Program.Uses.recover (Program.Uses.bind (Program.Uses.perform rfl) fun response => ?_)
        fun _ => trivial
      cases response with
      | registered registered =>
          exact Program.Uses.bind (Program.Uses.perform rfl) fun _ => Program.Uses.perform rfl
      | _ => trivial

theorem registerCertificateFromToken_modest (profileName : String) :
    (registerCertificateFromToken platform window profileName).Uses Modest := by
  have lists : (tokenCerts platform window).Uses Modest :=
    Program.Uses.bind ensurePairedForm_modest fun _ => fetchTokenCerts_modest
  refine Program.Uses.bind (Program.Uses.recover (Program.Uses.bind lists fun _ => trivial)
    fun err => Program.Uses.bind (Program.Uses.perform rfl) fun _ => trivial) ?_
  intro certs
  split
  · trivial
  · exact registerSelected_modest profileName _
  · exact Program.Uses.bind (Program.Uses.perform rfl) fun _ => registerSelected_modest profileName _

theorem pairThisComputer_modest : (pairThisComputer platform window).Uses Modest := by
  refine Program.Uses.bind ?_ fun port => Program.Uses.recover ?_ fun _ => Program.Uses.perform rfl
  · exact Program.Uses.recover (Program.Uses.bind (Program.Uses.perform rfl) fun _ => trivial)
      fun _ => trivial
  · refine Program.Uses.bind (pingAgent_modest _) fun found => ?_
    cases found with
    | none => trivial
    | some status =>
        refine Program.Uses.bind (Program.Uses.perform rfl) fun response => ?_
        cases response with
        | code codeResp =>
            show (if _ then _ else _ : Script Unit).Uses Modest
            split
            · trivial
            · refine Program.Uses.bind (Program.Uses.perform rfl) fun resp => ?_
              split
              · exact Program.Uses.perform rfl
              · trivial
        | _ => trivial

theorem checkAgain_modest (port : Int) : (checkAgain window port).Uses Modest := by
  refine Program.Uses.bind (pingAgent_modest _) fun found => ?_
  cases found <;> exact Program.Uses.perform rfl

theorem retryLastFailed_modest (target : String) : (retryLastFailed target).Uses Modest := by
  refine Program.Uses.bind (Program.Uses.perform rfl) fun ok => ?_
  split
  · refine Program.Uses.recover (Program.Uses.bind (Program.Uses.perform rfl) fun _ => ?_)
      fun _ => trivial
    exact Program.Uses.bind (Program.Uses.perform rfl) fun _ => Program.Uses.perform rfl
  · trivial

end Modest

/-- A signing flow keeps to the rules of signing flows, and nothing else on a page signs. -/
def PageRule (platform : Platform) (visit : Visit) (trace : Trace face (Option (peers lib bridge).Place))
    (operation : Operation) : Prop :=
  match visit.handler with
  | .startSigningFlow doctype docname agentPort =>
      Allowed platform visit.window doctype docname (portOr agentPort) trace operation
  | _ => Modest operation

def PageEnds (platform : Platform) (visit : Visit) (trace : Trace face (Option (peers lib bridge).Place))
    (result : Except JsError Unit) : Prop :=
  match visit.handler with
  | .startSigningFlow _ _ agentPort =>
      (result = .ok () ∧ Finished platform visit.window (portOr agentPort) trace) ∨ Faulted trace
  | _ => True

theorem serve_follows (visit : Visit) :
    (serve platform visit).Follows (@PageRule lib bridge platform visit)
      (PageEnds platform visit) [] := by
  have modest (program : Script Unit)
      (uses : program.Uses Modest) :
      program.Follows (fun (_ : Trace face (Option (peers lib bridge).Place)) => Modest)
        (fun _ _ => True) [] :=
    (Program.Uses.follows uses [] fun _ _ kind => kind).weaken fun _ _ _ _ => trivial
  obtain ⟨window, handler⟩ := visit
  cases handler with
  | startSigningFlow doctype docname agentPort => exact startSigningFlow_follows agentPort
  | checkAgain port => exact modest _ (checkAgain_modest port)
  | retryLastFailed target => exact modest _ (retryLastFailed_modest target)
  | registerCertificateFromToken profileName =>
      exact modest _ (registerCertificateFromToken_modest profileName)
  | pairThisComputer => exact modest _ pairThisComputer_modest

section Flows

variable {start : Start} {labels : List (desk lib bridge platform ports).Label}
  {system : (desk lib bridge platform ports).System}

theorem flow_rules (ran : Runs.run step (opened (start.worlds lib bridge)) labels = some system)
    {index : Nat} {client : (desk lib bridge platform ports).Client}
    (located : system.clients[index]? = some client) {window : Window} {doctype docname : String}
    {agentPort : Int} (flow : client.who = ⟨window, .startSigningFlow doctype docname agentPort⟩) :
    Honours (Allowed platform window doctype docname (portOr agentPort)) client.trace ∧
      client.program.Follows (Allowed platform window doctype docname (portOr agentPort))
        (fun later result => (result = .ok () ∧ Finished platform window (portOr agentPort) later) ∨
          Faulted later) client.trace := by
  have disciplined := run_disciplined (@serve_follows lib bridge platform) ran index client located
  rw [Client.Disciplined, flow] at disciplined
  exact disciplined

/-- The questions of a signing flow come in their order, each critical one at most once and
none without what it rests on, and the flow ends in one of its three ways. -/
theorem flow_in_order (lib : AgentApi.Libraries) (bridge : Bridge.Libraries) (platform : Platform)
    (ports : Nat → Int) (start : Start) (labels : List (desk lib bridge platform ports).Label)
    (system : (desk lib bridge platform ports).System)
    (ran : Runs.run step (opened (start.worlds lib bridge)) labels = some system) (index : Nat)
    (client : (desk lib bridge platform ports).Client)
    (located : system.clients[index]? = some client) (window : Window) (doctype docname : String)
    (agentPort : Int) (flow : client.who = ⟨window, .startSigningFlow doctype docname agentPort⟩) :
    (∀ newer event older, client.trace = newer ++ event :: older → stage event.query ≠ 0 →
      ∀ earlier ∈ older, stage earlier.query < stage event.query) ∧
    (∀ newer event older, client.trace = newer ++ event :: older →
      Grounds platform window doctype docname (portOr agentPort) older event.query) ∧
    (∀ value, client.program = .done value →
      Finished platform window (portOr agentPort) client.trace) ∧
    ∀ error, client.program ≠ .fail error := by
  obtain ⟨honours, follows⟩ := flow_rules ran located flow
  have unfaulted := not_faulted (run_genuine ran) located
  have permitted (newer : Trace face (Option (peers lib bridge).Place))
      (event : Event face (Option (peers lib bridge).Place))
      (older : Trace face (Option (peers lib bridge).Place))
      (split : client.trace = newer ++ event :: older) :
      Allowed platform window doctype docname (portOr agentPort) older event.query := by
    rw [split] at honours
    exact (honours.suffix (List.suffix_append newer _)).1
  refine ⟨fun newer event older split critical => (permitted newer event older split).1 critical,
    fun newer event older split => (permitted newer event older split).2, fun value ended => ?_,
    fun error ended => ?_⟩
  · rw [ended] at follows
    rcases follows with ⟨_, finished⟩ | faulted
    · exact finished
    · exact absurd faulted unfaulted
  · rw [ended] at follows
    rcases follows with ⟨impossible, _⟩ | faulted
    · cases impossible
    · exact absurd faulted unfaulted

/-- A signature of the agent is one of the token, for the hash and with the PIN of the request. -/
theorem token_signed {began : Int} {tokens : List Bridge.Module}
    {agentLabels : List (Bridge.BridgeLabel bridge)} {world : Bridge.BridgeWorld bridge}
    (reached : Engine.run (Bridge.body bridge) (Bridge.started bridge began tokens) agentLabels =
      some world) {index : Nat} {call : (Bridge.bridge bridge).Call Bridge.Origin Bridge.Response}
    (located : world.calls[index]? = some call) {siteToken : String} {req : Bridge.SignRequest}
    {window : Window} (origin : call.origin = .http (signRequest window siteToken req))
    (filled : req.pin ≠ "") {answer : Bridge.Response} {relayed : Bridge.SignResponse}
    (ended : call.phase = .ended (.ok answer)) (body : answer.body = .signed relayed) :
    ∃ id hashBytes signing signature certDER stamp,
      world.Asked index ⟨.signHash id req.expectedFingerprint hashBytes req.pin, .ok signing, stamp⟩ ∧
      Bridge.hexDecode req.hashToSign = some hashBytes ∧ signing.result = .ok (signature, certDER) ∧
      relayed.signatureBytesB64 = Base64.encode (bridge.signatureValue signature) := by
  obtain ⟨honours, ends⟩ := Bridge.run_permitted reached index call located
  simp only [ended] at ends
  obtain ⟨request, asked, id, hashBytes, pin, signing, signature, certDER, same, sent,
    ⟨stamp, invoked⟩, made, value, _⟩ := ends answer relayed rfl body
  rw [origin] at same
  cases same
  cases sent
  obtain ⟨earlier, suffix, _, _, allowed⟩ := honours.of_mem invoked
  have sameRequest := allowed.call
  rw [origin] at sameRequest
  cases sameRequest
  have sameBody := allowed.body
  cases sameBody
  rcases allowed.supplied with ⟨_, given⟩ | ⟨blank, _⟩
  · subst given
    exact ⟨id, hashBytes, signing, signature, certDER, stamp, ⟨call, located, invoked⟩,
      allowed.decoded, made, value⟩
  · exact absurd blank filled

/-- One signing of a document from the page, through the agent, to the record of the site. -/
structure SignedDocument (system : (desk lib bridge platform ports).System) (window : Window)
    (doctype docname : String) where
  prepared : Nat
  signed : Nat
  finalized : Nat
  arguments : InitiateArguments
  response : InitiateResponse
  siteToken : String
  pin : String
  answer : Bridge.Response
  relayed : Bridge.SignResponse
  outcome : FinalizeResponse
  token : Bridge.Signature
  document : arguments.doctype = doctype ∧ arguments.docname = docname
  prepares : system.Ended ⟨.signing, prepared⟩ ⟨window.ctx, .initiate arguments⟩
    (.ok (.initiated response))
  agentSigns : system.Ended ⟨.machine window.machine, signed⟩
    (.http (signRequest window siteToken (callAgent response pin))) (.ok answer)
  body : answer.body = .signed relayed
  finalizes : system.Ended ⟨.signing, finalized⟩
    ⟨window.ctx, .finalize (finalizeArguments response relayed)⟩ (.ok (.finalized outcome))
  recorded : Recorded lib.toLibraries (system.worlds .signing) finalized window.ctx
    (finalizeArguments response relayed) outcome.signingRequest
  creator : recorded.creator = prepared
  request : outcome.signingRequest = response.signingRequest
  tokenSigns : ∃ id fingerprint signing certDER stamp,
    (system.worlds (.machine window.machine)).Asked signed
      ⟨.signHash id fingerprint (lib.sha256 recorded.session.signedAttrs) pin, .ok signing, stamp⟩ ∧
    signing.result = .ok (token, certDER)
  value : recorded.evidence.signatureBytes = Base64.encode (bridge.signatureValue token)

/-- A page calls a document signed only when the token on its computer has signed the attributes
of the session that its own `initiate` had prepared, with the PIN typed there, and the site has
recorded that signature for the user of the page; the three calls belong to no other page. -/
theorem done_was_signed (lib : AgentApi.Libraries) (bridge : Bridge.Libraries)
    (platform : Platform) (ports : Nat → Int) (start : Start)
    (labels : List (desk lib bridge platform ports).Label)
    (system : (desk lib bridge platform ports).System)
    (ran : Runs.run step (opened (start.worlds lib bridge)) labels = some system) (index : Nat)
    (client : (desk lib bridge platform ports).Client)
    (located : system.clients[index]? = some client) (window : Window) (doctype docname : String)
    (agentPort : Int) (flow : client.who = ⟨window, .startSigningFlow doctype docname agentPort⟩)
    (message : String) (said : Asked client.trace (.setState .done message)) :
    ∃ signing : SignedDocument system window doctype docname,
      Told client.trace .promptForPIN (some signing.pin) ∧
      ∀ place ∈ [⟨.signing, signing.prepared⟩, ⟨.machine window.machine, signing.signed⟩,
          (⟨.signing, signing.finalized⟩ : (peers lib bridge).Place)],
        place ∈ client.places ∧ ∀ other page, system.clients[other]? = some page →
          place ∈ page.places → other = index := by
  have genuine := run_genuine ran
  obtain ⟨honours, _⟩ := flow_rules ran located flow
  obtain ⟨event, member, saying⟩ := said
  obtain ⟨earlier, suffix, _, grounds⟩ := honours.of_mem member
  rw [saying] at grounds
  obtain ⟨response, relayed, outcome, ⟨⟨arguments, initiated⟩, pin, siteToken, answer, typed, filled,
    sent, _, body⟩, concluded⟩ := grounds
  have within : earlier <:+ client.trace := (List.suffix_cons _ _).trans suffix
  -- The three answers are the ends of three calls.
  obtain ⟨prepared, prepares, preparedHere⟩ :=
    signing_answered genuine located (initiated.mono within)
  obtain ⟨finalized, finalizes, finalizedHere⟩ :=
    signing_answered genuine located (concluded.mono within)
  obtain ⟨signed, agentSigns, _, signedHere⟩ := fetch_answered genuine located (sent.mono within)
  have page : client.who.window = window := by rw [flow]
  rw [page] at prepares finalizes agentSigns signedHere
  have document : arguments.doctype = doctype ∧ arguments.docname = docname := by
    obtain ⟨_, asked⟩ := initiated.mono within
    obtain ⟨_, _, _, sameType, sameName, _⟩ := honours.of_mem asked
    exact ⟨sameType, sameName⟩
  -- What they have done at the site and at the agent.
  obtain ⟨siteLabels, siteRan, _⟩ := run_world ran Peer.signing
  obtain ⟨agentLabels, agentRan, _⟩ := run_world ran (Peer.machine window.machine)
  obtain ⟨preparing, preparedAt, _, preparedPhase⟩ := prepares
  obtain ⟨finishing, finishedAt, finishedOrigin, finishedPhase⟩ := finalizes
  obtain ⟨signingCall, signedAt, signedOrigin, signedPhase⟩ := agentSigns
  obtain ⟨session, stored, named, hashed⟩ := run_initiated siteRan preparedAt preparedPhase
  obtain ⟨recorded⟩ := run_recorded siteRan finishedAt finishedOrigin finishedPhase
  obtain ⟨traced, _⟩ := run_traced (fun _ => True) trivial (fun _ _ _ _ _ _ _ => trivial)
    (Engine.along_always (DscSigning.body lib.toLibraries)) siteRan
  obtain ⟨creator, same⟩ := traced.creator_unique recorded.created stored
  obtain ⟨id, hashBytes, signing, token, certDER, stamp, asked, decoded, made, value⟩ :=
    token_signed agentRan signedAt signedOrigin filled signedPhase body
  have digest : hashBytes = lib.sha256 recorded.session.signedAttrs := by
    change Bridge.hexDecode response.hashToSign = some hashBytes at decoded
    rw [hashed, ← same, Libraries.sha256Hex, Bridge.hexDecode_hex] at decoded
    exact (Option.some.inj decoded).symm
  rw [digest] at asked
  refine ⟨{
    prepared := prepared
    signed := signed
    finalized := finalized
    arguments := arguments
    response := response
    siteToken := siteToken
    pin := pin
    answer := answer
    relayed := relayed
    outcome := outcome
    token := token
    document := document
    prepares := ⟨preparing, preparedAt, ‹_›, preparedPhase⟩
    agentSigns := ⟨signingCall, signedAt, signedOrigin, signedPhase⟩
    body := body
    finalizes := ⟨finishing, finishedAt, finishedOrigin, finishedPhase⟩
    recorded := recorded
    creator := creator
    request := by rw [← recorded.named, same, named]
    tokenSigns := ⟨id, _, signing, certDER, stamp, asked, made⟩
    value := recorded.signature.trans value }, typed.mono within, ?_⟩
  have own (place : (peers lib bridge).Place) (here : place ∈ client.places) :
      place ∈ client.places ∧ ∀ other page, system.clients[other]? = some page →
        place ∈ page.places → other = index :=
    ⟨here, fun other page there shared => genuine.apart other index page client there located place
      shared here⟩
  intro place listed
  simp only [List.mem_cons, List.not_mem_nil, or_false] at listed
  rcases listed with rfl | rfl | rfl
  · exact own _ preparedHere
  · exact own _ signedHere
  · exact own _ finalizedHere

end Flows

/-! ### A page that has its document signed -/

def deskLibraries : AgentApi.Libraries :=
  { toLibraries :=
      { hashingLibraries with
        jsonLoads := fun text =>
          if text == "[]" then .ok (.list []) else .error ⟨"JSONDecodeError", "Expecting value"⟩ }
    certificateFields := fun _ => .error ⟨"ValueError", "not a certificate"⟩ }

def deskPlatform : Platform :=
  { toBrowser := sampleBrowser
    rejected := fun exn => ⟨exn.message⟩
    networkError := "Failed to fetch"
    syntaxError := "Unexpected end of JSON input"
    escapeHtml := fun text => text }

def deskWindow : Window :=
  { ctx := sampleUser "alice"
    machine := 0
    protocol := "https:"
    hostname := "site.example"
    origin := "https://site.example"
    geolocation := true
    request := none }

def deskStart : Start :=
  { masters := roundMasters
    now := 0
    zone := 0
    agents := ⟨∅, ∅, some "secret", fun _ => []⟩
    began := fun _ => 0
    tokens := fun _ => roundToken 0 }

abbrev sampleDesk : Clients (peers deskLibraries roundBridge) face :=
  desk deskLibraries roundBridge deskPlatform fun _ => defaultAgentPort

/-- What a user and a browser answer that agree to everything. -/
def consenting (operation : Operation) : face.Reply operation :=
  match operation with
  | .promptForPIN => .ok (some "1234")
  | .getItem _ => .ok none
  | .getCurrentPosition => .ok (.ok ⟨.finite 12, .finite 77, .finite 5⟩)
  | .confirm _ => .ok true
  | .chooseCertificate _ => .ok 0
  | .showProgress .. => .ok ()
  | .setState .. => .ok ()
  | .showBridgeDownload _ => .ok ()
  | .message _ => .ok ()
  | .reloadDoc => .ok ()
  | _ => .error ⟨""⟩

/-- The site, whose map service knows no address. -/
def locatedOracle (sessionId file : String) : Oracle :=
  { roundOracle sessionId file with
    given := fun
      | .reverseGeocode .. => some ⟨none, none, false⟩
      | operation => (roundOracle sessionId file).given operation }

def answering (questions : Nat) : List sampleDesk.Label :=
  List.replicate questions (.tell 0 consenting)

/-- One request to the agent, answered without interruption. -/
def atAgent (index questions : Nat) : List sampleDesk.Label :=
  .send 0 :: (List.replicate questions (.serve (.machine 0) (.ask index Bridge.agreeing)) ++
    [.serve (.machine 0) (.finish index), .receive 0])

def atSite (index questions : Nat) (oracle : Oracle) : List sampleDesk.Label :=
  .send 0 :: (List.replicate questions (.serve .signing (.ask index oracle)) ++
    [.serve .signing (.finish index), .receive 0])

def paired : List sampleDesk.Label :=
  (Bridge.served roundBridge 0 (.http Bridge.pairing) 7 Bridge.agreeing).map fun label =>
    .serve (.machine 0) label

/-- The page pairs nothing, as its computer is paired already. -/
def wholeFlow : List sampleDesk.Label :=
  .serve .signing (.move (.createRequest "SR-1" sampleRequest)) :: (paired ++
    [.enter ⟨deskWindow, .startSigningFlow "Sales Invoice" "INV-1" 0⟩] ++
    atAgent 1 3 ++ answering 2 ++ atAgent 2 3 ++ answering 3 ++ atAgent 3 3 ++ answering 1 ++
    atSite 0 27 (locatedOracle "S-1" "") ++ answering 3 ++ atAgent 4 10 ++ answering 1 ++
    atSite 1 32 (locatedOracle "" "F-1") ++ answering 2)

def saysDone (operation : Operation) : Bool :=
  match operation with
  | .setState .done _ => true
  | _ => false

def hasEnded (program : Script Unit) : Bool :=
  match program with
  | .done _ => true
  | _ => false

theorem hasEnded_done {program : Script Unit} (ended : hasEnded program = true) :
    program = .done () := by
  cases program with
  | done value => rfl
  | _ => cases ended

theorem wholeFlow_shows : showing (deskStart.worlds deskLibraries roundBridge) wholeFlow 0 (fun client =>
    client.who == ⟨deskWindow, .startSigningFlow "Sales Invoice" "INV-1" 0⟩ &&
      hasEnded client.program && client.trace.any fun event => saysDone event.query) = true := by
  decide +kernel

/-- The page of the whole flow says that its document is signed. -/
theorem wholeFlow_done : ∃ system client message,
    Runs.run step (opened (deskStart.worlds deskLibraries roundBridge)) wholeFlow = some system ∧
      system.clients[0]? = some client ∧
      client.who = ⟨deskWindow, .startSigningFlow "Sales Invoice" "INV-1" 0⟩ ∧
      client.program = .done () ∧ Asked client.trace (.setState .done message) := by
  obtain ⟨system, client, ran, located, shows⟩ := showing_client wholeFlow_shows
  simp only [Bool.and_eq_true, beq_iff_eq, List.any_eq_true] at shows
  obtain ⟨⟨flow, ended⟩, ⟨operation, reply, stamp⟩, member, announces⟩ := shows
  cases operation with
  | setState state message =>
      cases state with
      | done =>
          exact ⟨system, client, message, ran, located, flow, hasEnded_done ended, _, member, rfl⟩
      | _ => cases announces
  | _ => cases announces

theorem wholeFlow_was_signed : ∃ system client,
    Runs.run step (opened (deskStart.worlds deskLibraries roundBridge)) wholeFlow = some system ∧
      system.clients[0]? = some client ∧
      ∃ signing : SignedDocument system deskWindow "Sales Invoice" "INV-1",
        Told client.trace .promptForPIN (some signing.pin) ∧
        ∀ place ∈ [⟨.signing, signing.prepared⟩, ⟨.machine 0, signing.signed⟩,
            (⟨.signing, signing.finalized⟩ : (peers deskLibraries roundBridge).Place)],
          place ∈ client.places ∧ ∀ other page, system.clients[other]? = some page →
            place ∈ page.places → other = 0 := by
  obtain ⟨system, client, message, ran, located, flow, _, said⟩ := wholeFlow_done
  exact ⟨system, client, ran, located, done_was_signed deskLibraries roundBridge deskPlatform _
    deskStart wholeFlow system ran 0 client located deskWindow "Sales Invoice" "INV-1" 0 flow
    message said⟩

theorem wholeFlow_in_order : ∃ system client,
    Runs.run step (opened (deskStart.worlds deskLibraries roundBridge)) wholeFlow = some system ∧
      system.clients[0]? = some client ∧
      (∀ newer event older, client.trace = newer ++ event :: older → stage event.query ≠ 0 →
        ∀ earlier ∈ older, stage earlier.query < stage event.query) ∧
      (∀ newer event older, client.trace = newer ++ event :: older →
        Grounds deskPlatform deskWindow "Sales Invoice" "INV-1" (portOr 0) older event.query) ∧
      (∀ value, client.program = .done value →
        Finished deskPlatform deskWindow (portOr 0) client.trace) ∧
      ∀ error, client.program ≠ .fail error := by
  obtain ⟨system, client, message, ran, located, flow, _, said⟩ := wholeFlow_done
  exact ⟨system, client, ran, located, flow_in_order deskLibraries roundBridge deskPlatform _
    deskStart wholeFlow system ran 0 client located deskWindow "Sales Invoice" "INV-1" 0 flow⟩

end DscSigning.Page
