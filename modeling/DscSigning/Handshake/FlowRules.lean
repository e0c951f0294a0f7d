/-
What the signing script asks, whatever it is told.

Its critical questions come in one order, each at most once, and every one of
them rests on what the script was told before.  A flow that has come to its end
has said that the document is signed, or has said what went wrong and asked the
server to abort what it had prepared.
-/

import DscSigning.Handshake.SigningFlow

namespace DscSigning.Page

open Interaction Program

variable {Stamp : Type}

/-- The operation was answered so. -/
def Told (trace : Trace face Stamp) (operation : Operation) (answer : operation.Answer) : Prop :=
  ∃ stamp, (⟨operation, .ok answer, stamp⟩ : Event face Stamp) ∈ trace

def Asked (trace : Trace face Stamp) (operation : Operation) : Prop :=
  ∃ event ∈ trace, event.query = operation

theorem Told.mono {trace later : Trace face Stamp} {operation : Operation}
    {answer : operation.Answer} (told : Told trace operation answer) (suffix : trace <:+ later) :
    Told later operation answer := by
  obtain ⟨stamp, member⟩ := told
  exact ⟨stamp, suffix.subset member⟩

theorem Asked.mono {trace later : Trace face Stamp} {operation : Operation}
    (asked : Asked trace operation) (suffix : trace <:+ later) : Asked later operation := by
  obtain ⟨event, member, same⟩ := asked
  exact ⟨event, suffix.subset member, same⟩

theorem told_cons (trace : Trace face Stamp) (operation : Operation) (answer : operation.Answer)
    (stamp : Stamp) : Told (⟨operation, .ok answer, stamp⟩ :: trace) operation answer :=
  ⟨stamp, List.mem_cons_self⟩

/-- The server has answered `initiate` so. -/
def Initiated (trace : Trace face Stamp) (response : InitiateResponse) : Prop :=
  ∃ arguments, Told trace (.signing (.initiate arguments)) (.initiated response)

theorem Initiated.mono {trace later : Trace face Stamp} {response : InitiateResponse}
    (initiated : Initiated trace response) (suffix : trace <:+ later) :
    Initiated later response := by
  obtain ⟨arguments, told⟩ := initiated
  exact ⟨arguments, told.mono suffix⟩

/-- The page itself has failed at something, which it does not. -/
def Faulted (trace : Trace face Stamp) : Prop :=
  ∃ event ∈ trace, event.query.isLocal = true ∧ ∃ error, event.reply = .error error

theorem faulted_cons (trace : Trace face Stamp) {operation : Operation}
    (isLocal : operation.isLocal = true) (error : JsError) (stamp : Stamp) :
    Faulted (⟨operation, .error error, stamp⟩ :: trace) :=
  ⟨_, List.mem_cons_self, isLocal, error, rfl⟩

theorem Faulted.mono {trace later : Trace face Stamp} (faulted : Faulted trace)
    (suffix : trace <:+ later) : Faulted later := by
  obtain ⟨event, member, failed⟩ := faulted
  exact ⟨event, suffix.subset member, failed⟩

/-! ### The order -/

/-- The place of a critical question in a flow, and zero for the others. -/
def stage : Operation → Nat
  | .confirm _ => 1
  | .agentApi _ => 2
  | .fetch _ request =>
      if request.pairBody.isSome then 3
      else if request.path == "/v1/certs" then 5
      else if request.signBody.isSome then 8
      else 0
  | .getCurrentPosition => 4
  | .signing (.initiate _) => 6
  | .promptForPIN => 7
  | .signing (.finalize _) => 9
  | .setState .done _ => 10
  | .setState .error _ => 11
  | .signing (.abortInProgress ..) => 12
  | _ => 0

/-- No critical question has been asked from this place of the order on. -/
def Below (trace : Trace face Stamp) (bound : Nat) : Prop :=
  ∀ event ∈ trace, stage event.query < bound

theorem below_cons {trace : Trace face Stamp} {bound : Nat} (below : Below trace bound)
    {event : Event face Stamp} (lower : stage event.query < bound) :
    Below (event :: trace) bound := by
  intro other member
  rcases List.mem_cons.mp member with rfl | older
  · exact lower
  · exact below other older

theorem Below.mono {trace : Trace face Stamp} {bound wider : Nat} (below : Below trace bound)
    (le : bound ≤ wider) : Below trace wider :=
  fun event member => lt_of_lt_of_le (below event member) le

/-! ### What the critical questions rest on -/

variable (platform : Platform) (window : Window) (doctype docname : String) (port : Int)

/-- The location that `initiate` is called with is the one that the browser has given, or
none on a page to which browsers give no location. -/
def Located (trace : Trace face Stamp) (arguments : InitiateArguments) : Prop :=
  if window.isSecure then
    ∃ position, Told trace .getCurrentPosition (.ok position) ∧
      arguments.signerLat = some (.number position.latitude) ∧
      arguments.signerLng = some (.number position.longitude) ∧
      arguments.signerAccuracyM = some (.number position.accuracy)
  else
    arguments.signerLat = some (.text "") ∧ arguments.signerLng = some (.text "") ∧
      arguments.signerAccuracyM = some (.text "")

/-- The user has agreed to a pairing, as the agent does not list the site. -/
structure MayPair (trace : Trace face Stamp) : Prop where
  confirmed : Told trace (.confirm firstTimeQuestion) true
  unpaired : ∃ status, Told trace (.fetch port (getRequest window "/v1/status" "")) status ∧
    isAlreadyPaired platform.toBrowser window.origin status = false

/-- The agent has signed for the answer of `initiate` with the PIN of the user. -/
structure SignedFor (trace : Trace face Stamp) (initiated : InitiateResponse)
    (signed : Bridge.SignResponse) : Prop where
  prepared : Initiated trace initiated
  answered : ∃ pin siteToken resp, Told trace .promptForPIN (some pin) ∧ pin ≠ "" ∧
    Told trace (.fetch port (signRequest window siteToken (callAgent initiated pin))) resp ∧
    isOk resp = true ∧ resp.body = .signed signed

/-- The server has finalized what the agent signed for the answer of `initiate`. -/
def Completed (trace : Trace face Stamp) (initiated : InitiateResponse) : Prop :=
  ∃ signed finalized, SignedFor window port trace initiated signed ∧
    Told trace (.signing (.finalize (finalizeArguments initiated signed))) (.finalized finalized)

/-- What a question of the flow rests on. -/
def Grounds (trace : Trace face Stamp) : Operation → Prop
  | .fetch target request =>
      target = port ∧ request.origin = window.origin ∧
      (∀ body, request.pairBody = some body → MayPair platform window port trace ∧
        ∃ code, Told trace (.agentApi (.generatePairingCode window.request)) (.code code) ∧
          request = pairRequest window ⟨code.pairingCode, window.origin⟩) ∧
      ∀ body, request.signBody = some body → ∃ initiated pin, Initiated trace initiated ∧
        Told trace .promptForPIN (some pin) ∧ pin ≠ "" ∧
        request = signRequest window request.siteToken (callAgent initiated pin)
  | .agentApi endpoint =>
      endpoint = .generatePairingCode window.request ∧ MayPair platform window port trace
  | .signing (.initiate arguments) =>
      arguments.doctype = doctype ∧ arguments.docname = docname ∧ Located window trace arguments ∧
      ∃ siteToken resp, Told trace (.fetch port (getRequest window "/v1/certs" siteToken)) resp ∧
        fetchSignerCertDer resp = .ok arguments.certDerB64
  | .promptForPIN => ∃ initiated, Initiated trace initiated
  | .signing (.finalize arguments) => ∃ initiated signed,
      SignedFor window port trace initiated signed ∧ arguments = finalizeArguments initiated signed
  | .setState .done _ => ∃ initiated, Completed window port trace initiated
  | .setState .error _ => (∀ initiated, ¬ Completed window port trace initiated) ∨ Faulted trace
  | .signing (.abortInProgress signingRequest _) =>
      signingRequest ≠ "" ∧ (∃ initiated, Initiated trace initiated ∧
        initiated.signingRequest = signingRequest) ∧
      ((∀ initiated, ¬ Completed window port trace initiated) ∨ Faulted trace)
  | .signing _ => False
  | _ => True

/-- A question comes in its order and rests on what it has to. -/
def Allowed (trace : Trace face Stamp) (operation : Operation) : Prop :=
  (stage operation ≠ 0 → Below trace (stage operation)) ∧
    Grounds platform window doctype docname port trace operation

/-- A flow ends with the download of the agent, with a signed document, or with an error
and the abort of what the server had prepared. -/
def Finished (trace : Trace face Stamp) : Prop :=
  (∃ target, Asked trace (.showBridgeDownload target)) ∨
  (∃ initiated message, Completed window port trace initiated ∧ Asked trace (.setState .done message)) ∨
  ∃ err, Asked trace (.setState .error (formatError platform err)) ∧
    ∀ initiated, Initiated trace initiated → initiated.signingRequest ≠ "" →
      Asked trace (.signing (.abortInProgress initiated.signingRequest (abortReason err)))

section Rules

variable {platform window doctype docname port}

/-- An operation that rests on nothing is always allowed. -/
theorem allowed_plain {trace : Trace face Stamp} {operation : Operation} (plain : stage operation = 0)
    (free : Grounds platform window doctype docname port trace operation) :
    Allowed platform window doctype docname port trace operation :=
  ⟨fun critical => absurd plain critical, free⟩

theorem not_completed {trace : Trace face Stamp} (below : Below trace 9)
    (initiated : InitiateResponse) : ¬ Completed window port trace initiated := by
  rintro ⟨signed, finalized, _, stamp, member⟩
  exact absurd (below _ member) (lt_irrefl 9)

theorem not_initiated {trace : Trace face Stamp} (below : Below trace 6)
    (initiated : InitiateResponse) : ¬ Initiated trace initiated := by
  rintro ⟨arguments, stamp, member⟩
  exact absurd (below _ member) (lt_irrefl 6)

theorem status_stage (target : Int) :
    stage (.fetch target (getRequest window "/v1/status" "")) = 0 := by
  simp [stage, getRequest]

theorem certs_stage (target : Int) (siteToken : String) :
    stage (.fetch target (getRequest window "/v1/certs" siteToken)) = 5 := by
  simp [stage, getRequest]

theorem pair_stage (target : Int) (body : Bridge.PairRequest) :
    stage (.fetch target (pairRequest window body)) = 3 := by
  simp [stage, pairRequest]

theorem sign_stage (target : Int) (siteToken : String) (body : Bridge.SignRequest) :
    stage (.fetch target (signRequest window siteToken body)) = 8 := by
  simp [stage, signRequest]

theorem pingAgent_follows {bound : Nat} (positive : 0 < bound) {trace : Trace face Stamp}
    (below : Below trace bound) :
    (pingAgent window port).Follows (Allowed platform window doctype docname port)
      (fun later result => Below later bound ∧ ∃ found, result = .ok found ∧
        ∀ status, found = some status →
          Told later (.fetch port (getRequest window "/v1/status" "")) status) trace := by
  have free : Grounds platform window doctype docname port trace
      (.fetch port (getRequest window "/v1/status" "")) :=
    ⟨rfl, rfl, fun _ impossible => (by cases impossible), fun _ impossible => (by cases impossible)⟩
  refine ⟨allowed_plain (status_stage port) free, fun reply stamp => ?_⟩
  have still : Below (⟨.fetch port (getRequest window "/v1/status" ""), reply, stamp⟩ :: trace)
      bound := below_cons below (by rw [status_stage]; exact positive)
  cases reply with
  | error error => exact ⟨still, none, rfl, fun _ impossible => by cases impossible⟩
  | ok resp =>
      refine ⟨still, _, rfl, fun status same => ?_⟩
      split at same
      · cases same
        exact told_cons trace _ _ stamp
      · cases same

theorem getSiteToken_follows {bound : Nat} (positive : 0 < bound) {trace : Trace face Stamp}
    (below : Below trace bound) :
    getSiteToken.Follows (Allowed platform window doctype docname port)
      (fun later _ => Below later bound) trace := by
  refine Follows.perform (allowed_plain rfl trivial) (fun stored stamp => ?_) fun error stamp => ?_
  · exact below_cons below positive
  · exact below_cons below positive

/-- A line of the dialog that ends nothing. -/
theorem setState_follows {Value : Type} {settles : Trace face Stamp → Except JsError Value → Prop}
    {next : Unit → Script Value} {state : Progress} {message : String} {bound : Nat}
    (positive : 0 < bound) (plain : stage (.setState state message) = 0) {trace : Trace face Stamp}
    (below : Below trace bound)
    (free : Grounds platform window doctype docname port trace (.setState state message))
    (onDone : ∀ stamp, Below (⟨.setState state message, .ok (), stamp⟩ :: trace) bound →
      (next ()).Follows (Allowed platform window doctype docname port) settles
        (⟨.setState state message, .ok (), stamp⟩ :: trace))
    (onFail : ∀ later error, Below later bound → settles later (.error error)) :
    ((ask (.setState state message)).bind next).Follows
      (Allowed platform window doctype docname port) settles trace := by
  refine Follows.perform (allowed_plain plain free) (fun answer stamp => ?_) fun error stamp => ?_
  · exact onDone stamp (below_cons below (by rw [plain]; exact positive))
  · exact onFail _ error (below_cons below (by rw [plain]; exact positive))

theorem autoPairBridge_follows (failure : String) {trace : Trace face Stamp}
    (below : Below trace 2) (may : MayPair platform window port trace) :
    (autoPairBridge window failure port).Follows (Allowed platform window doctype docname port)
      (fun later _ => Below later 4) trace := by
  have asks : Allowed platform window doctype docname port trace
      (.agentApi (.generatePairingCode window.request)) := ⟨fun _ => below, rfl, may⟩
  have code : (pairingCode window).Follows (Allowed platform window doctype docname port)
      (fun later result => Below later 3 ∧ MayPair platform window port later ∧
        ∀ response, result = .ok response →
          Told later (.agentApi (.generatePairingCode window.request)) (.code response)) trace := by
    refine ⟨asks, fun reply stamp => ?_⟩
    have still : Below (⟨.agentApi (.generatePairingCode window.request), reply, stamp⟩ :: trace) 3 :=
      below_cons (below.mono (by omega)) (show 2 < 3 by omega)
    have kept : MayPair platform window port
        (⟨.agentApi (.generatePairingCode window.request), reply, stamp⟩ :: trace) := by
      obtain ⟨status, told, unpaired⟩ := may.unpaired
      exact ⟨may.confirmed.mono (List.suffix_cons _ _), status, told.mono (List.suffix_cons _ _),
        unpaired⟩
    cases reply with
    | error error => exact ⟨still, kept, fun _ impossible => by cases impossible⟩
    | ok response =>
        cases response with
        | code response =>
            refine ⟨still, kept, fun other same => ?_⟩
            cases same
            exact told_cons trace _ _ stamp
        | _ => exact ⟨still, kept, fun _ impossible => by cases impossible⟩
  refine Follows.bind code ?_ fun later error _ ended => ended.1.mono (by omega)
  rintro later codeResp - ⟨still, kept, told⟩
  refine Follows.perform ?_ (fun resp stamp => ?_) fun error stamp => ?_
  · refine ⟨fun _ => by rw [pair_stage]; exact still, rfl, rfl, ?_, fun _ impossible => by
      cases impossible⟩
    intro body same
    cases same
    exact ⟨kept, codeResp, told codeResp rfl, rfl⟩
  · have after : Below (⟨.fetch port (pairRequest window ⟨codeResp.pairingCode, window.origin⟩),
        .ok resp, stamp⟩ :: later) 4 :=
      below_cons (still.mono (by omega)) (by rw [pair_stage]; omega)
    split
    · exact after
    · exact after
  · exact below_cons (still.mono (by omega)) (by rw [pair_stage]; omega)

theorem ensurePaired_follows {agentStatus : Bridge.Response} {trace : Trace face Stamp}
    (below : Below trace 1)
    (told : Told trace (.fetch port (getRequest window "/v1/status" "")) agentStatus) :
    (ensurePaired platform window agentStatus port).Follows
      (Allowed platform window doctype docname port) (fun later _ => Below later 4) trace := by
  unfold ensurePaired
  split
  · exact below.mono (by omega)
  · rename_i unpaired
    refine setState_follows (by omega) rfl below trivial (fun stamp still => ?_)
      fun later error still => still.mono (by omega)
    refine Follows.perform ⟨fun _ => still, trivial⟩ (fun ok confirmed => ?_) fun error confirmed => ?_
    · have after : Below (⟨.confirm firstTimeQuestion, .ok ok, confirmed⟩ ::
          ⟨.setState .checkingAgent "Pairing this computer with the site…", .ok (), stamp⟩ :: trace)
          2 := below_cons (still.mono (by omega)) (show 1 < 2 by omega)
      cases ok with
      | true =>
          have may : MayPair platform window port
              (⟨.confirm firstTimeQuestion, .ok true, confirmed⟩ ::
                ⟨.setState .checkingAgent "Pairing this computer with the site…", .ok (), stamp⟩ ::
                  trace) :=
            ⟨told_cons _ _ _ _, agentStatus,
              told.mono ((List.suffix_cons _ _).trans (List.suffix_cons _ _)), by simpa using unpaired⟩
          exact autoPairBridge_follows _ after may
      | false => exact after.mono (by omega)
    · exact below_cons (still.mono (by omega)) (show 1 < 4 by omega)

/-- The coordinates are those of the browser, where browsers give any. -/
def FromBrowser (window : Window) (trace : Trace face Stamp) (coords : Coordinates) : Prop :=
  if window.isSecure then
    ∃ position, Told trace .getCurrentPosition (.ok position) ∧
      coords = ⟨some position.latitude, some position.longitude, some position.accuracy⟩
  else coords = ⟨none, none, none⟩

theorem FromBrowser.mono {trace later : Trace face Stamp} {coords : Coordinates}
    (from_ : FromBrowser window trace coords) (suffix : trace <:+ later) :
    FromBrowser window later coords := by
  unfold FromBrowser at from_ ⊢
  split
  · rename_i secure
    rw [if_pos secure] at from_
    obtain ⟨position, told, same⟩ := from_
    exact ⟨position, told.mono suffix, same⟩
  · rename_i insecure
    rw [if_neg insecure] at from_
    exact from_

theorem captureSignerLocation_follows {trace : Trace face Stamp} (below : Below trace 4) :
    (captureSignerLocation window).Follows (Allowed platform window doctype docname port)
      (fun later result => Below later 5 ∧ ∀ coords, result = .ok coords →
        FromBrowser window later coords) trace := by
  unfold captureSignerLocation
  split
  · exact ⟨below.mono (by omega), fun _ impossible => by cases impossible⟩
  · split
    · rename_i insecure
      refine ⟨below.mono (by omega), fun coords same => ?_⟩
      cases same
      have plain : ¬ window.isSecure = true := by simpa using insecure
      exact (if_neg plain).mpr rfl
    · rename_i secure
      refine Follows.perform ⟨fun _ => below, trivial⟩ (fun found stamp => ?_) fun error stamp => ?_
      · have after : Below (⟨.getCurrentPosition, .ok found, stamp⟩ :: trace) 5 :=
          below_cons (below.mono (by omega)) (show 4 < 5 by omega)
        cases found with
        | ok position =>
            refine ⟨after, fun coords same => ?_⟩
            cases same
            have given : window.isSecure = true := by simpa using secure
            exact (if_pos given).mpr ⟨position, told_cons _ _ _ _, rfl⟩
        | error error => exact ⟨after, fun _ impossible => by cases impossible⟩
      · exact ⟨below_cons (below.mono (by omega)) (show 4 < 5 by omega),
          fun _ impossible => by cases impossible⟩

theorem located {trace : Trace face Stamp} {coords : Coordinates} {arguments : InitiateArguments}
    (from_ : FromBrowser window trace coords) (lat : arguments.signerLat = posted coords.lat)
    (lng : arguments.signerLng = posted coords.lng)
    (accuracy : arguments.signerAccuracyM = posted coords.accuracyM) :
    Located window trace arguments := by
  unfold FromBrowser at from_
  unfold Located
  split
  · rename_i secure
    rw [if_pos secure] at from_
    obtain ⟨position, told, rfl⟩ := from_
    exact ⟨position, told, lat, lng, accuracy⟩
  · rename_i insecure
    rw [if_neg insecure] at from_
    subst from_
    exact ⟨lat, lng, accuracy⟩

theorem readCertificate_follows {trace : Trace face Stamp} (below : Below trace 5) :
    (readCertificate window port).Follows (Allowed platform window doctype docname port)
      (fun later result => Below later 6 ∧ ∀ certDerB64, result = .ok certDerB64 →
        ∃ siteToken resp, Told later (.fetch port (getRequest window "/v1/certs" siteToken)) resp ∧
          fetchSignerCertDer resp = .ok certDerB64) trace := by
  refine Follows.bind (getSiteToken_follows (by omega) below) ?_ fun later error _ ended =>
    ⟨ended.mono (by omega), fun _ impossible => by cases impossible⟩
  intro later siteToken _ still
  refine Follows.perform ?_ (fun resp stamp => ?_) fun error stamp => ?_
  · exact ⟨fun _ => by rw [certs_stage]; exact still, rfl, rfl,
      fun _ impossible => (by cases impossible), fun _ impossible => (by cases impossible)⟩
  · have after : Below (⟨.fetch port (getRequest window "/v1/certs" siteToken), .ok resp, stamp⟩ ::
        later) 6 := below_cons (still.mono (by omega)) (by rw [certs_stage]; omega)
    cases chosen : fetchSignerCertDer resp with
    | error text => exact ⟨after, fun _ impossible => by cases impossible⟩
    | ok certDerB64 =>
        refine ⟨after, fun other same => ?_⟩
        cases same
        exact ⟨siteToken, resp, told_cons _ _ _ _, chosen⟩
  · exact ⟨below_cons (still.mono (by omega)) (by rw [certs_stage]; omega),
      fun _ impossible => by cases impossible⟩

/-- What the first half of the pipeline comes to: one answer of `initiate`, or none. -/
def Prepared (trace : Trace face Stamp) (result : Except JsError InitiateResponse) : Prop :=
  Below trace 7 ∧ ∀ initiated, Initiated trace initiated ↔ result = .ok initiated

theorem prepared_error {trace : Trace face Stamp} (below : Below trace 6) (error : JsError) :
    Prepared trace (.error error) :=
  ⟨below.mono (by omega), fun initiated =>
    ⟨fun already => absurd already (not_initiated below initiated), fun impossible => by
      cases impossible⟩⟩

/-- The first question of `initiate` leaves its answer and no other. -/
theorem initiated_cons {trace : Trace face Stamp} (below : Below trace 6)
    {arguments : InitiateArguments} {reply : face.Reply (.signing (.initiate arguments))}
    {stamp : Stamp} (initiated : InitiateResponse) :
    Initiated (⟨.signing (.initiate arguments), reply, stamp⟩ :: trace) initiated ↔
      reply = .ok (.initiated initiated) := by
  constructor
  · rintro ⟨others, at_, member⟩
    rcases List.mem_cons.mp member with same | older
    · cases same
      rfl
    · exact absurd ⟨others, at_, older⟩ (not_initiated below initiated)
  · rintro rfl
    exact ⟨arguments, told_cons _ _ _ _⟩

theorem callInitiate_follows {arguments : InitiateArguments} {trace : Trace face Stamp}
    (below : Below trace 6)
    (rests : Grounds platform window doctype docname port trace (.signing (.initiate arguments))) :
    (callInitiate arguments).Follows (Allowed platform window doctype docname port) Prepared
      trace := by
  have after (reply : face.Reply (.signing (.initiate arguments))) (stamp : Stamp) :
      Below (⟨.signing (.initiate arguments), reply, stamp⟩ :: trace) 7 :=
    below_cons (below.mono (by omega)) (show 6 < 7 by omega)
  refine ⟨⟨fun _ => below, rests⟩, fun reply stamp => ?_⟩
  cases reply with
  | error error =>
      refine ⟨after _ stamp, fun initiated => ?_⟩
      rw [initiated_cons below]
      simp
  | ok response =>
      cases response with
      | initiated response =>
          refine ⟨after _ stamp, fun initiated => ?_⟩
          rw [initiated_cons below]
          simp
      | _ =>
          refine ⟨after _ stamp, fun initiated => ?_⟩
          rw [initiated_cons below]
          simp

theorem prepareSigning_follows {trace : Trace face Stamp} (below : Below trace 1) :
    (prepareSigning platform window doctype docname port).Follows
      (Allowed platform window doctype docname port) Prepared trace := by
  have stops (later : Trace face Stamp) (error : JsError) {bound : Nat} (le : bound ≤ 6)
      (still : Below later bound) : Prepared later (.error error) :=
    prepared_error (still.mono le) error
  refine setState_follows (by omega) rfl below trivial (fun stamp started => ?_)
    fun later error still => stops later error (by omega) still
  refine Follows.bind (pingAgent_follows (by omega) started) ?_ fun later error _ ended =>
    stops later error (by omega) ended.1
  rintro pinged found - ⟨still, _, same, told⟩
  cases same
  cases found with
  | none => exact stops _ _ (by omega) still
  | some agentStatus =>
      show Follows _ _ (if (tokensDetected agentStatus).isEmpty then _ else _) _
      split
      · exact stops _ _ (by omega) still
      · refine Follows.bind (ensurePaired_follows still (told agentStatus rfl)) ?_
          fun later error _ ended => stops later error (by omega) ended
        intro paired _ _ still
        refine setState_follows (by omega) rfl still trivial (fun stamp still => ?_)
          fun later error still => stops later error (by omega) still
        refine Follows.bind (captureSignerLocation_follows still) ?_
          fun later error _ ended => stops later error (by omega) ended.1
        rintro afterLocation coords - ⟨still, from_⟩
        refine Follows.bind (readCertificate_follows still) ?_
          fun later error _ ended => stops later error (by omega) ended.1
        rintro afterCerts certDerB64 suffix ⟨still, read⟩
        refine setState_follows (by omega) rfl still trivial (fun stamp still => ?_)
          fun later error still => stops later error (by omega) still
        have step := List.suffix_cons (⟨.setState .preparing
          "Preparing PDF and computing document hash…", .ok (), stamp⟩ : Event face Stamp) afterCerts
        obtain ⟨siteToken, resp, presented, chosen⟩ := read certDerB64 rfl
        exact callInitiate_follows still ⟨rfl, rfl,
          located ((from_ coords rfl).mono (suffix.trans step)) rfl rfl rfl, siteToken, resp,
          presented.mono step, chosen⟩

/-! ### The second half -/

/-- Other questions leave what `initiate` has answered. -/
theorem initiated_other {trace : Trace face Stamp} {event : Event face Stamp}
    (other : stage event.query ≠ 6) (initiated : InitiateResponse) :
    Initiated (event :: trace) initiated ↔ Initiated trace initiated := by
  constructor
  · rintro ⟨arguments, stamp, member⟩
    rcases List.mem_cons.mp member with same | older
    · rw [← same] at other
      exact absurd rfl other
    · exact ⟨arguments, stamp, older⟩
  · exact fun already => already.mono (List.suffix_cons _ _)

/-- The server has answered `initiate` once, and so. -/
def Sole (trace : Trace face Stamp) (initiated : InitiateResponse) : Prop :=
  ∀ other, Initiated trace other ↔ other = initiated

theorem Sole.cons {trace : Trace face Stamp} {initiated : InitiateResponse}
    (sole : Sole trace initiated) {event : Event face Stamp} (other : stage event.query ≠ 6) :
    Sole (event :: trace) initiated :=
  fun one => (initiated_other other one).trans (sole one)

/-- What the second half of the pipeline leaves: a signed document, or an error before the
server has finalized. -/
def Completing (window : Window) (port : Int) (initiated : InitiateResponse)
    (trace : Trace face Stamp) : Except JsError Unit → Prop
  | .ok _ => ∃ message, Completed window port trace initiated ∧ Asked trace (.setState .done message)
  | .error _ => Sole trace initiated ∧ Below trace 11 ∧
      ((∀ other, ¬ Completed window port trace other) ∨ Faulted trace)

theorem completing_error {initiated : InitiateResponse} {trace : Trace face Stamp}
    (sole : Sole trace initiated) {bound : Nat} (le : bound ≤ 9) (below : Below trace bound)
    (error : JsError) : Completing window port initiated trace (.error error) :=
  ⟨sole, below.mono (by omega), Or.inl (not_completed (below.mono le))⟩

theorem signWithAgent_follows {initiated : InitiateResponse} {pin : String}
    {trace : Trace face Stamp} (below : Below trace 8) (sole : Sole trace initiated)
    (typed : Told trace .promptForPIN (some pin)) (filled : pin ≠ "") :
    (signWithAgent platform window port initiated pin).Follows
      (Allowed platform window doctype docname port)
      (fun later result => Below later 9 ∧ Sole later initiated ∧ ∀ signed, result = .ok signed →
        SignedFor window port later initiated signed) trace := by
  have token : getSiteToken.Follows (Allowed platform window doctype docname port)
      (fun later _ => Below later 8 ∧ Sole later initiated) trace := by
    refine Follows.perform (allowed_plain rfl trivial) (fun stored stamp => ?_) fun error stamp => ?_
    · exact ⟨below_cons below (show 0 < 8 by omega), sole.cons (show 0 ≠ 6 by omega)⟩
    · exact ⟨below_cons below (show 0 < 8 by omega), sole.cons (show 0 ≠ 6 by omega)⟩
  refine Follows.bind token ?_ fun later error _ ended =>
    ⟨ended.1.mono (by omega), ended.2, fun _ impossible => by cases impossible⟩
  rintro later siteToken suffix ⟨still, sole⟩
  refine Follows.perform ?_ (fun resp stamp => ?_) fun error stamp => ?_
  · refine ⟨fun _ => by rw [sign_stage]; exact still, rfl, rfl,
      fun _ impossible => (by cases impossible), fun body same => ?_⟩
    cases same
    exact ⟨initiated, pin, (sole initiated).mpr rfl, typed.mono suffix, filled, rfl⟩
  · have after : Below (⟨.fetch port (signRequest window siteToken (callAgent initiated pin)),
        .ok resp, stamp⟩ :: later) 9 := below_cons (still.mono (by omega)) (by rw [sign_stage]; omega)
    have alone : Sole (⟨.fetch port (signRequest window siteToken (callAgent initiated pin)),
        .ok resp, stamp⟩ :: later) initiated := sole.cons (by rw [sign_stage]; decide)
    split
    · exact ⟨after, alone, fun _ impossible => by cases impossible⟩
    · split
      · exact ⟨after, alone, fun _ impossible => by cases impossible⟩
      · rename_i fine
        split
        · rename_i signed body
          refine ⟨after, alone, fun other same => ?_⟩
          cases same
          refine ⟨(alone initiated).mpr rfl, pin, siteToken, resp, ?_, filled, told_cons _ _ _ _,
            by simpa using fine, body⟩
          exact typed.mono (suffix.trans (List.suffix_cons _ _))
        · exact ⟨after, alone, fun _ impossible => by cases impossible⟩
  · exact ⟨below_cons (still.mono (by omega)) (by rw [sign_stage]; omega),
      sole.cons (by rw [sign_stage]; decide), fun _ impossible => by cases impossible⟩

theorem SignedFor.mono {trace later : Trace face Stamp} {initiated : InitiateResponse}
    {signed : Bridge.SignResponse} (signedFor : SignedFor window port trace initiated signed)
    (suffix : trace <:+ later) : SignedFor window port later initiated signed := by
  obtain ⟨prepared, pin, siteToken, resp, typed, filled, answered, fine⟩ := signedFor
  exact ⟨prepared.mono suffix, pin, siteToken, resp, typed.mono suffix, filled,
    answered.mono suffix, fine⟩

theorem Completed.mono {trace later : Trace face Stamp} {initiated : InitiateResponse}
    (completed : Completed window port trace initiated) (suffix : trace <:+ later) :
    Completed window port later initiated := by
  obtain ⟨signed, finalized, signedFor, told⟩ := completed
  exact ⟨signed, finalized, signedFor.mono suffix, told.mono suffix⟩

/-- Where `finalize` has not answered with a response, nothing is completed. -/
theorem not_completed_cons {trace : Trace face Stamp} (below : Below trace 9)
    {arguments : FinalizeArguments} {reply : face.Reply (.signing (.finalize arguments))}
    {stamp : Stamp} (refused : ∀ finalized, reply ≠ .ok (.finalized finalized))
    (other : InitiateResponse) :
    ¬ Completed window port (⟨.signing (.finalize arguments), reply, stamp⟩ :: trace) other := by
  rintro ⟨signed, finalized, _, at_, member⟩
  rcases List.mem_cons.mp member with same | older
  · cases same
    exact refused finalized rfl
  · exact absurd (below _ older) (lt_irrefl 9)

theorem callFinalize_follows {initiated : InitiateResponse} {signed : Bridge.SignResponse}
    {trace : Trace face Stamp} (below : Below trace 9) (sole : Sole trace initiated)
    (signedFor : SignedFor window port trace initiated signed) :
    (callFinalize (finalizeArguments initiated signed)).Follows
      (Allowed platform window doctype docname port)
      (fun later result => Below later 10 ∧ Sole later initiated ∧
        (∀ finalized, result = .ok finalized → Completed window port later initiated) ∧
        ∀ error, result = .error error → ∀ other, ¬ Completed window port later other) trace := by
  have after (reply : face.Reply (.signing (.finalize (finalizeArguments initiated signed))))
      (stamp : Stamp) : Below (⟨_, reply, stamp⟩ :: trace) 10 ∧
        Sole (⟨_, reply, stamp⟩ :: trace) initiated :=
    ⟨below_cons (below.mono (by omega)) (show 9 < 10 by omega), sole.cons (show 9 ≠ 6 by omega)⟩
  refine ⟨⟨fun _ => below, initiated, signed, signedFor, rfl⟩, fun reply stamp => ?_⟩
  obtain ⟨still, alone⟩ := after reply stamp
  cases reply with
  | error error =>
      refine ⟨still, alone, fun _ impossible => (by cases impossible), fun _ _ => ?_⟩
      exact not_completed_cons below fun finalized impossible => by cases impossible
  | ok response =>
      cases response with
      | finalized finalized =>
          refine ⟨still, alone, fun _ _ => ?_, fun _ impossible => by cases impossible⟩
          exact ⟨signed, finalized, signedFor.mono (List.suffix_cons _ _), told_cons _ _ _ _⟩
      | _ =>
          refine ⟨still, alone, fun _ impossible => (by cases impossible), fun _ _ => ?_⟩
          exact not_completed_cons below fun finalized impossible => by cases impossible

theorem filled_some {typed : Text} (filled : typed.orValue "" ≠ "") :
    typed = some (typed.orValue "") := by
  cases typed with
  | none => exact absurd rfl filled
  | some pin =>
      by_cases blank : pin = ""
      · subst blank
        exact absurd rfl filled
      · simp [Text.orValue, Text.given, blank]

theorem completeSigning_follows {initiated : InitiateResponse} {trace : Trace face Stamp}
    (below : Below trace 7) (sole : Sole trace initiated) :
    (completeSigning platform window initiated port).Follows
      (Allowed platform window doctype docname port) (Completing window port initiated) trace := by
  refine Follows.perform ⟨fun _ => below, initiated, (sole initiated).mpr rfl⟩
    (fun typed stamp => ?_) fun error stamp => ?_
  · have still : Below (⟨.promptForPIN, .ok typed, stamp⟩ :: trace) 8 :=
      below_cons (below.mono (by omega)) (show 7 < 8 by omega)
    have alone : Sole (⟨.promptForPIN, .ok typed, stamp⟩ :: trace) initiated :=
      sole.cons (show 7 ≠ 6 by omega)
    show Follows _ _ (if typed.orValue "" == "" then _ else _) _
    split
    · exact completing_error alone (by omega) still _
    · rename_i filled
      have nonempty : typed.orValue "" ≠ "" := by simpa using filled
      have prompted : Told (⟨.promptForPIN, .ok typed, stamp⟩ :: trace) .promptForPIN
          (some (typed.orValue "")) := by
        rw [← filled_some nonempty]
        exact told_cons _ _ _ _
      refine Follows.perform (allowed_plain rfl trivial) (fun _ stamp => ?_) fun error stamp => ?_
      · refine Follows.bind (signWithAgent_follows (below_cons still (show 0 < 8 by omega))
          (alone.cons (show 0 ≠ 6 by omega)) (prompted.mono (List.suffix_cons _ _)) nonempty) ?_
          fun later error _ ended => completing_error ended.2.1 (by omega) ended.1 error
        rintro later signed - ⟨still, alone, signs⟩
        refine Follows.perform (allowed_plain rfl trivial) (fun _ stamp => ?_) fun error stamp => ?_
        · refine Follows.bind (callFinalize_follows (below_cons still (show 0 < 9 by omega))
            (alone.cons (show 0 ≠ 6 by omega))
            ((signs signed rfl).mono (List.suffix_cons _ _))) ?_ ?_
          · rintro later finalized - ⟨still, alone, completes, -⟩
            have completed := completes finalized rfl
            refine Follows.perform ⟨fun _ => still, initiated, completed⟩ (fun _ stamp => ?_)
              fun error stamp => ?_
            · refine ⟨allowed_plain rfl trivial, fun reply stamp => ?_⟩
              cases reply with
              | ok _ => exact ⟨_, completed.mono ((List.suffix_cons _ _).trans (List.suffix_cons _ _)),
                  _, List.mem_cons_of_mem _ List.mem_cons_self, rfl⟩
              | error error =>
                  exact ⟨(alone.cons (by show 10 ≠ 6; omega)).cons (by show 0 ≠ 6; omega),
                    below_cons (below_cons (still.mono (by omega)) (show 10 < 11 by omega))
                      (show 0 < 11 by omega), Or.inr (faulted_cons _ rfl error stamp)⟩
            · exact ⟨alone.cons (show 10 ≠ 6 by omega),
                below_cons (still.mono (by omega)) (show 10 < 11 by omega),
                Or.inr (faulted_cons _ rfl error stamp)⟩
          · rintro later error - ⟨still, alone, -, refused⟩
            exact ⟨alone, still.mono (by omega), Or.inl (refused error rfl)⟩
        · exact completing_error (alone.cons (by show 0 ≠ 6; omega)) (by omega)
            (below_cons still (by show 0 < 9; omega)) error
      · exact completing_error (alone.cons (by show 0 ≠ 6; omega)) (by omega)
          (below_cons still (by show 0 < 8; omega)) error
  · exact completing_error (sole.cons (by show 7 ≠ 6; omega)) (by omega)
      (below_cons (below.mono (by omega : 7 ≤ 8)) (by show 7 < 8; omega)) error

/-! ### The flow -/

theorem Told.before {trace : Trace face Stamp} {event : Event face Stamp} {operation : Operation}
    {answer : operation.Answer} (told : Told (event :: trace) operation answer)
    (other : stage event.query ≠ stage operation) : Told trace operation answer := by
  obtain ⟨stamp, member⟩ := told
  rcases List.mem_cons.mp member with same | older
  · rw [← same] at other
    exact absurd rfl other
  · exact ⟨stamp, older⟩

/-- What comes after the last critical question of the signing completes nothing. -/
theorem Completed.before {trace : Trace face Stamp} {event : Event face Stamp}
    {initiated : InitiateResponse} (late : 10 ≤ stage event.query)
    (completed : Completed window port (event :: trace) initiated) :
    Completed window port trace initiated := by
  obtain ⟨signed, finalized, ⟨prepared, pin, siteToken, resp, typed, filled, answered, fine⟩, told⟩ :=
    completed
  have early {operation : Operation} (lower : stage operation < 10) :
      stage event.query ≠ stage operation := by omega
  refine ⟨signed, finalized, ⟨?_, pin, siteToken, resp, ?_, filled, ?_, fine⟩, ?_⟩
  · exact (initiated_other (by omega) initiated).mp prepared
  · exact typed.before (early (show 7 < 10 by omega))
  · exact answered.before (early (by rw [sign_stage]; omega))
  · exact told.before (early (show 9 < 10 by omega))

theorem failSigning_follows {err : JsError} {signingRequest : String} {trace : Trace face Stamp}
    (below : Below trace 11)
    (unsigned : (∀ other, ¬ Completed window port trace other) ∨ Faulted trace)
    (known : ∀ other, Initiated trace other → other.signingRequest = signingRequest)
    (prepared : signingRequest ≠ "" → ∃ initiated, Initiated trace initiated) :
    (failSigning platform err signingRequest).Follows
      (Allowed platform window doctype docname port)
      (fun later result => (result = .ok () ∧ Finished platform window port later) ∨ Faulted later)
      trace := by
  refine Follows.perform ⟨fun _ => below, unsigned⟩ (fun _ shown => ?_) fun error stamp => ?_
  · have still : Below (⟨.setState .error (formatError platform err), .ok (), shown⟩ :: trace) 12 :=
      below_cons (below.mono (by omega)) (show 11 < 12 by omega)
    have said : Asked (⟨.setState .error (formatError platform err), .ok (), shown⟩ :: trace)
        (.setState .error (formatError platform err)) := ⟨_, List.mem_cons_self, rfl⟩
    have same (other : InitiateResponse) (already : Initiated (⟨.setState .error
        (formatError platform err), .ok (), shown⟩ :: trace) other) :
        Initiated trace other ∧ other.signingRequest = signingRequest := by
      have before := (initiated_other (by show 11 ≠ 6; omega) other).mp already
      exact ⟨before, known other before⟩
    show Follows _ _ (if signingRequest == "" then _ else _) _
    split
    · rename_i blank
      refine Or.inl ⟨rfl, Or.inr (Or.inr ⟨err, said, fun other already named => ?_⟩)⟩
      exact absurd ((same other already).2.trans (by simpa using blank)) named
    · rename_i named
      have filled : signingRequest ≠ "" := by simpa using named
      obtain ⟨initiated, already⟩ := prepared filled
      refine ⟨⟨fun _ => still, filled, ⟨initiated, already.mono (List.suffix_cons _ _),
        known initiated already⟩, ?_⟩, fun reply stamp => ?_⟩
      · rcases unsigned with unsigned | faulted
        · exact Or.inl fun other completed =>
            unsigned other (completed.before (by show 10 ≤ 11; omega))
        · exact Or.inr (faulted.mono (List.suffix_cons _ _))
      · -- Whatever the abort comes to, it has been asked for.
        have finished {later : Trace face Stamp} (suffix :
            (⟨.signing (.abortInProgress signingRequest (abortReason err)), reply, stamp⟩ ::
              ⟨.setState .error (formatError platform err), .ok (), shown⟩ :: trace) <:+ later)
            (nothing : ∀ other, Initiated later other → other.signingRequest = signingRequest) :
            Finished platform window port later := by
          refine Or.inr (Or.inr ⟨err, ⟨_, suffix.subset (List.mem_cons_of_mem _ List.mem_cons_self),
            rfl⟩, fun other already _ => ?_⟩)
          rw [nothing other already]
          exact ⟨_, suffix.subset List.mem_cons_self, rfl⟩
        have aborted (other : InitiateResponse) (already : Initiated
            (⟨.signing (.abortInProgress signingRequest (abortReason err)), reply, stamp⟩ ::
              ⟨.setState .error (formatError platform err), .ok (), shown⟩ :: trace) other) :
            other.signingRequest = signingRequest :=
          (same other ((initiated_other (by show 12 ≠ 6; omega) other).mp already)).2
        cases reply with
        | error error => exact Or.inl ⟨rfl, finished (List.suffix_refl _) aborted⟩
        | ok _ =>
            refine ⟨allowed_plain rfl trivial, fun reply stamp => ?_⟩
            have last := finished (List.suffix_cons _ _) fun other already =>
              aborted other ((@initiated_other _ _ ⟨.reloadDoc, reply, stamp⟩
                (show 0 ≠ 6 by omega) other).mp already)
            cases reply with
            | ok _ => exact Or.inl ⟨rfl, last⟩
            | error error => exact Or.inl ⟨rfl, last⟩
  · exact Or.inr (faulted_cons _ rfl error stamp)

theorem settle_follows {Value : Type} {program : Script Value}
    {ends : Trace face Stamp → Except JsError Value → Prop} {trace : Trace face Stamp}
    (follows : program.Follows (Allowed platform window doctype docname port) ends trace) :
    (settle program).Follows (Allowed platform window doctype docname port)
      (fun later result => ∃ settled, result = .ok settled ∧ ends later settled) trace := by
  induction program generalizing trace with
  | done value => exact ⟨.ok value, rfl, follows⟩
  | fail error => exact ⟨.error error, rfl, follows⟩
  | ask query next ih => exact ⟨follows.1, fun reply stamp => ih reply (follows.2 reply stamp)⟩

theorem startSigningFlow_follows (agentPort : Int) :
    (startSigningFlow platform window doctype docname agentPort).Follows
      (Allowed platform window doctype docname (portOr agentPort))
      (fun later result => (result = .ok () ∧ Finished platform window (portOr agentPort) later) ∨
        Faulted later) ([] : Trace face Stamp) := by
  have empty : Below ([] : Trace face Stamp) 1 := fun event member => by cases member
  refine Follows.bind (pingAgent_follows (by omega) empty) ?_ ?_
  · rintro later found - ⟨below, _, same, -⟩
    cases same
    cases found with
    | none =>
        refine ⟨allowed_plain rfl trivial, fun reply stamp => ?_⟩
        cases reply with
        | ok _ => exact Or.inl ⟨rfl, Or.inl ⟨_, _, List.mem_cons_self, rfl⟩⟩
        | error error => exact Or.inr (faulted_cons _ rfl error stamp)
    | some status =>
        refine Follows.perform (allowed_plain rfl trivial) (fun _ stamp => ?_) fun error stamp =>
          Or.inr (faulted_cons _ rfl error stamp)
        refine Follows.bind (settle_follows (prepareSigning_follows
          (below_cons below (show 0 < 1 by omega)))) ?_ ?_
        · rintro later settled - ⟨_, same, below, only⟩
          cases same
          cases settled with
          | error err =>
              refine failSigning_follows (below.mono (by omega))
                (Or.inl (not_completed (below.mono (by omega)))) (fun other already => ?_)
                fun impossible => absurd rfl impossible
              cases (only other).mp already
          | ok initiated =>
              have sole : Sole later initiated := fun other =>
                (only other).trans ⟨fun same => by cases same; rfl, fun same => by rw [same]⟩
              refine Follows.recover (completeSigning_follows below sole) ?_ ?_
              · rintro later _ - ⟨message, completed, said⟩
                exact Or.inl ⟨rfl, Or.inr (Or.inl ⟨initiated, message, completed, said⟩)⟩
              · rintro later err - ⟨sole, below, unsigned⟩
                exact failSigning_follows below unsigned
                  (fun other already => by rw [(sole other).mp already])
                  fun _ => ⟨initiated, (sole initiated).mpr rfl⟩
        · rintro later error - ⟨settled, same, -⟩
          cases same
  · rintro later error - ⟨_, _, same, -⟩
    cases same

end Rules

end DscSigning.Page
