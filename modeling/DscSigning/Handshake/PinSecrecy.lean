/-
Where the PIN of a user goes: to the agent, and nowhere else.

Another PIN leads the signing script to ask the site, the browser and the user
the same questions, as long as it is told the same.
-/

import DscSigning.Handshake.SignedFlow
import DscSigning.Server.Exchange

namespace DscSigning.Page

open Interaction Program

variable (swap : Exchange)

/-- The operation with another PIN, if it carries one. -/
def Operation.repinned : Operation → Operation
  | .fetch port request => .fetch port
      { request with signBody := request.signBody.map fun body =>
          { body with pin := swap.map body.pin } }
  | operation => operation

/-- The reply where the user types another PIN. -/
def Operation.retyped : (operation : Operation) → face.Reply operation →
    face.Reply (operation.repinned swap)
  | .promptForPIN, reply => reply.map swap.text
  | .fetch .., reply => reply
  | .signing _, reply => reply
  | .agentApi _, reply => reply
  | .agentListenPort, reply => reply
  | .getItem _, reply => reply
  | .getCurrentPosition, reply => reply
  | .confirm _, reply => reply
  | .chooseCertificate _, reply => reply
  | .showProgress .., reply => reply
  | .setState .., reply => reply
  | .showBridgeDownload _, reply => reply
  | .message _, reply => reply
  | .reloadDoc, reply => reply

def Operation.untyped : (operation : Operation) → face.Reply (operation.repinned swap) →
    face.Reply operation
  | .promptForPIN, reply => reply.map swap.text
  | .fetch .., reply => reply
  | .signing _, reply => reply
  | .agentApi _, reply => reply
  | .agentListenPort, reply => reply
  | .getItem _, reply => reply
  | .getCurrentPosition, reply => reply
  | .confirm _, reply => reply
  | .chooseCertificate _, reply => reply
  | .showProgress .., reply => reply
  | .setState .., reply => reply
  | .showBridgeDownload _, reply => reply
  | .message _, reply => reply
  | .reloadDoc, reply => reply

def pins : Relabelling face where
  query := Operation.repinned swap
  forth := Operation.retyped swap
  back := Operation.untyped swap
  back_forth := by
    intro operation reply
    cases operation with
    | promptForPIN =>
        cases reply with
        | error error => rfl
        | ok typed => exact congrArg Except.ok (swap.text_twice typed)
    | _ => rfl

section Scripts

variable {swap} {platform : Platform} {window : Window}

theorem pingAgent_pins (port : Int) :
    (pingAgent window port).relabel (pins swap) = pingAgent window port := by
  unfold pingAgent
  rw [relabel_recover, relabel_bind, relabel_fixed (fun next => rfl)]
  rfl

theorem getSiteToken_pins : getSiteToken.relabel (pins swap) = getSiteToken := by
  unfold getSiteToken
  rw [bind_eq, relabel_bind, relabel_fixed (fun next => rfl)]
  rfl

theorem pairingCode_pins : (pairingCode window).relabel (pins swap) = pairingCode window := by
  unfold pairingCode
  rw [bind_eq, relabel_bind, relabel_recover, relabel_fixed (fun next => rfl)]
  congr 1
  funext response
  cases response <;> rfl

theorem autoPairBridge_pins (failure : String) (port : Int) :
    (autoPairBridge window failure port).relabel (pins swap) = autoPairBridge window failure port := by
  unfold autoPairBridge
  rw [bind_eq, relabel_bind, pairingCode_pins]
  congr 1
  funext codeResp
  rw [bind_eq, relabel_bind, relabel_fixed (fun next => rfl)]
  congr 1
  funext resp
  rw [relabel_ite]
  rfl

theorem ensurePaired_pins (agentStatus : Bridge.Response) (port : Int) :
    (ensurePaired platform window agentStatus port).relabel (pins swap) =
      ensurePaired platform window agentStatus port := by
  unfold ensurePaired
  rw [relabel_ite, bind_eq, relabel_bind, relabel_fixed (fun next => rfl)]
  congr 2
  funext _
  rw [bind_eq, relabel_bind, relabel_fixed (fun next => rfl)]
  congr 1
  funext ok
  rw [relabel_ite, autoPairBridge_pins]
  rfl

theorem captureSignerLocation_pins :
    (captureSignerLocation window).relabel (pins swap) = captureSignerLocation window := by
  unfold captureSignerLocation
  rw [relabel_ite, relabel_ite, bind_eq, relabel_bind, relabel_fixed (fun next => rfl)]
  congr 3
  funext found
  cases found <;> rfl

theorem readCertificate_pins (port : Int) :
    (readCertificate window port).relabel (pins swap) = readCertificate window port := by
  unfold readCertificate
  rw [bind_eq, relabel_bind, getSiteToken_pins]
  congr 1
  funext siteToken
  rw [bind_eq, relabel_bind, relabel_fixed (fun next => rfl)]
  congr 1
  funext resp
  exact relabel_ofExcept _

theorem callInitiate_pins (arguments : InitiateArguments) :
    (callInitiate arguments).relabel (pins swap) = callInitiate arguments := by
  unfold callInitiate
  rw [bind_eq, relabel_bind, relabel_fixed (fun next => rfl)]
  congr 1
  funext response
  cases response <;> rfl

theorem prepareSigning_pins (doctype docname : String) (port : Int) :
    (prepareSigning platform window doctype docname port).relabel (pins swap) =
      prepareSigning platform window doctype docname port := by
  unfold prepareSigning
  rw [bind_eq, relabel_bind, relabel_fixed (fun next => rfl)]
  congr 1
  funext _
  rw [bind_eq, relabel_bind, pingAgent_pins]
  congr 1
  funext found
  cases found with
  | none => rfl
  | some agentStatus =>
      show Program.relabel _ (if _ then _ else _) = if _ then _ else _
      rw [relabel_ite, bind_eq, relabel_bind, ensurePaired_pins]
      congr 2
      funext _
      rw [bind_eq, relabel_bind, relabel_fixed (fun next => rfl)]
      congr 1
      funext _
      rw [bind_eq, relabel_bind, captureSignerLocation_pins]
      congr 1
      funext coords
      rw [bind_eq, relabel_bind, readCertificate_pins]
      congr 1
      funext certDerB64
      rw [bind_eq, relabel_bind, relabel_fixed (fun next => rfl), callInitiate_pins]

/-- The agent is asked to sign with the other PIN. -/
theorem signWithAgent_pins (port : Int) (initiated : InitiateResponse) (pin : String) :
    (signWithAgent platform window port initiated pin).relabel (pins swap) =
      signWithAgent platform window port initiated (swap.map pin) := by
  unfold signWithAgent
  rw [bind_eq, relabel_bind, getSiteToken_pins]
  congr 1
  funext siteToken
  rw [bind_eq, relabel_bind]
  show (Program.ask _ _).bind _ = (Program.ask _ _).bind _
  simp only [Program.bind]
  congr 1
  funext reply
  cases reply with
  | error error => rfl
  | ok resp =>
      show Program.relabel _ (if _ then _ else if _ then _ else _) = if _ then _ else if _ then _ else _
      rw [relabel_ite, relabel_ite]
      congr 2
      cases resp.body <;> rfl

theorem callFinalize_pins (arguments : FinalizeArguments) :
    (callFinalize arguments).relabel (pins swap) = callFinalize arguments := by
  unfold callFinalize
  rw [bind_eq, relabel_bind, relabel_fixed (fun next => rfl)]
  congr 1
  funext response
  cases response <;> rfl

theorem orValue_pins (typed : Text) :
    (swap.text typed).orValue "" = swap.map (typed.orValue "") := by
  unfold Text.orValue
  rw [swap.text_given]
  cases typed with
  | none => exact swap.empty.symm
  | some pin =>
      split
      · rfl
      · exact swap.empty.symm

theorem completeSigning_pins (initiated : InitiateResponse) (port : Int) :
    (completeSigning platform window initiated port).relabel (pins swap) =
      completeSigning platform window initiated port := by
  unfold completeSigning
  rw [bind_eq, relabel_bind]
  show Program.ask _ _ = Program.ask _ _
  congr 1
  funext reply
  cases reply with
  | error error => rfl
  | ok typed =>
      change Text at typed
      -- The script goes on with the other PIN, and the agent gets this one.
      show Program.relabel _ (if (swap.text typed).orValue "" == "" then _ else _) =
        if typed.orValue "" == "" then _ else _
      have blank : ((swap.text typed).orValue "" == "") = (typed.orValue "" == "") := by
        rw [orValue_pins, Bool.eq_iff_iff, beq_iff_eq, beq_iff_eq, swap.map_empty]
      rw [relabel_ite, blank, bind_eq, relabel_bind, relabel_fixed (fun next => rfl)]
      congr 2
      funext _
      rw [bind_eq, relabel_bind, signWithAgent_pins, orValue_pins, swap.twice]
      congr 1
      funext signed
      rw [bind_eq, relabel_bind, relabel_fixed (fun next => rfl)]
      congr 1
      funext _
      rw [bind_eq, relabel_bind, callFinalize_pins]
      congr 1
      funext finalized
      rw [bind_eq, relabel_bind, relabel_fixed (fun next => rfl)]
      congr 1
      funext _
      exact relabel_fixed fun next => rfl

theorem failSigning_pins (err : JsError) (signingRequest : String) :
    (failSigning platform err signingRequest).relabel (pins swap) =
      failSigning platform err signingRequest := by
  unfold failSigning
  rw [bind_eq, relabel_bind, relabel_fixed (fun next => rfl)]
  congr 1
  funext _
  have reloads : (ask .reloadDoc).relabel (pins swap) = ask .reloadDoc :=
    relabel_fixed fun next => rfl
  rw [relabel_ite, relabel_recover, relabel_bind, relabel_fixed (fun next => rfl)]
  simp only [reloads]
  rfl

theorem settle_pins {Value : Type} {program : Script Value}
    (fixed : program.relabel (pins swap) = program) :
    (settle program).relabel (pins swap) = settle program := by
  unfold settle
  rw [relabel_recover, relabel_bind, fixed]
  rfl

theorem startSigningFlow_pins (doctype docname : String) (agentPort : Int) :
    (startSigningFlow platform window doctype docname agentPort).relabel (pins swap) =
      startSigningFlow platform window doctype docname agentPort := by
  unfold startSigningFlow
  rw [bind_eq, relabel_bind, pingAgent_pins]
  congr 1
  funext found
  cases found with
  | none => exact relabel_fixed fun next => rfl
  | some status =>
      show Program.relabel _ (Program.bind _ _) = Program.bind _ _
      rw [relabel_bind, relabel_fixed (fun next => rfl)]
      congr 1
      funext _
      rw [bind_eq, relabel_bind, settle_pins (prepareSigning_pins _ _ _)]
      congr 1
      funext settled
      cases settled with
      | error err => exact failSigning_pins err ""
      | ok initiated =>
          show Program.relabel _ (Program.recover _ _) = Program.recover _ _
          rw [relabel_recover, completeSigning_pins]
          congr 1
          funext err
          exact failSigning_pins err initiated.signingRequest

end Scripts

/-- A request that carries a PIN, or the question for it. -/
def Operation.bearsPin : Operation → Bool
  | .fetch _ request => request.signBody.isSome
  | .promptForPIN => true
  | _ => false

theorem relabelled_pins {Stamp : Type} {event : Event face Stamp}
    (free : event.query.bearsPin = false) : relabelled (pins swap) event = event := by
  obtain ⟨operation, reply, stamp⟩ := event
  cases operation with
  | fetch port request =>
      have none : request.signBody = none := by simpa [Operation.bearsPin] using free
      obtain ⟨method, path, origin, siteToken, pairBody, signBody⟩ := request
      cases none
      rfl
  | promptForPIN => cases free
  | _ => rfl

/-- Whatever a flow has asked and been told where the user typed one PIN, it asks and is told where
the user types another, and comes to the same result: only the question for the PIN and the request
of a signature differ, the one in its answer and the other in its PIN. -/
theorem pin_goes_to_agent (swap : Exchange) (platform : Platform) (window : Window)
    (doctype docname : String) (agentPort : Int) (Stamp : Type) (trace : Trace face Stamp)
    (result : Except JsError Unit)
    (ran : (startSigningFlow platform window doctype docname agentPort).Ran [] trace result) :
    (startSigningFlow platform window doctype docname agentPort).Ran []
        (trace.map (relabelled (pins swap))) result ∧
      ∀ event ∈ trace, event.query.bearsPin = false → relabelled (pins swap) event = event := by
  have other := ran.relabel (pins swap)
  rw [startSigningFlow_pins] at other
  exact ⟨other, fun event _ free => relabelled_pins swap free⟩

/-! ### A flow with another PIN -/

/-- A page of a run has gone through its own program. -/
theorem client_ran {lib : AgentApi.Libraries} {bridge : Bridge.Libraries} {platform : Platform}
    {ports : Nat → Int} {start : Start} {labels : List (desk lib bridge platform ports).Label}
    {system : (desk lib bridge platform ports).System}
    (ran : Runs.run Clients.step (Clients.opened (start.worlds lib bridge)) labels = some system)
    {index : Nat} {client : (desk lib bridge platform ports).Client}
    (located : system.clients[index]? = some client) {value : Unit}
    (ended : client.program = .done value) :
    (serve platform client.who).Ran [] client.trace (.ok value) := by
  have bodies (visit : Visit) : (serve platform visit).Follows (fun _ _ => True)
      (fun later result => True ∧ (serve platform visit).Ran [] later result)
      ([] : Trace face (Option (peers lib bridge).Place)) :=
    (Follows.always fun _ _ _ => trivial).ran
  have disciplined : client.Disciplined (fun _ _ _ => True)
      (fun visit later result => True ∧ (serve platform visit).Ran [] later result) :=
    Clients.run_disciplined bodies ran index client located
  rw [Clients.Client.Disciplined, ended] at disciplined
  exact disciplined.2.2

/-- Two PINs for each other. -/
def between (one other : String) (filled : one ≠ "" ∧ other ≠ "") : Exchange where
  map pin := if pin = one then other else if pin = other then one else pin
  twice pin := by
    by_cases first : pin = one
    · subst first
      by_cases same : other = pin
      · simp [same]
      · simp [same]
    · by_cases second : pin = other
      · subst second
        simp [first]
      · simp [first, second]
  empty := by simp [Ne.symm filled.1, Ne.symm filled.2]

theorem wholeFlow_repinned : ∃ system client,
    Runs.run Clients.step (Clients.opened (deskStart.worlds deskLibraries roundBridge)) wholeFlow =
        some system ∧ system.clients[0]? = some client ∧
      (startSigningFlow deskPlatform deskWindow "Sales Invoice" "INV-1" 0).Ran []
        (client.trace.map (relabelled (pins (between "1234" "9999" (by decide))))) (.ok ()) ∧
      ∀ event ∈ client.trace, event.query.bearsPin = false →
        relabelled (pins (between "1234" "9999" (by decide))) event = event := by
  obtain ⟨system, client, message, ran, located, flow, ended, said⟩ := wholeFlow_done
  have walked := client_ran ran located ended
  rw [flow] at walked
  exact ⟨system, client, ran, located, pin_goes_to_agent _ deskPlatform deskWindow "Sales Invoice"
    "INV-1" 0 _ client.trace (.ok ()) walked⟩

end DscSigning.Page
