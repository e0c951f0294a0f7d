/-
One site, the computers that its users work at, and the pages they have open.

Every computer runs an agent of its own.  The endpoints that sign and those that
pair share no table here.  A request is lost or its answer is; a page sees an
answer of the agent only where the agent lets its origin read it.
-/

import DscSigning.Handshake.SigningFlow
import DscSigning.Handshake.TokenForms
import DscSigning.Library.Clients

namespace DscSigning.Page

open Interaction Clients

inductive Peer where
  | signing
  | agentApi
  | machine (number : Nat)
deriving DecidableEq

variable (lib : AgentApi.Libraries) (bridge : Bridge.Libraries)

@[reducible] def Peer.face : Peer → Interface
  | .signing => DscSigning.face
  | .agentApi => AgentApi.face
  | .machine _ => Bridge.face

@[reducible] def Peer.engine : (peer : Peer) → Engine peer.face
  | .signing => site
  | .agentApi => AgentApi.site
  | .machine _ => Bridge.bridge bridge

@[reducible] def Peer.Origin : Peer → Type
  | .signing => DscSigning.Origin
  | .agentApi => AgentApi.Origin
  | .machine _ => Bridge.Origin

@[reducible] def Peer.Value : Peer → Type
  | .signing => DscSigning.Response
  | .agentApi => AgentApi.Response
  | .machine _ => Bridge.Response

def Peer.body : (peer : Peer) → peer.Origin → Program peer.face peer.Value
  | .signing => DscSigning.body lib.toLibraries
  | .agentApi => AgentApi.body lib
  | .machine _ => Bridge.body bridge

abbrev peers : Peers :=
  { Peer := Peer
    face := Peer.face
    engine := Peer.engine bridge
    Origin := Peer.Origin
    Value := Peer.Value
    body := Peer.body lib bridge }

/-- What a user does on a page. -/
inductive Handler where
  | startSigningFlow (doctype docname : String) (agentPort : Int)
  | checkAgain (port : Int)
  | retryLastFailed (target : String)
  | registerCertificateFromToken (profileName : String)
  | pairThisComputer
deriving DecidableEq

structure Visit where
  window : Window
  handler : Handler
deriving DecidableEq

variable (platform : Platform)

def serve (visit : Visit) : Script Unit :=
  match visit.handler with
  | .startSigningFlow doctype docname agentPort =>
      startSigningFlow platform visit.window doctype docname agentPort
  | .checkAgain port => checkAgain visit.window port
  | .retryLastFailed target => retryLastFailed target
  | .registerCertificateFromToken profileName =>
      registerCertificateFromToken platform visit.window profileName
  | .pairThisComputer => pairThisComputer platform visit.window

/-- The call of an operation; `ports` tells where the agents listen. -/
def sends (ports : Nat → Int) (visit : Visit) : Operation → Option (peers lib bridge).Message
  | .fetch port request =>
      if port = ports visit.window.machine then
        some ⟨.machine visit.window.machine, .http request⟩
      else none
  | .signing endpoint => some ⟨.signing, ⟨visit.window.ctx, endpoint⟩⟩
  | .agentApi endpoint => some ⟨.agentApi, ⟨visit.window.ctx.user, endpoint⟩⟩
  | _ => none

/-- An answer of the agent, as far as the page may read it. -/
def readable (origin : String) (result : Except Bridge.GoError Bridge.Response) :
    Except JsError Bridge.Response :=
  match result with
  | .ok resp =>
      if resp.allowOrigin = some origin then .ok resp else .error ⟨platform.networkError⟩
  | .error _ => .error ⟨platform.networkError⟩

def receives (visit : Visit) (operation : Operation) (peer : Peer)
    (result : (peers lib bridge).Result peer) : face.Reply operation :=
  match operation, peer, result with
  | .fetch .., .machine _, result => readable platform visit.window.origin result
  | .signing _, .signing, result => Except.mapError platform.rejected result
  | .agentApi _, .agentApi, result => Except.mapError platform.rejected result
  | _, _, _ => .error ⟨platform.networkError⟩

abbrev desk (ports : Nat → Int) : Clients (peers lib bridge) face :=
  { Who := Visit
    Value := Unit
    body := serve platform
    sends := sends lib bridge ports
    receives := receives lib bridge platform
    tells := fun _ => tells }

/-- How the site and the agents begin. -/
structure Start where
  masters : Masters
  now : Instant
  zone : Int
  agents : AgentApi.Database
  /-- The clock and the tokens of each computer. -/
  began : Nat → Int
  tokens : Nat → List Bridge.Module

def Start.worlds (start : Start) : (peer : Peer) → (peers lib bridge).World peer
  | .signing => installed start.masters start.now start.zone
  | .agentApi => AgentApi.installed start.agents start.now
  | .machine number => Bridge.started bridge (start.began number) (start.tokens number)

end DscSigning.Page
