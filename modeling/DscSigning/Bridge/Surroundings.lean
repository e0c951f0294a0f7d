/-
What the bridge asks of its surroundings: its own metadata and PIN maps, the OS
keychain, the fallback file, the tokens, the clock, the user and the network.

Nothing here is transactional: an operation takes effect when it is answered.
Every operation of the keychain, of the files and of the network can fail.
-/

import DscSigning.Bridge.Tokens
import DscSigning.Library.Table
import DscSigning.Library.Alone

namespace DscSigning.Bridge

open Interaction

/-- A Go error; `keyring.ErrNotFound` is told apart. -/
structure GoError where
  notFound : Bool
  message : String
deriving DecidableEq

/-- What the metadata file keeps of a paired site. -/
structure PairedSite where
  siteURL : String
  pairedOn : String
  agentRegistration : String
deriving DecidableEq

/-- The `message` of a site's answer to a pairing code. -/
structure PairingResult where
  siteToken : String
  agentRegistration : String
  hmacSecret : String
deriving DecidableEq

inductive Operation where
  | isPaired (site : String)
  | pairedSites
  | putSite (site : PairedSite)
  | dropSite (site : String)
  | saveSites
  | keychainGet (key : String)
  | keychainSet (key value : String)
  | keychainDelete (key : String)
  | readTokenFile
  | writeTokenFile (tokens : Table String String)
  | removeTokenFile
  | now
  | timeText
  | confirmPairing (site : String)
  | validatePairingCode (site code : String)
  | tokens
  | signHash (id : SlotId) (fingerprint : String) (hashBytes : Bytes) (pin : String)
  | pinGet (fingerprint : String)
  | pinSet (fingerprint pin : String)
  | pinForget (fingerprint : String)
  | fetchCertChain (leaf : Bytes)
  | fetchOCSP (cert issuer : Bytes)

@[reducible] def Operation.Answer : Operation → Type
  | .isPaired _ => Bool
  | .pairedSites => List String
  | .putSite _ => Unit
  | .dropSite _ => Unit
  | .saveSites => Unit
  | .keychainGet _ => String
  | .keychainSet .. => Unit
  | .keychainDelete _ => Unit
  | .readTokenFile => Table String String
  | .writeTokenFile _ => Unit
  | .removeTokenFile => Unit
  | .now => Int
  | .timeText => String
  | .confirmPairing _ => Bool
  | .validatePairingCode .. => PairingResult
  | .tokens => List Module
  | .signHash .. => Signing
  | .pinGet _ => Option String
  | .pinSet .. => Unit
  | .pinForget _ => Unit
  | .fetchCertChain _ => List Bytes
  | .fetchOCSP .. => Bytes

abbrev face : Interface :=
  { Query := Operation
    Answer := Operation.Answer
    Error := GoError }

abbrev Agent (Value : Type) : Type := Program face Value

/-- Ask, and have the answer or the error: `value, err := ...`. -/
abbrev ask (operation : Operation) : Agent (Except GoError operation.Answer) :=
  @Program.ask face _ operation .done

abbrev AgentEvent : Type := Event face Int

abbrev AgentTrace : Type := Trace face Int

/-! ### Answers -/

/-- The state of the bridge and of what it talks to. -/
structure Shared where
  now : Int
  sites : Table String PairedSite
  saved : Table String PairedSite
  keychain : Table String String
  tokenFile : Table String String
  pins : Table String String
  tokens : List Module

/-- How the surroundings answer one operation: a failure, what a failed write
leaves of the fallback file, the user's choice, and the network's answers. -/
structure Oracle where
  fault : Option GoError
  leaves : Option (Table String String)
  confirms : Bool
  pairing : Option PairingResult
  chain : List Bytes
  ocsp : Option Bytes
  text : String

/-- Operations on the bridge's own memory do not fail. -/
def Operation.fallible : Operation → Bool
  | .saveSites => true
  | .keychainGet _ => true
  | .keychainSet .. => true
  | .keychainDelete _ => true
  | .readTokenFile => true
  | .writeTokenFile _ => true
  | .removeTokenFile => true
  | .validatePairingCode .. => true
  | .fetchCertChain _ => true
  | .fetchOCSP .. => true
  | _ => false

/-- The schemes `http.Post` can reach. -/
def reachable (site : String) : Bool :=
  let scheme := lower (String.ofList (site.toList.takeWhile (· != ':')))
  scheme == "http" || scheme == "https"

def notFound (key : String) : GoError := ⟨true, "secret not found in keyring: " ++ key⟩

/-- The answer of surroundings that work, as far as they can. -/
def answer (lib : Libraries) (oracle : Oracle) (shared : Shared) :
    (operation : Operation) → Except GoError operation.Answer × Shared
  | .isPaired site => (.ok (shared.sites.lookup site).isSome, shared)
  | .pairedSites => (.ok (shared.sites.rows.map Prod.fst), shared)
  | .putSite site => (.ok (), { shared with sites := shared.sites.insert site.siteURL site })
  | .dropSite site => (.ok (), { shared with sites := shared.sites.erase site })
  | .saveSites => (.ok (), { shared with saved := shared.sites })
  | .keychainGet key =>
      match shared.keychain.lookup key with
      | some value => (.ok value, shared)
      | none => (.error (notFound key), shared)
  | .keychainSet key value =>
      (.ok (), { shared with keychain := shared.keychain.insert key value })
  | .keychainDelete key =>
      match shared.keychain.lookup key with
      | some _ => (.ok (), { shared with keychain := shared.keychain.erase key })
      | none => (.error (notFound key), shared)
  | .readTokenFile => (.ok shared.tokenFile, shared)
  | .writeTokenFile tokens => (.ok (), { shared with tokenFile := tokens })
  | .removeTokenFile => (.ok (), { shared with tokenFile := ∅ })
  | .now => (.ok shared.now, shared)
  | .timeText => (.ok oracle.text, shared)
  | .confirmPairing _ => (.ok oracle.confirms, shared)
  | .validatePairingCode site _ =>
      match oracle.pairing with
      | some result =>
          if reachable site && result.siteToken != "" then (.ok result, shared)
          else (.error ⟨false, "no site_token in response"⟩, shared)
      | none => (.error ⟨false, "site returned status 403"⟩, shared)
  | .tokens => (.ok shared.tokens, shared)
  | .signHash id fingerprint hashBytes pin =>
      (.ok (signHash lib shared.tokens id fingerprint hashBytes pin), shared)
  | .pinGet fingerprint => (.ok (shared.pins.lookup fingerprint), shared)
  | .pinSet fingerprint pin =>
      (.ok (), { shared with pins := shared.pins.insert fingerprint pin })
  | .pinForget fingerprint => (.ok (), { shared with pins := shared.pins.erase fingerprint })
  | .fetchCertChain _ => (.ok oracle.chain, shared)
  | .fetchOCSP .. =>
      match oracle.ocsp with
      | some response => (.ok response, shared)
      | none => (.error ⟨false, "no OCSP server URL in certificate"⟩, shared)

/-- What an operation that fails changes: a write may leave a broken file. -/
def failed (oracle : Oracle) (shared : Shared) : Operation → Shared
  | .writeTokenFile _ => { shared with tokenFile := oracle.leaves.getD shared.tokenFile }
  | _ => shared

def reply (lib : Libraries) (oracle : Oracle) (shared : Shared) (operation : Operation) :
    Except GoError operation.Answer × Shared :=
  match oracle.fault with
  | some error =>
      if operation.fallible then (.error error, failed oracle shared operation)
      else answer lib oracle shared operation
  | none => answer lib oracle shared operation

/-- What happens besides the requests. -/
inductive Move where
  | elapse (seconds : Nat)
  /-- Tokens are plugged in and out, their objects and PINs change. -/
  | tokens (modules : List Module)
  /-- The keychain or its entries are lost. -/
  | loseSecrets (keychain : Table String String)

def Move.apply (shared : Shared) : Move → Option Shared
  | .elapse seconds => some { shared with now := shared.now + seconds }
  | .tokens modules => some { shared with tokens := modules }
  | .loseSecrets keychain =>
      if keychain.rows.all fun entry => shared.keychain.lookup entry.1 == some entry.2 then
        some { shared with keychain := keychain }
      else none

/-- The bridge as an engine without transactions: there is nothing to commit. -/
abbrev bridge (lib : Libraries) : Engine face :=
  { Stamp := Int
    Data := Unit
    Shared := Shared
    Write := Unit
    Row := Unit
    Oracle := Oracle
    Move := Move
    perform := fun data _ => data
    row := fun _ => none
    stamp := Shared.now
    reply := fun oracle _ shared operation => some (reply lib oracle shared operation)
    effects := fun _ => []
    commits := fun _ => false
    move := fun move data shared => (move.apply shared).map fun later => (data, later) }

end DscSigning.Bridge
