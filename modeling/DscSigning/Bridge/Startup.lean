/-
The start of the bridge: its configuration, and the certificate it is known by.

The certificate and its key are two files, written one after the other; a start
can fail or be cut off between any two operations, and a write can stop halfway.
-/

import DscSigning.Bridge.Surroundings

namespace DscSigning.Startup

open Interaction Program
open DscSigning.Bridge (GoError)

inductive File where
  | config
  | tlsCert
  | tlsKey
deriving DecidableEq

/-- The members of `dsc-bridge.json`; one that is missing has Go's zero value. -/
structure FileConfig where
  host : String
  port : Int
  pkcs11Libs : List String
  autoConfirmPairing : Bool
deriving DecidableEq

structure Config where
  host : String
  port : Int
  pkcs11Libs : List String
  autoConfirmPairing : Bool
deriving DecidableEq

/-- A `tls.Certificate`: the leaf, what follows it, and the key. -/
structure KeyPair where
  leaf : Bytes
  rest : List Bytes
  privateKey : Bytes
deriving DecidableEq

/-- What `x509.CreateCertificate` is given. -/
structure Template where
  serialNumber : Nat
  commonName : String
  organization : List String
  validHours : Nat
  dnsNames : List String
  ipAddresses : List String
deriving DecidableEq

structure Libraries where
  sha256 : Bytes → Bytes
  defaultPKCS11Paths : List String
  /-- `json.Unmarshal` into the configuration -/
  unmarshal : Bytes → Except GoError FileConfig
  /-- `tls.X509KeyPair` -/
  x509KeyPair : Bytes → Bytes → Except GoError KeyPair
  /-- The file that `pem.Encode` writes. -/
  encodePem : String → Bytes → Bytes
  /-- Whether `ecdsa.GenerateKey` returns the key. -/
  generated : Bytes → Bool
  marshalECPrivateKey : Bytes → Except GoError Bytes
  /-- A self-signed certificate, made at this time. -/
  createCertificate : Int → Template → Bytes → Except GoError Bytes

inductive Operation where
  | mkdirAll
  | stat (file : File)
  | readFile (file : File)
  | generateKey
  | randInt
  | createCertificate (template : Template) (key : Bytes)
  /-- Created or truncated. -/
  | openFile (file : File)
  | write (file : File) (bytes : Bytes)
  | newKeystore
  | listen (addr : String)

@[reducible] def Operation.Answer : Operation → Type
  | .readFile _ => Bytes
  | .generateKey => Bytes
  | .randInt => Nat
  | .createCertificate .. => Bytes
  | _ => Unit

abbrev face : Interface :=
  { Query := Operation
    Answer := Operation.Answer
    Error := GoError }

abbrev Starter (Value : Type) : Type := Program face Value

/-- Ask, and have the answer or the error: `value, err := ...`. -/
abbrev ask (operation : Operation) : Starter (Except GoError operation.Answer) :=
  @Program.ask face _ operation .done

abbrev StartEvent : Type := Event face Int

abbrev StartTrace : Type := Trace face Int

variable (lib : Libraries)

/-! ### `config.go` -/

def defaultConfig : Config :=
  { host := "127.0.0.1"
    port := 4645
    pkcs11Libs := lib.defaultPKCS11Paths
    autoConfirmPairing := false }

/-- The file over the defaults; its libraries come first. -/
def merge (config : Config) (fileCfg : FileConfig) : Config :=
  { host := if fileCfg.host != "" then fileCfg.host else config.host
    port := if fileCfg.port != 0 then fileCfg.port else config.port
    pkcs11Libs := if fileCfg.pkcs11Libs.length > 0 then fileCfg.pkcs11Libs ++ config.pkcs11Libs
      else config.pkcs11Libs
    autoConfirmPairing := fileCfg.autoConfirmPairing }

/-- What `LoadConfig` makes of its file. -/
def readConfig (data : Except GoError Bytes) : Except GoError Config :=
  match data with
  | .error err => if err.notFound then .ok (defaultConfig lib) else .error err
  | .ok data => (lib.unmarshal data).map (merge (defaultConfig lib))

/-- `LoadConfig` -/
def loadConfig : Starter (Except GoError Config) := do
  let dir ← ask .mkdirAll
  match dir with
  | .error err => pure (.error err)
  | .ok _ => do
      let data ← ask (.readFile .config)
      pure (readConfig lib data)

/-! ### `tls.go` -/

/-- `certFingerprint` -/
def certFingerprint (der : Bytes) : String := hex (lib.sha256 der)

def fileExists (file : File) : Starter Bool := do
  let info ← ask (.stat file)
  pure (match info with
    | .ok _ => true
    | .error _ => false)

/-- `tls.LoadX509KeyPair` -/
def loadX509KeyPair : Starter (Except GoError KeyPair) := do
  let cert ← ask (.readFile .tlsCert)
  match cert with
  | .error err => pure (.error err)
  | .ok certPEM => do
      let key ← ask (.readFile .tlsKey)
      match key with
      | .error err => pure (.error err)
      | .ok keyPEM => pure (lib.x509KeyPair certPEM keyPEM)

def template (serial : Nat) : Template :=
  { serialNumber := serial
    commonName := "dsc-bridge"
    organization := ["DSC Bridge Agent"]
    validHours := 10 * 365 * 24
    dnsNames := ["localhost"]
    ipAddresses := ["127.0.0.1"] }

/-- The error of the write is dropped, as in the source. -/
def writePem (file : File) (kind : String) (der : Bytes)
    (next : Starter (Except GoError KeyPair)) : Starter (Except GoError KeyPair) := do
  let opened ← ask (.openFile file)
  match opened with
  | .error err => pure (.error err)
  | .ok _ => do
      let _ ← ask (.write file (lib.encodePem kind der))
      next

/-- `generateSelfSignedCert` once the certificate is made. -/
def storePair (key certDER : Bytes) : Starter (Except GoError KeyPair) :=
  writePem lib .tlsCert "CERTIFICATE" certDER
    (match lib.marshalECPrivateKey key with
      | .error err => pure (.error err)
      | .ok keyDER => writePem lib .tlsKey "EC PRIVATE KEY" keyDER (loadX509KeyPair lib))

/-- `generateSelfSignedCert` -/
def generateSelfSignedCert : Starter (Except GoError KeyPair) := do
  let key ← ask .generateKey
  match key with
  | .error err => pure (.error err)
  | .ok key => do
      let serial ← ask .randInt
      match serial with
      | .error err => pure (.error err)
      | .ok serial => do
          let certDER ← ask (.createCertificate (template serial) key)
          match certDER with
          | .error err => pure (.error err)
          | .ok certDER => storePair lib key certDER

def bothExist : Starter Bool := do
  let cert ← fileExists .tlsCert
  if cert then fileExists .tlsKey else pure false

def loadExisting : Starter (Option KeyPair) := do
  let both ← bothExist
  if both then do
    let loaded ← loadX509KeyPair lib
    pure loaded.toOption
  else pure none

/-- `EnsureTLSCert` -/
def ensureTLSCert : Starter (Except GoError (KeyPair × String)) := do
  let existing ← loadExisting lib
  match existing with
  | some cert => pure (.ok (cert, certFingerprint lib cert.leaf))
  | none => do
      let generated ← generateSelfSignedCert lib
      match generated with
      | .error err => pure (.error ⟨false, "generating TLS cert: " ++ err.message⟩)
      | .ok cert => pure (.ok (cert, certFingerprint lib cert.leaf))

/-! ### `main.go` -/

/-- What the server is started with. -/
structure Serving where
  addr : String
  certificate : KeyPair
  agentFP : String
  config : Config
deriving DecidableEq

/-- `log.Fatalf` -/
def fatal {Value : Type} (message : String) (err : GoError) : Starter Value :=
  .fail ⟨false, message ++ err.message⟩

/-- `main` from the keystore on. -/
def serve (config : Config) (cert : KeyPair × String) : Starter Serving := do
  let ks ← ask .newKeystore
  match ks with
  | .error err => fatal "Failed to load keystore: " err
  | .ok _ => do
      let addr := s!"{config.host}:{config.port}"
      let listening ← ask (.listen addr)
      match listening with
      | .error err => fatal "Server error: " err
      | .ok _ => pure ⟨addr, cert.1, cert.2, config⟩

/-- `main` -/
def start : Starter Serving := do
  let config ← loadConfig lib
  match config with
  | .error err => fatal "Failed to load config: " err
  | .ok config => do
      let cert ← ensureTLSCert lib
      match cert with
      | .error err => fatal "Failed to setup TLS: " err
      | .ok cert => serve config cert

/-! ### Surroundings -/

structure Shared where
  now : Int
  files : Table File Bytes

/-- How the machine answers: a failure, how much a failed write leaves, and
what comes from the source of randomness. -/
structure Oracle where
  fault : Option GoError
  written : Nat
  key : Bytes
  serial : Nat

def content (shared : Shared) (file : File) : Bytes := (shared.files.lookup file).getD []

def Shared.put (shared : Shared) (file : File) (bytes : Bytes) : Shared :=
  { shared with files := shared.files.insert file bytes }

def missing (file : File) : GoError :=
  ⟨true, match file with
    | .config => "open dsc-bridge.json: no such file or directory"
    | .tlsCert => "open tls_cert.pem: no such file or directory"
    | .tlsKey => "open tls_key.pem: no such file or directory"⟩

def answer (oracle : Oracle) (shared : Shared) :
    (operation : Operation) → Except GoError operation.Answer × Shared
  | .mkdirAll => (.ok (), shared)
  | .stat file =>
      match shared.files.lookup file with
      | some _ => (.ok (), shared)
      | none => (.error (missing file), shared)
  | .readFile file =>
      match shared.files.lookup file with
      | some bytes => (.ok bytes, shared)
      | none => (.error (missing file), shared)
  | .generateKey => (.ok oracle.key, shared)
  | .randInt => (.ok oracle.serial, shared)
  | .createCertificate template key => (lib.createCertificate shared.now template key, shared)
  | .openFile file => (.ok (), shared.put file [])
  | .write file bytes => (.ok (), shared.put file (content shared file ++ bytes))
  | .newKeystore => (.ok (), shared)
  | .listen _ => (.ok (), shared)

/-- What an operation that fails changes. -/
def failed (oracle : Oracle) (shared : Shared) : Operation → Shared
  | .write file bytes => shared.put file (content shared file ++ bytes.take oracle.written)
  | _ => shared

def reply (oracle : Oracle) (shared : Shared) (operation : Operation) :
    Except GoError operation.Answer × Shared :=
  match oracle.fault with
  | some err => (.error err, failed oracle shared operation)
  | none => answer lib oracle shared operation

/-- What happens besides the starts. -/
inductive Move where
  | elapse (time : Nat)
  | edit (file : File) (bytes : Option Bytes)

def Move.apply (shared : Shared) : Move → Shared
  | .elapse time => { shared with now := shared.now + time }
  | .edit file (some bytes) => shared.put file bytes
  | .edit file none => { shared with files := shared.files.erase file }

abbrev machine : Engine face :=
  { Stamp := Int
    Data := Unit
    Shared := Shared
    Write := Unit
    Row := Unit
    Oracle := Oracle
    Move := Move
    perform := fun data _ => data
    row := fun _ => none
    stamp := Shared.now
    reply := fun oracle _ shared operation => some (reply lib oracle shared operation)
    effects := fun _ => []
    commits := fun _ => false
    move := fun move data shared => some (data, move.apply shared) }

/-- Every start runs the same program. -/
def body (_ : Unit) : Starter Serving := start lib

end DscSigning.Startup
