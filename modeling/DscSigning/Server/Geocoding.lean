/-
The address of a position: the providers, the fallback and the cache.

`json.loads` gives back what `json.dumps` was given, so the cache holds the
dictionary itself, or nothing for a text that `json.loads` refuses.  The key
shows two floats by their `repr`, which no two floats share, so it is the pair.
-/

import DscSigning.Library.ExpiringStore
import DscSigning.Server.SignatureAnchor

namespace DscSigning.Geocoding

open Interaction Program DecimalFormat

structure Libraries extends DscSigning.Libraries where
  /-- `repr` of a float -/
  showFloat : PyFloat → String

structure Settings where
  geocodingProvider : Text
  geocodingUserAgent : Text
  geocodingApiKey : Text
deriving DecidableEq

/-- What `requests.get` is given. -/
structure Request where
  url : String
  params : List (String × String)
  headers : List (String × String)
  timeout : Nat
deriving DecidableEq

/-- The dictionary that `reverse_geocode` returns. -/
structure Resolution where
  address : Json
  provider : String
  ok : Bool
  raw : Json

/-- `_cache_key` -/
structure CacheKey where
  lat : PyFloat
  lng : PyFloat
deriving DecidableEq

inductive Operation where
  | cacheGet (key : CacheKey)
  | getSettings
  | getPassword
  /-- The parsed body of a response that is no error. -/
  | httpGet (request : Request)
  | logError (title message : String)
  | cacheSet (key : CacheKey) (result : Resolution) (expiresInSec : Nat)

@[reducible] def Operation.Answer : Operation → Type
  | .cacheGet _ => Option (Option Resolution)
  | .getSettings => Settings
  | .getPassword => Text
  | .httpGet _ => Json
  | .logError .. => Unit
  | .cacheSet .. => Unit

abbrev face : Interface :=
  { Query := Operation
    Answer := Operation.Answer
    Error := Exn }

abbrev Geocoder (Value : Type) : Type := Program face Value

abbrev ask (operation : Operation) : Geocoder operation.Answer :=
  @Program.perform face operation

abbrev GeocoderEvent : Type := Event face Instant

abbrev GeocoderTrace : Type := Trace face Instant

/-! ### Values of a response -/

/-- Python's truth value. -/
def truthy : Json → Bool
  | .null => false
  | .bool value => value
  | .int value => value != 0
  | .number value => decide (value ≠ .finite 0)
  | .text value => value != ""
  | .list items => !items.isEmpty
  | .object fields => !fields.isEmpty

/-- `value.get(name)` -/
def getMember (name : String) : Json → Except Exn Json
  | .object fields => .ok ((fields.lookup name).getD .null)
  | _ => .error ⟨"AttributeError", "object has no attribute 'get'"⟩

/-- `results[0]` -/
def firstOf : Json → Except Exn Json
  | .list (item :: _) => .ok item
  | .list [] => .error ⟨"IndexError", "list index out of range"⟩
  | .text value => .ok (.text (clip value 1))
  | .object _ => .error ⟨"KeyError", "0"⟩
  | _ => .error ⟨"TypeError", "object is not subscriptable"⟩

/-! ### `geocoding.py` -/

def cacheTtlSeconds : Nat := 24 * 60 * 60

def httpTimeoutSeconds : Nat := 6

/-- `round(value, 4)` -/
def round4 : PyFloat → PyFloat
  | .finite value => binary64 (halfEven (value * 10000) / 10000)
  | other => other

def cacheKey (lat lng : PyFloat) : CacheKey := ⟨round4 lat, round4 lng⟩

variable (lib : Libraries)

/-- `f"{lat},{lng}"` -/
def coordinates (lat lng : String) : String := lat ++ "," ++ lng

/-- `_fallback`, of coordinates as they are shown. -/
def fallback (lat lng : Text) (reason : String) : Resolution :=
  { address := .text (match lat, lng with
      | some lat, some lng => coordinates lat lng
      | _, _ => "")
    provider := "fallback"
    ok := false
    raw := .object [("reason", .text reason)] }

def floatFallback (lat lng : PyFloat) (reason : String) : Resolution :=
  fallback (some (lib.showFloat lat)) (some (lib.showFloat lng)) reason

def nominatimRequest (settings : Settings) (lat lng : PyFloat) : Request :=
  { url := "https://nominatim.openstreetmap.org/reverse"
    params := [("lat", lib.showFloat lat), ("lon", lib.showFloat lng), ("format", "jsonv2"),
      ("zoom", "18"), ("addressdetails", "1")]
    headers := [("User-Agent", settings.geocodingUserAgent.orValue "e_sign DSC Signing"),
      ("Accept-Language", "en")]
    timeout := httpTimeoutSeconds }

/-- What `_nominatim` makes of the response. -/
def readNominatim (lat lng : PyFloat) (data : Json) : Except Exn Resolution := do
  let address ← getMember "display_name" data
  if truthy address then
    pure { address := address, provider := "nominatim", ok := true, raw := data }
  else pure (floatFallback lib lat lng "nominatim-empty")

/-- `_nominatim` -/
def nominatim (settings : Settings) (lat lng : PyFloat) : Geocoder Resolution := do
  let data ← ask (.httpGet (nominatimRequest lib settings lat lng))
  Program.ofExcept (readNominatim lib lat lng data)

def googleRequest (apiKey : String) (lat lng : PyFloat) : Request :=
  { url := "https://maps.googleapis.com/maps/api/geocode/json"
    params := [("latlng", coordinates (lib.showFloat lat) (lib.showFloat lng)), ("key", apiKey)]
    headers := []
    timeout := httpTimeoutSeconds }

/-- What `_google` makes of the response. -/
def readGoogle (lat lng : PyFloat) (data : Json) : Except Exn Resolution := do
  let results ← getMember "results" data
  if truthy results then do
    let first ← firstOf results
    let formatted ← getMember "formatted_address" first
    let status ← getMember "status" data
    pure
      { address := if truthy formatted then formatted
          else .text (coordinates (lib.showFloat lat) (lib.showFloat lng))
        provider := "google"
        ok := true
        raw := .object [("status", status), ("first", first)] }
  else pure (floatFallback lib lat lng "google-empty")

def apiKey (settings : Settings) : Geocoder Text :=
  if settings.geocodingApiKey.given then ask .getPassword else pure none

/-- `_google` -/
def google (settings : Settings) (lat lng : PyFloat) : Geocoder Resolution := do
  let apiKey ← apiKey settings
  if apiKey.given then do
    let data ← ask (.httpGet (googleRequest lib apiKey.show lat lng))
    Program.ofExcept (readGoogle lib lat lng data)
  else pure (floatFallback lib lat lng "google-missing-key")

def provider (settings : Settings) : String :=
  lower (settings.geocodingProvider.orValue "nominatim")

/-- The provider that the settings choose. -/
def askProvider (settings : Settings) (lat lng : PyFloat) : Geocoder Resolution :=
  if provider settings == "google" then google lib settings lat lng
  else nominatim lib settings lat lng

def providerFailed (settings : Settings) (lat lng : PyFloat) (exn : Exn) : Geocoder Resolution := do
  ask (.logError "DSC reverse_geocode failed"
    (s!"provider={provider settings} lat={lib.showFloat lat} lng={lib.showFloat lng} " ++
      s!"err={exn.message}"))
  pure (floatFallback lib lat lng s!"{provider settings}-error")

/-- Nothing is cached, or nothing that can be read. -/
def lookUp (lat lng : PyFloat) : Geocoder Resolution := do
  let settings ← ask .getSettings
  let result ← (askProvider lib settings lat lng).recover (providerFailed lib settings lat lng)
  if result.ok then do
    ask (.cacheSet (cacheKey lat lng) result cacheTtlSeconds)
    pure result
  else pure result

def located (lat lng : PyFloat) : Geocoder Resolution := do
  let cached ← ask (.cacheGet (cacheKey lat lng))
  match cached with
  | some (some result) => pure result
  | _ => lookUp lib lat lng

def showValue : FormValue → String
  | .text value => value
  | .number value => lib.showFloat value

def floats (lat lng : FormValue) : Option (PyFloat × PyFloat) :=
  match FormValue.toFloat lib.toLibraries lat, FormValue.toFloat lib.toLibraries lng with
  | .ok lat, .ok lng => some (lat, lng)
  | _, _ => none

/-- `reverse_geocode` -/
def reverseGeocode (lat lng : Option FormValue) : Geocoder Resolution :=
  match lat, lng with
  | some lat, some lng =>
      match floats lib lat lng with
      | some (latF, lngF) => located lib latF lngF
      | none => pure (fallback (some (showValue lib lat)) (some (showValue lib lng)) "bad-coords")
  | lat, lng => pure (fallback (lat.map (showValue lib)) (lng.map (showValue lib)) "missing-coords")

/-! ### Surroundings -/

structure Shared where
  now : Instant
  cache : ExpiringStore CacheKey (Option Resolution)
  settings : Settings

/-- How the surroundings answer: a failure, the time it takes, the stored
password and the body of the response. -/
structure Oracle where
  fault : Option Exn
  elapsed : Nat
  password : Text
  response : Json

def Shared.later (shared : Shared) (elapsed : Nat) : Shared :=
  { shared with now := shared.now + elapsed }

def answer (oracle : Oracle) (shared : Shared) :
    (operation : Operation) → operation.Answer × Shared
  | .cacheGet key => (shared.cache.find shared.now key, shared.later oracle.elapsed)
  | .getSettings => (shared.settings, shared.later oracle.elapsed)
  | .getPassword => (oracle.password, shared.later oracle.elapsed)
  | .httpGet _ => (oracle.response, shared.later oracle.elapsed)
  | .logError .. => ((), shared.later oracle.elapsed)
  | .cacheSet key result expiresInSec =>
      ((), Shared.later
        { shared with
          cache := shared.cache.put key (some result) (shared.now + seconds expiresInSec) }
        oracle.elapsed)

def reply (oracle : Oracle) (shared : Shared) (operation : Operation) :
    Except Exn operation.Answer × Shared :=
  match oracle.fault with
  | some exn => (.error exn, shared.later oracle.elapsed)
  | none => ((.ok (answer oracle shared operation).1), (answer oracle shared operation).2)

inductive Move where
  | elapse (time : Nat)
  /-- Redis drops a key, or the site's cache is cleared. -/
  | drop (keys : List CacheKey)
  | saveSettings (settings : Settings)

def Move.apply (shared : Shared) : Move → Shared
  | .elapse time => shared.later time
  | .drop keys => { shared with cache := shared.cache.eraseAll keys }
  | .saveSettings settings => { shared with settings := settings }

/-- Nothing of this is part of a transaction. -/
abbrev provided : Engine face :=
  { Stamp := Instant
    Data := Unit
    Shared := Shared
    Write := Unit
    Row := Unit
    Oracle := Oracle
    Move := Move
    perform := fun data _ => data
    row := fun _ => none
    stamp := Shared.now
    reply := fun oracle _ shared operation => some (reply oracle shared operation)
    effects := fun _ => []
    commits := fun _ => false
    move := fun move data shared => some (data, move.apply shared) }

/-- The arguments of a call. -/
structure Origin where
  lat : Option FormValue
  lng : Option FormValue

def body (origin : Origin) : Geocoder Resolution := reverseGeocode lib origin.lat origin.lng

end DscSigning.Geocoding
