/-
Calls of the keystore for one site leave the other sites alone.

All entries share one keychain namespace and one fallback file.  The key of a
token is the URL of its site and that of an HMAC secret has a prefix, which no
URL of the web starts with.
-/

import DscSigning.Bridge.Keystore
import DscSigning.Bridge.SigningKey
import DscSigning.Library.Runs

namespace DscSigning.Bridge

open Interaction Engine

variable {lib : Libraries}

/-! ### Keys -/

/-- The site URLs that the validation of a pairing code can reach. -/
def IsWeb (siteURL : String) : Prop :=
  "http://".toList <+: siteURL.toList ∨ "https://".toList <+: siteURL.toList

theorem secretKey_toList (siteURL : String) :
    (secretKey siteURL).toList = "hmac:".toList ++ siteURL.toList := by
  simp [secretKey, keyringHMACPrefix]

theorem secretKey_inj {one other : String} (same : secretKey one = secretKey other) :
    one = other := by
  have lists := congrArg String.toList same
  rw [secretKey_toList, secretKey_toList] at lists
  exact String.toList_inj.mp (List.append_cancel_left lists)

theorem web_ne_secretKey {siteURL : String} (web : IsWeb siteURL) (other : String) :
    siteURL ≠ secretKey other := by
  intro same
  have second : siteURL.toList[1]? = some 't' := by
    rcases web with ⟨rest, plain⟩ | ⟨rest, secure⟩
    · rw [← plain]
      rfl
    · rw [← secure]
      rfl
  rw [same, secretKey_toList] at second
  cases second

/-! ### What one call leaves alone -/

/-- The two states have the same of the site. -/
structure Alike (siteURL : String) (one other : Shared) : Prop where
  site : getSite one siteURL = getSite other siteURL
  tokenChain : one.keychain.lookup siteURL = other.keychain.lookup siteURL
  tokenFile : one.tokenFile.lookup siteURL = other.tokenFile.lookup siteURL
  secretChain : one.keychain.lookup (secretKey siteURL) = other.keychain.lookup (secretKey siteURL)
  secretFile : one.tokenFile.lookup (secretKey siteURL) = other.tokenFile.lookup (secretKey siteURL)

theorem Alike.refl (siteURL : String) (shared : Shared) : Alike siteURL shared shared :=
  ⟨rfl, rfl, rfl, rfl, rfl⟩

theorem Alike.trans {siteURL : String} {one two three : Shared} (first : Alike siteURL one two)
    (second : Alike siteURL two three) : Alike siteURL one three :=
  { site := first.site.trans second.site
    tokenChain := first.tokenChain.trans second.tokenChain
    tokenFile := first.tokenFile.trans second.tokenFile
    secretChain := first.secretChain.trans second.secretChain
    secretFile := first.secretFile.trans second.secretFile }

theorem Alike.tokenOf {siteURL : String} {one other : Shared} (alike : Alike siteURL one other)
    (script : List Oracle) : tokenOf lib one siteURL script = tokenOf lib other siteURL script := by
  cases script with
  | nil => rfl
  | cons oracle script =>
      rw [tokenOf_eq, tokenOf_eq, isPairedSite, isPairedSite, alike.site, alike.tokenChain,
        alike.tokenFile]

theorem Alike.secretOf {siteURL : String} {one other : Shared} (alike : Alike siteURL one other)
    (script : List Oracle) :
    secretOf lib one siteURL script = secretOf lib other siteURL script := by
  cases script with
  | nil => rfl
  | cons oracle script =>
      rw [secretOf_eq, secretOf_eq, isPairedSite, isPairedSite, alike.site, alike.secretChain,
        alike.secretFile]

section Calls

variable {changed siteURL : String} {shared later : Shared} {script : List Oracle}

/-- An entry of another key is stored. -/
theorem given_alike {key value : String} (token : siteURL ≠ key) (secret : secretKey siteURL ≠ key) :
    Alike siteURL (given script key value shared) shared := by
  unfold given placed
  split
  · exact Alike.refl siteURL shared
  · split
    · exact Alike.refl siteURL shared
    · split
      · exact ⟨rfl, AList.lookup_insert_ne token, rfl, AList.lookup_insert_ne secret, rfl⟩
      · exact ⟨rfl, rfl, AList.lookup_insert_ne token, rfl, AList.lookup_insert_ne secret⟩

theorem addSite_alike {site : PairedSite} {siteToken : String} (distinct : siteURL ≠ site.siteURL)
    (web : IsWeb site.siteURL)
    (served : serveKeystore lib shared (.addSite site siteToken, script) = some later) :
    Alike siteURL later shared := by
  obtain ⟨⟨result, left⟩, conducted, rfl⟩ := Option.map_eq_some_iff.mp served
  obtain ⟨outcome, played, same⟩ := Option.map_eq_some_iff.mp conducted
  obtain ⟨rfl, rfl⟩ := Prod.mk.inj same
  obtain ⟨saved, left⟩ := addSite_played played
  have stored : Alike siteURL (given script site.siteURL siteToken shared) shared :=
    given_alike distinct (Ne.symm (web_ne_secretKey web siteURL))
  rw [left]
  exact
    { site := AList.lookup_insert_ne distinct
      tokenChain := stored.tokenChain
      tokenFile := stored.tokenFile
      secretChain := stored.secretChain
      secretFile := stored.secretFile }

theorem setHMACSecret_alike {secret : String} (distinct : siteURL ≠ changed) (web : IsWeb siteURL)
    (served : serveKeystore lib shared (.setHMACSecret changed secret, script) = some later) :
    Alike siteURL later shared := by
  obtain ⟨⟨result, left⟩, conducted, rfl⟩ := Option.map_eq_some_iff.mp served
  obtain ⟨outcome, played, same⟩ := Option.map_eq_some_iff.mp conducted
  obtain ⟨rfl, rfl⟩ := Prod.mk.inj same
  have left := (storeGiven_played played).2 []
  rw [List.append_nil] at left
  rw [left]
  exact given_alike (web_ne_secretKey web changed) fun same => distinct (secretKey_inj same)

theorem removeSite_alike (distinct : siteURL ≠ changed) (web : IsWeb siteURL) (other : IsWeb changed)
    (served : serveKeystore lib shared (.removeSite changed, script) = some later) :
    Alike siteURL later shared := by
  obtain ⟨⟨result, left⟩, conducted, rfl⟩ := Option.map_eq_some_iff.mp served
  have removed : Removed changed shared left :=
    conduct_ensures (removeSite_ensures changed) conducted
  have token : ¬ (siteURL = changed ∨ siteURL = secretKey changed) := by
    rintro (same | same)
    · exact distinct same
    · exact web_ne_secretKey web changed same
  have secret : ¬ (secretKey siteURL = changed ∨ secretKey siteURL = secretKey changed) := by
    rintro (same | same)
    · exact web_ne_secretKey other siteURL same.symm
    · exact distinct (secretKey_inj same)
  constructor
  · rw [getSite, removed.sites]
    exact AList.lookup_erase_ne distinct
  · exact (removed.keychain siteURL).resolve_right fun gone => token gone.1
  · rw [removed.tokenFile, if_neg token]
  · exact (removed.keychain (secretKey siteURL)).resolve_right fun gone => secret gone.1
  · rw [removed.tokenFile, if_neg secret]

theorem serveKeystore_alike {call : KeystoreCall} (distinct : siteURL ≠ call.siteURL)
    (web : IsWeb siteURL) (other : IsWeb call.siteURL)
    (served : serveKeystore lib shared (call, script) = some later) : Alike siteURL later shared := by
  cases call with
  | addSite site siteToken => exact addSite_alike distinct other served
  | setHMACSecret changed secret => exact setHMACSecret_alike distinct web served
  | removeSite changed => exact removeSite_alike distinct web other served

end Calls

/-- Any number of calls for one site leaves what the keystore says of another. -/
theorem sites_isolated (lib : Libraries) (changed siteURL : String) (distinct : changed ≠ siteURL)
    (web : IsWeb changed) (other : IsWeb siteURL) (calls : List (KeystoreCall × List Oracle))
    (about : ∀ call ∈ calls, call.1.siteURL = changed) (before after : Shared)
    (served : Runs.run (serveKeystore lib) before calls = some after) :
    isPairedSite after siteURL = isPairedSite before siteURL ∧
      getSite after siteURL = getSite before siteURL ∧
      (∀ script, tokenOf lib after siteURL script = tokenOf lib before siteURL script) ∧
      ∀ script, secretOf lib after siteURL script = secretOf lib before siteURL script := by
  have preserved (shared : Shared) (call : KeystoreCall × List Oracle) (next : Shared)
      (kept : Alike siteURL shared before) (named : call.1.siteURL = changed)
      (stepped : serveKeystore lib shared call = some next) : Alike siteURL next before := by
    obtain ⟨call, script⟩ := call
    have apart : siteURL ≠ call.siteURL := by
      rw [named]
      exact Ne.symm distinct
    have reached : IsWeb call.siteURL := by
      rw [named]
      exact web
    exact (serveKeystore_alike apart other reached stepped).trans kept
  have along : Runs.Along (serveKeystore lib) (fun _ call => call.1.siteURL = changed) before
      calls :=
    Runs.along_members (fun call member _ => about call member) before
  have alike := Runs.run_invariant preserved (Alike.refl siteURL before) along served
  refine ⟨?_, alike.site, alike.tokenOf, alike.secretOf⟩
  rw [isPairedSite, alike.site, isPairedSite]

/-! ### Two sites -/

def homeSite : String := "https://home.example"

/-- One paired site, with its token in the keychain and its secret in the file. -/
def besideOther : Shared :=
  { (started plainLibraries 0 []).shared with
    sites := (∅ : Table String PairedSite).insert "http://other.example"
      ⟨"http://other.example", "2026-01-01", "A-9"⟩
    keychain := (∅ : Table String String).insert "http://other.example" "T-9"
    tokenFile := (∅ : Table String String).insert (secretKey "http://other.example") "K-9" }

/-- Another site is paired while the keychain is silent, gets its secret, and is
removed while the keychain is silent again. -/
def homeCalls : List (KeystoreCall × List Oracle) :=
  [(.addSite ⟨homeSite, "2026-01-02", "A-1"⟩ "T-1", [silentKeychain, calm, calm, calm, calm]),
    (.setHMACSecret homeSite "K-1", [calm]),
    (.removeSite homeSite, [calm, silentKeychain, silentKeychain, calm, calm, calm, calm])]

theorem sites_isolated_sample :
    ∃ after, Runs.run (serveKeystore plainLibraries) besideOther homeCalls = some after ∧
      isPairedSite after "http://other.example" = isPairedSite besideOther "http://other.example" ∧
      getSite after "http://other.example" = getSite besideOther "http://other.example" ∧
      (∀ script, tokenOf plainLibraries after "http://other.example" script =
        tokenOf plainLibraries besideOther "http://other.example" script) ∧
      ∀ script, secretOf plainLibraries after "http://other.example" script =
        secretOf plainLibraries besideOther "http://other.example" script := by
  have ends : (Runs.run (serveKeystore plainLibraries) besideOther homeCalls).isSome = true := by
    decide +kernel
  obtain ⟨after, served⟩ := Option.isSome_iff_exists.mp ends
  refine ⟨after, served, ?_⟩
  exact sites_isolated plainLibraries homeSite "http://other.example" (by decide)
    (Or.inr (by decide)) (Or.inl (by decide)) homeCalls (by simp [homeCalls, KeystoreCall.siteURL])
    besideOther after served

end DscSigning.Bridge
