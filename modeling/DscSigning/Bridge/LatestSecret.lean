/-
Which secret the keystore returns after calls for one site.

Storing a value writes one of its two places and leaves the other as it is, so
an older value comes back when the keychain goes and comes again in between.
-/

import DscSigning.Bridge.SiteIsolation

namespace DscSigning.Bridge

open Interaction Engine

variable {lib : Libraries}

/-- What the calls for a site have last stored: the token, and the HMAC secret
since the last removal. -/
structure Ledger where
  token : Option String
  secret : Option String

def Ledger.record (ledger : Ledger) : KeystoreCall → Ledger
  | .addSite _ token => { ledger with token := some token }
  | .setHMACSecret _ secret => { ledger with secret := some secret }
  | .removeSite _ => { ledger with secret := none }

variable (lib) in
def succeed (shared : Shared) (call : KeystoreCall × List Oracle) : Option Shared :=
  match conduct lib call.1.program shared call.2 with
  | some (.ok (.ok _), later) => some later
  | _ => none

variable (lib) in
def recorded (state : Shared × Ledger) (call : KeystoreCall × List Oracle) :
    Option (Shared × Ledger) :=
  (succeed lib state.1 call).map fun later => (later, state.2.record call.1)

variable (lib) in
/-- `Token` and `HMACSecret` return the latest value if they return one. -/
def Current (siteURL : String) (state : Shared × Ledger) : Prop :=
  (∀ script token, tokenOf lib state.1 siteURL script = some (.ok token) →
    state.2.token = some token) ∧
  ∀ script secret, secretOf lib state.1 siteURL script = some (.ok secret) → secret ≠ "" →
    state.2.secret = some secret

/-! ### The two places -/

/-- One of the two places has the value. -/
def Kept (shared : Shared) (key value : String) : Prop :=
  shared.keychain.lookup key = some value ∨ shared.tokenFile.lookup key = some value

/-- Every value that can be read is the latest. -/
structure Fresh (siteURL : String) (state : Shared × Ledger) : Prop where
  token : ∀ value, Kept state.1 siteURL value → state.2.token = some value
  secret : ∀ value, Kept state.1 (secretKey siteURL) value → value ≠ "" →
    state.2.secret = some value

theorem entryAnswer_kept {shared : Shared} {key value : String} (kept : Kept shared key value) :
    ∃ script, entryAnswer key (shared.keychain.lookup key) (shared.tokenFile.lookup key) script =
      some (.ok value) := by
  rcases kept with chain | file
  · exact ⟨[calm], by rw [chain, entryAnswer_chain]⟩
  · exact ⟨[silentKeychain, calm], by rw [file, entryAnswer_file]⟩

/-- The reads of a site that is not paired give nothing. -/
theorem current_iff (siteURL : String) (state : Shared × Ledger) :
    Current lib siteURL state ↔ (isPairedSite state.1 siteURL = true → Fresh siteURL state) := by
  constructor
  · rintro ⟨tokens, secrets⟩ paired
    constructor
    · intro value kept
      obtain ⟨script, answered⟩ := entryAnswer_kept kept
      apply tokens (calm :: script)
      rw [tokenOf_eq, if_pos paired, answered]
      rfl
    · intro value kept nonempty
      obtain ⟨script, answered⟩ := entryAnswer_kept kept
      refine secrets (calm :: script) value ?_ nonempty
      rw [secretOf_eq, if_pos paired, answered]
      rfl
  · intro fresh
    constructor
    · intro script token returned
      cases script with
      | nil => cases returned
      | cons oracle script =>
          rw [tokenOf_eq] at returned
          split at returned
          · rename_i paired
            obtain ⟨read, answered, same⟩ := Option.map_eq_some_iff.mp returned
            cases read with
            | error error => cases same
            | ok value =>
                cases same
                exact (fresh paired).token token (entryAnswer_ok answered)
          · split at returned <;> cases returned
    · intro script secret returned nonempty
      cases script with
      | nil => cases returned
      | cons oracle script =>
          rw [secretOf_eq] at returned
          split at returned
          · rename_i paired
            obtain ⟨read, answered, same⟩ := Option.map_eq_some_iff.mp returned
            cases read with
            | error error =>
                cases same
                exact absurd rfl nonempty
            | ok value =>
                cases same
                exact (fresh paired).secret _ (entryAnswer_ok answered) nonempty
          · split at returned <;> cases returned

/-- The value is in a place that storing this one does not write: an empty value
is not stored at all. -/
def LeftOver (shared : Shared) (script : List Oracle) (key value old : String) : Prop :=
  if value = "" then Kept shared key old
  else match script with
    | [] => Kept shared key old
    | oracle :: _ =>
        match oracle.fault with
        | none => shared.tokenFile.lookup key = some old
        | some _ => shared.keychain.lookup key = some old

/-- After storing, the places hold what was stored and what was left over. -/
theorem given_kept {shared : Shared} {script : List Oracle} {key value : String}
    (allowed : String → Prop) (stored : allowed value) :
    (∀ old, Kept (given script key value shared) key old → allowed old) ↔
      ∀ old, LeftOver shared script key value old → allowed old := by
  unfold given LeftOver
  split
  · exact Iff.rfl
  · split
    · exact Iff.rfl
    · rename_i oracle rest
      unfold placed
      cases fault : oracle.fault with
      | none =>
          simp only [fault]
          constructor
          · intro all old left
            exact all old (Or.inr left)
          · rintro all old (chain | file)
            · rw [AList.lookup_insert] at chain
              cases chain
              exact stored
            · exact all old file
      | some error =>
          simp only [fault]
          constructor
          · intro all old left
            exact all old (Or.inl left)
          · rintro all old (chain | file)
            · exact all old chain
            · rw [AList.lookup_insert] at file
              cases file
              exact stored

theorem given_other {shared : Shared} {script : List Oracle} {key value other old : String}
    (distinct : other ≠ key) :
    Kept (given script key value shared) other old ↔ Kept shared other old := by
  unfold given placed Kept
  split
  · exact Iff.rfl
  · split
    · exact Iff.rfl
    · split
      · rw [AList.lookup_insert_ne distinct]
      · rw [AList.lookup_insert_ne distinct]

theorem ne_secretKey (siteURL : String) : siteURL ≠ secretKey siteURL := by
  intro same
  have lengths := congrArg (fun text => text.toList.length) same
  simp [secretKey_toList] at lengths
  omega

/-! ### One call -/

/-- The call leaves no other value of what it stores behind, and a site that is
paired anew has no old HMAC secret. -/
def Refreshes (siteURL : String) (state : Shared × Ledger) (call : KeystoreCall × List Oracle) :
    Prop :=
  match call.1 with
  | .addSite _ token =>
      (∀ old, LeftOver state.1 call.2 siteURL token old → old = token) ∧
      (isPairedSite state.1 siteURL = false →
        ∀ old, Kept state.1 (secretKey siteURL) old → old ≠ "" → state.2.secret = some old)
  | .setHMACSecret _ secret =>
      isPairedSite state.1 siteURL = true →
        ∀ old, LeftOver state.1 call.2 (secretKey siteURL) secret old → old ≠ "" → old = secret
  | .removeSite _ => True

theorem succeed_conducted {shared later : Shared} {call : KeystoreCall × List Oracle}
    (succeeded : succeed lib shared call = some later) :
    ∃ value, conduct lib call.1.program shared call.2 = some (.ok (.ok value), later) := by
  unfold succeed at succeeded
  split at succeeded
  · rename_i value left conducted
    cases succeeded
    exact ⟨value, conducted⟩
  · cases succeeded

section Steps

variable {siteURL : String} {shared later : Shared} {ledger : Ledger} {script : List Oracle}

theorem addSite_current {site : PairedSite} {token : String} (named : site.siteURL = siteURL)
    (current : Current lib siteURL (shared, ledger))
    (succeeded : succeed lib shared (.addSite site token, script) = some later) :
    Current lib siteURL (later, ledger.record (.addSite site token)) ↔
      Refreshes siteURL (shared, ledger) (.addSite site token, script) := by
  subst named
  obtain ⟨_, conducted⟩ := succeed_conducted succeeded
  obtain ⟨outcome, played, same⟩ := Option.map_eq_some_iff.mp conducted
  obtain ⟨_, rfl⟩ := Prod.mk.inj same
  obtain ⟨saved, left⟩ := addSite_played played
  have paired : isPairedSite outcome.shared site.siteURL = true := by
    rw [left, isPairedSite, getSite, AList.lookup_insert]
    rfl
  have tokens (old : String) : Kept outcome.shared site.siteURL old ↔
      Kept (given script site.siteURL token shared) site.siteURL old := by
    rw [left]
    exact Iff.rfl
  have secrets (old : String) : Kept outcome.shared (secretKey site.siteURL) old ↔
      Kept shared (secretKey site.siteURL) old := by
    rw [left]
    exact given_other (Ne.symm (ne_secretKey site.siteURL))
  rw [current_iff]
  have held := (current_iff site.siteURL (shared, ledger)).mp current
  constructor
  · intro fresh
    have fresh := fresh paired
    constructor
    · apply (given_kept (· = token) rfl).mp
      intro old kept
      exact (Option.some.inj (fresh.token old ((tokens old).mpr kept))).symm
    · intro _ old kept nonempty
      exact fresh.secret old ((secrets old).mpr kept) nonempty
  · rintro ⟨noToken, noSecret⟩ _
    constructor
    · intro old kept
      have all := (given_kept (· = token) rfl).mpr noToken
      exact congrArg some (all old ((tokens old).mp kept)).symm
    · intro old kept nonempty
      have kept := (secrets old).mp kept
      cases before : isPairedSite shared site.siteURL with
      | false => exact noSecret before old kept nonempty
      | true => exact (held before).secret old kept nonempty

theorem setHMACSecret_current {secret : String} (current : Current lib siteURL (shared, ledger))
    (succeeded : succeed lib shared (.setHMACSecret siteURL secret, script) = some later) :
    Current lib siteURL (later, ledger.record (.setHMACSecret siteURL secret)) ↔
      Refreshes siteURL (shared, ledger) (.setHMACSecret siteURL secret, script) := by
  obtain ⟨_, conducted⟩ := succeed_conducted succeeded
  obtain ⟨outcome, played, same⟩ := Option.map_eq_some_iff.mp conducted
  obtain ⟨_, rfl⟩ := Prod.mk.inj same
  have left := (storeGiven_played played).2 []
  rw [List.append_nil] at left
  have paired : isPairedSite outcome.shared siteURL = isPairedSite shared siteURL := by
    rw [left, isPairedSite, isPairedSite, getSite, getSite]
    unfold given placed
    split
    · rfl
    · split
      · rfl
      · split <;> rfl
  have held := (current_iff siteURL (shared, ledger)).mp current
  rw [current_iff, paired, left]
  constructor
  · intro fresh before
    have stored : secret ≠ "" → secret = secret := fun _ => rfl
    apply (given_kept (fun old => old ≠ "" → old = secret) stored).mp
    intro old kept nonempty
    exact (Option.some.inj ((fresh before).secret old kept nonempty)).symm
  · intro noSecret before
    have stored : secret ≠ "" → secret = secret := fun _ => rfl
    have all := (given_kept (fun old => old ≠ "" → old = secret) stored).mpr
      (noSecret before)
    constructor
    · intro old kept
      exact (held before).token old ((given_other (ne_secretKey siteURL)).mp kept)
    · intro old kept nonempty
      exact congrArg some (all old kept nonempty).symm

theorem removeSite_current
    (succeeded : succeed lib shared (.removeSite siteURL, script) = some later) :
    Current lib siteURL (later, ledger.record (.removeSite siteURL)) := by
  obtain ⟨_, conducted⟩ := succeed_conducted succeeded
  have removed : Removed siteURL shared later :=
    conduct_ensures (removeSite_ensures siteURL) conducted
  rw [current_iff]
  intro paired
  rw [isPairedSite, getSite, removed.sites, AList.lookup_erase] at paired
  cases paired

theorem recorded_current {state next : Shared × Ledger} {call : KeystoreCall × List Oracle}
    (about : call.1.siteURL = siteURL) (current : Current lib siteURL state)
    (stepped : recorded lib state call = some next) :
    Current lib siteURL next ↔ Refreshes siteURL state call := by
  obtain ⟨shared, ledger⟩ := state
  obtain ⟨call, script⟩ := call
  obtain ⟨later, succeeded, rfl⟩ := Option.map_eq_some_iff.mp stepped
  cases call with
  | addSite site token => exact addSite_current about current succeeded
  | setHMACSecret changed secret =>
      cases about
      exact setHMACSecret_current current succeeded
  | removeSite changed =>
      cases about
      exact iff_of_true (removeSite_current succeeded) trivial

end Steps

/-! ### Runs -/

/-- From a site that is not paired on, the reads give the latest values in every
state of a run exactly when each call refreshes what it leaves. -/
theorem latest_secret_returned (lib : Libraries) (siteURL : String) (start : Shared)
    (unpaired : isPairedSite start siteURL = false) (calls : List (KeystoreCall × List Oracle))
    (about : ∀ call ∈ calls, call.1.siteURL = siteURL) (last : Shared × Ledger)
    (ran : Runs.run (recorded lib) (start, ⟨none, none⟩) calls = some last) :
    (∀ count state, Runs.run (recorded lib) (start, ⟨none, none⟩) (calls.take count) = some state →
      Current lib siteURL state) ↔
      Runs.Along (recorded lib) (Refreshes siteURL) (start, ⟨none, none⟩) calls := by
  apply Runs.along_iff_prefixes _ _ ran
  · intro call member before after current stepped
    exact recorded_current (about call member) current stepped
  · rw [current_iff]
    intro paired
    rw [unpaired] at paired
    cases paired

/-- A bridge that has just been installed. -/
def installed : Shared := (started plainLibraries 0 []).shared

/-- A pairing, its removal and a new pairing with the keychain in reach. -/
def pairedAgain : List (KeystoreCall × List Oracle) :=
  [(.addSite ⟨homeSite, "2026-01-01", "A-1"⟩ "T-1", [calm, calm, calm]),
    (.setHMACSecret homeSite "K-1", [calm]),
    (.removeSite homeSite, List.replicate 6 calm),
    (.addSite ⟨homeSite, "2026-01-02", "A-2"⟩ "T-2", [calm, calm, calm])]

theorem latest_secret_returned_sample :
    ∃ last, Runs.run (recorded plainLibraries) (installed, ⟨none, none⟩) pairedAgain = some last ∧
      ((∀ count state, Runs.run (recorded plainLibraries) (installed, ⟨none, none⟩)
        (pairedAgain.take count) = some state → Current plainLibraries homeSite state) ↔
        Runs.Along (recorded plainLibraries) (Refreshes homeSite) (installed, ⟨none, none⟩)
          pairedAgain) := by
  have ends : (Runs.run (recorded plainLibraries) (installed, ⟨none, none⟩) pairedAgain).isSome =
      true := by
    decide +kernel
  obtain ⟨last, ran⟩ := Option.isSome_iff_exists.mp ends
  exact ⟨last, ran, latest_secret_returned plainLibraries homeSite installed (by decide +kernel)
    pairedAgain (by simp [pairedAgain, KeystoreCall.siteURL]) last ran⟩

/-- The keychain is silent while the site is paired for the second time. -/
def pairedSilently : List (KeystoreCall × List Oracle) :=
  [(.addSite ⟨homeSite, "2026-01-01", "A-1"⟩ "T-1", [calm, calm, calm]),
    (.addSite ⟨homeSite, "2026-01-02", "A-2"⟩ "T-2", [silentKeychain, calm, calm, calm, calm])]

/-- Once the keychain is back, the token of the first pairing is returned. -/
theorem stale_token_returned :
    ∃ last, Runs.run (recorded plainLibraries) (installed, ⟨none, none⟩) pairedSilently =
        some last ∧
      last.2.token = some "T-2" ∧
      tokenOf plainLibraries last.1 homeSite [calm, calm] = some (.ok "T-1") ∧
      ¬ Current plainLibraries homeSite last := by
  have ends : (Runs.run (recorded plainLibraries) (installed, ⟨none, none⟩) pairedSilently).map
      (fun last => (last.2.token, (tokenOf plainLibraries last.1 homeSite [calm, calm]).bind
        Except.toOption)) = some (some "T-2", some "T-1") := by
    decide +kernel
  obtain ⟨last, ran, shown⟩ := Option.map_eq_some_iff.mp ends
  obtain ⟨latest, told⟩ := Prod.mk.inj shown
  have returned : tokenOf plainLibraries last.1 homeSite [calm, calm] = some (.ok "T-1") := by
    obtain ⟨read, answered, given⟩ := Option.bind_eq_some_iff.mp told
    cases read with
    | error error => cases given
    | ok token =>
        cases given
        exact answered
  refine ⟨last, ran, latest, returned, fun current => ?_⟩
  have same := current.1 _ _ returned
  rw [latest] at same
  exact absurd (Option.some.inj same) (by decide)

end DscSigning.Bridge
