/-
What a pairing that fails leaves behind.

`AddSite` writes the token, then the map, then the metadata file, and undoes
nothing when one of them fails.
-/

import DscSigning.Bridge.SiteIsolation

namespace DscSigning.Bridge

open Interaction Engine

variable (lib : Libraries)

/-! ### What the keystore says -/

/-- The surroundings of a read, with or without a fault of the keychain. -/
def reading (fault : Option GoError) : Operation → Oracle
  | .keychainGet _ => { calm with fault := fault }
  | _ => calm

/-- `Token` and `HMACSecret` under one behaviour of the keychain. -/
def tokenUnder (fault : Option GoError) (shared : Shared) (siteURL : String) :
    Option (Except GoError (Except GoError String)) :=
  ((bridge lib).steadily (reading fault) (siteToken siteURL) () shared []).map Outcome.result

def secretUnder (fault : Option GoError) (shared : Shared) (siteURL : String) :
    Option (Except GoError (Except GoError String)) :=
  ((bridge lib).steadily (reading fault) (getHMACSecret siteURL) () shared []).map Outcome.result

/-- `ListSiteURLs`, up to its order. -/
def Lists (shared : Shared) (siteURL : String) : Prop :=
  siteURL ∈ (Table.rows shared.sites).map Prod.fst

/-- The keystore says the same of every site. -/
structure SameAnswers (before after : Shared) : Prop where
  paired : ∀ siteURL, isPairedSite after siteURL = isPairedSite before siteURL
  listed : ∀ siteURL, Lists after siteURL ↔ Lists before siteURL
  token : ∀ fault siteURL, tokenUnder lib fault after siteURL = tokenUnder lib fault before siteURL
  secret : ∀ fault siteURL,
    secretUnder lib fault after siteURL = secretUnder lib fault before siteURL

theorem SameAnswers.refl (shared : Shared) : SameAnswers lib shared shared :=
  ⟨fun _ => rfl, fun _ => Iff.rfl, fun _ _ => rfl, fun _ _ => rfl⟩

variable {lib}

theorem lists_iff (shared : Shared) (siteURL : String) :
    Lists shared siteURL ↔ isPairedSite shared siteURL = true := by
  unfold Lists isPairedSite getSite
  rw [List.mem_map, Option.isSome_iff_exists]
  constructor
  · rintro ⟨⟨key, site⟩, member, rfl⟩
    exact ⟨site, Table.mem_rows.mp member⟩
  · rintro ⟨site, found⟩
    exact ⟨(siteURL, site), Table.mem_rows.mpr found, rfl⟩

/-- The entry that a read finds: a keychain with a fault gives none. -/
def entryUnder (fault : Option GoError) (shared : Shared) (key : String) : Option String :=
  match fault with
  | some _ => shared.tokenFile.lookup key
  | none => (shared.keychain.lookup key).or (shared.tokenFile.lookup key)

theorem tokenUnder_eq (fault : Option GoError) (shared : Shared) (siteURL : String) :
    tokenUnder lib fault shared siteURL =
      some (.ok (if isPairedSite shared siteURL then
        match entryUnder fault shared siteURL with
        | some token => .ok token
        | none => .error (missingToken siteURL (fault.getD (notFound siteURL)))
      else .error ⟨false, s!"site {siteURL} is not paired"⟩)) := by
  unfold tokenUnder isPairedSite getSite entryUnder siteToken getTokenFile loadTokenFile
  cases paired : shared.sites.lookup siteURL with
  | none => simp [steadily, Program.perform, Program.bind, reply, reading, calm, answer, paired]
  | some site =>
      cases fault with
      | some error =>
          cases file : shared.tokenFile.lookup siteURL <;> cases notFound : error.notFound <;>
            simp [steadily, Program.perform, Program.bind, reply, reading, calm, answer, paired,
              file, failed, Operation.fallible, missingToken, notFound]
      | none =>
          cases chain : shared.keychain.lookup siteURL <;>
            cases file : shared.tokenFile.lookup siteURL <;>
            simp [steadily, Program.perform, Program.bind, reply, reading, calm, answer, paired,
              chain, file, missingToken, notFound]

theorem secretUnder_eq (fault : Option GoError) (shared : Shared) (siteURL : String) :
    secretUnder lib fault shared siteURL =
      some (.ok (if isPairedSite shared siteURL then
        .ok ((entryUnder fault shared (secretKey siteURL)).getD "")
      else .error ⟨false, s!"site {siteURL} is not paired"⟩)) := by
  unfold secretUnder isPairedSite getSite entryUnder getHMACSecret getTokenFile loadTokenFile
    secretKey
  cases paired : shared.sites.lookup siteURL with
  | none => simp [steadily, Program.perform, Program.bind, reply, reading, calm, answer, paired]
  | some site =>
      cases fault with
      | some error =>
          cases file : shared.tokenFile.lookup (keyringHMACPrefix ++ siteURL) <;>
            simp [steadily, Program.perform, Program.bind, reply, reading, calm, answer, paired,
              file, failed, Operation.fallible]
      | none =>
          cases chain : shared.keychain.lookup (keyringHMACPrefix ++ siteURL) <;>
            cases file : shared.tokenFile.lookup (keyringHMACPrefix ++ siteURL) <;>
            simp [steadily, Program.perform, Program.bind, reply, reading, calm, answer, paired,
              chain, file, notFound]

/-- The entries that reads of paired sites find, under any behaviour of the keychain. -/
theorem sameAnswers_iff {before after : Shared} :
    SameAnswers lib before after ↔
      (∀ siteURL, isPairedSite after siteURL = isPairedSite before siteURL) ∧
      ∀ siteURL, isPairedSite before siteURL = true → ∀ fault,
        entryUnder fault after siteURL = entryUnder fault before siteURL ∧
        (entryUnder fault after (secretKey siteURL)).getD "" =
          (entryUnder fault before (secretKey siteURL)).getD "" := by
  constructor
  · intro same
    refine ⟨same.paired, fun siteURL paired fault => ⟨?_, ?_⟩⟩
    · have tokens := same.token fault siteURL
      rw [tokenUnder_eq, tokenUnder_eq, same.paired, if_pos paired, if_pos paired] at tokens
      have tokens := Except.ok.inj (Option.some.inj tokens)
      cases left : entryUnder fault after siteURL <;>
        cases right : entryUnder fault before siteURL <;> simp [left, right] at tokens ⊢
      exact tokens
    · have secrets := same.secret fault siteURL
      rw [secretUnder_eq, secretUnder_eq, same.paired, if_pos paired, if_pos paired] at secrets
      exact Except.ok.inj (Except.ok.inj (Option.some.inj secrets))
  · rintro ⟨paired, entries⟩
    constructor
    · exact paired
    · intro siteURL
      rw [lists_iff, lists_iff, paired]
    · intro fault siteURL
      rw [tokenUnder_eq, tokenUnder_eq, paired]
      split
      · rename_i before
        rw [(entries siteURL before fault).1]
      · rfl
    · intro fault siteURL
      rw [secretUnder_eq, secretUnder_eq, paired]
      split
      · rename_i before
        rw [(entries siteURL before fault).2]
      · rfl

/-- The fallback file gives every paired site the token and the secret it gave. -/
def Spares (before : Shared) (tokens : Table String String) : Prop :=
  ∀ siteURL, isPairedSite before siteURL = true →
    tokens.lookup siteURL = before.tokenFile.lookup siteURL ∧
    (tokens.lookup (secretKey siteURL)).getD "" =
      (before.tokenFile.lookup (secretKey siteURL)).getD ""

/-- Where the keychain is as before, the file decides. -/
theorem sameAnswers_file {before after : Shared} (chain : after.keychain = before.keychain) :
    SameAnswers lib before after ↔
      (∀ siteURL, isPairedSite after siteURL = isPairedSite before siteURL) ∧
        Spares before after.tokenFile := by
  rw [sameAnswers_iff]
  apply and_congr_right
  intro _
  constructor
  · intro entries siteURL paired
    exact entries siteURL paired (some ⟨false, ""⟩)
  · intro spares siteURL paired fault
    obtain ⟨token, secret⟩ := spares siteURL paired
    cases fault with
    | some error => exact ⟨token, secret⟩
    | none =>
        unfold entryUnder
        simp only [chain]
        refine ⟨by rw [token], ?_⟩
        cases before.keychain.lookup (secretKey siteURL) with
        | some value => rfl
        | none => exact secret

theorem paired_insert {before after : Shared} {site : PairedSite}
    (sites : after.sites = before.sites.insert site.siteURL site) :
    (∀ siteURL, isPairedSite after siteURL = isPairedSite before siteURL) ↔
      isPairedSite before site.siteURL = true := by
  constructor
  · intro same
    rw [← same, isPairedSite, getSite, sites, AList.lookup_insert]
    rfl
  · intro paired siteURL
    by_cases self : siteURL = site.siteURL
    · rw [self, paired, isPairedSite, getSite, sites, AList.lookup_insert]
      rfl
    · rw [isPairedSite, isPairedSite, getSite, getSite, sites, AList.lookup_insert_ne self]

/-- A token in the keychain and a map with the site, but no new metadata file. -/
theorem sameAnswers_chain {before after : Shared} {site : PairedSite} {token : String}
    (web : ∀ other, site.siteURL ≠ secretKey other)
    (sites : after.sites = before.sites.insert site.siteURL site)
    (chain : after.keychain = before.keychain.insert site.siteURL token)
    (file : after.tokenFile = before.tokenFile) :
    SameAnswers lib before after ↔ isPairedSite before site.siteURL = true ∧
      entryUnder none before site.siteURL = some token := by
  have stored : entryUnder none after site.siteURL = some token := by
    simp only [entryUnder, chain, AList.lookup_insert, Option.some_or]
  have others (key : String) (distinct : key ≠ site.siteURL) (fault : Option GoError) :
      entryUnder fault after key = entryUnder fault before key := by
    unfold entryUnder
    rw [chain, file, AList.lookup_insert_ne distinct]
  have pairedSelf : isPairedSite after site.siteURL = true := by
    rw [isPairedSite, getSite, sites, AList.lookup_insert]
    rfl
  rw [sameAnswers_iff]
  constructor
  · rintro ⟨paired, entries⟩
    have before := (paired site.siteURL).symm.trans pairedSelf
    exact ⟨before, (entries site.siteURL before none).1.symm.trans stored⟩
  · rintro ⟨pairedBefore, same⟩
    refine ⟨(paired_insert sites).mpr pairedBefore, fun siteURL _ fault => ⟨?_, ?_⟩⟩
    · by_cases self : siteURL = site.siteURL
      · rw [self]
        cases fault with
        | none => rw [stored, same]
        | some error =>
            unfold entryUnder
            rw [file]
      · exact others siteURL self fault
    · rw [others _ (fun same => web siteURL same.symm)]

/-! ### Where a pairing fails -/

/-- The answers to `AddSite` change nothing that paired sites could see: either it
does not fail, or what it has written by then was there already. -/
def Harmless (before : Shared) (siteURL token : String) : List Oracle → Prop
  | set :: rest =>
      match set.fault, rest with
      | none, _ :: save :: _ =>
          save.fault.isSome = true → isPairedSite before siteURL = true ∧
            entryUnder none before siteURL = some token
      | some _, read :: write :: rest =>
          match write.fault, rest with
          | some _, _ => Spares before (write.leaves.getD before.tokenFile)
          | none, _ :: save :: _ =>
              save.fault.isSome = true → isPairedSite before siteURL = true ∧
                Spares before
                  ((if read.fault.isNone then before.tokenFile else ∅).insert siteURL token)
          | none, _ => True
      | _, _ => True
  | [] => True

/-- The pairing gets to `AddSite`, and there the answers are harmless. -/
def PairingHarmless (before : Shared) (request : HttpRequest) : List Oracle → Prop
  | confirm :: validate :: _ :: rest => ∀ req pairing, request.pairBody = some req →
      confirm.confirms = true → validate.fault = none → validate.pairing = some pairing →
      Harmless before req.siteURL pairing.siteToken rest
  | _ => True

section AddSite

variable {before : Shared} {trace : AgentTrace} {script : List Oracle} {key value : String}
  {site : PairedSite} {token : String} {outcome : (bridge lib).Outcome (Except GoError Unit)}

/-- The file that a new entry is added to: one that cannot be read counts as empty. -/
def base (before : Shared) (read : Oracle) : Table String String :=
  if read.fault.isNone then before.tokenFile else ∅

theorem setTokenFile_outcome
    (played : (bridge lib).play (setTokenFile key value) () before trace script = some outcome) :
    ∃ read write, script = [read, write] ∧
      (write.fault = none ∧ outcome.result = .ok (.ok ()) ∧
        outcome.shared = { before with tokenFile := (base before read).insert key value } ∨
      ∃ error, write.fault = some error ∧ outcome.result = .ok (.error error) ∧
        outcome.shared = { before with tokenFile := write.leaves.getD before.tokenFile }) := by
  have written (tokens : Table String String) (trace : AgentTrace) (rest : List Oracle)
      (played : (bridge lib).play (ask (.writeTokenFile tokens)) () before trace rest =
        some outcome) :
      ∃ write, rest = [write] ∧ (write.fault = none ∧ outcome.result = .ok (.ok ()) ∧
          outcome.shared = { before with tokenFile := tokens } ∨
        ∃ error, write.fault = some error ∧ outcome.result = .ok (.error error) ∧
          outcome.shared = { before with tokenFile := write.leaves.getD before.tokenFile }) := by
    obtain ⟨write, rest, rfl, _, played⟩ := play_asked played
    obtain ⟨rfl, rfl⟩ := play_done.mp played
    refine ⟨write, rfl, ?_⟩
    cases fault : write.fault with
    | none =>
        rw [reply_faultless fault]
        exact Or.inl ⟨rfl, rfl, rfl⟩
    | some error =>
        rw [reply_faulty fault rfl]
        exact Or.inr ⟨error, rfl, rfl, rfl⟩
  obtain ⟨read, rest, rfl, _, played⟩ := play_asked played
  unfold base
  cases fault : read.fault with
  | none =>
      rw [reply_faultless fault] at played
      obtain ⟨write, rfl, ended⟩ := written _ _ _ played
      exact ⟨read, write, rfl, by simpa [fault] using ended⟩
  | some error =>
      rw [reply_faulty fault rfl] at played
      obtain ⟨write, rfl, ended⟩ := written _ _ _ played
      exact ⟨read, write, rfl, by simpa [fault] using ended⟩

theorem storeSecret_outcome
    (played : (bridge lib).play (storeSecret key value) () before trace script = some outcome) :
    (∃ set, script = [set] ∧ set.fault = none ∧ outcome.result = .ok (.ok ()) ∧
      outcome.shared = { before with keychain := before.keychain.insert key value }) ∨
    ∃ set read write refusal, script = [set, read, write] ∧ set.fault = some refusal ∧
      (write.fault = none ∧ outcome.result = .ok (.ok ()) ∧
        outcome.shared = { before with tokenFile := (base before read).insert key value } ∨
      ∃ error, write.fault = some error ∧ outcome.result = .ok (.error error) ∧
        outcome.shared = { before with tokenFile := write.leaves.getD before.tokenFile }) := by
  obtain ⟨set, rest, rfl, _, played⟩ := play_asked played
  cases fault : set.fault with
  | none =>
      rw [reply_faultless fault] at played
      obtain ⟨rfl, rfl⟩ := play_done.mp played
      exact Or.inl ⟨set, rfl, fault, rfl, rfl⟩
  | some refusal =>
      rw [reply_faulty fault rfl] at played
      obtain ⟨read, write, rfl, ended⟩ := setTokenFile_outcome played
      exact Or.inr ⟨set, read, write, refusal, rfl, fault, ended⟩

/-- The end of `AddSite`: the map, and then the metadata file. -/
theorem putAndSave_outcome
    (played : (bridge lib).play ((known (.putSite site)).bind fun _ => ask .saveSites) () before
      trace script = some outcome) :
    ∃ put save, script = [put, save] ∧
      (save.fault = none ∧ outcome.result = .ok (.ok ()) ∨
      ∃ error, save.fault = some error ∧ outcome.result = .ok (.error error) ∧
        outcome.shared = { before with sites := before.sites.insert site.siteURL site }) := by
  obtain ⟨put, rest, rfl, _, played⟩ := play_asked played
  rw [reply_memory rfl] at played
  obtain ⟨save, rest, rfl, _, played⟩ := play_asked played
  obtain ⟨rfl, rfl⟩ := play_done.mp played
  refine ⟨put, save, rfl, ?_⟩
  cases fault : save.fault with
  | none =>
      rw [reply_faultless fault]
      exact Or.inl ⟨rfl, rfl⟩
  | some error =>
      rw [reply_faulty fault rfl]
      exact Or.inr ⟨error, rfl, rfl, rfl⟩

theorem addSite_outcome (more : List Oracle) (given : token ≠ "") (web : ∀ other, site.siteURL ≠ secretKey other)
    (played : (bridge lib).play (addSite site token) () before trace script = some outcome) :
    (outcome.result = .ok (.ok ()) ∧ Harmless before site.siteURL token (script ++ more)) ∨
      ∃ error, outcome.result = .ok (.error error) ∧
        (SameAnswers lib before outcome.shared ↔
          Harmless before site.siteURL token (script ++ more)) := by
  have stores : storeGiven site.siteURL token = storeSecret site.siteURL token := by
    simp only [storeGiven, bne_iff_ne, ne_eq, given, not_false_eq_true, if_true]
  unfold addSite at played
  rw [stores] at played
  obtain ⟨first, second, middle, rfl, stored, finish⟩ := play_bind.mp played
  rcases storeSecret_outcome stored with ⟨set, rfl, accepted, ended, left⟩ |
    ⟨set, read, write, refusal, rfl, refused, written⟩
  · simp only [ended] at finish
    obtain ⟨put, save, rfl, saved⟩ := putAndSave_outcome finish
    rcases saved with ⟨saved, ended⟩ | ⟨error, unsaved, ended, after⟩
    · exact Or.inl ⟨ended, by simp [Harmless, accepted, saved]⟩
    · refine Or.inr ⟨error, ended, ?_⟩
      rw [sameAnswers_chain web (by rw [after, left]) (by rw [after, left]) (by rw [after, left])]
      simp [Harmless, accepted, unsaved]
  · rcases written with ⟨written, ended, left⟩ | ⟨error, unwritten, ended, left⟩
    · simp only [ended] at finish
      obtain ⟨put, save, rfl, saved⟩ := putAndSave_outcome finish
      rcases saved with ⟨saved, ended⟩ | ⟨error, unsaved, ended, after⟩
      · exact Or.inl ⟨ended, by simp [Harmless, refused, written, saved]⟩
      · refine Or.inr ⟨error, ended, ?_⟩
        rw [sameAnswers_file (by rw [after, left]), paired_insert (by rw [after, left]), after, left]
        simp [Harmless, refused, written, unsaved, base]
    · simp only [ended] at finish
      obtain ⟨rfl, rfl⟩ := play_done.mp finish
      refine Or.inr ⟨_, rfl, ?_⟩
      rw [sameAnswers_file (by rw [left]), left]
      simp [Harmless, refused, unwritten, isPairedSite, getSite]

end AddSite

theorem reachable_ne_secretKey {siteURL : String} (reached : reachable siteURL = true)
    (other : String) : siteURL ≠ secretKey other := by
  intro same
  have scheme : siteURL.toList.takeWhile (· != ':') = "hmac".toList := by
    rw [same, secretKey_toList]
    rfl
  rw [reachable, scheme] at reached
  revert reached
  decide

/-- What an accepted pairing code brings. -/
theorem reply_pairing {oracle : Oracle} {shared : Shared} {siteURL code : String} :
    (∃ error, Bridge.reply lib oracle shared (.validatePairingCode siteURL code) =
      (.error error, shared)) ∨
    ∃ result, oracle.fault = none ∧ oracle.pairing = some result ∧ reachable siteURL = true ∧
      result.siteToken ≠ "" ∧
      Bridge.reply lib oracle shared (.validatePairingCode siteURL code) = (.ok result, shared) := by
  cases fault : oracle.fault with
  | some error => exact Or.inl ⟨error, by rw [reply_faulty fault rfl]; rfl⟩
  | none =>
      rw [reply_faultless fault, answer]
      cases oracle.pairing with
      | none => exact Or.inl ⟨_, rfl⟩
      | some result =>
          simp only
          split
          · rename_i both
            simp only [Bool.and_eq_true, bne_iff_ne, ne_eq] at both
            exact Or.inr ⟨result, trivial, rfl, both.1, both.2, rfl⟩
          · exact Or.inl ⟨_, rfl⟩

/-- What `handlePair` does with an accepted code. -/
theorem adding_unchanged {before : Shared} {trace : AgentTrace} {script : List Oracle}
    {site : PairedSite} {token hmacSecret : String} {outcome : (bridge lib).Outcome Response}
    (given : token ≠ "") (web : ∀ other, site.siteURL ≠ secretKey other)
    (played : (bridge lib).play (do
      match ← addSite site token with
      | .error error =>
          pure (writeErrorMsg .internalError ("failed to store pairing: " ++ error.message) 500)
      | .ok _ => do
          let _ ← setHMACSecret site.siteURL hmacSecret
          pure (respond 200 .paired)) () before trace script = some outcome) :
    (∀ response, outcome.result = .ok response → response.status ≠ 200 →
      SameAnswers lib before outcome.shared) ↔ Harmless before site.siteURL token script := by
  obtain ⟨first, second, middle, rfl, added, finish⟩ := play_bind.mp played
  rcases addSite_outcome second given web added with ⟨ended, harmless⟩ | ⟨error, ended, answers⟩
  · refine iff_of_true ?_ harmless
    simp only [ended] at finish
    obtain ⟨_, _, last, rfl, _, finish⟩ := play_bind.mp finish
    intro response answered unhappy
    cases stored : last.result with
    | ok _ =>
        simp only [stored] at finish
        obtain ⟨_, rfl⟩ := play_done.mp finish
        cases answered
        exact absurd rfl unhappy
    | error error =>
        simp only [stored] at finish
        rw [finish.2] at answered
        cases answered
  · simp only [ended] at finish
    obtain ⟨rfl, rfl⟩ := play_done.mp finish
    rw [← answers]
    constructor
    · intro unchanged
      exact unchanged _ rfl (show (500 : Nat) ≠ 200 by decide)
    · intro same _ _ _
      exact same

theorem pairingHarmless_accepted {before : Shared} {request : HttpRequest} {req : PairRequest}
    {pairing : PairingResult} {confirm validate time : Oracle} {rest : List Oracle}
    (sent : request.pairBody = some req) (approved : confirm.confirms = true)
    (works : validate.fault = none) (brought : validate.pairing = some pairing) :
    PairingHarmless before request (confirm :: validate :: time :: rest) ↔
      Harmless before req.siteURL pairing.siteToken rest := by
  constructor
  · intro harmless
    exact harmless req pairing sent approved works brought
  · intro harmless other result same _ _ told
    rw [sent] at same
    cases same
    rw [brought] at told
    cases told
    exact harmless

/-- A pairing that does not answer 200 leaves all answers of the keystore as they
were exactly when the answers it got were harmless. -/
theorem failed_pairing_unchanged (lib : Libraries) (before : Shared) (request : HttpRequest)
    (script : List Oracle) (outcome : (bridge lib).Outcome Response)
    (played : (bridge lib).play (handlePair request) () before [] script = some outcome) :
    (∀ response, outcome.result = .ok response → response.status ≠ 200 →
      SameAnswers lib before outcome.shared) ↔ PairingHarmless before request script := by
  have early (shared : outcome.shared = before) (short : PairingHarmless before request script) :
      (∀ response, outcome.result = .ok response → response.status ≠ 200 →
        SameAnswers lib before outcome.shared) ↔ PairingHarmless before request script := by
    refine iff_of_true (fun _ _ _ => ?_) short
    rw [shared]
    exact SameAnswers.refl lib before
  unfold handlePair at played
  split at played
  · obtain ⟨rfl, rfl⟩ := play_done.mp played
    exact early rfl trivial
  · cases sent : request.pairBody with
    | none =>
        rw [sent] at played
        obtain ⟨rfl, rfl⟩ := play_done.mp played
        exact early rfl trivial
    | some req =>
        rw [sent] at played
        simp only at played
        split at played
        · obtain ⟨rfl, rfl⟩ := play_done.mp played
          exact early rfl trivial
        · obtain ⟨confirm, rest, rfl, _, played⟩ := play_asked played
          rw [reply_memory rfl] at played
          cases approved : confirm.confirms with
          | false =>
              simp only [answer, approved] at played
              obtain ⟨rfl, rfl⟩ := play_done.mp played
              exact early rfl trivial
          | true =>
              simp only [answer, approved] at played
              obtain ⟨validate, rest, rfl, _, played⟩ := play_asked played
              rcases reply_pairing with ⟨error, refused⟩ |
                ⟨pairing, works, brought, reached, given, accepted⟩
              · rw [refused] at played
                obtain ⟨rfl, rfl⟩ := play_done.mp played
                exact early rfl trivial
              · rw [accepted] at played
                obtain ⟨time, rest, rfl, _, played⟩ := play_asked played
                rw [reply_memory rfl] at played
                simp only [answer] at played
                rw [pairingHarmless_accepted sent approved works brought]
                exact adding_unchanged given
                  (fun other => reachable_ne_secretKey reached other) played

/-! ### A disk that is full -/

def diskFull : Oracle := { agreeing with fault := some ⟨false, "no space left on device"⟩ }

/-- The answers to one pairing, up to the metadata file. -/
def fullDiskScript : List Oracle :=
  [agreeing, agreeing, agreeing, agreeing, agreeing, diskFull]

theorem failed_pairing_unchanged_sample :
    ∃ outcome, (bridge plainLibraries).play (handlePair pairing) () besideOther [] fullDiskScript =
        some outcome ∧
      ((∀ response, outcome.result = .ok response → response.status ≠ 200 →
        SameAnswers plainLibraries besideOther outcome.shared) ↔
          PairingHarmless besideOther pairing fullDiskScript) := by
  have ends : ((bridge plainLibraries).play (handlePair pairing) () besideOther []
      fullDiskScript).isSome = true := by
    decide +kernel
  obtain ⟨outcome, played⟩ := Option.isSome_iff_exists.mp ends
  exact ⟨outcome, played, failed_pairing_unchanged plainLibraries besideOther pairing fullDiskScript
    outcome played⟩

/-- The pairing fails with 500, and from then on the site counts as paired. -/
theorem failed_pairing_pairs :
    ∃ outcome response,
      (bridge plainLibraries).play (handlePair pairing) () besideOther [] fullDiskScript =
        some outcome ∧
      outcome.result = .ok response ∧ response.status = 500 ∧
      isPairedSite besideOther "https://site.example" = false ∧
      isPairedSite outcome.shared "https://site.example" = true ∧
      ¬ SameAnswers plainLibraries besideOther outcome.shared := by
  have ends : ((bridge plainLibraries).play (handlePair pairing) () besideOther []
      fullDiskScript).bind (fun outcome => outcome.result.toOption.map fun response =>
        (response.status, isPairedSite outcome.shared "https://site.example")) =
      some (500, true) := by
    decide +kernel
  simp only [Option.bind_eq_some_iff, Option.map_eq_some_iff, Prod.mk.injEq] at ends
  obtain ⟨outcome, played, response, answered, refused, paired⟩ := ends
  have unpaired : isPairedSite besideOther "https://site.example" = false := by decide +kernel
  have ended : outcome.result = .ok response := by
    cases result : outcome.result with
    | error error =>
        rw [result] at answered
        cases answered
    | ok other =>
        rw [result] at answered
        cases answered
        rfl
  refine ⟨outcome, response, played, ended, refused, unpaired, paired, fun same => ?_⟩
  have changed := same.paired "https://site.example"
  rw [paired, unpaired] at changed
  cases changed

end DscSigning.Bridge
