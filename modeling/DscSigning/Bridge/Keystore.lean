/-
Calls of the keystore one after another.

A secret sits in the keychain or in the fallback file: a call writes to one of
the two, reads prefer the keychain, and deletes are best effort.  The keychain
may fail at any operation; the fallback file works.
-/

import DscSigning.Bridge.AgentRules
import DscSigning.Library.Scripts

namespace DscSigning.Bridge

open Interaction Engine

inductive KeystoreCall where
  | addSite (site : PairedSite) (siteToken : String)
  | setHMACSecret (siteURL secret : String)
  | removeSite (siteURL : String)

def KeystoreCall.siteURL : KeystoreCall → String
  | .addSite site _ => site.siteURL
  | .setHMACSecret siteURL _ => siteURL
  | .removeSite siteURL => siteURL

def KeystoreCall.program : KeystoreCall → Agent (Except GoError Unit)
  | .addSite site siteToken => Bridge.addSite site siteToken
  | .setHMACSecret siteURL secret => Bridge.setHMACSecret siteURL secret
  | .removeSite siteURL => Bridge.removeSite siteURL

/-- `GetSite`, which reads the memory of the bridge. -/
def getSite (shared : Shared) (siteURL : String) : Option PairedSite := shared.sites.lookup siteURL

/-- `IsPairedSite` -/
def isPairedSite (shared : Shared) (siteURL : String) : Bool := (getSite shared siteURL).isSome

def Operation.onTokenFile : Operation → Bool
  | .readTokenFile => true
  | .writeTokenFile _ => true
  | .removeTokenFile => true
  | _ => false

/-- The fallback file is readable and writable. -/
def fileWorks (operation : Operation) (oracle : Oracle) : Bool :=
  !operation.onTokenFile || oracle.fault.isNone

variable (lib : Libraries)

/-- The bridge with a fallback file that works. -/
abbrev sheltered : Engine face := (bridge lib).limit fileWorks

/-- What a program returns and leaves behind when the fallback file works. -/
def conduct {Value : Type} (program : Agent Value) (shared : Shared) (script : List Oracle) :
    Option (Except GoError Value × Shared) :=
  ((sheltered lib).play program () shared [] script).map fun outcome =>
    (outcome.result, outcome.shared)

/-- One call of the keystore, whatever it returns. -/
def serveKeystore (shared : Shared) (call : KeystoreCall × List Oracle) : Option Shared :=
  (conduct lib call.1.program shared call.2).map Prod.snd

/-- `Token` of a site, and `HMACSecret`, as the keychain answers now. -/
def tokenOf (shared : Shared) (siteURL : String) (script : List Oracle) :
    Option (Except GoError String) :=
  (conduct lib (siteToken siteURL) shared script).bind fun ended => ended.1.toOption

def secretOf (shared : Shared) (siteURL : String) (script : List Oracle) :
    Option (Except GoError String) :=
  (conduct lib (getHMACSecret siteURL) shared script).bind fun ended => ended.1.toOption

/-- With a fallback file that works, the program can only end in the post. -/
abbrev Leads {Value : Type} (kind : Oracle → Prop) (post : Except GoError Value → Shared → Prop)
    (program : Agent Value) (shared : Shared) (trace : AgentTrace) : Prop :=
  @Ensures face (sheltered lib) Value kind (fun result _ later _ => post result later) program ()
    shared trace

variable {lib}

theorem conduct_ensures {Value : Type} {program : Agent Value} {shared later : Shared}
    {script : List Oracle} {result : Except GoError Value}
    {post : Except GoError Value → Shared → Prop}
    (ensures : Leads lib (fun _ => True) post program shared [])
    (conducted : conduct lib program shared script = some (result, later)) : post result later := by
  obtain ⟨outcome, played, same⟩ := Option.map_eq_some_iff.mp conducted
  obtain ⟨rfl, rfl⟩ := Prod.mk.inj same
  exact ensures.played (fun _ _ => trivial) played

/-! ### Replies -/

section Replies

variable {oracle : Oracle} {shared later : Shared} {operation : Operation}
  {reply : Except GoError operation.Answer}

theorem reply_memory (memory : operation.fallible = false) :
    Bridge.reply lib oracle shared operation = answer lib oracle shared operation := by
  unfold Bridge.reply
  split
  · rw [memory]
    rfl
  · rfl

theorem reply_faultless (working : oracle.fault = none) :
    Bridge.reply lib oracle shared operation = answer lib oracle shared operation := by
  rw [Bridge.reply, working]

theorem reply_faulty {error : GoError} (faulty : oracle.fault = some error)
    (fallible : operation.fallible = true) :
    Bridge.reply lib oracle shared operation = (.error error, failed oracle shared operation) := by
  simp only [Bridge.reply, faulty, fallible, if_true]

/-- One question of a play, with the answer that its oracle gives. -/
theorem play_asked {Value : Type} {next : Except GoError operation.Answer → Agent Value}
    {trace : AgentTrace} {script : List Oracle} {outcome : (bridge lib).Outcome Value}
    (played : (bridge lib).play (.ask operation next) () shared trace script = some outcome) :
    ∃ oracle rest, script = oracle :: rest ∧ ∃ stamp,
      (bridge lib).play (next (Bridge.reply lib oracle shared operation).1) ()
        (Bridge.reply lib oracle shared operation).2
        (⟨operation, (Bridge.reply lib oracle shared operation).1, stamp⟩ :: trace) rest =
          some outcome := by
  obtain ⟨oracle, rest, reply, later, rfl, replied, played⟩ := play_ask.mp played
  have told : Bridge.reply lib oracle shared operation = (reply, later) := Option.some.inj replied
  refine ⟨oracle, rest, rfl, shared.now, ?_⟩
  rw [told]
  exact played

theorem reply_sheltered
    (replied : (sheltered lib).reply oracle () shared operation = some (reply, later)) :
    fileWorks operation oracle = true ∧ Bridge.reply lib oracle shared operation = (reply, later) := by
  simp only at replied
  split at replied
  · rename_i works
    exact ⟨works, Option.some.inj replied⟩
  · cases replied

theorem reply_works
    (replied : (sheltered lib).reply oracle () shared operation = some (reply, later))
    (infallible : operation.fallible = false ∨ operation.onTokenFile = true) :
    answer lib oracle shared operation = (reply, later) := by
  obtain ⟨works, replied⟩ := reply_sheltered replied
  rcases infallible with memory | file
  · rwa [reply_memory memory] at replied
  · simp only [fileWorks, file, Bool.not_true, Bool.false_or, Option.isNone_iff_eq_none] at works
    rwa [reply_faultless works] at replied

theorem reply_fails
    (replied : (sheltered lib).reply oracle () shared operation = some (reply, later)) :
    answer lib oracle shared operation = (reply, later) ∨
      ∃ error, reply = .error error ∧ later = failed oracle shared operation := by
  obtain ⟨_, replied⟩ := reply_sheltered replied
  unfold Bridge.reply at replied
  split at replied
  · split at replied
    · obtain ⟨rfl, rfl⟩ := Prod.mk.inj replied
      exact Or.inr ⟨_, rfl, rfl⟩
    · exact Or.inl replied
  · exact Or.inl replied

end Replies

/-! ### Reads -/

section Reads

variable {oracle : Oracle} {shared : Shared}

theorem reply_isPaired (siteURL : String) :
    (sheltered lib).reply oracle () shared (.isPaired siteURL) =
      some (.ok (isPairedSite shared siteURL), shared) := by
  simp only [fileWorks, Operation.onTokenFile, Bool.not_false, Bool.true_or, if_true,
    Bridge.reply, Operation.fallible, Bool.false_eq_true, if_false, answer, isPairedSite, getSite]
  split <;> rfl

theorem reply_keychainGet (key : String) :
    (sheltered lib).reply oracle () shared (.keychainGet key) =
      some (match oracle.fault, shared.keychain.lookup key with
        | some error, _ => .error error
        | none, some value => .ok value
        | none, none => .error (notFound key), shared) := by
  simp only [fileWorks, Operation.onTokenFile, Bool.not_false, Bool.true_or, if_true,
    Bridge.reply, Operation.fallible, answer, failed]
  cases oracle.fault with
  | some error => rfl
  | none => cases shared.keychain.lookup key <;> rfl

theorem reply_readTokenFile :
    (sheltered lib).reply oracle () shared .readTokenFile =
      if oracle.fault.isNone then some (.ok shared.tokenFile, shared) else none := by
  simp only [fileWorks, Operation.onTokenFile, Bool.not_true, Bool.false_or]
  split
  · rename_i works
    simp only [Option.isNone_iff_eq_none] at works
    simp only [Bridge.reply, works, answer]
  · rfl

/-- The error of the keychain stands for that of the file. -/
def instead (error : GoError) : Except GoError String → Except GoError String
  | .ok value => .ok value
  | .error _ => .error error

/-- One entry: the keychain is asked first, then the file. -/
def readEntry (key : String) : Agent (Except GoError String) :=
  (ask (.keychainGet key)).bind fun read =>
    match read with
    | .ok value => .done (.ok value)
    | .error error => (getTokenFile key).bind fun read => .done (instead error read)

def entryAnswer (key : String) (chain file : Option String) :
    List Oracle → Option (Except GoError String)
  | [get] =>
      match get.fault, chain with
      | none, some value => some (.ok value)
      | _, _ => none
  | [get, read] =>
      match read.fault, get.fault, chain, file with
      | none, none, some _, _ => none
      | none, _, _, some value => some (.ok value)
      | none, fault, _, none => some (.error (fault.getD (notFound key)))
      | some _, _, _, _ => none
  | _ => none

theorem getTokenFile_play (key : String) (shared : Shared) (trace : AgentTrace)
    (script : List Oracle) :
    ((sheltered lib).play (getTokenFile key) () shared trace script).map
      (fun outcome => outcome.result) =
      match script with
      | [read] =>
          if read.fault.isNone then
            some (.ok (match shared.tokenFile.lookup key with
              | some token => .ok token
              | none => .error ⟨false, "no fallback token for " ++ key⟩))
          else none
      | _ => none := by
  cases script with
  | nil => rfl
  | cons read script =>
      unfold getTokenFile loadTokenFile
      simp only [Program.bind_eq, Program.bind]
      rw [play_cons, reply_readTokenFile]
      by_cases works : read.fault.isNone = true
      · rw [if_pos works]
        simp only [Option.bind_some, Program.pure_eq, Program.bind]
        cases found : shared.tokenFile.lookup key <;> cases script <;> simp [play, works]
      · rw [if_neg works]
        cases script <;> simp [works]

theorem readEntry_play (key : String) (shared : Shared) (trace : AgentTrace)
    (script : List Oracle) :
    ((sheltered lib).play (readEntry key) () shared trace script).map
      (fun outcome => outcome.result) =
      (entryAnswer key (shared.keychain.lookup key) (shared.tokenFile.lookup key) script).map
        .ok := by
  cases script with
  | nil => rfl
  | cons get script =>
      unfold readEntry
      simp only [Program.bind]
      rw [play_cons, reply_keychainGet]
      simp only [Option.bind_some]
      -- The file is asked for what the keychain did not give.
      have beyond (error : GoError) (trace : AgentTrace) :
          ((sheltered lib).play ((getTokenFile key).bind fun read => .done (instead error read)) ()
            shared trace script).map (fun outcome => outcome.result) =
            match script with
            | [read] =>
                if read.fault.isNone then
                  some (.ok (match shared.tokenFile.lookup key with
                    | some value => .ok value
                    | none => .error error))
                else none
            | _ => none := by
        have file := congrArg (Option.map (Except.map (instead error)))
          (@getTokenFile_play lib key shared trace script)
        rw [Option.map_map] at file
        rw [play_bind_done, Option.map_map]
        refine file.trans ?_
        split
        · split
          · cases shared.tokenFile.lookup key <;> rfl
          · rfl
        · rfl
      cases fault : get.fault with
      | some error =>
          refine (beyond error _).trans ?_
          cases script with
          | nil => simp [entryAnswer, fault]
          | cons read script =>
              cases script with
              | cons _ _ => rfl
              | nil =>
                  cases works : read.fault <;>
                    cases shared.tokenFile.lookup key <;> simp [entryAnswer, fault, works]
      | none =>
          cases found : shared.keychain.lookup key with
          | some value =>
              cases script with
              | nil => simp [entryAnswer, fault, play]
              | cons read script =>
                  cases script with
                  | cons _ _ => rfl
                  | nil => cases works : read.fault <;> simp [entryAnswer, fault, works, play]
          | none =>
              refine (beyond (notFound key) _).trans ?_
              cases script with
              | nil => simp [entryAnswer, fault]
              | cons read script =>
                  cases script with
                  | cons _ _ => rfl
                  | nil =>
                      cases works : read.fault <;>
                        cases shared.tokenFile.lookup key <;> simp [entryAnswer, fault, works]

/-- The error of `Token` when neither place has an entry. -/
def missingToken (siteURL : String) (error : GoError) : GoError :=
  if error.notFound then ⟨false, s!"no token for {siteURL} — agent must re-pair"⟩ else error

theorem siteToken_eq (siteURL : String) :
    siteToken siteURL = (known (.isPaired siteURL)).bind fun paired =>
      if paired then (readEntry siteURL).bind fun read => .done (read.mapError (missingToken siteURL))
      else .done (.error ⟨false, s!"site {siteURL} is not paired"⟩) := by
  unfold siteToken readEntry
  simp only [Program.bind_eq]
  congr 1
  funext paired
  cases paired with
  | false => rfl
  | true =>
      simp only [Bool.not_true, Bool.false_eq_true, if_false, if_true, Program.bind_assoc]
      congr 1
      funext read
      cases read with
      | ok token => rfl
      | error error =>
          simp only [Program.bind_assoc]
          congr 1
          funext token
          cases token with
          | ok token => rfl
          | error _ =>
              cases found : error.notFound <;>
                simp [instead, Except.mapError, missingToken, found]

theorem getHMACSecret_eq (siteURL : String) :
    getHMACSecret siteURL = (known (.isPaired siteURL)).bind fun paired =>
      if paired then
        (readEntry (secretKey siteURL)).bind fun read => .done (.ok (read.toOption.getD ""))
      else .done (.error ⟨false, s!"site {siteURL} is not paired"⟩) := by
  unfold getHMACSecret readEntry
  simp only [Program.bind_eq]
  congr 1
  funext paired
  cases paired with
  | false => rfl
  | true =>
      simp only [Bool.not_true, Bool.false_eq_true, if_false, if_true, Program.bind_assoc]
      congr 1
      funext read
      cases read with
      | ok secret => rfl
      | error error =>
          simp only [Program.bind_assoc]
          congr 1
          funext secret
          cases secret <;> rfl

theorem play_isPaired {Value : Type} (siteURL : String) (next : Bool → Agent Value)
    (shared : Shared) (oracle : Oracle) (script : List Oracle) :
    (sheltered lib).play ((known (.isPaired siteURL)).bind next) () shared [] (oracle :: script) =
      (sheltered lib).play (next (isPairedSite shared siteURL)) () shared
        [⟨.isPaired siteURL, .ok (isPairedSite shared siteURL), shared.now⟩] script := by
  unfold known Program.perform
  simp only [Program.bind]
  rw [play_cons, reply_isPaired]
  rfl

theorem readEntry_then (next : Except GoError String → Except GoError String) (key : String)
    (shared : Shared) (trace : AgentTrace) (script : List Oracle) :
    (((sheltered lib).play ((readEntry key).bind fun read => .done (next read)) () shared trace
      script).map fun outcome => (outcome.result, outcome.shared)).bind
        (fun ended => ended.1.toOption) =
      (entryAnswer key (shared.keychain.lookup key) (shared.tokenFile.lookup key) script).map
        next := by
  have read := congrArg (fun results => results.bind fun result =>
    (Except.map next result).toOption) (@readEntry_play lib key shared trace script)
  rw [play_bind_done]
  simp only [Option.map_map, Option.bind_map] at read ⊢
  refine read.trans ?_
  cases entryAnswer key (shared.keychain.lookup key) (shared.tokenFile.lookup key) script <;> rfl

theorem tokenOf_eq (shared : Shared) (siteURL : String) (oracle : Oracle) (script : List Oracle) :
    tokenOf lib shared siteURL (oracle :: script) =
      if isPairedSite shared siteURL then
        (entryAnswer siteURL (shared.keychain.lookup siteURL) (shared.tokenFile.lookup siteURL)
          script).map (Except.mapError (missingToken siteURL))
      else if script.isEmpty then some (.error ⟨false, s!"site {siteURL} is not paired"⟩)
      else none := by
  unfold tokenOf conduct
  rw [siteToken_eq, play_isPaired]
  split
  · exact readEntry_then _ siteURL shared _ script
  · cases script <;> rfl

theorem secretOf_eq (shared : Shared) (siteURL : String) (oracle : Oracle) (script : List Oracle) :
    secretOf lib shared siteURL (oracle :: script) =
      if isPairedSite shared siteURL then
        (entryAnswer (secretKey siteURL) (shared.keychain.lookup (secretKey siteURL))
          (shared.tokenFile.lookup (secretKey siteURL)) script).map
            fun read => .ok (read.toOption.getD "")
      else if script.isEmpty then some (.error ⟨false, s!"site {siteURL} is not paired"⟩)
      else none := by
  unfold secretOf conduct
  rw [getHMACSecret_eq, play_isPaired]
  split
  · exact readEntry_then _ (secretKey siteURL) shared _ script
  · cases script <;> rfl

/-- The keychain does not answer, or answers. -/
def silentKeychain : Oracle :=
  { fault := some ⟨false, "keychain unavailable"⟩
    leaves := none
    confirms := false
    pairing := none
    chain := []
    ocsp := none
    text := "" }

def calm : Oracle := { silentKeychain with fault := none }

theorem entryAnswer_ok {key value : String} {chain file : Option String} {script : List Oracle}
    (answered : entryAnswer key chain file script = some (.ok value)) :
    chain = some value ∨ file = some value := by
  unfold entryAnswer at answered
  split at answered
  · split at answered
    · cases answered
      exact Or.inl rfl
    · cases answered
  · split at answered
    · cases answered
    · cases answered
      exact Or.inr rfl
    · cases answered
    · cases answered
  · cases answered

theorem entryAnswer_chain (key value : String) (file : Option String) :
    entryAnswer key (some value) file [calm] = some (.ok value) := rfl

theorem entryAnswer_file (key value : String) (chain : Option String) :
    entryAnswer key chain (some value) [silentKeychain, calm] = some (.ok value) := rfl

end Reads

/-! ### What the parts of a call do -/

section Parts

variable {kind : Oracle → Prop} {shared : Shared} {trace : AgentTrace}

theorem loadTokenFile_ensures :
    Leads lib kind
      (fun result later => result = .ok shared.tokenFile ∧ later = shared)
      loadTokenFile shared trace := by
  intro oracle reply later _ replied
  obtain ⟨rfl, rfl⟩ := Prod.mk.inj (reply_works replied (Or.inr rfl))
  exact ⟨rfl, rfl⟩

theorem setTokenFile_ensures (key value : String) :
    Leads lib kind
      (fun result later => result = .ok (.ok ()) ∧
        later = { shared with tokenFile := shared.tokenFile.insert key value })
      (setTokenFile key value) shared trace := by
  apply Ensures.bind loadTokenFile_ensures
  · rintro tokens _ later trace ⟨same, rfl⟩
    cases same
    intro oracle reply last _ replied
    obtain ⟨rfl, rfl⟩ := Prod.mk.inj (reply_works replied (Or.inr rfl))
    exact ⟨rfl, rfl⟩
  · rintro error _ later trace ⟨impossible, _⟩
    cases impossible

/-- The one entry is gone from the fallback file, and nothing else is. -/
def Dropped (key : String) (before after : Table String String) : Prop :=
  ∀ other, after.lookup other = if other = key then none else before.lookup other

theorem dropped_erase (key : String) (tokens : Table String String) :
    Dropped key tokens (tokens.erase key) := by
  intro other
  split
  · rename_i same
    rw [same, AList.lookup_erase]
  · rename_i distinct
    exact AList.lookup_erase_ne distinct

theorem deleteTokenFile_ensures (key : String) :
    Leads lib kind
      (fun result later => result = .ok (.ok ()) ∧
        ∃ tokens, Dropped key shared.tokenFile tokens ∧
          later = { shared with tokenFile := tokens })
      (deleteTokenFile key) shared trace := by
  apply Ensures.bind loadTokenFile_ensures
  · rintro tokens _ later trace ⟨same, rfl⟩
    cases same
    cases found : later.tokenFile.lookup key with
    | none =>
        simp only
        refine ⟨rfl, later.tokenFile, ?_, rfl⟩
        intro other
        split
        · rename_i same
          rw [same, found]
        · rfl
    | some token =>
        simp only
        split
        · rename_i last
          intro oracle reply after _ replied
          obtain ⟨rfl, rfl⟩ := Prod.mk.inj (reply_works replied (Or.inr rfl))
          refine ⟨rfl, ∅, ?_, rfl⟩
          have emptied : later.tokenFile.erase key = ∅ := by
            apply AList.ext
            simpa [Table.rows] using last
          rw [← emptied]
          exact dropped_erase key _
        · intro oracle reply after _ replied
          obtain ⟨rfl, rfl⟩ := Prod.mk.inj (reply_works replied (Or.inr rfl))
          exact ⟨rfl, _, dropped_erase key _, rfl⟩
  · rintro error _ later trace ⟨impossible, _⟩
    cases impossible

theorem keychainDelete_ensures (key : String) {Value : Type}
    {next : Except GoError Unit → Agent Value}
    {post : Except GoError Value → Shared → Prop}
    (kept : ∀ error stamp, Leads lib kind post (next (.error error))
      shared (⟨.keychainDelete key, .error error, stamp⟩ :: trace))
    (gone : ∀ stamp, Leads lib kind post (next (.ok ()))
      { shared with keychain := shared.keychain.erase key }
      (⟨.keychainDelete key, .ok (), stamp⟩ :: trace)) :
    Leads lib kind post ((ask (.keychainDelete key)).bind next) shared trace := by
  intro oracle reply later _ replied
  rcases reply_fails replied with answered | ⟨error, rfl, rfl⟩
  · simp only [answer] at answered
    split at answered
    · obtain ⟨rfl, rfl⟩ := Prod.mk.inj answered
      exact gone _
    · obtain ⟨rfl, rfl⟩ := Prod.mk.inj answered
      exact kept _ _
  · exact kept error _

end Parts

/-! ### What the calls do -/

/-- A secret goes to the fallback file when the keychain refuses it. -/
def placed (oracle : Oracle) (key value : String) (shared : Shared) : Shared :=
  match oracle.fault with
  | none => { shared with keychain := shared.keychain.insert key value }
  | some _ => { shared with tokenFile := shared.tokenFile.insert key value }

/-- What storing a secret that may be empty leaves. -/
def given (script : List Oracle) (key value : String) (shared : Shared) : Shared :=
  if value = "" then shared
  else match script with
    | [] => shared
    | oracle :: _ => placed oracle key value shared

section Calls

variable {shared : Shared} {trace : AgentTrace} {script : List Oracle}

theorem storeSecret_played {key value : String}
    {outcome : (sheltered lib).Outcome (Except GoError Unit)}
    (played : (sheltered lib).play (storeSecret key value) () shared trace script = some outcome) :
    ∃ oracle rest, script = oracle :: rest ∧ outcome.result = .ok (.ok ()) ∧
      outcome.shared = placed oracle key value shared := by
  obtain ⟨oracle, rest, reply, later, rfl, replied, played⟩ := play_ask.mp played
  refine ⟨oracle, rest, rfl, ?_⟩
  have told := (reply_sheltered replied).2
  unfold placed
  cases fault : oracle.fault with
  | none =>
      simp only [Bridge.reply, fault, answer] at told
      obtain ⟨rfl, rfl⟩ := Prod.mk.inj told
      obtain ⟨_, rfl⟩ := play_done.mp played
      exact ⟨rfl, rfl⟩
  | some error =>
      simp only [Bridge.reply, fault, Operation.fallible, if_true, failed] at told
      obtain ⟨rfl, rfl⟩ := Prod.mk.inj told
      have filed (trace : AgentTrace) :
          Leads lib (fun _ => True) _ (setTokenFile key value) shared trace :=
        setTokenFile_ensures key value
      exact (filed _).played (fun _ _ => trivial) played

theorem storeGiven_played {key value : String}
    {outcome : (sheltered lib).Outcome (Except GoError Unit)}
    (played : (sheltered lib).play (storeGiven key value) () shared trace script = some outcome) :
    outcome.result = .ok (.ok ()) ∧
      ∀ others, outcome.shared = given (script ++ others) key value shared := by
  unfold storeGiven at played
  unfold given
  split at played
  · rename_i nonempty
    have nonempty : value ≠ "" := by simpa using nonempty
    obtain ⟨oracle, rest, rfl, ended, left⟩ := storeSecret_played played
    exact ⟨ended, fun others => by rw [if_neg nonempty, left]; rfl⟩
  · rename_i empty
    have empty : value = "" := by simpa using empty
    obtain ⟨_, rfl⟩ := play_done.mp played
    exact ⟨rfl, fun others => by rw [if_pos empty]⟩

theorem addSite_played {site : PairedSite} {siteToken : String}
    {outcome : (sheltered lib).Outcome (Except GoError Unit)}
    (played : (sheltered lib).play (addSite site siteToken) () shared trace script =
      some outcome) :
    ∃ saved, outcome.shared =
      { given script site.siteURL siteToken shared with
        sites := shared.sites.insert site.siteURL site
        saved := saved } := by
  obtain ⟨first, second, middle, rfl, stored, played⟩ := play_bind.mp played
  obtain ⟨ended, left⟩ := storeGiven_played stored
  have unmoved : (given (first ++ second) site.siteURL siteToken shared).sites = shared.sites := by
    unfold given placed
    split
    · rfl
    · split
      · rfl
      · split <;> rfl
  simp only [ended] at played
  obtain ⟨oracle, rest, reply, later, rfl, replied, played⟩ := play_ask.mp played
  obtain ⟨rfl, rfl⟩ := Prod.mk.inj (reply_works replied (Or.inl rfl))
  obtain ⟨last, rest, reply, later, rfl, replied, played⟩ := play_ask.mp played
  obtain ⟨_, rfl⟩ := play_done.mp played
  rw [left (oracle :: last :: rest)] at replied
  rw [← unmoved]
  rcases reply_fails replied with answered | ⟨error, _, kept⟩
  · obtain ⟨_, rfl⟩ := Prod.mk.inj answered
    exact ⟨_, rfl⟩
  · rw [kept]
    exact ⟨_, rfl⟩

/-- What the removal of a site leaves. -/
structure Removed (siteURL : String) (before after : Shared) : Prop where
  sites : after.sites = before.sites.erase siteURL
  keychain : ∀ key, after.keychain.lookup key = before.keychain.lookup key ∨
    (key = siteURL ∨ key = secretKey siteURL) ∧ after.keychain.lookup key = none
  tokenFile : ∀ key, after.tokenFile.lookup key =
    if key = siteURL ∨ key = secretKey siteURL then none else before.tokenFile.lookup key

/-- The entry of a key is there as before, or gone. -/
def Thinner (key : String) (before after : Shared) : Prop :=
  after = before ∨ after = { before with keychain := before.keychain.erase key }

theorem Thinner.lookup {key other : String} {before after : Shared}
    (thinner : Thinner key before after) :
    after.keychain.lookup other = before.keychain.lookup other ∨
      other = key ∧ after.keychain.lookup other = none := by
  rcases thinner with rfl | rfl
  · exact Or.inl rfl
  · by_cases same : other = key
    · rw [same]
      exact Or.inr ⟨rfl, AList.lookup_erase _ _⟩
    · exact Or.inl (AList.lookup_erase_ne same)

theorem removeSite_ensures (siteURL : String) :
    Leads lib (fun _ => True)
      (fun _ later => Removed siteURL shared later) (removeSite siteURL) shared trace := by
  intro oracle reply later _ replied
  obtain ⟨rfl, rfl⟩ := Prod.mk.inj (reply_works replied (Or.inl rfl))
  -- Both deletes of the keychain may do nothing.
  have files (chain : Table String String) (trace : AgentTrace)
      (thin : ∀ key, chain.lookup key = shared.keychain.lookup key ∨
        (key = siteURL ∨ key = secretKey siteURL) ∧ chain.lookup key = none) :
      Leads lib (fun _ => True)
        (fun _ later => Removed siteURL shared later)
        ((deleteTokenFile siteURL).bind fun _ =>
          (deleteTokenFile (secretKey siteURL)).bind fun _ => ask .saveSites)
        { shared with sites := shared.sites.erase siteURL, keychain := chain } trace := by
    apply Ensures.bind (deleteTokenFile_ensures siteURL)
    · rintro _ _ _ trace ⟨_, first, one, rfl⟩
      apply Ensures.bind (deleteTokenFile_ensures (secretKey siteURL))
      · rintro _ _ _ trace ⟨_, second, other, rfl⟩
        intro oracle reply later _ replied
        have kept : ∀ saved, Removed siteURL shared
            { shared with
              sites := shared.sites.erase siteURL
              keychain := chain
              tokenFile := second
              saved := saved } := by
          intro saved
          refine ⟨rfl, thin, ?_⟩
          intro key
          simp only
          rw [other, one]
          by_cases isSecret : key = secretKey siteURL
          · rw [if_pos isSecret, if_pos (Or.inr isSecret)]
          · rw [if_neg isSecret]
            by_cases isSite : key = siteURL
            · rw [if_pos isSite, if_pos (Or.inl isSite)]
            · rw [if_neg isSite, if_neg (by simp [isSite, isSecret])]
        rcases reply_fails replied with answered | ⟨error, rfl, rfl⟩
        · obtain ⟨rfl, rfl⟩ := Prod.mk.inj answered
          exact kept _
        · exact kept _
      · rintro _ _ _ _ ⟨impossible, _⟩
        cases impossible
    · rintro _ _ _ _ ⟨impossible, _⟩
      cases impossible
  have second (one : Shared) (thin : Thinner siteURL shared one) (trace : AgentTrace) :
      Leads lib (fun _ => True)
        (fun _ later => Removed siteURL shared later)
        ((ask (.keychainDelete (secretKey siteURL))).bind fun _ =>
          (deleteTokenFile siteURL).bind fun _ =>
            (deleteTokenFile (secretKey siteURL)).bind fun _ => ask .saveSites)
        { one with sites := shared.sites.erase siteURL } trace := by
    have chains (two : Shared) (thinner : Thinner (secretKey siteURL) one two) (key : String) :
        two.keychain.lookup key = shared.keychain.lookup key ∨
          (key = siteURL ∨ key = secretKey siteURL) ∧ two.keychain.lookup key = none := by
      rcases thinner.lookup with same | ⟨named, absent⟩
      · rw [same]
        rcases thin.lookup with kept | ⟨named, absent⟩
        · exact Or.inl kept
        · exact Or.inr ⟨Or.inl named, absent⟩
      · exact Or.inr ⟨Or.inr named, absent⟩
    apply keychainDelete_ensures
    · intro _ _
      rcases thin with rfl | rfl
      · exact files one.keychain _ (chains _ (Or.inl rfl))
      · exact files _ _ (chains _ (Or.inl rfl))
    · intro _
      rcases thin with rfl | rfl
      · exact files _ _ (chains _ (Or.inr rfl))
      · exact files _ _ (chains _ (Or.inr rfl))
  apply keychainDelete_ensures
  · intro _ _
    exact second shared (Or.inl rfl) _
  · intro _
    exact second _ (Or.inr rfl) _

end Calls

end DscSigning.Bridge
