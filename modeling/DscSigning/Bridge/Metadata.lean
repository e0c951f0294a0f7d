/-
The metadata file of the keystore, as bytes.

`save` marshals the paired sites, and `NewKeystore` unmarshals them at the next
start.  The texts of decoding errors are left out, and so is the depth at which
the decoder gives up.
-/

import DscSigning.Bridge.Keystore
import DscSigning.Bridge.SigningKey
import DscSigning.Library.JsonText
import DscSigning.Library.Runs

namespace DscSigning.Bridge

open Interaction Engine JsonText

/-! ### Encoding -/

/-- The characters that HTML or JavaScript could misread. -/
def htmlUnsafe : List Char := ['<', '>', '&', Char.ofNat 0x2028, Char.ofNat 0x2029]

/-- `json.MarshalIndent` with two spaces. -/
def marshalIndent : Writer :=
  { indent := [' ', ' ']
    blank := by simp [isSpace]
    guarded := htmlUnsafe.contains
    short := by
      intro c guarded
      have all : htmlUnsafe.all (fun c => decide (c.toNat < 65536)) = true := rfl
      exact of_decide_eq_true (List.all_eq_true.mp all c (List.contains_iff_mem.mp guarded)) }

/-- The token has no member, and an empty registration none either. -/
def marshalSite (site : PairedSite) : Value :=
  .object ([("site_url", .text site.siteURL), ("paired_on", .text site.pairedOn)] ++
    if site.agentRegistration = "" then []
    else [("agent_registration", .text site.agentRegistration)])

/-- Maps are encoded with sorted keys. -/
def sortedSites (sites : Table String PairedSite) : List (String × PairedSite) :=
  sites.rows.insertionSort fun one other => one.1 ≤ other.1

def marshalSites (sites : Table String PairedSite) : Value :=
  .object ((sortedSites sites).map fun entry => (entry.1, marshalSite entry.2))

def metadata (sites : Table String PairedSite) : Bytes :=
  utf8 (marshalIndent.write (marshalSites sites))

/-! ### Decoding -/

/-- A byte that begins no character stands for U+FFFD; the bytes of a character
that has been read are skipped. -/
def decodeRunes : Bytes → (skipped : Nat) → List Char
  | [], _ => []
  | _ :: rest, skipped + 1 => decodeRunes rest skipped
  | byte :: rest, 0 =>
      match (byte :: rest).toByteArray.utf8DecodeChar? 0 with
      | some c => c :: decodeRunes rest (c.utf8Size - 1)
      | none => Char.ofNat 0xFFFD :: decodeRunes rest 0

/-- The characters beyond ASCII that fold to an ASCII letter are the long s and
the sign for kelvin. -/
def foldRune (c : Char) : Char :=
  if c = Char.ofNat 0x17F then 's' else if c = Char.ofNat 0x212A then 'k' else c.toLower

def foldName (key : String) : List Char := key.toList.map foldRune

inductive KeystoreError where
  | reading (cause : GoError)
  | parsing
deriving DecidableEq

def siteFields : List (String × (PairedSite → String → PairedSite)) :=
  [("site_url", fun site value => { site with siteURL := value }),
    ("paired_on", fun site value => { site with pairedOn := value }),
    ("agent_registration", fun site value => { site with agentRegistration := value })]

/-- The field of exactly this name, or else of the name in other letters. -/
def siteField (key : String) : Option (PairedSite → String → PairedSite) :=
  match siteFields.lookup key with
  | some field => some field
  | none => (siteFields.find? fun field => foldName field.1 == foldName key).map Prod.snd

def unmarshalMember (site : PairedSite) (member : String × Value) :
    Except KeystoreError PairedSite :=
  match siteField member.1, member.2 with
  | none, _ => .ok site
  | some field, .text value => .ok (field site value)
  | some _, .atom "null" => .ok site
  | some _, _ => .error .parsing

def zeroSite : PairedSite := ⟨"", "", ""⟩

def unmarshalSite : Value → Except KeystoreError PairedSite
  | .object members => members.foldlM unmarshalMember zeroSite
  | .atom "null" => .ok zeroSite
  | _ => .error .parsing

def unmarshalEntry (sites : Table String PairedSite) (entry : String × Value) :
    Except KeystoreError (Table String PairedSite) :=
  (unmarshalSite entry.2).map fun site => sites.insert entry.1 site

def unmarshalSites : Value → Except KeystoreError (Table String PairedSite)
  | .object entries => entries.foldlM unmarshalEntry ∅
  | .atom "null" => .ok ∅
  | _ => .error .parsing

inductive MetadataFile where
  | missing
  | unreadable (cause : GoError)
  | data (content : Bytes)
deriving DecidableEq

def newKeystore : MetadataFile → Except KeystoreError (Table String PairedSite)
  | .missing => .ok ∅
  | .unreadable cause => .error (.reading cause)
  | .data content =>
      match read (String.ofList (decodeRunes content 0)) with
      | some document => unmarshalSites document
      | none => .error .parsing

/-! ### What is encoded decodes -/

theorem decodeRunes_skip (skipped rest : Bytes) :
    decodeRunes (skipped ++ rest) skipped.length = decodeRunes rest 0 := by
  induction skipped with
  | nil => rfl
  | cons byte skipped ih => exact ih

theorem decodeRunes_char (c : Char) (rest : Bytes) :
    decodeRunes (String.utf8EncodeChar c ++ rest) 0 = c :: decodeRunes rest 0 := by
  have size := String.length_utf8EncodeChar c
  have decoded := @ByteArray.utf8DecodeChar?_utf8EncodeChar_append rest.toByteArray c
  rw [← List.toByteArray_append] at decoded
  cases bytes : String.utf8EncodeChar c with
  | nil =>
      have positive := c.utf8Size_pos
      rw [bytes] at size
      simp at size
      omega
  | cons byte others =>
      rw [bytes] at size decoded
      rw [List.cons_append] at decoded ⊢
      have left : c.utf8Size - 1 = others.length := by
        rw [← size, List.length_cons]
        omega
      rw [decodeRunes, decoded]
      simp only
      rw [left, decodeRunes_skip]

theorem utf8_ofList (chars : List Char) :
    utf8 (String.ofList chars) = chars.flatMap String.utf8EncodeChar := by
  simp [utf8, ByteArray.toList, bytes_loop, List.utf8Encode]

theorem decodeRunes_utf8 (text : String) : decodeRunes (utf8 text) 0 = text.toList := by
  have chars (chars : List Char) :
      decodeRunes (chars.flatMap String.utf8EncodeChar) 0 = chars := by
    induction chars with
    | nil => rfl
    | cons c rest ih => rw [List.flatMap_cons, decodeRunes_char, ih]
  rw [← String.ofList_toList (s := text), utf8_ofList, chars, String.toList_ofList]

theorem unmarshalMember_text {key : String} {field : PairedSite → String → PairedSite}
    (named : siteField key = some field) (site : PairedSite) (value : String) :
    unmarshalMember site (key, .text value) = .ok (field site value) := by
  simp only [unmarshalMember, named]

theorem unmarshalSite_marshalSite (site : PairedSite) :
    unmarshalSite (marshalSite site) = .ok site := by
  have url : siteField "site_url" = some fun site value => { site with siteURL := value } := rfl
  have time : siteField "paired_on" = some fun site value => { site with pairedOn := value } := rfl
  have registration : siteField "agent_registration" =
      some fun site value => { site with agentRegistration := value } := rfl
  unfold marshalSite
  simp only [unmarshalSite, List.cons_append, List.nil_append, List.foldlM_cons,
    unmarshalMember_text url, unmarshalMember_text time]
  split
  · rename_i unregistered
    cases site
    cases unregistered
    rfl
  · simp only [List.foldlM_cons, unmarshalMember_text registration]
    rfl

/-- Entries one after another into a table. -/
def insertAll (table : Table String PairedSite) (entries : List (String × PairedSite)) :
    Table String PairedSite :=
  entries.foldl (fun table entry => table.insert entry.1 entry.2) table

theorem unmarshalEntries (entries : List (String × PairedSite)) (sites : Table String PairedSite) :
    (entries.map fun entry => (entry.1, marshalSite entry.2)).foldlM unmarshalEntry sites =
      .ok (insertAll sites entries) := by
  induction entries generalizing sites with
  | nil => rfl
  | cons entry rest ih =>
      have decoded : unmarshalEntry sites (entry.1, marshalSite entry.2) =
          .ok (sites.insert entry.1 entry.2) := by
        simp only [unmarshalEntry, unmarshalSite_marshalSite, Except.map]
      rw [List.map_cons, List.foldlM_cons, decoded]
      exact ih _

theorem insertAll_other {entries : List (String × PairedSite)} {siteURL : String}
    (absent : siteURL ∉ entries.map Prod.fst) (table : Table String PairedSite) :
    (insertAll table entries).lookup siteURL = table.lookup siteURL := by
  induction entries generalizing table with
  | nil => rfl
  | cons entry rest ih =>
      rw [List.map_cons, List.mem_cons, not_or] at absent
      exact (ih absent.2 _).trans (AList.lookup_insert_ne absent.1)

theorem insertAll_lookup {entries : List (String × PairedSite)}
    (distinct : (entries.map Prod.fst).Nodup) {siteURL : String} {site : PairedSite}
    (member : (siteURL, site) ∈ entries) (table : Table String PairedSite) :
    (insertAll table entries).lookup siteURL = some site := by
  induction entries generalizing table with
  | nil => cases member
  | cons entry rest ih =>
      rw [List.map_cons, List.nodup_cons] at distinct
      cases member with
      | head => exact (insertAll_other distinct.1 _).trans (AList.lookup_insert _)
      | tail _ member => exact ih distinct.2 member _

theorem sortedSites_perm (sites : Table String PairedSite) :
    (sortedSites sites).Perm sites.rows :=
  List.perm_insertionSort _ _

theorem rows_nodup (sites : Table String PairedSite) : (sites.rows.map Prod.fst).Nodup := by
  have keys := sites.nodupKeys
  rw [Table.rows, List.map_map]
  exact keys

/-- The sites that were marshalled, whatever order they are in. -/
theorem insertAll_sortedSites (sites : Table String PairedSite) (siteURL : String) :
    (insertAll ∅ (sortedSites sites)).lookup siteURL = sites.lookup siteURL := by
  have perm := sortedSites_perm sites
  cases found : sites.lookup siteURL with
  | some site =>
      have distinct : ((sortedSites sites).map Prod.fst).Nodup :=
        (perm.map Prod.fst).nodup_iff.mpr (rows_nodup sites)
      exact insertAll_lookup distinct (perm.mem_iff.mpr (Table.mem_rows.mpr found)) ∅
  | none =>
      have absent : siteURL ∉ (sortedSites sites).map Prod.fst := by
        intro member
        obtain ⟨entry, member, same⟩ := List.mem_map.mp member
        have present := Table.mem_rows.mp (perm.mem_iff.mp member)
        rw [same, found] at present
        cases present
      exact (insertAll_other absent ∅).trans (AList.lookup_empty siteURL)

theorem plain_marshalSites (sites : Table String PairedSite) :
    ∀ token ∈ (marshalSites sites).tokens, token.plain = true := by
  have one (site : PairedSite) : ∀ token ∈ (marshalSite site).tokens, token.plain = true := by
    unfold marshalSite
    split <;> simp [Value.tokens, memberTokens, moreMembers, Token.plain]
  have more (entries : List (String × PairedSite)) :
      ∀ token ∈ moreMembers (entries.map fun entry => (entry.1, marshalSite entry.2)),
        token.plain = true := by
    induction entries with
    | nil => simp [moreMembers, Token.plain]
    | cons entry rest ih =>
        intro token member
        simp only [List.map_cons, moreMembers, memberTokens, List.cons_append, List.mem_cons,
          List.mem_append] at member
        rcases member with rfl | rfl | rfl | member | member
        · rfl
        · rfl
        · rfl
        · exact one _ token member
        · exact ih token member
  unfold marshalSites
  cases sortedSites sites with
  | nil => simp [Value.tokens, Token.plain]
  | cons entry rest =>
      intro token member
      simp only [List.map_cons, Value.tokens, memberTokens, List.cons_append, List.mem_cons,
        List.mem_append] at member
      rcases member with rfl | rfl | rfl | member | member
      · rfl
      · rfl
      · rfl
      · exact one _ token member
      · exact more rest token member

theorem newKeystore_metadata (sites : Table String PairedSite) :
    newKeystore (.data (metadata sites)) = .ok (insertAll ∅ (sortedSites sites)) := by
  have back : read (marshalIndent.write (marshalSites sites)) = some (marshalSites sites) :=
    read_write (plain_marshalSites sites)
  unfold newKeystore metadata
  simp only
  rw [decodeRunes_utf8, String.ofList_toList, back]
  exact unmarshalEntries _ _

/-! ### Calls -/

/-- A running keystore and its metadata file. -/
structure Store where
  shared : Shared
  file : MetadataFile

/-- The bridge starts. -/
def openStore (surroundings : Shared) (file : MetadataFile) : Except KeystoreError Store :=
  (newKeystore file).map fun sites => ⟨{ surroundings with sites := sites }, file⟩

/-- `save` has written the file. -/
def writes : Interaction.Event face Int → Bool
  | ⟨.saveSites, .ok _, _⟩ => true
  | _ => false

variable (lib : Libraries)

/-- A call that succeeds. -/
def persist (store : Store) (call : KeystoreCall × List Oracle) : Option Store :=
  match (bridge lib).play call.1.program () store.shared [] call.2 with
  | some ⟨.ok (.ok _), _, shared, trace⟩ =>
      some ⟨shared, if trace.any writes then .data (metadata shared.saved) else store.file⟩
  | _ => none

def KeystoreCall.withoutSecret : KeystoreCall → KeystoreCall
  | .addSite site _ => .addSite site ""
  | .setHMACSecret siteURL _ => .setHMACSecret siteURL ""
  | .removeSite siteURL => .removeSite siteURL

/-- What the calls are for: an index of sites with its file. -/
structure SiteIndex where
  sites : Table String PairedSite
  file : MetadataFile

def SiteIndex.save (sites : Table String PairedSite) : SiteIndex := ⟨sites, .data (metadata sites)⟩

def SiteIndex.update (index : SiteIndex) : KeystoreCall → SiteIndex
  | .addSite site _ => .save (index.sites.insert site.siteURL site)
  | .setHMACSecret .. => index
  | .removeSite siteURL => .save (index.sites.erase siteURL)

def Store.index (store : Store) : SiteIndex := ⟨store.shared.sites, store.file⟩

variable {lib}

/-- The sites, what has been saved of them, and whether it was just now. -/
def saveState (shared : Shared) (trace : AgentTrace) :
    Table String PairedSite × Table String PairedSite × Bool :=
  (shared.sites, shared.saved, trace.any writes)

def OnSecrets : Operation → Prop
  | .keychainGet _ => True
  | .keychainSet .. => True
  | .keychainDelete _ => True
  | .readTokenFile => True
  | .writeTokenFile _ => True
  | .removeTokenFile => True
  | _ => False

variable (lib) in
abbrev Yields {Value : Type} (post : Except GoError Value → Shared → AgentTrace → Prop)
    (program : Agent Value) (shared : Shared) (trace : AgentTrace) : Prop :=
  @Ensures face (bridge lib) Value (fun _ => True) (fun result _ => post result) program ()
    shared trace

section Calls

variable {shared : Shared} {trace : AgentTrace}

theorem onSecrets_reply {oracle : Oracle} {operation : Operation} (secret : OnSecrets operation) :
    (Bridge.reply lib oracle shared operation).2.sites = shared.sites ∧
      (Bridge.reply lib oracle shared operation).2.saved = shared.saved := by
  have answered : (answer lib oracle shared operation).2.sites = shared.sites ∧
      (answer lib oracle shared operation).2.saved = shared.saved := by
    cases operation with
    | keychainGet key => simp only [answer]; split <;> exact ⟨rfl, rfl⟩
    | keychainDelete key => simp only [answer]; split <;> exact ⟨rfl, rfl⟩
    | _ => first | exact ⟨rfl, rfl⟩ | exact secret.elim
  unfold Bridge.reply
  split
  · split
    · cases operation <;> exact ⟨rfl, rfl⟩
    · exact answered
  · exact answered

theorem onSecrets_yields {Value : Type} {program : Agent Value} (uses : program.Uses OnSecrets) :
    Yields lib (fun _ later extended => saveState later extended = saveState shared trace)
      program shared trace := by
  refine @Ensures.of_uses face (bridge lib) Value (fun _ => True) OnSecrets
    (fun _ later extended => saveState later extended = saveState shared trace) ?_ program uses ()
    shared trace rfl
  intro operation oracle reply later _ shared trace secret same replied
  have told : Bridge.reply lib oracle shared operation = (reply, later) := Option.some.inj replied
  have kept := @onSecrets_reply lib shared oracle operation secret
  rw [told] at kept
  have sites : later.sites = shared.sites := kept.1
  have saved : later.saved = shared.saved := kept.2
  have silent : writes ⟨operation, reply, shared.now⟩ = false := by
    cases operation <;> first | rfl | exact secret.elim
  rw [← same]
  simp only [saveState, sites, saved, List.any_cons, silent, Bool.false_or]

variable (lib) in
/-- A program that succeeds leaves this state. -/
abbrev Settles (state : Table String PairedSite × Table String PairedSite × Bool)
    (program : Agent (Except GoError Unit)) (shared : Shared) (trace : AgentTrace) : Prop :=
  Yields lib (fun result later extended => result = .ok (.ok ()) →
    saveState later extended = state) program shared trace

theorem settles_after {state : Table String PairedSite × Table String PairedSite × Bool}
    {Value : Type} {program : Agent Value} (uses : program.Uses OnSecrets)
    {next : Value → Agent (Except GoError Unit)}
    (rest : ∀ value later extended, saveState later extended = saveState shared trace →
      Settles lib state (next value) later extended) :
    Settles lib state (program.bind next) shared trace := by
  apply Ensures.bind (onSecrets_yields uses)
  · intro value _ later extended same
    exact rest value later extended same
  · intro error _ later extended _ impossible
    cases impossible

theorem settles_saveSites :
    Settles lib (shared.sites, shared.sites, true) (ask .saveSites) shared trace := by
  intro oracle reply later _ replied
  have told : Bridge.reply lib oracle shared .saveSites = (reply, later) := Option.some.inj replied
  unfold Bridge.reply at told
  split at told
  · cases told
    intro impossible
    cases impossible
  · cases told
    intro _
    simp [saveState, writes]

theorem uses_storeGiven (key value : String) : (storeGiven key value).Uses OnSecrets := by
  unfold storeGiven storeSecret setTokenFile loadTokenFile
  split
  · refine ⟨trivial, fun stored => ?_⟩
    cases stored with
    | ok _ => trivial
    | error _ => exact ⟨trivial, fun tokens => by cases tokens <;> exact ⟨trivial, fun _ => trivial⟩⟩
  · trivial

theorem uses_deleteTokenFile (key : String) : (deleteTokenFile key).Uses OnSecrets := by
  refine ⟨trivial, fun tokens => ?_⟩
  cases tokens <;>
    simp only [Program.pure_eq, Program.done_bind, Program.bind] <;>
    split <;> first
      | trivial
      | split <;> exact ⟨trivial, fun _ => trivial⟩

theorem addSite_settles (site : PairedSite) (siteToken : String) :
    Settles lib (shared.sites.insert site.siteURL site,
      shared.sites.insert site.siteURL site, true) (addSite site siteToken) shared trace := by
  apply settles_after (uses_storeGiven site.siteURL siteToken)
  intro stored later extended same
  have sites : later.sites = shared.sites := congrArg Prod.fst same
  cases stored with
  | error error =>
      intro impossible
      cases impossible
  | ok _ =>
      intro oracle reply last _ replied
      have told : Bridge.reply lib oracle later (.putSite site) = (reply, last) :=
        Option.some.inj replied
      rw [reply_memory rfl] at told
      cases told
      rw [← sites]
      exact settles_saveSites

theorem removeSite_settles (siteURL : String) :
    Settles lib (shared.sites.erase siteURL, shared.sites.erase siteURL, true)
      (removeSite siteURL) shared trace := by
  intro oracle reply later _ replied
  have told : Bridge.reply lib oracle shared (.dropSite siteURL) = (reply, later) :=
    Option.some.inj replied
  rw [reply_memory rfl] at told
  cases told
  have deletes (key : String) : OnSecrets (.keychainDelete key) := trivial
  apply settles_after (uses_ask (deletes siteURL))
  intro _ one first sameFirst
  apply settles_after (uses_ask (deletes (keyringHMACPrefix ++ siteURL)))
  intro _ two second sameSecond
  apply settles_after (uses_deleteTokenFile siteURL)
  intro _ three third sameThird
  apply settles_after (uses_deleteTokenFile (keyringHMACPrefix ++ siteURL))
  intro _ four fourth sameFourth
  have sites : four.sites = shared.sites.erase siteURL :=
    congrArg Prod.fst (sameFourth.trans (sameThird.trans (sameSecond.trans sameFirst)))
  rw [← sites]
  exact settles_saveSites

end Calls

/-- A call that succeeds does to the index and its file what it is for. -/
theorem persist_index {store next : Store} {call : KeystoreCall × List Oracle}
    (persisted : persist lib store call = some next) :
    next.index = store.index.update call.1 := by
  unfold persist at persisted
  split at persisted
  · rename_i shared trace played
    cases persisted
    have state {sites saved : Table String PairedSite} {written : Bool}
        (settles : Settles lib (sites, saved, written) call.1.program store.shared []) :
        shared.sites = sites ∧ shared.saved = saved ∧ trace.any writes = written := by
      have same := settles.played (fun _ _ => trivial) played rfl
      simpa only [saveState, Prod.mk.injEq] using same
    obtain ⟨call, script⟩ := call
    cases call with
    | addSite site siteToken =>
        obtain ⟨sites, saved, written⟩ := state (addSite_settles site siteToken)
        simp only [Store.index, SiteIndex.update, SiteIndex.save, sites, saved, written, if_true]
    | setHMACSecret siteURL secret =>
        obtain ⟨sites, _, written⟩ := state
          ((onSecrets_yields (uses_storeGiven _ secret)).weaken fun _ _ _ _ same _ => same)
        have unwritten : trace.any writes = false := written
        simp only [Store.index, SiteIndex.update, sites, unwritten, Bool.false_eq_true, if_false]
    | removeSite siteURL =>
        obtain ⟨sites, saved, written⟩ := state (removeSite_settles siteURL)
        simp only [Store.index, SiteIndex.update, SiteIndex.save, sites, saved, written, if_true]
  · cases persisted

theorem run_index {store last : Store} {calls : List (KeystoreCall × List Oracle)}
    (ran : Runs.run (persist lib) store calls = some last) :
    last.index = (calls.map Prod.fst).foldl SiteIndex.update store.index := by
  induction calls generalizing store with
  | nil =>
      cases ran
      rfl
  | cons call rest ih =>
      obtain ⟨next, persisted, ran⟩ := Option.bind_eq_some_iff.mp ran
      rw [ih ran, persist_index persisted]
      rfl

/-- The file has the sites of the index. -/
def SiteIndex.Saved (index : SiteIndex) : Prop :=
  ∃ sites, newKeystore index.file = .ok sites ∧
    ∀ siteURL, sites.lookup siteURL = index.sites.lookup siteURL

theorem save_saved (sites : Table String PairedSite) : (SiteIndex.save sites).Saved :=
  ⟨_, newKeystore_metadata sites, insertAll_sortedSites sites⟩

theorem update_saved {index : SiteIndex} (saved : index.Saved) (call : KeystoreCall) :
    (index.update call).Saved := by
  cases call with
  | addSite site siteToken => exact save_saved _
  | setHMACSecret siteURL secret => exact saved
  | removeSite siteURL => exact save_saved _

theorem updates_saved {index : SiteIndex} (saved : index.Saved) (calls : List KeystoreCall) :
    (calls.foldl SiteIndex.update index).Saved := by
  induction calls generalizing index with
  | nil => exact saved
  | cons call rest ih => exact ih (update_saved saved call)

theorem update_withoutSecret (index : SiteIndex) (call : KeystoreCall) :
    index.update call.withoutSecret = index.update call := by
  cases call <;> rfl

theorem updates_withoutSecret (index : SiteIndex) (calls : List KeystoreCall) :
    (calls.map KeystoreCall.withoutSecret).foldl SiteIndex.update index =
      calls.foldl SiteIndex.update index := by
  rw [List.foldl_map]
  congr 1
  funext index call
  exact update_withoutSecret index call

theorem openStore_missing {surroundings : Shared} {start : Store}
    (opened : openStore surroundings .missing = .ok start) : start.index = ⟨∅, .missing⟩ := by
  cases opened
  rfl

/-- A restart finds the same sites in the file, and calls that differ only in their
secrets write the same bytes. -/
theorem paired_sites_persist (lib : Libraries) (surroundings : Shared) (start last : Store)
    (calls : List (KeystoreCall × List Oracle))
    (opened : openStore surroundings .missing = .ok start)
    (ran : Runs.run (persist lib) start calls = some last) :
    (∀ later, ∃ restarted, openStore later last.file = .ok restarted ∧
      ∀ siteURL, getSite restarted.shared siteURL = getSite last.shared siteURL) ∧
      ∀ (elsewhere : Shared) (begun ended : Store) (others : List (KeystoreCall × List Oracle)),
        openStore elsewhere .missing = .ok begun →
        Runs.run (persist lib) begun others = some ended →
        others.map (fun call => call.1.withoutSecret) =
          calls.map (fun call => call.1.withoutSecret) →
        ended.file = last.file := by
  have index := run_index ran
  rw [openStore_missing opened] at index
  constructor
  · intro later
    have empty : SiteIndex.Saved ⟨∅, .missing⟩ := ⟨∅, rfl, fun _ => rfl⟩
    obtain ⟨sites, decoded, same⟩ := updates_saved empty (calls.map Prod.fst)
    rw [← index] at decoded same
    refine ⟨⟨{ later with sites := sites }, last.file⟩, ?_, same⟩
    change (newKeystore last.file).map _ = _
    rw [show newKeystore last.file = .ok sites from decoded]
    rfl
  · intro elsewhere begun ended others opened ran same
    have other := run_index ran
    rw [openStore_missing opened, ← updates_withoutSecret] at other
    rw [← updates_withoutSecret] at index
    simp only [List.map_map, Function.comp_def, same] at other index
    exact congrArg SiteIndex.file (other.trans index.symm)

/-- Two sites are paired, and one of them is removed. -/
def siteChanges (token : String) : List (KeystoreCall × List Oracle) :=
  [(.addSite ⟨"https://site.example", "2026-01-01", "A-1"⟩ token, [calm, calm, calm]),
    (.addSite ⟨"https://other.example", "2026-01-02", ""⟩ token,
      [silentKeychain, calm, calm, calm, calm]),
    (.removeSite "https://site.example", List.replicate 6 calm)]

theorem paired_sites_persist_sample :
    ∃ start last ended, openStore (started plainLibraries 0 []).shared .missing = .ok start ∧
      Runs.run (persist plainLibraries) start (siteChanges "T-1") = some last ∧
      Runs.run (persist plainLibraries) start (siteChanges "T-2") = some ended ∧
      ended.file = last.file := by
  have opened : openStore (started plainLibraries 0 []).shared .missing =
      .ok ⟨(started plainLibraries 0 []).shared, .missing⟩ := by
    rfl
  have ends (token : String) (nonempty : token = "T-1" ∨ token = "T-2") :
      (Runs.run (persist plainLibraries) ⟨(started plainLibraries 0 []).shared, .missing⟩
        (siteChanges token)).isSome = true := by
    rcases nonempty with rfl | rfl <;> decide +kernel
  obtain ⟨last, ran⟩ := Option.isSome_iff_exists.mp (ends "T-1" (by simp))
  obtain ⟨ended, again⟩ := Option.isSome_iff_exists.mp (ends "T-2" (by simp))
  exact ⟨_, last, ended, opened, ran, again,
    (paired_sites_persist plainLibraries _ _ last _ opened ran).2 _ _ ended _ opened again rfl⟩

end DscSigning.Bridge
