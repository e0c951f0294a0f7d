/-
What the hash of an audit event commits to.

The hash is taken of the event's request, type, time, actor and details as JSON
with sorted keys.  None of the conversions on the way merges two values, but the
client's address and browser are not among what is hashed.
-/

import DscSigning.Library.Calendar
import DscSigning.Library.PythonText
import DscSigning.Server.Desk

namespace DscSigning

open Interaction

/-! ### `json.dumps` -/

/-- `sort_keys`: the members of an object by the code points of their keys. -/
def sortMembers (sortKeys : Bool) (members : List (String × JsonText.Value)) :
    List (String × JsonText.Value) :=
  if sortKeys then members.insertionSort fun left right => left.1 ≤ right.1 else members

mutual

/-- The encoder's view of a value; a float is written by its `__repr__`. -/
def Json.encoded (showFloat : PyFloat → String) (sortKeys : Bool) : Json → JsonText.Value
  | .null => .atom "null"
  | .bool value => .atom (if value then "true" else "false")
  | .int value => .atom (toString value)
  | .number value => .atom (showFloat value)
  | .text value => .text value
  | .list items => .list (encodedItems showFloat sortKeys items)
  | .object fields => .object (sortMembers sortKeys (encodedFields showFloat sortKeys fields))

def encodedItems (showFloat : PyFloat → String) (sortKeys : Bool) : List Json → List JsonText.Value
  | [] => []
  | item :: rest => item.encoded showFloat sortKeys :: encodedItems showFloat sortKeys rest

def encodedFields (showFloat : PyFloat → String) (sortKeys : Bool) :
    List (String × Json) → List (String × JsonText.Value)
  | [] => []
  | (key, value) :: rest =>
      (key, value.encoded showFloat sortKeys) :: encodedFields showFloat sortKeys rest

end

/-- `json.dumps` -/
def jsonDumps (showFloat : PyFloat → String) (sortKeys : Bool) (value : Json) : String :=
  (value.encoded showFloat sortKeys).line

/-- The dictionary that is hashed, as the encoder sorts it. -/
def hashedMembers (request eventType occurredAt actorUser details : String) : JsonText.Value :=
  .object
    [("actor_user", .text actorUser),
      ("details_json", .text details),
      ("event_type", .text eventType),
      ("occurred_at", .text occurredAt),
      ("request", .text request)]

theorem dumps_hashed (showFloat : PyFloat → String)
    (request eventType occurredAt actorUser details : String) :
    jsonDumps showFloat true (.object
      [("request", .text request),
        ("event_type", .text eventType),
        ("occurred_at", .text occurredAt),
        ("actor_user", .text actorUser),
        ("details_json", .text details)]) =
      (hashedMembers request eventType occurredAt actorUser details).line := by
  simp +decide only [jsonDumps, Json.encoded, encodedFields, sortMembers, if_true, hashedMembers,
    List.insertionSort_cons, List.insertionSort_nil, List.orderedInsert_cons,
    List.orderedInsert_nil, if_false]

theorem hashed_inj {request eventType occurredAt actorUser details otherRequest otherType otherAt
    otherActor otherDetails : String}
    (same : (hashedMembers request eventType occurredAt actorUser details).line =
      (hashedMembers otherRequest otherType otherAt otherActor otherDetails).line) :
    request = otherRequest ∧ eventType = otherType ∧ occurredAt = otherAt ∧
      actorUser = otherActor ∧ details = otherDetails := by
  have plain (one two three four five : String) :
      ∀ token ∈ (hashedMembers one two three four five).tokens, token.plain = true := by
    simp [hashedMembers, JsonText.Value.tokens, JsonText.moreMembers, JsonText.memberTokens,
      JsonText.Token.plain]
  have values := JsonText.line_inj (plain _ _ _ _ _) (plain _ _ _ _ _) same
  simp only [hashedMembers, JsonText.Value.object.injEq, List.cons.injEq, Prod.mk.injEq,
    JsonText.Value.text.injEq, true_and, and_true] at values
  obtain ⟨actors, details, types, times, requests⟩ := values
  exact ⟨requests, types, times, actors, details⟩

/-! ### The events that `log_event` makes -/

variable {lib : Libraries} {showFloat : PyFloat → String} {event other : AuditEvent}

/-- Some call of `log_event` has inserted the event. -/
def Logged (lib : Libraries) (event : AuditEvent) : Prop :=
  ∃ ctx signingRequest eventType details trace,
    (logEvent lib ctx signingRequest eventType details).Ran [] trace (.ok ()) ∧
      Answered trace (.insertEvent event) ()

theorem Logged.made (logged : Logged lib event) :
    ∃ ctx signingRequest eventType details occurredAt,
      event = auditEvent lib ctx signingRequest eventType details occurredAt := by
  obtain ⟨ctx, signingRequest, eventType, details, trace, ran, stamp, member⟩ := logged
  obtain ⟨clock, asked, ran⟩ := ran
  cases clock with
  | error exn => cases ran.2
  | ok occurredAt =>
      obtain ⟨reply, inserted, ran⟩ := ran
      cases reply with
      | error exn => cases ran.2
      | ok _ =>
          rw [ran.1] at member
          rcases List.mem_cons.mp member with last | earlier
          · cases last
            exact ⟨ctx, signingRequest, eventType, details, occurredAt, rfl⟩
          · cases List.mem_singleton.mp earlier

theorem logged_auditEvent (lib : Libraries) (ctx : Context) (signingRequest eventType : String)
    (details : List (String × Json)) (occurredAt : Instant) :
    Logged lib (auditEvent lib ctx signingRequest eventType details occurredAt) :=
  ⟨ctx, signingRequest, eventType, details, _,
    ⟨.ok occurredAt, 0, .ok (), 0, rfl, rfl⟩, 0, List.mem_cons_self⟩

/-- Two events agree on what their hashes are taken of. -/
structure AuditEvent.SameHashed (event other : AuditEvent) : Prop where
  request : event.request = other.request
  eventType : event.eventType = other.eventType
  occurredAt : event.occurredAt = other.occurredAt
  actorUser : event.actorUser = other.actorUser
  detailsJson : event.detailsJson = other.detailsJson

structure AuditEvent.SameClient (event other : AuditEvent) : Prop where
  clientIp : event.clientIp = other.clientIp
  userAgent : event.userAgent = other.userAgent

/-- Two events agree on every evidentiary field. -/
structure AuditEvent.Agrees (event other : AuditEvent) : Prop extends
  event.SameHashed other, event.SameClient other

theorem Logged.hash (logged : Logged lib event) :
    event.eventHash = computeEventHash lib event.request event.eventType event.occurredAt
      event.actorUser event.detailsJson := by
  obtain ⟨ctx, signingRequest, eventType, details, occurredAt, rfl⟩ := logged.made
  rfl

/-- The details are missing or a JSON document, never the empty text. -/
theorem Logged.details (dumps : lib.jsonDumps = jsonDumps showFloat false)
    (logged : Logged lib event) : event.detailsJson ≠ some "" := by
  obtain ⟨ctx, signingRequest, eventType, details, occurredAt, rfl⟩ := logged.made
  simp only [auditEvent, dumps]
  split
  · intro missing
    cases missing
  · intro blank
    exact JsonText.object_line _ (Option.some.inj blank)

theorem orValue_inj {text other : Text} (filled : text ≠ some "") (filledToo : other ≠ some "")
    (same : text.orValue "" = other.orValue "") : text = other := by
  have shown (text : Text) : text.orValue "" = text.getD "" := by
    cases text with
    | none => rfl
    | some value =>
        by_cases blank : value = ""
        · rw [blank]
          rfl
        · simp [Text.orValue, Text.given, blank]
  rw [shown, shown] at same
  cases text with
  | none =>
      cases other with
      | none => rfl
      | some value => exact absurd (congrArg some same.symm) filledToo
  | some value =>
      cases other with
      | none => exact absurd (congrArg some same) filled
      | some value => exact congrArg some same

theorem computeEventHash_members (sorted : lib.jsonDumpsSorted = jsonDumps showFloat true)
    (request eventType : String) (occurredAt : Instant) (actorUser : String) (details : Text) :
    computeEventHash lib request eventType occurredAt actorUser details =
      lib.sha256Hex (utf8 (hashedMembers request eventType (lib.showInstant occurredAt) actorUser
        (details.orValue "")).line) := by
  rw [computeEventHash, sorted, dumps_hashed]

/-- Events with one hash agree on the five fields it is taken of. -/
theorem same_hashed (ideal : Function.Injective lib.sha256)
    (dumps : lib.jsonDumps = jsonDumps showFloat false)
    (sorted : lib.jsonDumpsSorted = jsonDumps showFloat true)
    (shows_ : lib.showInstant = Calendar.showMoment)
    (logged : Logged lib event) (loggedToo : Logged lib other)
    (same : event.eventHash = other.eventHash) : event.SameHashed other := by
  rw [logged.hash, loggedToo.hash, computeEventHash_members sorted,
    computeEventHash_members sorted, shows_] at same
  have texts := utf8_inj (ideal (hex_inj same))
  obtain ⟨requests, types, times, actors, details⟩ := hashed_inj texts
  exact
    { request := requests
      eventType := types
      occurredAt := Calendar.showMoment_inj times
      actorUser := actors
      detailsJson := orValue_inj (logged.details dumps) (loggedToo.details dumps) details }

theorem SameHashed.hash (logged : Logged lib event) (loggedToo : Logged lib other)
    (same : event.SameHashed other) : event.eventHash = other.eventHash := by
  rw [logged.hash, loggedToo.hash, same.request, same.eventType, same.occurredAt, same.actorUser,
    same.detailsJson]

/-- The hash tells two events apart exactly if they differ in something else than
the client or come from the same one. -/
theorem event_hash_commits_iff (ideal : Function.Injective lib.sha256)
    (dumps : lib.jsonDumps = jsonDumps showFloat false)
    (sorted : lib.jsonDumpsSorted = jsonDumps showFloat true)
    (shows_ : lib.showInstant = Calendar.showMoment)
    (logged : Logged lib event) (loggedToo : Logged lib other) :
    (event.eventHash = other.eventHash → event.Agrees other) ↔
      ¬ event.SameHashed other ∨ event.SameClient other := by
  constructor
  · intro commits
    by_cases hashed : event.SameHashed other
    · exact Or.inr (commits (SameHashed.hash logged loggedToo hashed)).toSameClient
    · exact Or.inl hashed
  · rintro condition same
    have hashed := same_hashed ideal dumps sorted shows_ logged loggedToo same
    rcases condition with different | client
    · exact absurd hashed different
    · exact { toSameHashed := hashed, toSameClient := client }

/-! ### Two calls in one microsecond -/

def agentCalledText : String :=
  "\x7b\"actor_user\": \"alice@example.com\", \"details_json\": \"\", " ++
    "\"event_type\": \"Agent Called\", " ++
    "\"occurred_at\": \"2026-04-16 09:30:00.250000\", \"request\": \"SR-1\"\x7d"

def requestFailedText : String :=
  "\x7b\"actor_user\": \"alice@example.com\", " ++
    "\"details_json\": \"\x7b\\\"error\\\": \\\"Cert expired\\\"\x7d\", " ++
    "\"event_type\": \"Request Failed\", " ++
    "\"occurred_at\": \"2026-04-16 09:30:00.250000\", \"request\": \"SR-1\"\x7d"

/-- SHA-256 of the two texts, and something without collisions elsewhere. -/
def auditSha256 (data : Bytes) : Bytes :=
  if data = utf8 agentCalledText then
    [0, 78, 36, 188, 53, 148, 36, 244, 156, 52, 244, 107, 228, 149, 23, 246, 174, 98, 129, 206, 146,
      98, 1, 253, 144, 240, 49, 93, 127, 157, 4, 133]
  else if data = utf8 requestFailedText then
    [219, 231, 3, 83, 36, 186, 154, 146, 247, 126, 27, 125, 144, 112, 78, 58, 34, 206, 113, 222, 203,
      53, 45, 55, 87, 93, 202, 28, 69, 6, 214, 204]
  else 1 :: data

/-- The data of a digest, by its first byte. -/
def auditPreimage : Bytes → Bytes
  | 0 :: _ => utf8 agentCalledText
  | 1 :: data => data
  | _ => utf8 requestFailedText

theorem auditSha256_injective : Function.Injective auditSha256 := by
  refine Function.LeftInverse.injective (g := auditPreimage) fun data => ?_
  unfold auditSha256
  split
  · rename_i same
    rw [same, auditPreimage]
  · split
    · rename_i same
      rw [same]
      exact auditPreimage.eq_3 _ (by simp) (by simp)
    · rfl

/-- No float is ever written here. -/
def auditLibraries : Libraries :=
  { sampleLibraries with
    sha256 := auditSha256
    jsonDumps := jsonDumps (fun _ => "0.0") false
    jsonDumpsSorted := jsonDumps (fun _ => "0.0") true
    showInstant := Calendar.showMoment }

/-- 2026-04-16 09:30:00.25 -/
def auditMoment : Instant := 63911928600250000

def agentCalled (ctx : Context) : AuditEvent :=
  auditEvent auditLibraries ctx "SR-1" "Agent Called" [] auditMoment

def requestFailed (ctx : Context) : AuditEvent :=
  auditEvent auditLibraries ctx "SR-1" "Request Failed" [("error", .text "Cert expired")] auditMoment

def officeClient : Context := ⟨"alice@example.com", some "203.0.113.7", some "Firefox"⟩

def homeClient : Context := ⟨"alice@example.com", some "198.51.100.9", some "curl"⟩

theorem agentCalled_line :
    (hashedMembers "SR-1" "Agent Called" (Calendar.showMoment auditMoment) "alice@example.com"
      "").line = agentCalledText := by
  decide +kernel

theorem requestFailed_line :
    (hashedMembers "SR-1" "Request Failed" (Calendar.showMoment auditMoment) "alice@example.com"
      "\x7b\"error\": \"Cert expired\"\x7d").line = requestFailedText := by
  decide +kernel

theorem texts_differ : requestFailedText ≠ agentCalledText := by
  intro same
  rw [← agentCalled_line, ← requestFailed_line] at same
  exact absurd (hashed_inj same).2.1 (by decide)

theorem auditLibraries_sorted :
    auditLibraries.jsonDumpsSorted = jsonDumps (fun _ => "0.0") true := rfl

theorem agentCalled_hash : (agentCalled officeClient).eventHash =
    "004e24bc359424f49c34f46be49517f6ae6281ce926201fd90f0315d7f9d0485" := by
  have hashed : (agentCalled officeClient).eventHash = hex (auditSha256 (utf8 agentCalledText)) := by
    rw [← agentCalled_line]
    exact computeEventHash_members auditLibraries_sorted ..
  rw [hashed, auditSha256, if_pos rfl]
  decide +kernel

theorem requestFailed_hash : (requestFailed homeClient).eventHash =
    "dbe7035324ba9a92f77e1b7d90704e3a22ce71decb352d37575dca1c4506d6cc" := by
  have hashed :
      (requestFailed homeClient).eventHash = hex (auditSha256 (utf8 requestFailedText)) := by
    rw [← requestFailed_line]
    exact computeEventHash_members auditLibraries_sorted ..
  rw [hashed, auditSha256, if_neg fun same => texts_differ (utf8_inj same), if_pos rfl]
  decide +kernel

theorem event_hash_commits_sample :
    ((agentCalled officeClient).eventHash = (requestFailed homeClient).eventHash →
      (agentCalled officeClient).Agrees (requestFailed homeClient)) ∧
    (agentCalled officeClient).eventHash =
      "004e24bc359424f49c34f46be49517f6ae6281ce926201fd90f0315d7f9d0485" ∧
    (requestFailed homeClient).eventHash =
      "dbe7035324ba9a92f77e1b7d90704e3a22ce71decb352d37575dca1c4506d6cc" :=
  ⟨(event_hash_commits_iff auditSha256_injective rfl rfl rfl (logged_auditEvent ..)
    (logged_auditEvent ..)).mpr (Or.inl fun same => absurd same.eventType (by decide)),
    agentCalled_hash, requestFailed_hash⟩

/-- One user calls the agent from two clients in one microsecond: the events differ in
the client's address and browser and have one hash. -/
theorem client_unhashed :
    ¬ ∀ (lib : Libraries) (showFloat : PyFloat → String), Function.Injective lib.sha256 →
      lib.jsonDumps = jsonDumps showFloat false → lib.jsonDumpsSorted = jsonDumps showFloat true →
      lib.showInstant = Calendar.showMoment → ∀ event other, Logged lib event → Logged lib other →
      event.eventHash = other.eventHash → event.Agrees other := by
  intro commits
  have agrees := commits auditLibraries _ auditSha256_injective rfl rfl rfl
    (agentCalled officeClient) (agentCalled homeClient) (logged_auditEvent ..)
    (logged_auditEvent ..) rfl
  exact absurd agrees.clientIp (by decide)

end DscSigning
