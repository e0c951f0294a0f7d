/-
Where the address of a position comes from.

An address is what a provider answered for coordinates with the same four
decimals, to this call or to one whose answer was cached within a day.  What is
no address shows the coordinates, and a provider that fails never fails the call.
-/

import DscSigning.Server.Geocoding
import DscSigning.Server.SigningApi

namespace DscSigning.Geocoding

open Interaction Program Engine

variable (lib : Libraries)

def Origin.floats (origin : Origin) : Option (PyFloat × PyFloat) :=
  match origin.lat, origin.lng with
  | some lat, some lng => Geocoding.floats lib lat lng
  | _, _ => none

def Responded (trace : GeocoderTrace) (request : Request) (data : Json) : Prop :=
  ∃ stamp, (⟨.httpGet request, .ok data, stamp⟩ : GeocoderEvent) ∈ trace

/-- A provider was asked for these coordinates, and this is what was made of its answer. -/
def Resolved (trace : GeocoderTrace) (lat lng : PyFloat) (result : Resolution) : Prop :=
  ∃ data,
    (∃ settings, Responded trace (nominatimRequest lib settings lat lng) data ∧
      readNominatim lib lat lng data = .ok result) ∨
    (∃ apiKey, Responded trace (googleRequest lib apiKey lat lng) data ∧
      readGoogle lib lat lng data = .ok result)

/-- The cache has answered with the result. -/
def Cached (trace : GeocoderTrace) (key : CacheKey) (result : Resolution) : Prop :=
  ∃ stamp, (⟨.cacheGet key, .ok (some (some result)), stamp⟩ : GeocoderEvent) ∈ trace

/-- The questions outside the `try` block. -/
def Operation.unguarded : Operation → Bool
  | .getPassword => false
  | .httpGet _ => false
  | _ => true

def Escaped (trace : GeocoderTrace) (exn : Exn) : Prop :=
  ∃ event ∈ trace, event.query.unguarded = true ∧ HEq event.reply
    (.error exn : Except Exn event.query.Answer)

/-! ### What each call asks -/

def Permitted (origin : Origin) (trace : GeocoderTrace) : Operation → Prop
  | .cacheGet key => ∃ lat lng, origin.floats lib = some (lat, lng) ∧ key = cacheKey lat lng
  | .cacheSet key result expiresInSec => ∃ lat lng, origin.floats lib = some (lat, lng) ∧
      key = cacheKey lat lng ∧ expiresInSec = cacheTtlSeconds ∧ result.ok = true ∧
      Resolved lib trace lat lng result
  | _ => True

/-- The coordinates as they are shown. -/
def Origin.shown (origin : Origin) : Text × Text :=
  match origin.floats lib with
  | some (lat, lng) => (some (lib.showFloat lat), some (lib.showFloat lng))
  | none => (origin.lat.map (showValue lib), origin.lng.map (showValue lib))

def Ends (origin : Origin) (trace : GeocoderTrace) : Except Exn Resolution → Prop
  | .ok result =>
      (∃ reason, result = fallback (origin.shown lib).1 (origin.shown lib).2 reason) ∨
      ∃ lat lng, origin.floats lib = some (lat, lng) ∧
        (Cached trace (cacheKey lat lng) result ∨
          result.ok = true ∧ Resolved lib trace lat lng result)
  | .error exn => Escaped trace exn

variable {lib}

theorem Responded.mono {trace later : GeocoderTrace} {request : Request} {data : Json}
    (responded : Responded trace request data) (suffix : trace <:+ later) :
    Responded later request data := by
  obtain ⟨stamp, member⟩ := responded
  exact ⟨stamp, suffix.subset member⟩

theorem Resolved.mono {trace later : GeocoderTrace} {lat lng : PyFloat} {result : Resolution}
    (resolved : Resolved lib trace lat lng result) (suffix : trace <:+ later) :
    Resolved lib later lat lng result := by
  obtain ⟨data, ⟨settings, responded, read⟩ | ⟨apiKey, responded, read⟩⟩ := resolved
  · exact ⟨data, Or.inl ⟨settings, responded.mono suffix, read⟩⟩
  · exact ⟨data, Or.inr ⟨apiKey, responded.mono suffix, read⟩⟩

theorem escaped_head {operation : Operation} {exn : Exn} {stamp : Instant} {trace : GeocoderTrace}
    (unguarded : operation.unguarded = true) :
    Escaped (⟨operation, .error exn, stamp⟩ :: trace) exn :=
  ⟨_, List.mem_cons_self, unguarded, HEq.rfl⟩

/-! ### The providers -/

variable (lib) in
/-- What a provider leaves: an answer of its own, or the coordinates. -/
def Provided (lat lng : PyFloat) (trace : GeocoderTrace) : Except Exn Resolution → Prop
  | .ok result => (result.ok = true ∧ Resolved lib trace lat lng result) ∨
      ∃ reason, result = floatFallback lib lat lng reason
  | .error _ => True

variable (lib) in
/-- What is left of a provider's failure when it has been caught. -/
def Guarded (lat lng : PyFloat) (trace : GeocoderTrace) : Except Exn Resolution → Prop
  | .ok result => Provided lib lat lng trace (.ok result)
  | .error exn => Escaped trace exn

theorem readNominatim_cases {lat lng : PyFloat} {data : Json} {result : Resolution}
    (read : readNominatim lib lat lng data = .ok result) :
    result.ok = true ∨ ∃ reason, result = floatFallback lib lat lng reason := by
  obtain ⟨address, _, read⟩ := bind_ok read
  split at read
  · cases read
    exact Or.inl rfl
  · cases read
    exact Or.inr ⟨_, rfl⟩

theorem readGoogle_cases {lat lng : PyFloat} {data : Json} {result : Resolution}
    (read : readGoogle lib lat lng data = .ok result) :
    result.ok = true ∨ ∃ reason, result = floatFallback lib lat lng reason := by
  obtain ⟨results, _, read⟩ := bind_ok read
  split at read
  · obtain ⟨first, _, read⟩ := bind_ok read
    obtain ⟨formatted, _, read⟩ := bind_ok read
    obtain ⟨status, _, read⟩ := bind_ok read
    cases read
    exact Or.inl rfl
  · cases read
    exact Or.inr ⟨_, rfl⟩

variable {origin : Origin}

theorem nominatim_follows (settings : Settings) (lat lng : PyFloat) (trace : GeocoderTrace) :
    (nominatim lib settings lat lng).Follows (Permitted lib origin) (Provided lib lat lng)
      trace := by
  refine Follows.perform trivial (fun data stamp => ?_) fun _ _ => trivial
  rw [← bind_done (ofExcept _)]
  refine Follows.ofExcept (fun result read => ?_) fun _ _ => trivial
  rcases readNominatim_cases read with ok | shown
  · exact Or.inl ⟨ok, data, Or.inl ⟨settings, ⟨stamp, List.mem_cons_self⟩, read⟩⟩
  · exact Or.inr shown

theorem apiKey_uses {kind : Operation → Prop} (password : kind .getPassword)
    (settings : Settings) : (apiKey settings).Uses kind := by
  unfold apiKey
  split
  · exact Uses.perform password
  · trivial

theorem google_follows (settings : Settings) (lat lng : PyFloat) (trace : GeocoderTrace) :
    (google lib settings lat lng).Follows (Permitted lib origin) (Provided lib lat lng)
      trace := by
  have silent : (apiKey settings).Follows (Permitted lib origin) (fun _ _ => True) trace := by
    refine (Uses.follows (apiKey_uses rfl settings) trace
      (fun _ operation (same : .getPassword = operation) => ?_)).weaken fun _ _ _ _ => trivial
    rw [← same]
    trivial
  refine silent.bind (fun later key _ _ => ?_) fun _ _ _ _ => trivial
  split
  · refine Follows.perform trivial (fun data stamp => ?_) fun _ _ => trivial
    rw [← bind_done (ofExcept _)]
    refine Follows.ofExcept (fun result read => ?_) fun _ _ => trivial
    rcases readGoogle_cases read with ok | shown
    · exact Or.inl ⟨ok, data, Or.inr ⟨key.show, ⟨stamp, List.mem_cons_self⟩, read⟩⟩
    · exact Or.inr shown
  · exact Or.inr ⟨_, rfl⟩

theorem askProvider_follows (settings : Settings) (lat lng : PyFloat) (trace : GeocoderTrace) :
    (askProvider lib settings lat lng).Follows (Permitted lib origin)
      (Provided lib lat lng) trace := by
  unfold askProvider
  split
  · exact google_follows settings lat lng trace
  · exact nominatim_follows settings lat lng trace

/-! ### The rules of a call -/

theorem lookUp_follows {lat lng : PyFloat} (floats : origin.floats lib = some (lat, lng))
    (trace : GeocoderTrace) :
    (lookUp lib lat lng).Follows (Permitted lib origin) (Ends lib origin) trace := by
  have shown : origin.shown lib = (some (lib.showFloat lat), some (lib.showFloat lng)) := by
    simp only [Origin.shown, floats]
  have guarded (settings : Settings) (later : GeocoderTrace) :
      ((askProvider lib settings lat lng).recover (providerFailed lib settings lat lng)).Follows
        (Permitted lib origin) (Guarded lib lat lng) later := by
    refine (askProvider_follows settings lat lng later).recover (fun _ _ _ provided => provided) ?_
    intro after exn _ _
    refine Follows.perform trivial (fun _ _ => ?_) fun _ _ => escaped_head rfl
    exact Or.inr ⟨_, rfl⟩
  refine Follows.perform trivial (fun settings _ => ?_) fun _ _ => escaped_head rfl
  refine (guarded settings _).bind (fun later result _ provided => ?_) fun _ _ _ escaped => escaped
  split
  · rename_i ok
    rcases provided with ⟨_, resolved⟩ | ⟨reason, same⟩
    · refine Follows.perform ⟨lat, lng, floats, rfl, rfl, ok, resolved⟩ (fun _ _ => ?_)
        fun _ _ => escaped_head rfl
      exact Or.inr ⟨lat, lng, floats, Or.inr ⟨ok, resolved.mono (List.suffix_cons _ _)⟩⟩
    · rw [same] at ok
      cases ok
  · rename_i notOk
    rcases provided with ⟨ok, _⟩ | ⟨reason, same⟩
    · exact absurd ok notOk
    · exact Or.inl ⟨reason, by rw [shown]; exact same⟩

theorem body_follows (origin : Origin) :
    (body lib origin).Follows (Permitted lib origin) (Ends lib origin) [] := by
  obtain ⟨lat, lng⟩ := origin
  cases lat with
  | none => exact Or.inl ⟨_, rfl⟩
  | some lat =>
      cases lng with
      | none => exact Or.inl ⟨_, rfl⟩
      | some lng =>
          cases read : floats lib lat lng with
          | none =>
              have unread : (Origin.mk (some lat) (some lng)).floats lib = none := read
              simp only [body, reverseGeocode, read]
              refine Or.inl ⟨"bad-coords", ?_⟩
              simp only [Origin.shown, unread, Option.map_some]
          | some both =>
              simp only [body, reverseGeocode, read]
              refine Follows.perform ⟨both.1, both.2, read, rfl⟩ (fun cached stamp => ?_)
                fun _ _ => escaped_head rfl
              split
              · exact Or.inr ⟨both.1, both.2, read, Or.inl ⟨stamp, List.mem_cons_self⟩⟩
              · exact @lookUp_follows lib ⟨some lat, some lng⟩ _ _ read _

/-! ### The cache -/

def fillsCache (event : GeocoderEvent) (key : CacheKey) (row : Option Resolution) (life : Nat) :
    Prop :=
  ∃ result expires stamp, event = ⟨.cacheSet key result expires, .ok (), stamp⟩ ∧
    row = some result ∧ life = seconds expires

def findsCached (event : GeocoderEvent) (key : CacheKey) (row : Option Resolution) : Prop :=
  ∃ stamp, event = ⟨.cacheGet key, .ok (some row), stamp⟩

theorem reply_cases (oracle : Oracle) (shared : Shared) (operation : Operation) :
    shared.now ≤ (reply oracle shared operation).2.now ∧
      ((reply oracle shared operation).2.cache = shared.cache ∨
        ∃ key result expires, operation = .cacheSet key result expires ∧ oracle.fault = none ∧
          (reply oracle shared operation).2.cache =
            shared.cache.put key (some result) (shared.now + seconds expires)) := by
  have onward : shared.now ≤ shared.now + oracle.elapsed := Nat.le_add_right _ _
  unfold reply
  cases oracle.fault with
  | some exn => exact ⟨onward, Or.inl rfl⟩
  | none =>
      cases operation with
      | cacheSet key result expires => exact ⟨onward, Or.inr ⟨key, result, expires, rfl, rfl, rfl⟩⟩
      | _ => exact ⟨onward, Or.inl rfl⟩

/-- The cache of geocoding, filled by its own calls only. -/
def filling : provided.Filling CacheKey (Option Resolution) where
  store := Shared.cache
  clock := fun stamp => stamp
  fills := fillsCache
  finds := findsCached
  replied := by
    intro oracle data shared operation answered later replied
    obtain rfl : (reply oracle shared operation).2 = later :=
      congrArg Prod.snd (Option.some.inj replied)
    obtain rfl : (reply oracle shared operation).1 = answered :=
      congrArg Prod.fst (Option.some.inj replied)
    obtain ⟨onward, same | ⟨key, result, expires, asked, works, put⟩⟩ :=
      reply_cases oracle shared operation
    · exact ⟨onward, fun key entry found => Or.inl (same ▸ found)⟩
    · refine ⟨onward, fun other entry found => ?_⟩
      rw [put] at found
      rcases ExpiringStore.lookup_put found with ⟨sameKey, sameRow⟩ | old
      · subst sameKey sameRow asked
        refine Or.inr ⟨_, ⟨result, expires, shared.now, ?_, rfl, rfl⟩, rfl⟩
        simp only [reply, works]
      · exact Or.inl old
  moved := by
    intro move data shared other later moved
    cases moved
    cases move with
    | elapse time => exact ⟨Nat.le_add_right _ _, fun _ _ found => found⟩
    | drop keys =>
        refine ⟨Nat.le_refl _, fun key entry found => ?_⟩
        simp only [Move.apply, Table.lookup_eraseAll] at found
        split at found
        · cases found
        · exact found
    | saveSettings settings => exact ⟨Nat.le_refl _, fun _ _ found => found⟩
  read := by
    intro oracle data shared operation answered later key row replied finds
    obtain ⟨stamp, same⟩ := finds
    cases same
    have answered : (reply oracle shared (.cacheGet key)).1 = .ok (some row) :=
      congrArg Prod.fst (Option.some.inj replied)
    unfold reply at answered
    split at answered
    · cases answered
    · exact Except.ok.inj answered

/-! ### Runs -/

abbrev GeocoderWorld : Type := provided.World Origin Resolution

abbrev GeocoderCall : Type := provided.Call Origin Resolution

abbrev GeocoderLabel : Type := provided.Label Origin

def opening (now : Instant) (settings : Settings) : GeocoderWorld :=
  ⟨(), ⟨now, ∅, settings⟩, [], []⟩

theorem run_disciplined {now : Instant} {settings : Settings} {labels : List GeocoderLabel}
    {last : GeocoderWorld} (ran : run (body lib) (opening now settings) labels = some last) :
    last.Disciplined (Permitted lib) (Ends lib) := by
  refine run_invariant (body lib)
    (fun _ _ _ disciplined _ stepped => disciplined_step (body lib) body_follows disciplined stepped)
    ?_ (along_always (body lib)) ran
  intro index call located
  cases located

def answering (response : Json) : Oracle := ⟨none, 1000000, none, response⟩

/-- The address that a call has returned, if it counts as one. -/
def returned (call : GeocoderCall) : Option String :=
  match call.phase with
  | .ended (.ok ⟨.text address, _, true, _⟩) => some address
  | _ => none

end DscSigning.Geocoding
