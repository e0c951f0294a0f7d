/-
Whether the certificate of a Signed request is still found on its profile.

`register_certificate` moves the certificate it replaces to the previous ones, and
its save fails when the profile has been saved since it was loaded; so no version
of a profile is lost, and what `initiate` has once read of it stays traceable.
-/

import DscSigning.Server.Renewal

namespace DscSigning

open Interaction Engine

namespace AgentApi

/-! ### Versions of a profile -/

/-- The profile has a certificate with this fingerprint, or had one. -/
def ProfileCertificates.Traces (row : ProfileCertificates) (fingerprint : String) : Prop :=
  row.certificateFingerprint = some fingerprint ∨
    ∃ previous ∈ row.previousCertificates, previous.certificateFingerprint = some fingerprint

/-- A later version, with every certificate of the earlier one. -/
structure ProfileCertificates.Succeeds (row stored : ProfileCertificates) : Prop where
  later : stored.modified < row.modified
  traces : ∀ fingerprint, fingerprint ≠ "" → stored.Traces fingerprint → row.Traces fingerprint

theorem renew_traces {profile : ProfileCertificates} {fields : CertificateFields}
    {presented pem : String} {replacedOn registeredOn : Instant} {fingerprint : String}
    (nonempty : fingerprint ≠ "") (traces : profile.Traces fingerprint) :
    (profile.renew fields presented pem replacedOn registeredOn).Traces fingerprint := by
  refine Or.inr ?_
  unfold ProfileCertificates.renew
  rcases traces with current | ⟨previous, member, same⟩
  · have given : profile.certificateFingerprint.given = true := by
      rw [current]
      exact given_some nonempty
    simp only [given, if_true]
    exact ⟨_, List.mem_append_right _ (List.mem_singleton_self _), current⟩
  · refine ⟨previous, ?_, same⟩
    split
    · exact List.mem_append_left _ member
    · exact member

/-! ### The rule -/

/-- A profile is loaded and saved before anything else is written, and what is
saved is a renewal of what was loaded. -/
def Renewing (trace : AgentTrace) : Operation → Prop
  | .getProfile _ => site.pending trace = []
  | .saveProfile name row => site.pending trace = [] ∧
      ∃ stamp loaded fields fingerprint pem replacedOn registeredOn,
        (⟨.getProfile name, .ok loaded, stamp⟩ : AgentEvent) ∈ trace ∧
        row = loaded.renew fields fingerprint pem replacedOn registeredOn
  | _ => True

theorem renewing_unprofiled (trace : AgentTrace) (operation : Operation)
    (unprofiled : Unprofiled operation) : Renewing trace operation := by
  cases operation with
  | getProfile name => exact unprofiled.elim
  | saveProfile name row => exact unprofiled.elim
  | _ => trivial

variable {lib : Libraries}

theorem registerCertificate_renewing (user profileName certDerB64 : String) :
    (registerCertificate lib user profileName certDerB64).Follows Renewing (fun _ _ => True)
      [] := by
  refine Program.Follows.ofExcept (fun certDer decoded => ?_) fun _ _ => trivial
  refine Program.Follows.ofExcept (fun fields parsed => ?_) fun _ _ => trivial
  refine Program.Follows.perform rfl (fun loaded loadedAt => ?_) fun _ _ => trivial
  refine Program.Follows.perform trivial (fun roles rolesAt => ?_) fun _ _ => trivial
  refine Program.Follows.demand (fun _ => ?_) fun _ => trivial
  have replacing : loaded.replacedOn.Follows Renewing
      (fun later _ => site.pending later = [] ∧
        (⟨.getProfile profileName, .ok loaded, loadedAt⟩ : AgentEvent) ∈ later)
      [⟨.getRoles user, .ok roles, rolesAt⟩, ⟨.getProfile profileName, .ok loaded, loadedAt⟩] := by
    unfold ProfileCertificates.replacedOn
    split
    · refine ⟨trivial, fun reply at_ => ?_⟩
      cases reply <;> exact ⟨rfl, by simp⟩
    · exact ⟨rfl, by simp⟩
  refine Program.Follows.bind replacing ?_ fun _ _ _ _ => trivial
  intro later replacedOn _ ⟨unwritten, read⟩
  refine Program.Follows.perform trivial (fun registeredOn registeredAt => ?_) fun _ _ => trivial
  have quiet : site.pending
      ((⟨.now, .ok registeredOn, registeredAt⟩ : AgentEvent) :: later) = [] := by
    rw [pending, unwritten]
    rfl
  exact Program.Follows.perform ⟨quiet, loadedAt, loaded, fields, _, _, replacedOn, registeredOn,
    List.mem_cons_of_mem _ read, rfl⟩ (fun _ _ => trivial) fun _ _ => trivial

theorem body_renewing (origin : Origin) :
    (body lib origin).Follows Renewing (fun _ _ => True) [] := by
  cases endpoint : origin.endpoint with
  | registerCertificate profileName certDerB64 =>
      unfold body
      split
      · trivial
      · simp only [serve, endpoint]
        exact Program.Follows.bind (registerCertificate_renewing _ _ _)
          (fun _ _ _ _ => trivial) fun _ _ _ _ => trivial
  | _ =>
      exact (Program.Uses.follows (body_unprofiled origin (by simp [endpoint])) []
        renewing_unprofiled).weaken fun _ _ _ _ => trivial

/-! ### Every version succeeds the one before -/

/-- What every call has loaded or is about to save, against the stored versions. -/
structure Versioned (world : AgentWorld) : Prop where
  disciplined : world.Disciplined (fun _ => Renewing) fun _ _ _ => True
  exclusive : world.Exclusive
  loaded : ∀ index name row stamp, world.Asked index ⟨.getProfile name, .ok row, stamp⟩ →
    ∃ stored, world.data.profiles.lookup name = some stored ∧
      (row.modified < stored.modified ∨ row = stored)
  past : ∀ name stored, world.data.profiles.lookup name = some stored →
    stored.modified < world.shared.now
  early : ∀ index name row stamp, world.Asked index ⟨.saveProfile name row, .ok (), stamp⟩ →
    stamp < world.shared.now
  waiting : world.Holds fun data trace => ∀ name row,
    Write.saveProfile name row ∈ site.pending trace →
      ∃ stored, data.profiles.lookup name = some stored ∧ row.Succeeds stored

theorem reply_later {oracle : Oracle} {view : Database} {shared later : Shared} {event : AgentEvent}
    (replied : reply oracle view shared event.query = some (event.reply, later)) :
    shared.now ≤ later.now ∧
      ∀ name row stamp, event = ⟨.saveProfile name row, .ok (), stamp⟩ → shared.now < later.now := by
  obtain ⟨operation, given, stamp⟩ := event
  simp only at replied
  unfold reply at replied
  split at replied
  · cases replied
    exact ⟨Nat.le_refl _, fun _ _ _ impossible => by cases impossible⟩
  · have drawn {bytes : Option Nat} {fresh : String} {result : Except Exn String}
        (draws : draw bytes fresh shared = some (result, later)) : shared.now ≤ later.now := by
      unfold draw at draws
      split at draws
      · cases draws
      · cases draws
        exact Nat.le_refl _
    cases operation with
    | tokenUrlsafe bytes => exact ⟨drawn replied, fun _ _ _ impossible => by cases impossible⟩
    | insertRegistration row => exact ⟨drawn replied, fun _ _ _ impossible => by cases impossible⟩
    | saveProfile name row =>
        cases replied
        exact ⟨Nat.le_succ _, fun _ _ _ _ => Nat.lt_succ_self _⟩
    | _ =>
        cases replied
        exact ⟨Nat.le_refl _, fun _ _ _ impossible => by cases impossible⟩

section Step

variable {world next : AgentWorld} {label : AgentLabel}

theorem clock_step (stepped : step (body lib) world label = some next) :
    world.shared.now ≤ next.shared.now := by
  rcases step_shared (body lib) stepped with
    same | ⟨index, call, event, found⟩ | ⟨move, data, _, moved⟩
  · rw [same]
  · obtain ⟨oracle, replied⟩ := asking_shared (body lib) stepped found
    exact (reply_later replied).1
  · have later : next.shared = (move.apply world.data world.shared).2 :=
      congrArg Prod.snd (Option.some.inj moved).symm
    rw [later]
    cases move with
    | elapse by_ => exact Nat.le_add_right _ _
    | _ => exact Nat.le_refl _

/-- A save that is answered finds the version that was loaded. -/
theorem saving_latest (versioned : Versioned world)
    (stepped : step (body lib) world label = some next) {index : Nat} {call : AgentCall}
    {name : String} {row : ProfileCertificates} {stamp : Instant}
    (found : asking world label = some (index, call, ⟨.saveProfile name row, .ok (), stamp⟩)) :
    ∃ stored, world.data.profiles.lookup name = some stored ∧
      ProfileCertificates.Succeeds { row with modified := stamp } stored := by
  obtain ⟨located, stamped, _⟩ := asking_located found
  obtain ⟨quiet, loadedAt, loaded, fields, fingerprint, pem, replacedOn, registeredOn, read, renewed⟩ :=
    disciplined_asking versioned.disciplined found
  obtain ⟨stored, there, current⟩ :=
    versioned.loaded index name loaded loadedAt ⟨call, located, read⟩
  obtain ⟨oracle, replied⟩ := asking_shared (body lib) stepped found
  -- `check_if_latest` has compared the version that was loaded with the stored one.
  have latest : stored.modified = loaded.modified := by
    have checked : checkLatest world.data name row = .ok () := by
      simp only [quiet] at replied
      replace replied := answer_of_reply replied
      exact (Prod.mk.inj (Option.some.inj replied)).1
    simp only [checkLatest, there] at checked
    split at checked
    · cases checked
    · rename_i same
      rw [renewed] at same
      simpa [ProfileCertificates.renew] using same
  have same : loaded = stored := current.resolve_left (Nat.not_lt.mpr (Nat.le_of_eq latest))
  refine ⟨stored, there, ?_, fun other nonempty traces => ?_⟩
  · change stored.modified < stamp
    rw [show stamp = world.shared.now from stamped]
    exact versioned.past name stored there
  · have kept : row.Traces other := by
      rw [renewed]
      exact renew_traces nonempty (by rw [same]; exact traces)
    exact kept

/-- A stored profile stays, or a commit saves a version that succeeds it. -/
theorem profile_step (versioned : Versioned world)
    (keeps : ∀ database, label = .move (.administer database) →
      database.profiles = world.data.profiles)
    (stepped : step (body lib) world label = some next) (name : String) :
    next.data.profiles.lookup name = world.data.profiles.lookup name ∨
      ∃ index call row stored, committing world label = some (index, call) ∧
        Write.saveProfile name row ∈ site.pending call.trace ∧
        world.data.profiles.lookup name = some stored ∧
        next.data.profiles.lookup name = some row ∧ row.Succeeds stored := by
  rcases step_data (body lib) stepped with
    ⟨index, call, committed, after, _⟩ | ⟨_, _, same | ⟨move, shared, rfl, moved⟩⟩
  · rcases view_profiles world.data (site.pending call.trace) name with
      ⟨_, same⟩ | ⟨row, saved, there⟩
    · exact Or.inl (by rw [after]; exact same)
    · obtain ⟨located, program, running⟩ := committing_located committed
      obtain ⟨stored, before, succeeds⟩ :=
        versioned.waiting index call program located running name row saved
      exact Or.inr ⟨index, call, row, stored, committed, saved, before, by rw [after]; exact there,
        succeeds⟩
  · exact Or.inl (by rw [same])
  · exact Or.inl (by rw [move_profiles moved fun database same => keeps database (by rw [same])])

/-- What a stored profile traces, it goes on tracing. -/
theorem traces_step (versioned : Versioned world)
    (keeps : ∀ database, label = .move (.administer database) →
      database.profiles = world.data.profiles)
    (stepped : step (body lib) world label = some next) {name fingerprint : String}
    (nonempty : fingerprint ≠ "")
    (before : ∃ stored, world.data.profiles.lookup name = some stored ∧ stored.Traces fingerprint) :
    ∃ stored, next.data.profiles.lookup name = some stored ∧ stored.Traces fingerprint := by
  obtain ⟨stored, there, traces⟩ := before
  rcases profile_step versioned keeps stepped name with
    same | ⟨_, _, row, old, _, _, found, after, succeeds⟩
  · exact ⟨stored, same.trans there, traces⟩
  · rw [there] at found
    cases found
    exact ⟨row, after, succeeds.traces fingerprint nonempty traces⟩

/-- A call that is told of a profile now is told what is stored. -/
theorem told_stored (versioned : Versioned world)
    (stepped : step (body lib) world label = some next) {index : Nat} {call : AgentCall}
    {name : String} {row : ProfileCertificates} {stamp : Instant}
    (found : asking world label = some (index, call, ⟨.getProfile name, .ok row, stamp⟩)) :
    world.data.profiles.lookup name = some row := by
  -- Before anything is written the call sees what is stored.
  have quiet : site.pending call.trace = [] := disciplined_asking versioned.disciplined found
  obtain ⟨oracle, replied⟩ := asking_shared (body lib) stepped found
  simp only [quiet] at replied
  replace replied := answer_of_reply replied
  have told := (Prod.mk.inj (Option.some.inj replied)).1
  change orMissing _ _ (world.data.profiles.lookup name) = _ at told
  cases there : world.data.profiles.lookup name with
  | none =>
      rw [there] at told
      cases told
  | some stored =>
      rw [there] at told
      cases told
      rfl

theorem loaded_step (versioned : Versioned world)
    (keeps : ∀ database, label = .move (.administer database) →
      database.profiles = world.data.profiles)
    (stepped : step (body lib) world label = some next) {index : Nat} {name : String}
    {row : ProfileCertificates} {stamp : Instant}
    (asked : next.Asked index ⟨.getProfile name, .ok row, stamp⟩) :
    ∃ stored, next.data.profiles.lookup name = some stored ∧
      (row.modified < stored.modified ∨ row = stored) := by
  have read : ∃ stored, world.data.profiles.lookup name = some stored ∧
      (row.modified < stored.modified ∨ row = stored) := by
    rcases asked_step (body lib) stepped asked with old | ⟨call, found⟩
    · exact versioned.loaded index name row stamp old
    · exact ⟨row, told_stored versioned stepped found, Or.inr rfl⟩
  obtain ⟨stored, there, current⟩ := read
  rcases profile_step versioned keeps stepped name with
    same | ⟨_, _, later, old, _, _, found, after, succeeds⟩
  · exact ⟨stored, same.trans there, current⟩
  · rw [there] at found
    cases found
    refine ⟨later, after, Or.inl ?_⟩
    rcases current with earlier | rfl
    · exact Nat.lt_trans earlier succeeds.later
    · exact succeeds.later

theorem past_step (versioned : Versioned world)
    (keeps : ∀ database, label = .move (.administer database) →
      database.profiles = world.data.profiles)
    (stepped : step (body lib) world label = some next) {name : String}
    {stored : ProfileCertificates} (found : next.data.profiles.lookup name = some stored) :
    stored.modified < next.shared.now := by
  have advanced := clock_step stepped
  rcases profile_step versioned keeps stepped name with
    same | ⟨index, call, row, _, committed, saved, _, after, _⟩
  · exact Nat.lt_of_lt_of_le (versioned.past name stored (same.symm.trans found)) advanced
  · rw [found] at after
    cases after
    obtain ⟨event, earlier, newer, split, effect, _⟩ := mem_pending saved
    obtain ⟨loaded, saves, same⟩ := saveProfile_effect effect
    rw [saves] at split
    have stamped := versioned.early index name loaded event.stamp
      ⟨call, (committing_located committed).1, by rw [split]; simp⟩
    rw [same]
    exact Nat.lt_of_lt_of_le stamped advanced

theorem early_step (versioned : Versioned world)
    (stepped : step (body lib) world label = some next) {index : Nat} {name : String}
    {row : ProfileCertificates} {stamp : Instant}
    (asked : next.Asked index ⟨.saveProfile name row, .ok (), stamp⟩) :
    stamp < next.shared.now := by
  rcases asked_step (body lib) stepped asked with old | ⟨call, found⟩
  · exact Nat.lt_of_lt_of_le (versioned.early index name row stamp old) (clock_step stepped)
  · obtain ⟨oracle, replied⟩ := asking_shared (body lib) stepped found
    have stamped : stamp = world.shared.now := (asking_located found).2.1
    rw [stamped]
    exact (reply_later replied).2 name row stamp rfl

/-- While one call is about to save a profile, the commit of another leaves the profile alone. -/
theorem commit_spares (exclusive : world.Exclusive) {index other : Nat} {call otherCall : AgentCall}
    {program : Program face Response} {name : String} {row : ProfileCertificates}
    (committed : committing world label = some (index, call)) (distinct : other ≠ index)
    (located : world.calls[other]? = some otherCall) (running : otherCall.phase = .running program)
    (member : Write.saveProfile name row ∈ site.pending otherCall.trace) :
    (site.view world.data (site.pending call.trace)).profiles.lookup name =
      world.data.profiles.lookup name := by
  rcases view_profiles world.data (site.pending call.trace) name with
    ⟨_, same⟩ | ⟨saving, saved, _⟩
  · exact same
  · -- Two calls cannot both be about to save the profile.
    obtain ⟨callAt, callProgram, callRuns⟩ := committing_located committed
    have clash := exclusive index other call otherCall distinct.symm callAt located
      (.saveProfile name saving) (by simpa only [Call.held, callRuns] using saved)
      (.saveProfile name row) (by simpa only [Call.held, running] using member)
    rw [conflict_same rfl rfl] at clash
    cases clash

theorem waiting_step (versioned : Versioned world)
    (keeps : ∀ database, label = .move (.administer database) →
      database.profiles = world.data.profiles)
    (stepped : step (body lib) world label = some next) :
    next.Holds fun data trace => ∀ name row, Write.saveProfile name row ∈ site.pending trace →
      ∃ stored, data.profiles.lookup name = some stored ∧ row.Succeeds stored := by
  refine holds_step (body lib) versioned.waiting stepped ?_ ?_ ?_ ?_ ?_
  · intro data name row member
    cases member
  · intro index call event found located before plain name row member
    have uncommitted : commits event = false := plain
    simp only [pending, uncommitted, Bool.false_eq_true, if_false] at member
    rcases List.mem_append.mp member with older | fresh
    · exact before name row older
    · obtain ⟨loaded, saves, same⟩ := saveProfile_effect fresh
      rw [saves] at found
      rw [same]
      exact saving_latest versioned stepped found
  · intro index call event found located before commit name row member
    have committed : commits event = true := commit
    simp only [pending, committed, if_true] at member
    cases member
  · intro index call other otherCall program committed distinct located running before name row
      member
    obtain ⟨stored, there, succeeds⟩ := before name row member
    refine ⟨stored, ?_, succeeds⟩
    exact (commit_spares versioned.exclusive committed distinct located running member).trans there
  · intro move data shared trace labelled moved before name row member
    obtain ⟨stored, there, succeeds⟩ := before name row member
    refine ⟨stored, ?_, succeeds⟩
    have left : data = (move.apply world.data world.shared).1 :=
      congrArg Prod.fst (Option.some.inj moved).symm
    rw [left]
    cases move with
    | administer database =>
        change database.profiles.lookup name = some stored
        rw [keeps database labelled]
        exact there
    | _ => exact there

theorem versioned_step (versioned : Versioned world)
    (keeps : ∀ database, label = .move (.administer database) →
      database.profiles = world.data.profiles)
    (stepped : step (body lib) world label = some next) : Versioned next where
  disciplined := disciplined_step (body lib) (fun origin => body_renewing origin)
    versioned.disciplined stepped
  exclusive := exclusive_step (body lib) versioned.exclusive stepped
  loaded _ _ _ _ asked := loaded_step versioned keeps stepped asked
  past _ _ found := past_step versioned keeps stepped found
  early _ _ _ _ asked := early_step versioned stepped asked
  waiting := waiting_step versioned keeps stepped

end Step

theorem versioned_installed {database : Database} {now : Instant}
    (earlier : ∀ name row, database.profiles.lookup name = some row → row.modified < now) :
    Versioned (installed database now) where
  disciplined := by
    intro index call located
    cases located
  exclusive := by
    intro left right leftCall rightCall distinct located
    cases located
  loaded := by
    rintro index name row stamp ⟨call, located, _⟩
    cases located
  past := earlier
  early := by
    rintro index name row stamp ⟨call, located, _⟩
    cases located
  waiting := by
    intro index call program located
    cases located

end AgentApi

/-! ### Requests, sessions and profiles together -/

variable {lib : AgentApi.Libraries}

/-- For the signing endpoints, a call of the agent is a change of the masters. -/
theorem renewal_server {before after : RenewalWorld} {label : RenewalLabel}
    (stepped : renewalStep lib before label = some after) :
    ∃ moved, step (body lib.toLibraries) before.server moved = some after.server ∧
      (∀ index call event, asking before.server moved = some (index, call, event) →
        label = .server moved) := by
  cases label with
  | server label =>
      obtain ⟨server, moved, rfl⟩ := Option.map_eq_some_iff.mp stepped
      refine ⟨_, moved, fun index call event found => ?_⟩
      obtain ⟨_, _, _, oracle, _, asks, _⟩ := asking_located found
      cases label with
      | move move =>
          cases move <;> cases asks
      | _ => rfl
  | agent label =>
      obtain ⟨agent, moved, rfl⟩ := Option.map_eq_some_iff.mp stepped
      refine ⟨.move (.administer (before.server.data.masters.certified agent.data.profiles)), rfl,
        fun index call event found => ?_⟩
      cases found

def RenewalWorld.registers (world : RenewalWorld) (profile : String) : Bool :=
  match world.agent.data.profiles.lookup profile with
  | some stored => stored.certificateFingerprint.given
  | none => false

/-- Whenever an `initiate` loads the profile, a fingerprint has been registered. -/
def registeredBefore (profile : String) (world : RenewalWorld) : RenewalLabel → Bool
  | .server label =>
      match asking world.server label with
      | some (_, call, ⟨.getProfile name, _, _⟩) =>
          !(call.origin.initiates && name == profile) || world.registers profile
      | _ => true
  | .agent _ => true

/-- What `initiate` has been shown of the profile is still traced there. -/
structure Traceable (lib : AgentApi.Libraries) (profile : String) (world : RenewalWorld) :
    Prop where
  versioned : AgentApi.Versioned world.agent
  traced : Traced lib.toLibraries world.server
  profiles : Profiled world.server
  disciplined : world.server.Disciplined (Warranted lib.toLibraries) (Discloses lib.toLibraries)
  certified : ∀ name held stored, world.server.data.masters.profile name = some held →
    world.agent.data.profiles.lookup name = some stored →
    held.certificateFingerprint = stored.certificateFingerprint
  shown : ∀ (index : Nat) (call : ServerCall) (held : Profile) (stamp : Instant),
    world.server.calls[index]? = some call → call.origin.initiates = true →
    (⟨.getProfile profile, .ok held, stamp⟩ : ServerEvent) ∈ call.trace →
    ∃ fingerprint stored, held.certificateFingerprint = some fingerprint ∧ fingerprint ≠ "" ∧
      world.agent.data.profiles.lookup profile = some stored ∧ stored.Traces fingerprint

section Step

variable {profile : String} {before after : RenewalWorld} {label : RenewalLabel}

theorem renewal_agent (versioned : AgentApi.Versioned before.agent)
    (stepped : renewalStep lib before label = some after) :
    AgentApi.Versioned after.agent ∧ ∀ name fingerprint, fingerprint ≠ "" →
      (∃ stored, before.agent.data.profiles.lookup name = some stored ∧
        stored.Traces fingerprint) →
      ∃ stored, after.agent.data.profiles.lookup name = some stored ∧
        stored.Traces fingerprint := by
  cases label with
  | server label =>
      obtain ⟨server, _, rfl⟩ := Option.map_eq_some_iff.mp stepped
      exact ⟨versioned, fun _ _ _ traced => traced⟩
  | agent label =>
      obtain ⟨agent, moved, rfl⟩ := Option.map_eq_some_iff.mp stepped
      exact ⟨AgentApi.versioned_step versioned (fun _ => keepingCertificates_profiles) moved,
        fun _ _ nonempty traced => AgentApi.traces_step versioned
          (fun _ => keepingCertificates_profiles) moved nonempty traced⟩

theorem certified_fingerprint {masters : Masters}
    {certificates : Table String AgentApi.ProfileCertificates} {name : String} {held : Profile}
    {stored : AgentApi.ProfileCertificates}
    (found : (masters.certified certificates).profile name = some held)
    (there : certificates.lookup name = some stored) :
    held.certificateFingerprint = stored.certificateFingerprint := by
  obtain ⟨plain, _, rfl⟩ := Option.map_eq_some_iff.mp found
  rw [there]
  rfl

/-- The fingerprint of a profile is the one that is stored with its certificates. -/
theorem certified_step
    (certified : ∀ name held stored, before.server.data.masters.profile name = some held →
      before.agent.data.profiles.lookup name = some stored →
      held.certificateFingerprint = stored.certificateFingerprint)
    (stepped : renewalStep lib before label = some after) :
    ∀ name held stored, after.server.data.masters.profile name = some held →
      after.agent.data.profiles.lookup name = some stored →
      held.certificateFingerprint = stored.certificateFingerprint := by
  intro name held stored found there
  cases label with
  | agent label =>
      obtain ⟨agent, _, rfl⟩ := Option.map_eq_some_iff.mp stepped
      exact certified_fingerprint found there
  | server label =>
      obtain ⟨server, moved, rfl⟩ := Option.map_eq_some_iff.mp stepped
      rcases step_data (body lib.toLibraries) moved with
        ⟨_, call, _, same, _⟩ | ⟨_, _, same | ⟨move, shared, labelled, applied⟩⟩
      · obtain ⟨settings, masters⟩ := view_masters before.server.data (site.pending call.trace)
        simp only [same, masters] at found
        exact certified name held stored found there
      · simp only [same] at found
        exact certified name held stored found there
      · cases move with
        | administer masters =>
            have data : server.data = { before.server.data with masters := masters } :=
              congrArg Prod.fst (Option.some.inj applied).symm
            have kept : ∃ others : Masters,
                masters = others.certified before.agent.data.profiles := by
              cases label with
              | move other =>
                  cases other <;> cases labelled
                  exact ⟨_, rfl⟩
              | _ => cases labelled
            obtain ⟨others, rfl⟩ := kept
            simp only [data] at found
            exact certified_fingerprint found there
        | createRequest created request =>
            simp only [Move.apply] at applied
            split at applied
            · cases applied
            · have kept : before.server.data.masters = server.data.masters :=
                congrArg (fun moved => moved.1.masters) (Option.some.inj applied)
              exact certified name held stored (by rw [kept]; exact found) there
        | _ =>
            have kept : before.server.data.masters = server.data.masters :=
              congrArg (fun moved => moved.1.masters) (Option.some.inj applied)
            exact certified name held stored (by rw [kept]; exact found) there

/-- An `initiate` that loads the profile is shown the registered fingerprint. -/
theorem shown_registered (traceable : Traceable lib profile before)
    {moved : ServerLabel} (registers : registeredBefore profile before (.server moved) = true)
    {server : ServerWorld} (stepped : step (body lib.toLibraries) before.server moved = some server)
    {index : Nat} {call : ServerCall} {held : Profile} {stamp : Instant}
    (found : asking before.server moved =
      some (index, call, ⟨.getProfile profile, .ok held, stamp⟩))
    (initiates : call.origin.initiates = true) :
    ∃ fingerprint stored, held.certificateFingerprint = some fingerprint ∧ fingerprint ≠ "" ∧
      before.agent.data.profiles.lookup profile = some stored ∧ stored.Traces fingerprint := by
  simp only [registeredBefore, found, initiates, beq_self_eq_true, Bool.and_self, Bool.not_true,
    Bool.false_or, RenewalWorld.registers] at registers
  split at registers
  · rename_i stored there
    obtain ⟨oracle, replied⟩ := asking_shared (body lib.toLibraries) stepped found
    have known : before.server.data.masters.profile profile = some held := by
      obtain ⟨settings, masters⟩ := view_masters before.server.data (site.pending call.trace)
      replace replied := answer_of_reply replied
      simp only [answer, masters, Option.some.injEq, Prod.mk.injEq] at replied
      cases known : before.server.data.masters.profile profile with
      | none =>
          rw [known] at replied
          cases replied.1
      | some other =>
          rw [known] at replied
          cases replied.1
          rfl
    have same := traceable.certified profile held stored known there
    cases fingerprint : stored.certificateFingerprint with
    | none =>
        rw [fingerprint] at registers
        cases registers
    | some text =>
        rw [fingerprint] at registers same
        exact ⟨text, stored, same, by simpa [Text.given] using registers, there,
          Or.inl fingerprint⟩
  · cases registers

theorem traceable_step (traceable : Traceable lib profile before)
    (registers : registeredBefore profile before label = true)
    (stepped : renewalStep lib before label = some after) : Traceable lib profile after := by
  obtain ⟨versioned, traces⟩ := renewal_agent traceable.versioned stepped
  obtain ⟨moved, serverStepped, labelled⟩ := renewal_server stepped
  refine
    { versioned := versioned
      traced := traced_step traceable.traced serverStepped
      profiles := profiled_step traceable.profiles serverStepped
      disciplined := disciplined_step (body lib.toLibraries) body_warranted
        traceable.disciplined serverStepped
      certified := certified_step traceable.certified stepped
      shown := fun index later held stamp located initiates member => ?_ }
  have earlier : ∃ fingerprint stored, held.certificateFingerprint = some fingerprint ∧
      fingerprint ≠ "" ∧ before.agent.data.profiles.lookup profile = some stored ∧
      stored.Traces fingerprint := by
    rcases step_event (body lib.toLibraries) serverStepped located member with
      ⟨call, there, same, old⟩ | ⟨call, found, same⟩
    · exact traceable.shown index call held stamp there (by rw [same]; exact initiates) old
    · rw [labelled index call _ found] at registers
      exact shown_registered traceable registers serverStepped found (by rw [same]; exact initiates)
  obtain ⟨fingerprint, stored, fingerprinted, nonempty, there, traced⟩ := earlier
  obtain ⟨latest, found, still⟩ := traces profile fingerprint nonempty ⟨stored, there, traced⟩
  exact ⟨fingerprint, latest, fingerprinted, nonempty, found, still⟩

end Step

theorem traceable_installed (profile : String) (masters : Masters) {database : AgentApi.Database}
    {now : Instant} (zone : Int)
    (earlier : ∀ name row, database.profiles.lookup name = some row → row.modified < now) :
    Traceable lib profile (RenewalWorld.installed masters database now zone) where
  versioned := AgentApi.versioned_installed earlier
  traced := traced_installed _ now zone
  profiles := fun _ _ _ _ asked => absurd asked not_asked_installed
  disciplined := by
    intro index call located
    cases located
  certified := fun _ _ _ found there => certified_fingerprint found there
  shown := by
    intro index call held stamp located
    cases located

/-- A Signed request on a profile that had a fingerprint registered before every
`initiate` shows the certificate that is registered there or a previous one. -/
theorem signing_certificate_traceable (lib : AgentApi.Libraries) (masters : Masters)
    (database : AgentApi.Database) (now : Instant) (zone : Int) (profile : String)
    (earlier : ∀ name row, database.profiles.lookup name = some row → row.modified < now)
    (labels : List RenewalLabel) (world : RenewalWorld)
    (registers : Runs.Along (renewalStep lib)
      (fun world label => registeredBefore profile world label = true)
      (RenewalWorld.installed masters database now zone) labels)
    (reached : Runs.run (renewalStep lib) (RenewalWorld.installed masters database now zone)
      labels = some world)
    (name : String) (row : SigningRequest)
    (found : world.server.data.requests.lookup name = some row) (signed : row.status = .signed)
    (onProfile : row.profile = profile) :
    ∃ fingerprint stored, row.certificateFingerprintPresented = some fingerprint ∧
      world.agent.data.profiles.lookup profile = some stored ∧ stored.Traces fingerprint := by
  have traceable : Traceable lib profile world :=
    Runs.run_invariant (fun _ _ _ traceable registers stepped =>
      traceable_step traceable registers stepped)
      (traceable_installed profile masters zone earlier) registers reached
  obtain ⟨signing⟩ := traceable.traced.signing found signed
  obtain ⟨owner, held, ownerAt, initiates, ⟨toldAt, told⟩, bound⟩ :=
    session_profile traceable.traced traceable.profiles traceable.disciplined signing.created
      (by rw [signing.request]; exact found)
  rw [onProfile] at told
  obtain ⟨fingerprint, stored, fingerprinted, nonempty, there, traces⟩ :=
    traceable.shown signing.creator owner held toldAt ownerAt initiates told
  have given : held.certificateFingerprint.given = true := by
    rw [fingerprinted]
    exact given_some nonempty
  have same : fingerprint = lib.sha256Hex signing.session.certDer :=
    Option.some.inj (fingerprinted.symm.trans (bound given))
  exact ⟨fingerprint, stored, by rw [same]; exact signing.fingerprint, there, traces⟩

/-! ### A renewal between initiate and finalize -/

/-- Alice's browser sends no certificate with the signature: the profile has
another one by then. -/
def renewedWhileSigning : List RenewalLabel :=
  registering 0 "AQID" 4 ++
    (.move (.createRequest "SR-1" sampleRequest) ::
      served 0 ⟨sampleUser "alice", .initiate sampleInitiate⟩ 24 (sampleOracle "S-1" "")).map
        .server ++
    registering 1 "CQ==" 5 ++
    (served 1 ⟨sampleUser "alice",
      .finalize { sampleFinalize "S-1" with certDerB64 := some "" }⟩ 32
      (sampleOracle "" "F-1")).map .server

theorem blankDatabase_earlier {name : String} {row : AgentApi.ProfileCertificates}
    (found : blankDatabase.profiles.lookup name = some row) : row.modified < 1 := by
  rw [blankDatabase_row found]
  decide

theorem signing_certificate_sample :
    ∃ world row fingerprint stored,
      Runs.run (renewalStep renewalLibraries.toAgent)
        (RenewalWorld.installed sampleMasters blankDatabase 1 0) renewedWhileSigning =
          some world ∧
      world.server.data.requests.lookup "SR-1" = some row ∧ row.status = .signed ∧
      row.certificateFingerprintPresented = some fingerprint ∧
      world.agent.data.profiles.lookup "P-1" = some stored ∧
      stored.certificateFingerprint ≠ some fingerprint ∧ stored.Traces fingerprint := by
  have registers : Runs.alongCheck (renewalStep renewalLibraries.toAgent)
      (registeredBefore "P-1") (RenewalWorld.installed sampleMasters blankDatabase 1 0)
      renewedWhileSigning = true := by
    decide +kernel
  have ends : ((Runs.run (renewalStep renewalLibraries.toAgent)
      (RenewalWorld.installed sampleMasters blankDatabase 1 0) renewedWhileSigning).bind
        fun world => (world.server.data.requests.lookup "SR-1").bind fun row =>
          (world.agent.data.profiles.lookup "P-1").map fun stored =>
            row.status == .signed && row.profile == "P-1" &&
              stored.certificateFingerprint != row.certificateFingerprintPresented) =
      some true := by
    decide +kernel
  simp only [Option.bind_eq_some_iff, Option.map_eq_some_iff, Bool.and_eq_true, beq_iff_eq,
    bne_iff_ne] at ends
  obtain ⟨world, reached, row, found, stored, there, ⟨signed, onProfile⟩, renewed⟩ := ends
  obtain ⟨fingerprint, latest, presented, same, traces⟩ :=
    signing_certificate_traceable renewalLibraries.toAgent sampleMasters blankDatabase 1 0 "P-1"
      (fun _ _ => blankDatabase_earlier) renewedWhileSigning world
      (Runs.along_of_check (fun _ _ holds => holds) registers) reached "SR-1" row found signed
      onProfile
  rw [there] at same
  cases same
  exact ⟨world, row, fingerprint, stored, reached, found, signed, presented, there,
    by rw [← presented]; exact renewed, traces⟩

end DscSigning
