/-
When a certificate counts as expired.

The end of validity is stored as it reads at UTC, and the clock is that of the
site.  `initiate` compares calendar days, so a certificate is good for the whole
of its last day; between midnight at UTC and midnight at the site the two
calendars disagree on what day it is.
-/

import DscSigning.Server.Lifecycle
import DscSigning.Server.Renewal
import DscSigning.Server.SigningPolicy

namespace DscSigning

open Interaction Engine

variable (lib : Libraries)

/-- The last check of `checkProfile`. -/
def checkExpiry (profile : Profile) : Server Unit :=
  match profile.certificateNotAfter with
  | none => pure ()
  | some notAfter => do
      let now ← ask .now
      demand (!decide (Instant.day notAfter < Instant.day now)) (thrown (
        s!"Certificate for profile '{profile.profileName}' expired on " ++
        s!"{lib.showInstant notAfter}. Please renew."))

theorem checkProfile_expiry (ctx : Context) (profile : Profile) :
    checkProfile lib ctx profile = (do
      demand profile.isActive (thrown s!"DSC Profile '{profile.profileName}' is not active.")
      demand (profile.allows ctx.user) (thrown (
        s!"You are not authorised to sign with DSC Profile '{profile.profileName}'. " ++
        "The profile owner has restricted signing to a specific list of users."))
      checkExpiry lib profile) := rfl

def Shared.utc (shared : Shared) : Int := shared.now - shared.zone

def calendarDay (instant : Int) : Int := instant / (seconds 86400 : Nat)

/-- The profile once `register_certificate` has stored the fields of a certificate. -/
def Profile.registering (profile : Profile) (old : AgentApi.ProfileCertificates)
    (fields : AgentApi.CertificateFields) (fingerprint pem : String)
    (replacedOn registeredOn : Instant) : Profile :=
  profile.certified (some (old.renew fields fingerprint pem replacedOn registeredOn))

structure ByDay (lib : Libraries) (profile : Profile) (notAfter : Instant) (shared : Shared)
    (result : Except Exn Unit) : Prop where
  /-- Up to the last day of the certificate it passes. -/
  passes : calendarDay shared.utc ≤ calendarDay notAfter →
    calendarDay shared.now ≤ calendarDay notAfter → result = .ok ()
  /-- From the next day on it does not. -/
  expired : calendarDay notAfter < calendarDay shared.utc →
    calendarDay notAfter < calendarDay shared.now → result = .error (thrown (
      s!"Certificate for profile '{profile.profileName}' expired on " ++
      s!"{lib.showInstant notAfter}. Please renew."))

section Checking

variable {lib} {profile : Profile} {old : AgentApi.ProfileCertificates}
  {fields : AgentApi.CertificateFields} {fingerprint pem : String}
  {replacedOn registeredOn notAfter : Instant} {data : Database} {shared : Shared}
  {trace : ServerTrace}

theorem day_lt {instant : Instant} :
    Instant.day notAfter < Instant.day instant ↔ calendarDay notAfter < calendarDay instant := by
  unfold Instant.day calendarDay
  omega

/-- The check passes up to the end of the day, by the calendar of the site. -/
theorem checkExpiry_ensures :
    site.Ensures (MayRaise False) (fun result _ _ _ =>
      (calendarDay shared.now ≤ calendarDay notAfter → result = .ok ()) ∧
      (calendarDay notAfter < calendarDay shared.now → result = .error (thrown (
        s!"Certificate for profile '{profile.profileName}' expired on " ++
        s!"{lib.showInstant notAfter}. Please renew."))))
      (checkExpiry lib (profile.registering old { fields with notAfter := some notAfter }
        fingerprint pem replacedOn registeredOn)) data shared trace := by
  unfold checkExpiry
  simp only [Profile.registering, Profile.certified, AgentApi.ProfileCertificates.renew,
    Program.bind_eq]
  refine Ensures.perform ?_ ?_
  · intro oracle now later calm replied
    have quiet : oracle.fault = none := calm.resolve_left id
    change reply oracle _ shared .now = _ at replied
    simp only [reply, quiet, answer, Option.some.injEq, Prod.mk.injEq, Except.ok.injEq] at replied
    obtain ⟨rfl, rfl⟩ := replied
    by_cases past : calendarDay notAfter < calendarDay shared.now
    · rw [decide_eq_true (day_lt.mpr past)]
      exact ⟨fun inside => absurd inside (not_le.mpr past), fun _ => rfl⟩
    · rw [decide_eq_false (past ∘ day_lt.mp)]
      exact ⟨fun _ => rfl, fun beyond => absurd beyond past⟩
  · intro oracle error later calm replied
    have quiet : oracle.fault = none := calm.resolve_left id
    change reply oracle _ shared .now = _ at replied
    simp only [reply, quiet, answer, Option.some.injEq, Prod.mk.injEq, reduceCtorEq,
      false_and] at replied

end Checking

/-- The check passes on every day up to the last day of the certificate and on no later
one, wherever the calendar of the site and that of the certificate agree on it. -/
theorem expiry_by_day (profile : Profile) (old : AgentApi.ProfileCertificates)
    (fields : AgentApi.CertificateFields) (fingerprint pem : String)
    (replacedOn registeredOn notAfter : Instant) (data : Database) (shared : Shared) :
    site.Ensures (MayRaise False) (fun result _ _ _ => ByDay lib profile notAfter shared result)
      (checkExpiry lib (profile.registering old { fields with notAfter := some notAfter }
        fingerprint pem replacedOn registeredOn)) data shared [] := by
  refine checkExpiry_ensures.weaken fun result _ _ _ ended => ?_
  exact ⟨fun _ => ended.1, fun _ => ended.2⟩

/-- The moments at which the check and the certificate part: after the certificate has
ended while its last day lasts at the site, and before it has while that day is over there. -/
def PartsAt (notAfter : Instant) (shared : Shared) : Prop :=
  let dayEnds := (calendarDay notAfter + 1) * (seconds 86400 : Nat) - shared.zone
  (notAfter < shared.utc ∧ shared.utc < dayEnds) ∨ (dayEnds ≤ shared.utc ∧ shared.utc ≤ notAfter)

/-- The check is one of the exact moment but for what a day and the time zone add. -/
theorem expiry_parts (profile : Profile) (old : AgentApi.ProfileCertificates)
    (fields : AgentApi.CertificateFields) (fingerprint pem : String)
    (replacedOn registeredOn notAfter : Instant) (data : Database) (shared : Shared) :
    site.Ensures (MayRaise False) (fun result _ _ _ =>
        (result = .ok () ↔ shared.utc ≤ notAfter) ↔ ¬ PartsAt notAfter shared)
      (checkExpiry lib (profile.registering old { fields with notAfter := some notAfter }
        fingerprint pem replacedOn registeredOn)) data shared [] := by
  refine checkExpiry_ensures.weaken fun result _ _ _ ended => ?_
  have passed : result = .ok () ↔ calendarDay shared.now ≤ calendarDay notAfter := by
    refine ⟨fun ok => ?_, ended.1⟩
    by_contra past
    cases ok.symm.trans (ended.2 (not_le.mp past))
  rw [passed]
  unfold PartsAt calendarDay Shared.utc seconds
  omega

/-- A certificate that ends at ten is still good at three, on a site at UTC. -/
theorem expired_hours_ago :
    ¬ ∀ (lib : Libraries) (profile : Profile) (old : AgentApi.ProfileCertificates)
        (fields : AgentApi.CertificateFields) (fingerprint pem : String)
        (replacedOn registeredOn notAfter : Instant) (data : Database) (shared : Shared),
      site.Ensures (MayRaise False) (fun result _ _ _ =>
          result = .ok () ↔ shared.utc ≤ notAfter)
        (checkExpiry lib (profile.registering old { fields with notAfter := some notAfter }
          fingerprint pem replacedOn registeredOn)) data shared [] := by
  intro exactly
  obtain ⟨result, _, _, _, passes, expires⟩ := ((exactly sampleLibraries (policyProfile [])
    blankProfile ⟨⟨["A Signer"], ""⟩, ⟨["A CA"], ""⟩, 1, none, none⟩ "" "" 0 0 (seconds (10 * 3600))
    sampleSite.data (installed sampleMasters (seconds (15 * 3600)) 0).shared).both
      checkExpiry_ensures).met calm_answers
  exact absurd (passes.mp (expires.1 (by decide))) (by decide)

end DscSigning
