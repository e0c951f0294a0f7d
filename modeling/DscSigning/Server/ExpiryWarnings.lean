/-
The daily warnings about certificates that run out.

A run of the job warns of each profile whose certificate ends in exactly so many
days as the settings list, and a day on which no run completes is not made up
for.  The mails that have been sent are those of a ledger of warnings.
-/

import DscSigning.Library.Scripts
import DscSigning.Library.Runs
import DscSigning.Library.Tallies
import DscSigning.Server.Database

namespace DscSigning.Warnings

open Interaction Program Engine

/-- The columns of a DSC Profile that the job reads. -/
structure ProfileRow where
  profileName : String
  certificateCommonName : Text
  certificateNotAfter : Option Instant
  isActive : Bool
deriving DecidableEq

structure Settings where
  enableExpiryWarnings : Bool
  expiryWarningDays : List Int
deriving DecidableEq

/-- A profile with its end of validity, as the query selects it. -/
structure Expiring where
  name : String
  profileName : String
  certificateCommonName : Text
  certificateNotAfter : Instant
deriving DecidableEq

inductive Operation where
  | getSettings
  | now
  | getProfiles
  /-- The users with the role DSC Administrator. -/
  | getAdministrators
  | sendMail (mail : Mail)

@[reducible] def Operation.Answer : Operation → Type
  | .getSettings => Settings
  | .now => Instant
  | .getProfiles => List Expiring
  | .getAdministrators => List String
  | .sendMail _ => Unit

abbrev face : Interface :=
  { Query := Operation
    Answer := Operation.Answer
    Error := Exn }

abbrev Job (Value : Type) : Type := Program face Value

abbrev ask (operation : Operation) : Job operation.Answer := @Program.perform face operation

/-! ### `cert_expiry.py` -/

variable (showInstant : Instant → String)

/-- The mail to one administrator. -/
def warningMail (profile : Expiring) (daysRemaining : Int) (admin : String) : Mail :=
  { recipients := [admin]
    subject := s!"DSC Certificate Expiring in {daysRemaining} Days — {profile.profileName}"
    message := s!"The certificate for DSC Profile <b>{profile.profileName}</b> " ++
      s!"({profile.certificateCommonName.show}) will expire in " ++
      s!"<b>{daysRemaining} days</b> on {showInstant profile.certificateNotAfter}.<br><br>" ++
      "Please arrange for certificate renewal." }

/-- `send_expiry_warning` -/
def sendExpiryWarning (profile : Expiring) (daysRemaining : Int) : Job Unit := do
  let admins ← ask .getAdministrators
  Program.forEach admins fun admin =>
    ask (.sendMail (warningMail showInstant profile daysRemaining admin))

/-- `(expiry_date - today).days` -/
def daysUntilExpiry (notAfter now : Instant) : Int :=
  (Instant.day notAfter : Int) - (Instant.day now : Int)

def checkProfile (warningDays : List Int) (now : Instant) (profile : Expiring) : Job Unit :=
  let daysUntilExpiry := daysUntilExpiry profile.certificateNotAfter now
  if warningDays.contains daysUntilExpiry then
    sendExpiryWarning showInstant profile daysUntilExpiry
  else pure ()

/-- `notify_upcoming_expiries` -/
def notifyUpcomingExpiries : Job Unit := do
  let settings ← ask .getSettings
  if settings.enableExpiryWarnings then
    if settings.expiryWarningDays.isEmpty then pure ()
    else do
      let today ← ask .now
      let profiles ← ask .getProfiles
      Program.forEach profiles (checkProfile showInstant settings.expiryWarningDays today)
  else pure ()

/-! ### The site -/

/-- What the administrators can edit. -/
structure Masters where
  settings : Settings
  profiles : Table String ProfileRow
  administrators : List String

structure Site where
  masters : Masters
  /-- The queue of mails. -/
  outbox : List Mail

/-- The query for the active profiles with an end of validity, at one row. -/
def selected (entry : String × ProfileRow) : Option Expiring :=
  if entry.2.isActive then
    entry.2.certificateNotAfter.map fun notAfter =>
      ⟨entry.1, entry.2.profileName, entry.2.certificateCommonName, notAfter⟩
  else none

def expiring (profiles : Table String ProfileRow) : List Expiring :=
  profiles.rows.filterMap selected

def answer (site : Site) (now : Instant) : (operation : Operation) → operation.Answer
  | .getSettings => site.masters.settings
  | .now => now
  | .getProfiles => expiring site.masters.profiles
  | .getAdministrators => site.masters.administrators
  | .sendMail _ => ()

/-- A mail is queued in the transaction of the job; any question can fail. -/
abbrev office : Engine face :=
  { Stamp := Instant
    Data := Site
    Shared := Instant
    Write := Mail
    Row := Unit
    Oracle := Option Exn
    Move := Empty
    perform := fun site mail => { site with outbox := site.outbox ++ [mail] }
    row := fun _ => none
    stamp := fun now => now
    reply := fun fault site now operation => some (match fault with
      | some exn => .error exn
      | none => .ok (answer site now operation), now)
    effects := fun event => match event with
      | ⟨.sendMail mail, .ok _, _⟩ => [mail]
      | _ => []
    commits := fun _ => false
    move := fun move _ _ => nomatch move }

/-- A job at one instant, with the failure that each of its questions meets, or
an edit by an administrator. -/
inductive Step where
  | job (now : Instant) (script : List (Option Exn))
  | edit (masters : Masters)

def step (site : Site) : Step → Option Site
  | .job now script =>
      (office.play (notifyUpcomingExpiries showInstant) site now [] script).map Outcome.left
  | .edit masters => some { site with masters := masters }

/-! ### The ledger -/

/-- A warning that is due. -/
structure Warning where
  profile : Expiring
  daysRemaining : Int
  admin : String
deriving DecidableEq

def Warning.mail (warning : Warning) : Mail :=
  warningMail showInstant warning.profile warning.daysRemaining warning.admin

def warningsOf (masters : Masters) (now : Instant) (profile : Expiring) : List Warning :=
  let days := daysUntilExpiry profile.certificateNotAfter now
  if days ∈ masters.settings.expiryWarningDays then
    masters.administrators.map fun admin => ⟨profile, days, admin⟩
  else []

/-- The warnings that are due at one instant. -/
def due (masters : Masters) (now : Instant) : List Warning :=
  if masters.settings.enableExpiryWarnings then
    (expiring masters.profiles).flatMap (warningsOf masters now)
  else []

/-- The jobs of a run that complete, with what the administrators had set then. -/
def completions (masters : Masters) : List Step → List (Masters × Instant)
  | [] => []
  | .edit edited :: rest => completions edited rest
  | .job now script :: rest =>
      if script.all Option.isNone then (masters, now) :: completions masters rest
      else completions masters rest

/-- What a run should send: what is due whenever a job completes. -/
def ledger (masters : Masters) (steps : List Step) : List Warning :=
  (completions masters steps).flatMap fun done => due done.1 done.2

variable {showInstant}

/-! ### What a job sends -/

theorem view_mails (site : Site) (mails : List Mail) :
    office.view site mails = { site with outbox := site.outbox ++ mails } := by
  induction mails generalizing site with
  | nil => rw [List.append_nil]; rfl
  | cons mail rest ih =>
      rw [view, List.foldl_cons, ← view, ih, List.append_assoc]
      rfl

/-- Where nothing fails, the program ends well and adds these mails. -/
def Sends {Value : Type} (mails : List Mail) (program : Job Value) (site : Site) (now : Instant)
    (trace : Trace face Instant) (gives : Value → Prop) : Prop :=
  @Ensures face office Value (· = none) (fun result data shared after =>
    (∃ value, result = .ok value ∧ gives value) ∧ data = site ∧ shared = now ∧
      office.pending after = office.pending trace ++ mails) program site now trace

section Sending

variable {site : Site} {now : Instant} {trace : Trace face Instant}

theorem sends_done {Value : Type} {value : Value} {gives : Value → Prop} (given : gives value) :
    Sends [] (.done value) site now trace gives :=
  ⟨⟨value, rfl, given⟩, rfl, rfl, (List.append_nil _).symm⟩

theorem Sends.bind {Value Result : Type} {first second : List Mail} {program : Job Value}
    {next : Value → Job Result} {gives : Value → Prop} {later : Result → Prop}
    (sends : Sends first program site now trace gives)
    (after : ∀ value trace, gives value → Sends second (next value) site now trace later) :
    Sends (first ++ second) (program.bind next) site now trace later := by
  refine Ensures.bind sends ?_ ?_
  · rintro value data shared middle ⟨⟨_, same, given⟩, rfl, rfl, pending⟩
    cases same
    refine (after value middle given).weaken ?_
    rintro result data shared last ⟨ended, same, still, sent⟩
    refine ⟨ended, same, still, ?_⟩
    rw [sent, pending, List.append_assoc]
  · rintro error data shared middle ⟨⟨_, same, _⟩, _⟩
    cases same

/-- A question that sends nothing. -/
theorem sends_ask {operation : Operation}
    (quiet : ∀ answer, office.effects ⟨operation, .ok answer, now⟩ = []) :
    Sends [] (ask operation) site now trace fun told => told = answer site now operation := by
  intro oracle reply later works replied
  subst works
  simp only [Option.some.injEq, Prod.mk.injEq] at replied
  obtain ⟨rfl, rfl⟩ := replied
  refine ⟨⟨_, rfl, ?_⟩, rfl, rfl, ?_⟩
  · rw [view_mails]
    cases operation <;> rfl
  · show office.pending trace ++ office.effects _ = _
    rw [quiet]

theorem sends_mail (mail : Mail) :
    Sends [mail] (ask (.sendMail mail)) site now trace fun _ => True := by
  intro oracle reply later works replied
  subst works
  simp only [Option.some.injEq, Prod.mk.injEq] at replied
  obtain ⟨rfl, rfl⟩ := replied
  exact ⟨⟨_, rfl, trivial⟩, rfl, rfl, rfl⟩

theorem sends_forEach {Item : Type} {items : List Item} {body : Item → Job Unit}
    {mails : Item → List Mail}
    (each : ∀ item trace, Sends (mails item) (body item) site now trace fun _ => True) :
    Sends (items.flatMap mails) (Program.forEach items body) site now trace fun _ => True := by
  induction items generalizing trace with
  | nil => exact sends_done trivial
  | cons item rest ih =>
      rw [List.flatMap_cons]
      exact (each item trace).bind fun _ _ _ => ih

theorem checkProfile_sends (profile : Expiring) :
    Sends ((warningsOf site.masters now profile).map (Warning.mail showInstant))
      (checkProfile showInstant site.masters.settings.expiryWarningDays now profile) site now trace
      fun _ => True := by
  unfold checkProfile warningsOf
  by_cases due : daysUntilExpiry profile.certificateNotAfter now ∈
      site.masters.settings.expiryWarningDays
  · rw [if_pos due, if_pos (List.contains_iff_mem.mpr due), List.map_map]
    refine (sends_ask fun _ => rfl).bind (fun admins later same => ?_)
    subst same
    rw [List.map_eq_flatMap]
    exact sends_forEach fun admin _ => sends_mail _
  · rw [if_neg due, if_neg (fun found => due (List.contains_iff_mem.mp found))]
    exact sends_done trivial

theorem notify_sends :
    Sends ((due site.masters now).map (Warning.mail showInstant))
      (notifyUpcomingExpiries showInstant) site now trace fun _ => True := by
  refine (sends_ask fun _ => rfl).bind (fun settings later same => ?_)
  obtain rfl : settings = site.masters.settings := same
  unfold due
  by_cases enabled : site.masters.settings.enableExpiryWarnings = true
  · rw [if_pos enabled, if_pos enabled]
    by_cases none_ : site.masters.settings.expiryWarningDays.isEmpty = true
    · have nothing (profile : Expiring) : warningsOf site.masters now profile = [] := by
        unfold warningsOf
        rw [List.isEmpty_iff.mp none_, if_neg (List.not_mem_nil)]
      have all : (expiring site.masters.profiles).flatMap (warningsOf site.masters now) = [] :=
        List.flatMap_eq_nil_iff.mpr fun profile _ => nothing profile
      rw [if_pos none_, all]
      exact sends_done trivial
    · rw [if_neg none_, List.map_flatMap]
      refine (sends_ask fun _ => rfl).bind (fun today after same => ?_)
      subst same
      refine (sends_ask fun _ => rfl).bind (fun profiles last same => ?_)
      subst same
      exact sends_forEach fun profile _ => checkProfile_sends profile
  · rw [if_neg enabled, if_neg enabled]
    exact sends_done trivial

end Sending

theorem notify_propagates : Propagates (notifyUpcomingExpiries showInstant) := by
  have sending (profile : Expiring) (days : Int) :
      Propagates (sendExpiryWarning showInstant profile days) :=
    (propagates_perform _).bind fun _ => propagates_forEach fun _ _ => propagates_perform _
  refine (propagates_perform _).bind fun settings => ?_
  split
  · split
    · trivial
    · refine (propagates_perform _).bind fun _ => (propagates_perform _).bind fun _ => ?_
      refine propagates_forEach fun profile _ => ?_
      unfold checkProfile
      simp only
      split
      · exact sending _ _
      · trivial
  · trivial

/-- A job that meets no failure sends what is due, and any other sends nothing. -/
theorem job_leaves {site : Site} {now : Instant} {script : List (Option Exn)}
    {outcome : office.Outcome Unit}
    (played : office.play (notifyUpcomingExpiries showInstant) site now [] script = some outcome) :
    outcome.left = if script.all Option.isNone then
      { site with outbox := site.outbox ++ (due site.masters now).map (Warning.mail showInstant) }
      else site := by
  have ended : (∃ value, outcome.result = .ok value) ↔ ∀ oracle ∈ script, oracle.isSome = false := by
    refine notify_propagates.played (fun oracle data shared query reply later replied => ?_) played
    simp only [Option.some.injEq, Prod.mk.injEq] at replied
    obtain ⟨rfl, _⟩ := replied
    cases oracle with
    | none => simp only [Option.isSome_none, Bool.false_eq_true, reduceCtorEq, exists_false]
    | some exn => simp only [Option.isSome_some, Except.error.injEq, exists_eq']
  by_cases clean : script.all Option.isNone = true
  · have kinds : ∀ oracle ∈ script, oracle = none := fun oracle member =>
      Option.isNone_iff_eq_none.mp (List.all_eq_true.mp clean oracle member)
    obtain ⟨⟨_, same, _⟩, data, _, pending⟩ := notify_sends.played kinds played
    rw [if_pos clean, Outcome.left, same, data, leaves, pending]
    exact view_mails site _
  · have still : @Ensures face office Unit (fun _ => True) (fun _ data _ _ => data = site)
        (notifyUpcomingExpiries showInstant) site now [] :=
      Ensures.of_uses (fun _ _ _ _ data _ _ _ (kept : data = site) _ => kept) (Uses.any _) rfl
    rw [if_neg clean, Outcome.left]
    cases result : outcome.result with
    | ok value =>
        refine absurd (List.all_eq_true.mpr fun oracle member => ?_) clean
        have works := ended.mp ⟨value, result⟩ oracle member
        cases oracle with
        | none => rfl
        | some exn => cases works
    | error exn => exact still.played (fun _ _ => trivial) played

/-- The mails of a run are those of the ledger, in its order. -/
theorem run_ledger {site last : Site} {steps : List Step}
    (ran : Runs.run (step showInstant) site steps = some last) :
    last.outbox = site.outbox ++ (ledger site.masters steps).map (Warning.mail showInstant) := by
  induction steps generalizing site with
  | nil =>
      cases ran
      exact (List.append_nil _).symm
  | cons first rest ih =>
      obtain ⟨next, stepped, continued⟩ := Option.bind_eq_some_iff.mp ran
      cases first with
      | edit masters =>
          cases stepped
          exact ih continued
      | job now script =>
          obtain ⟨outcome, played, same⟩ := Option.map_eq_some_iff.mp stepped
          rw [job_leaves played] at same
          have others := ih continued
          rw [ledger, completions]
          split at same
          · rename_i clean
            rw [if_pos clean, List.flatMap_cons, List.map_append, ← List.append_assoc]
            subst same
            exact others
          · rename_i clean
            rw [if_neg clean]
            subst same
            exact others

/-! ### How often somebody is warned -/

def Warning.about (name admin : String) (days : Int) (warning : Warning) : Bool :=
  warning.profile.name == name && warning.admin == admin && warning.daysRemaining == days

/-- The profile is one that a job at this instant warns of, so many days ahead. -/
def warns (name : String) (days : Int) (done : Masters × Instant) : Bool :=
  done.1.settings.enableExpiryWarnings && decide (days ∈ done.1.settings.expiryWarningDays) &&
    (done.1.profiles.lookup name).any fun row => row.isActive &&
      row.certificateNotAfter.any fun notAfter => daysUntilExpiry notAfter done.2 == days

theorem warningsOf_about (masters : Masters) (now : Instant) (profile : Expiring)
    (name admin : String) (days : Int) :
    (warningsOf masters now profile).countP (Warning.about name admin days) =
      if profile.name = name ∧ days ∈ masters.settings.expiryWarningDays ∧
          daysUntilExpiry profile.certificateNotAfter now = days then
        masters.administrators.count admin
      else 0 := by
  unfold warningsOf
  by_cases due : daysUntilExpiry profile.certificateNotAfter now ∈
      masters.settings.expiryWarningDays
  · rw [if_pos due, List.countP_map, List.count]
    by_cases this : profile.name = name ∧
        daysUntilExpiry profile.certificateNotAfter now = days
    · rw [if_pos ⟨this.1, this.2 ▸ due, this.2⟩]
      refine List.countP_congr fun other _ => ?_
      simp only [Function.comp_apply, Warning.about, this.1, this.2, beq_self_eq_true,
        Bool.true_and, Bool.and_true]
    · rw [if_neg fun both => this ⟨both.1, both.2.2⟩]
      refine List.countP_eq_zero.mpr fun other _ about => this ?_
      simp only [Function.comp_apply, Warning.about, Bool.and_eq_true, beq_iff_eq] at about
      exact ⟨about.1.1, about.2⟩
  · have differs : ¬(profile.name = name ∧ days ∈ masters.settings.expiryWarningDays ∧
        daysUntilExpiry profile.certificateNotAfter now = days) :=
      fun both => due (both.2.2 ▸ both.2.1)
    rw [if_neg due, if_neg differs]
    rfl

/-- How many warnings about one profile come from a row. -/
def fromRow (masters : Masters) (now : Instant) (name admin : String) (days : Int)
    (entry : String × ProfileRow) : Nat :=
  ((selected entry).map fun profile =>
    (warningsOf masters now profile).countP (Warning.about name admin days)).getD 0

theorem fromRow_other (masters : Masters) (now : Instant) {name admin : String} {days : Int}
    {entry : String × ProfileRow} (other : entry.1 ≠ name) :
    fromRow masters now name admin days entry = 0 := by
  unfold fromRow selected
  split
  · cases entry.2.certificateNotAfter with
    | none => rfl
    | some notAfter =>
        rw [Option.map_some, Option.map_some, Option.getD_some, warningsOf_about]
        exact if_neg fun both => other both.1
  · rfl

theorem fromRow_same (masters : Masters) (now : Instant) (name admin : String) (days : Int)
    {row : ProfileRow} (enabled : masters.settings.enableExpiryWarnings = true)
    (found : masters.profiles.lookup name = some row) :
    fromRow masters now name admin days (name, row) =
      if warns name days (masters, now) then masters.administrators.count admin else 0 := by
  unfold fromRow selected warns
  simp only [enabled, found, Option.any_some, Bool.true_and]
  cases row.isActive with
  | false => rw [Bool.false_and, Bool.and_false]; rfl
  | true =>
      cases row.certificateNotAfter with
      | none => rw [Option.any_none, Bool.and_false, Bool.and_false]; rfl
      | some notAfter =>
          rw [if_pos rfl, Option.map_some, Option.map_some, Option.getD_some, warningsOf_about]
          simp only [true_and, Option.any_some, Bool.true_and, Bool.and_eq_true, decide_eq_true_eq,
            beq_iff_eq]

theorem due_about (masters : Masters) (now : Instant) (name admin : String) (days : Int) :
    (due masters now).countP (Warning.about name admin days) =
      if warns name days (masters, now) then masters.administrators.count admin else 0 := by
  unfold due
  cases enabled : masters.settings.enableExpiryWarnings with
  | false =>
      rw [if_neg Bool.false_ne_true, warns, enabled]
      rfl
  | true =>
      have rows : (masters.profiles.rows.map (fromRow masters now name admin days)).sum =
          ((masters.profiles.lookup name).map fun row =>
            fromRow masters now name admin days (name, row)).getD 0 :=
        Table.sum_rows fun entry _ other => fromRow_other masters now other
      rw [if_pos rfl, List.countP_flatMap, expiring, Table.sum_selected]
      refine rows.trans ?_
      cases found : masters.profiles.lookup name with
      | none =>
          rw [warns, found, Option.any_none, Bool.and_false]
          rfl
      | some row => exact fromRow_same masters now name admin days enabled found

/-- How often somebody is warned of a threshold: once in each job that completes
on the day, for each time that the role is given. -/
theorem ledger_about (masters : Masters) (steps : List Step) (name admin : String) (days : Int) :
    (ledger masters steps).countP (Warning.about name admin days) =
      (((completions masters steps).filter (warns name days)).map fun done =>
        done.1.administrators.count admin).sum := by
  rw [ledger, List.countP_flatMap, ← Table.sum_contributing]
  exact congrArg List.sum (List.map_congr_left fun done _ => due_about done.1 done.2 name admin days)

/-- The jobs that warn of one threshold of a certificate that stays the same are
all on one day. -/
theorem warns_once {done : List (Masters × Instant)} {name : String} {days : Int} {lastDay : Nat}
    (distinct : (done.map fun job => Instant.day job.2).Nodup)
    (same : ∀ job ∈ done, ∀ row, job.1.profiles.lookup name = some row →
      ∀ notAfter, row.certificateNotAfter = some notAfter → Instant.day notAfter = lastDay) :
    (done.filter (warns name days)).length ≤ 1 := by
  have onDay : ∀ job ∈ done.filter (warns name days),
      (Instant.day job.2 : Int) = (lastDay : Int) - days := by
    intro job member
    have inside := List.mem_filter.mp member
    simp only [warns, Bool.and_eq_true, Option.any_eq_true, beq_iff_eq] at inside
    obtain ⟨inDone, _, row, found, _, notAfter, held, ends⟩ := inside
    rw [daysUntilExpiry, same job inDone row found notAfter held] at ends
    omega
  have days_ : ((done.filter (warns name days)).map fun job => Instant.day job.2).Nodup :=
    distinct.sublist (List.filter_sublist.map _)
  cases warned : done.filter (warns name days) with
  | nil => exact Nat.zero_le 1
  | cons first rest =>
      cases rest with
      | nil => exact Nat.le_refl 1
      | cons second others =>
          rw [warned] at onDay days_
          have one := onDay first (by simp)
          have two := onDay second (by simp)
          rw [List.map_cons, List.map_cons, List.nodup_cons] at days_
          exact absurd (List.mem_cons.mpr (Or.inl (by omega))) days_.1

/-- In every run of the daily job, with edits by the administrators between and any
failure inside, the mails sent are those of a ledger.  An administrator is warned of
a threshold once for each job that completes on the day so many days before the
end of the certificate, for each time that the role is given; with one job a day
and a certificate that is kept, at most once. -/
theorem warned_once_per_threshold {site last : Site} {steps : List Step}
    (ran : Runs.run (step showInstant) site steps = some last) :
    ∃ sent : List Warning,
      last.outbox = site.outbox ++ sent.map (Warning.mail showInstant) ∧
      (∀ name admin days, sent.countP (Warning.about name admin days) =
        (((completions site.masters steps).filter (warns name days)).map fun done =>
          done.1.administrators.count admin).sum) ∧
      (((completions site.masters steps).map fun done => Instant.day done.2).Nodup →
        (∀ done ∈ completions site.masters steps, done.1.administrators.Nodup) →
        ∀ name lastDay, (∀ done ∈ completions site.masters steps, ∀ row,
            done.1.profiles.lookup name = some row →
            ∀ notAfter, row.certificateNotAfter = some notAfter → Instant.day notAfter = lastDay) →
          ∀ admin days, sent.countP (Warning.about name admin days) ≤ 1) := by
  refine ⟨ledger site.masters steps, run_ledger ran,
    fun name admin days => ledger_about site.masters steps name admin days, ?_⟩
  intro distinct once name lastDay same admin days
  rw [ledger_about]
  have few : ((completions site.masters steps).filter (warns name days)).length ≤ 1 :=
    warns_once distinct same
  cases warned : (completions site.masters steps).filter (warns name days) with
  | nil => exact Nat.zero_le 1
  | cons first rest =>
      rw [warned, List.length_cons] at few
      have alone : rest = [] := List.length_eq_zero_iff.mp (by omega)
      have inside : first ∈ completions site.masters steps :=
        (List.mem_filter.mp (warned ▸ List.mem_cons_self)).1
      rw [alone, List.map_singleton, List.sum_singleton]
      exact List.nodup_iff_count_le_one.mp (once first inside) admin

/-! ### A week with a job that fails -/

def companySeal : ProfileRow :=
  ⟨"Company Seal", some "ACME", some (seconds (40 * 86400)), true⟩

def sealOffice : Site :=
  ⟨⟨⟨true, [30, 7]⟩, AList.insert "seal" companySeal ∅, ["a@x", "b@x"]⟩, []⟩

/-- With 30 days left the first job fails at its second mail. -/
def week : List Step :=
  [.job (seconds (9 * 86400)) [none, none, none],
    .job (seconds (10 * 86400)) [none, none, none, none, none, some (thrown "SMTP")],
    .job (seconds (10 * 86400 + 3600)) [none, none, none, none, none, none],
    .job (seconds (11 * 86400)) [none, none, none]]

theorem warned_once_per_threshold_sample :
    ∃ last, Runs.run (step toString) sealOffice week = some last ∧
      ∃ sent : List Warning, last.outbox = sent.map (Warning.mail toString) ∧
        sent.countP (Warning.about "seal" "a@x" 30) = 1 ∧
        sent.countP (Warning.about "seal" "a@x" 7) = 0 := by
  have runs : (Runs.run (step toString) sealOffice week).isSome = true := by decide +kernel
  obtain ⟨last, ran⟩ := Option.isSome_iff_exists.mp runs
  obtain ⟨sent, mails, counts, _⟩ := warned_once_per_threshold ran
  refine ⟨last, ran, sent, mails, ?_, ?_⟩
  · rw [counts]
    decide +kernel
  · rw [counts]
    decide +kernel

end DscSigning.Warnings
