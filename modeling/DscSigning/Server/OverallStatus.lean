/-
What the overall status of a document says about its requests.

Signed and Cancelled requests together fall through every test of the order in
which the statuses are looked for.
-/

import DscSigning.Server.SigningApi

namespace DscSigning

open Interaction Program

/-- The reported status is the first that applies, and nothing is hidden unless all is cancelled. -/
structure Summarises (statuses : List RequestStatus) (reported : String) : Prop where
  inProgress : .inProgress ∈ statuses → reported = "Signature In Progress"
  failed : .inProgress ∉ statuses → .failed ∈ statuses → reported = "Signing Failed"
  pending : .inProgress ∉ statuses → .failed ∉ statuses → .pending ∈ statuses →
    reported = "Awaiting Signature"
  signed : .inProgress ∉ statuses → .failed ∉ statuses → .pending ∉ statuses →
    .signed ∈ statuses → reported = "Signed"
  hidden : reported = "Not Applicable" → ∀ status ∈ statuses, status = .cancelled

/-- Some request is Signed, some is Cancelled, and none is anything else. -/
structure SignedAndCancelled (statuses : List RequestStatus) : Prop where
  signed : .signed ∈ statuses
  cancelled : .cancelled ∈ statuses
  only : ∀ status ∈ statuses, status = .signed ∨ status = .cancelled

theorem overallStatus_signed {statuses : List RequestStatus}
    (all : ∀ status ∈ statuses, status = .signed) : overallStatus statuses = "Signed" :=
  if_pos (by simpa using all)

/-- Where not all are Signed, the order of the tests decides. -/
theorem overallStatus_mixed {statuses : List RequestStatus}
    (mixed : ¬ ∀ status ∈ statuses, status = .signed) : overallStatus statuses =
      if .inProgress ∈ statuses then "Signature In Progress"
      else if .failed ∈ statuses then "Signing Failed"
      else if .pending ∈ statuses then "Awaiting Signature" else "Not Applicable" := by
  simp only [overallStatus, List.contains_iff_mem]
  exact if_neg (by simpa using mixed)

theorem summarises_signed {statuses : List RequestStatus}
    (all : ∀ status ∈ statuses, status = .signed) :
    Summarises statuses (overallStatus statuses) := by
  have absent : ∀ status, status ≠ .signed → status ∉ statuses :=
    fun status other member => other (all status member)
  rw [overallStatus_signed all]
  exact
    { inProgress := fun member => absurd member (absent _ (by decide))
      failed := fun _ member => absurd member (absent _ (by decide))
      pending := fun _ _ member => absurd member (absent _ (by decide))
      signed := fun _ _ _ _ => rfl
      hidden := fun same => absurd same (by decide) }

/-- What is left when no test applies is Signed and Cancelled, and not all of it is Signed. -/
theorem summarises_rest {statuses : List RequestStatus}
    (mixed : ¬ ∀ status ∈ statuses, status = .signed) (inProgress : .inProgress ∉ statuses)
    (failed : .failed ∉ statuses) (pending : .pending ∉ statuses) :
    Summarises statuses "Not Applicable" ↔ ¬ SignedAndCancelled statuses := by
  have only : ∀ status ∈ statuses, status = .signed ∨ status = .cancelled := by
    intro status member
    cases status with
    | pending => exact absurd member pending
    | inProgress => exact absurd member inProgress
    | failed => exact absurd member failed
    | signed => exact Or.inl rfl
    | cancelled => exact Or.inr rfl
  have cancelled : .cancelled ∈ statuses := by
    simp only [not_forall] at mixed
    obtain ⟨status, member, other⟩ := mixed
    rcases only status member with signed | same
    · exact absurd signed other
    · rwa [← same]
  constructor
  · intro summary both
    exact absurd (summary.hidden rfl _ both.signed) (by decide)
  · intro apart
    have unsigned : .signed ∉ statuses := fun signed => apart ⟨signed, cancelled, only⟩
    exact
      { inProgress := fun member => absurd member inProgress
        failed := fun _ member => absurd member failed
        pending := fun _ _ member => absurd member pending
        signed := fun _ _ _ member => absurd member unsigned
        hidden := fun _ status member => (only status member).resolve_left
          fun signed => unsigned (signed ▸ member) }

theorem summarises_mixed {statuses : List RequestStatus}
    (mixed : ¬ ∀ status ∈ statuses, status = .signed) :
    Summarises statuses (overallStatus statuses) ↔ ¬ SignedAndCancelled statuses := by
  rw [overallStatus_mixed mixed]
  by_cases inProgress : .inProgress ∈ statuses
  · rw [if_pos inProgress]
    refine iff_of_true ?_ fun both => by simpa using both.only _ inProgress
    exact
      { inProgress := fun _ => rfl
        failed := fun none_ => absurd inProgress none_
        pending := fun none_ => absurd inProgress none_
        signed := fun none_ => absurd inProgress none_
        hidden := fun same => absurd same (by decide) }
  rw [if_neg inProgress]
  by_cases failed : .failed ∈ statuses
  · rw [if_pos failed]
    refine iff_of_true ?_ fun both => by simpa using both.only _ failed
    exact
      { inProgress := fun member => absurd member inProgress
        failed := fun _ _ => rfl
        pending := fun _ none_ => absurd failed none_
        signed := fun _ none_ => absurd failed none_
        hidden := fun same => absurd same (by decide) }
  rw [if_neg failed]
  by_cases pending : .pending ∈ statuses
  · rw [if_pos pending]
    refine iff_of_true ?_ fun both => by simpa using both.only _ pending
    exact
      { inProgress := fun member => absurd member inProgress
        failed := fun _ member => absurd member failed
        pending := fun _ _ _ => rfl
        signed := fun _ _ none_ => absurd pending none_
        hidden := fun same => absurd same (by decide) }
  rw [if_neg pending]
  exact summarises_rest mixed inProgress failed pending

theorem overallStatus_summarises (statuses : List RequestStatus) :
    Summarises statuses (overallStatus statuses) ↔ ¬ SignedAndCancelled statuses := by
  by_cases all : ∀ status ∈ statuses, status = .signed
  · refine iff_of_true (summarises_signed all) fun both => ?_
    exact absurd (all _ both.cancelled) (by decide)
  · exact summarises_mixed all

/-- The summary of what a response lists, unless that is Signed and Cancelled requests together. -/
def StatusResponse.Faithful (response : StatusResponse) : Prop :=
  let statuses := response.signingRequests.map ListedRequest.status
  Summarises statuses response.status ↔ ¬ SignedAndCancelled statuses

theorem empty_faithful : StatusResponse.Faithful ⟨"Not Applicable", [], false⟩ := by
  refine iff_of_true ?_ fun both => by cases both.signed
  exact
    { inProgress := fun member => by cases member
      failed := fun _ member => by cases member
      pending := fun _ _ member => by cases member
      signed := fun _ _ _ member => by cases member
      hidden := fun _ status member => by cases member }

/-- For every list of requests, and whatever the database lists and answers, the status is a
summary of the requests unless these are Signed and Cancelled ones together. -/
theorem signing_status_summarises (statuses : List RequestStatus) (ctx : Context)
    (doctype docname : String) (trace : ServerTrace) :
    (Summarises statuses (overallStatus statuses) ↔ ¬ SignedAndCancelled statuses) ∧
      (getSigningStatus ctx doctype docname).Follows (fun _ _ => True)
        (fun _ result => ∀ response, result = .ok response → response.Faithful) trace := by
  refine ⟨overallStatus_summarises statuses, ?_⟩
  refine Follows.perform trivial (fun requests listedAt => ?_) (by rintro error stamp response ⟨⟩)
  split
  · rintro response ⟨⟩
    exact empty_faithful
  · refine Follows.perform trivial (fun now nowAt => ?_) (by rintro error stamp response ⟨⟩)
    refine Follows.bind (Follows.always fun _ _ _ => trivial) ?_ (by
      rintro later error _ _ response ⟨⟩)
    rintro later recovered _ _ response ⟨⟩
    exact overallStatus_summarises _

theorem signed_and_cancelled_hidden :
    ¬ Summarises [.cancelled, .signed] (overallStatus [.cancelled, .signed]) := by
  intro summary
  have nothing : overallStatus [.cancelled, .signed] = "Not Applicable" := by decide
  exact absurd (summary.hidden nothing .signed (by simp)) (by decide)

end DscSigning
