/-
Who changes the status of a signing request, and along which edges.

Every endpoint gives requests certain statuses only, and only requests that it
has selected itself; `retry`, `cancel` and `abort_in_progress` go by `doc.save`,
which checks the status they start from.
-/

import DscSigning.Server.Absorption
import DscSigning.Server.StatusWrites

namespace DscSigning

open Interaction Program Engine

/-! ### The lifecycle -/

/-- What the endpoint gives to requests by `set_value`, whatever they are. -/
def Endpoint.gives : Endpoint → RequestStatus → Bool
  | .initiate _, .inProgress => true
  | .finalize _, .signed => true
  | .finalize _, .failed => true
  | .getSigningStatus .., .pending => true
  | .getFormActions .., .pending => true
  | .expireStalePendingRequests, .failed => true
  | _, _ => false

/-- What the endpoint gives to its request by `doc.save`. -/
def Endpoint.saves (name : String) : Endpoint → RequestStatus → Bool
  | .retry target, .pending => target == name
  | .cancel target _, .cancelled => target == name
  | .abortInProgress target _, .pending => target == name
  | _, _ => false

/-- The statuses that a question of the endpoint sets are its own. -/
def owns (endpoint : Endpoint) : Operation → Bool
  | .setRequest _ update => update.status.all endpoint.gives
  | .saveRequest name _ edit => endpoint.saves name edit.status
  | _ => true

def Owns (endpoint : Endpoint) (operation : Operation) : Prop := owns endpoint operation = true

section Uses

variable {lib : Libraries} {endpoint : Endpoint} {Value : Type} {program : Server Value}

theorem owns_ask {operation : Operation} (owned : owns endpoint operation = true) :
    (ask operation).Uses (Owns endpoint) :=
  Uses.perform owned

theorem owns_calm (uses : program.Uses Calm) : program.Uses (Owns endpoint) := by
  apply uses.weaken
  intro operation peaceful
  cases operation with
  | setRequest name update => cases peaceful
  | saveRequest name loaded edit => cases peaceful
  | _ => rfl

theorem owns_basic (uses : program.Uses Basic) : program.Uses (Owns endpoint) :=
  owns_calm (basic_calm uses)

theorem owns_plain (uses : program.Uses Plain) : program.Uses (Owns endpoint) :=
  owns_calm (plain_calm uses)

theorem owns_idle (uses : program.Uses Idle) : program.Uses (Owns endpoint) := by
  apply uses.weaken
  intro operation still
  cases operation with
  | setRequest name update =>
      have unset : update.status = none := Option.isNone_iff_eq_none.mp still
      simp only [Owns, owns, unset, Option.all_none]
  | saveRequest name loaded edit => cases still
  | _ => rfl

/-- The new status is mirrored and logged, whatever comes then. -/
theorem reported_owns {Result : Type} {rest : Server Result} {ctx : Context}
    {doctype docname name eventType : String} {edit : DocSignEdit} {details : List (String × Json)}
    (uses : rest.Uses (Owns endpoint)) :
    (do
      mirror doctype docname edit
      logEvent lib ctx name eventType details
      rest).Uses (Owns endpoint) := by
  apply Uses.bind (owns_calm (mirror_calm _ _ _))
  intro _
  apply Uses.bind (owns_plain (logEvent_plain _ _ _ _))
  intro _
  exact uses

theorem initiate_owns (ctx : Context) (arguments : InitiateArguments) :
    (initiate lib ctx arguments).Uses (Owns (.initiate arguments)) := by
  apply Uses.bind (Uses.demand _ _)
  intro _
  apply Uses.bind (owns_ask rfl)
  intro found
  apply Uses.bind (Uses.ofOption _ _)
  intro signingRequest
  apply Uses.bind (owns_idle (checkSigner_idle ctx signingRequest))
  intro _
  apply Uses.bind (owns_ask rfl)
  intro profile
  apply Uses.bind (owns_idle (checkProfile_idle ctx profile))
  intro _
  apply Uses.bind (owns_ask rfl)
  intro settings
  apply Uses.bind (Uses.demand _ _)
  intro _
  apply Uses.bind (owns_basic (geocode_basic _ _))
  intro geocoded
  apply Uses.bind (owns_basic (loadTemplate_basic _))
  intro sigTemplate
  apply Uses.bind (owns_plain (loadUpload_plain _ _))
  intro upload
  apply Uses.bind (owns_basic (choosePrintFormat_basic _ _ _))
  intro printFormat
  apply Uses.bind (Uses.ofExcept _)
  intro location
  apply Uses.bind (owns_ask rfl)
  intro _
  apply Uses.bind (owns_basic (runDevHooks_basic _ _))
  intro _
  apply Uses.bind (Uses.ofExcept _)
  intro certDer
  apply Uses.bind (owns_plain (checkFingerprint_plain _ _ _))
  intro _
  apply Uses.bind (owns_idle (preparePdfForSigning_idle _))
  intro result
  apply Uses.bind (owns_ask rfl)
  intro _
  apply Uses.bind (owns_plain (logPrepared_plain _ _ _ _ _ _))
  intro _
  exact authorise_uses _ _ _ _ _
    (getOrCreateHmacSecret_uses rfl rfl rfl (fun _ => rfl) rfl) rfl rfl

theorem checkSignedPdf_owns (ctx : Context) (arguments : FinalizeArguments) (name : String)
    (signedResult : SignedResult) :
    (checkSignedPdf lib ctx name signedResult).Uses (Owns (.finalize arguments)) := by
  apply Uses.bind (owns_calm (verifySignedPdf_calm _))
  intro verification
  apply Uses.bind (owns_plain (logEvent_plain _ _ _ _))
  intro _
  split
  · apply Uses.bind (owns_ask rfl)
    intro _
    apply Uses.bind (owns_plain (logEvent_plain _ _ _ _))
    intro _
    trivial
  · trivial

theorem recordSigned_owns (ctx : Context) (arguments : FinalizeArguments) (name : String)
    (startTime : Instant) (signedResult : SignedResult) (verification : Verification) :
    (recordSigned lib ctx arguments name startTime signedResult verification).Uses
      (Owns (.finalize arguments)) := by
  apply Uses.bind (owns_idle (saveSignedPdf_idle _))
  intro fileDoc
  apply Uses.bind (owns_ask rfl)
  intro finished
  apply Uses.bind (owns_ask rfl)
  intro signedOn
  apply Uses.bind (owns_ask rfl)
  intro _
  apply reported_owns
  apply Uses.bind (owns_idle (addTimelineEntry_idle _ _ _))
  intro _
  apply Uses.bind
  · apply Uses.recover (owns_calm (sendSignedNotification_calm _ _ _ _))
    intro exn
    exact owns_ask rfl
  intro _
  apply Uses.bind (owns_ask rfl)
  intro _
  apply Uses.bind (owns_basic (runDevHooks_basic _ _))
  intro _
  trivial

theorem recordFailure_owns (ctx : Context) (arguments : FinalizeArguments) (name : String)
    (reqDoc : SigningRequest) (exn : Exn) :
    (recordFailure lib ctx name reqDoc exn).Uses (Owns (.finalize arguments)) := by
  apply Uses.bind (owns_ask rfl)
  intro _
  apply reported_owns
  apply Uses.bind
  · apply Uses.recover (owns_calm (notifyAdminsOfFailure_calm _ _))
    intro again
    exact owns_ask rfl
  intro _
  apply Uses.bind (owns_ask rfl)
  intro _
  trivial

theorem finalize_owns (ctx : Context) (arguments : FinalizeArguments) :
    (finalize lib ctx arguments).Uses (Owns (.finalize arguments)) := by
  apply Uses.bind (owns_basic (receiveSignature_basic _ _))
  intro received
  apply Uses.bind (owns_ask rfl)
  intro reqDoc
  apply Uses.bind (owns_calm (expectedFingerprint_calm _))
  intro expected
  split
  · apply Uses.bind (owns_ask rfl)
    intro _
    apply Uses.bind (owns_plain (logEvent_plain _ _ _ _))
    intro _
    apply Uses.bind (owns_ask rfl)
    intro _
    trivial
  · apply Uses.bind (Uses.ofExcept _)
    intro chain
    apply Uses.recover
    · apply Uses.bind (owns_idle (finalizeSignedPdf_idle _ _ _))
      intro signedResult
      apply Uses.bind (checkSignedPdf_owns _ _ _ _)
      intro verification
      exact recordSigned_owns _ _ _ _ _ _
    · intro exn
      exact recordFailure_owns _ _ _ _ _

theorem recoverStale_owns (doctype docname : String) (now : Instant) (rows : List ListedRequest)
    (recovers : endpoint.gives .pending = true) :
    (recoverStale doctype docname now rows).Uses (Owns endpoint) := by
  induction rows with
  | nil => trivial
  | cons row rest ih =>
      apply Uses.bind
      · unfold recoverRow
        split
        · apply Uses.bind
          · exact owns_ask recovers
          intro _
          apply Uses.bind (owns_calm (mirror_calm _ _ _))
          intro _
          trivial
        · trivial
      intro row
      apply Uses.bind ih
      intro rest
      trivial

theorem getSigningStatus_owns (ctx : Context) (doctype docname : String)
    (recovers : endpoint.gives .pending = true) :
    (getSigningStatus ctx doctype docname).Uses (Owns endpoint) := by
  apply Uses.bind (owns_ask rfl)
  intro requests
  split
  · trivial
  · apply Uses.bind (owns_ask rfl)
    intro now
    apply Uses.bind (recoverStale_owns _ _ _ _ recovers)
    intro rows
    trivial

theorem retry_owns (ctx : Context) (name : String) :
    (retry lib ctx name).Uses (Owns (.retry name)) := by
  apply Uses.bind (owns_ask rfl)
  intro doc
  apply Uses.bind (Uses.demand _ _)
  intro _
  apply Uses.bind
  · exact owns_ask (beq_self_eq_true name)
  intro _
  apply reported_owns
  trivial

theorem cancel_owns (ctx : Context) (name reason : String) :
    (cancel lib ctx name reason).Uses (Owns (.cancel name reason)) := by
  apply Uses.bind (owns_ask rfl)
  intro doc
  apply Uses.bind (Uses.demand _ _)
  intro _
  apply Uses.bind (owns_ask rfl)
  intro now
  apply Uses.bind
  · exact owns_ask (beq_self_eq_true name)
  intro _
  apply reported_owns
  apply Uses.bind (owns_basic (runDevHooks_basic _ _))
  intro _
  trivial

theorem abortInProgress_owns (ctx : Context) (name reason : String) :
    (abortInProgress lib ctx name reason).Uses (Owns (.abortInProgress name reason)) := by
  apply Uses.bind (owns_ask rfl)
  intro doc
  split
  · trivial
  · apply Uses.bind
    · exact owns_ask (beq_self_eq_true name)
    intro _
    apply reported_owns
    trivial

theorem expireStalePendingRequests_owns :
    expireStalePendingRequests.Uses (Owns .expireStalePendingRequests) := by
  apply Uses.bind (owns_ask rfl)
  intro settings
  apply Uses.bind (owns_ask rfl)
  intro now
  apply Uses.bind (owns_ask rfl)
  intro staleRequests
  apply Uses.bind
  · apply Uses.forEach
    intro name _
    exact owns_ask rfl
  intro _
  split
  · trivial
  · exact owns_ask rfl

theorem body_owns (origin : Origin) : (body lib origin).Uses (Owns origin.endpoint) := by
  obtain ⟨ctx, endpoint⟩ := origin
  cases endpoint with
  | initiate arguments => exact (initiate_owns ctx arguments).bind fun _ => trivial
  | finalize arguments => exact (finalize_owns ctx arguments).bind fun _ => trivial
  | getSigningStatus doctype docname =>
      exact (getSigningStatus_owns ctx doctype docname rfl).bind fun _ => trivial
  | getFormActions doctype docname =>
      have answers : (getFormActions ctx doctype docname).Uses
          (Owns (.getFormActions doctype docname)) := by
        apply Uses.bind (getSigningStatus_owns ctx doctype docname rfl)
        intro statusInfo
        exact Uses.bind (owns_ask rfl) fun _ => trivial
      exact answers.bind fun _ => trivial
  | retry name => exact (retry_owns ctx name).bind fun _ => trivial
  | cancel name reason => exact (cancel_owns ctx name reason).bind fun _ => trivial
  | abortInProgress name reason => exact (abortInProgress_owns ctx name reason).bind fun _ => trivial
  | expireStalePendingRequests => exact expireStalePendingRequests_owns.bind fun _ => trivial

end Uses

/-! ### What a commit does -/

/-- What is known of every world that the site reaches. -/
structure Orderly (lib : Libraries) (world : ServerWorld) : Prop where
  ordered : Ordered (fun _ => false) lib world
  owned : world.Disciplined (fun origin _ => Owns origin.endpoint) fun _ _ _ => True

section Steps

variable {lib : Libraries} {world next : ServerWorld} {label : ServerLabel}

theorem owned_follows (origin : Origin) :
    (body lib origin).Follows (fun _ => Owns origin.endpoint) (fun _ _ => True)
      ([] : ServerTrace) := by
  have follows := (@body_owns lib origin).follows ([] : ServerTrace) fun _ _ owned => owned
  exact follows.weaken fun _ _ _ _ => trivial

theorem unsettled_spent (world : ServerWorld) : world.Holds (Spent fun _ => false) := by
  intro index call program located running name member terminal
  unfold settledIn at terminal
  split at terminal <;> cases terminal

theorem orderly_step (orderly : Orderly lib world)
    (stepped : step (body lib) world label = some next) : Orderly lib next :=
  { ordered :=
      { disciplined := disciplined_step (body lib) body_follows orderly.ordered.disciplined stepped
        exclusive := exclusive_step (body lib) orderly.ordered.exclusive stepped
        spent := unsettled_spent next
        saves := saves_step orderly.ordered stepped }
    owned := disciplined_step (body lib) owned_follows orderly.owned stepped }

end Steps

end DscSigning
