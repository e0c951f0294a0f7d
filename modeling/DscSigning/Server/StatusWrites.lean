/-
The parts of the endpoints that write no status of a request, no copy of one and
no audit event that stands for one, and do not commit.
-/

import DscSigning.Server.EndpointRules

namespace DscSigning

open Interaction Program

variable {lib : Libraries}

def idle : Operation → Bool
  | .setRequest _ update => update.status.isNone
  | .saveRequest .. => false
  | .setDocSign .. => false
  | .insertEvent event => (eventStatus event.eventType).isNone
  | .commit => false
  | _ => true

def Idle (operation : Operation) : Prop := idle operation = true

theorem idle_basic {operation : Operation} (simple : Basic operation) : Idle operation := by
  cases operation with
  | setRequest name update => cases simple
  | saveRequest name loaded edit => cases simple
  | setDocSign name edit => cases simple
  | commit => cases simple
  | insertEvent event =>
      simp only [Basic, basic, Bool.and_eq_true] at simple
      exact simple.2
  | _ => rfl

theorem basic_idle {Value : Type} {program : Server Value} (uses : program.Uses Basic) :
    program.Uses Idle :=
  uses.weaken fun _ => idle_basic

theorem idle_ask {operation : Operation} (simple : idle operation = true) : (ask operation).Uses Idle :=
  Uses.perform simple

theorem checkSigner_idle (ctx : Context) (signingRequest : PendingRequest) :
    (checkSigner ctx signingRequest).Uses Idle :=
  checkSigner_uses ctx signingRequest rfl

theorem checkProfile_idle (ctx : Context) (profile : Profile) :
    (checkProfile lib ctx profile).Uses Idle :=
  checkProfile_uses ctx profile rfl

theorem sourcePdf_idle (arguments : PrepareArguments) : (sourcePdf arguments).Uses Idle :=
  sourcePdf_uses arguments rfl

theorem preparePdfForSigning_idle (arguments : PrepareArguments) :
    (preparePdfForSigning lib arguments).Uses Idle := by
  apply Uses.bind (sourcePdf_idle arguments)
  intro pdf
  apply Uses.bind (idle_ask rfl)
  intro settings
  apply Uses.bind (basic_idle (buildStampText_basic _ _ _))
  intro stampText
  apply Uses.bind (idle_ask rfl)
  intro sessionId
  apply Uses.bind (Uses.ofExcept _)
  intro signerCert
  apply Uses.bind (idle_ask rfl)
  intro prepared
  apply Uses.bind (idle_ask rfl)
  intro signingTime
  apply Uses.bind (idle_ask rfl)
  intro createdAt
  exact Uses.bind (idle_ask rfl) fun _ => trivial

theorem finalizeSignedPdf_idle (sessionId signatureBytesB64 : String) (chain : Json) :
    (finalizeSignedPdf lib sessionId signatureBytesB64 chain).Uses Idle := by
  apply Uses.bind (basic_idle (loadSession_basic sessionId true))
  intro found
  apply Uses.bind (Uses.ofOption _ _)
  intro session
  apply Uses.bind (Uses.ofExcept _)
  intro signedPdfBytes
  exact Uses.bind (idle_ask rfl) fun _ => trivial

/-- The result names the document of a session that was loaded. -/
theorem finalizeSignedPdf_source {allowed : ServerTrace → Operation → Prop} {trace : ServerTrace}
    (always : ∀ earlier query, Idle query → allowed earlier query) (sessionId signature : String)
    (chain : Json) :
    (finalizeSignedPdf lib sessionId signature chain).Follows allowed
      (fun later result => ∀ value, result = .ok value → ∃ session,
        Answered later (.loadSession sessionId) (some session) ∧
        value.doctype = session.doctype ∧ value.docname = session.docname) trace := by
  have loads : (loadSession sessionId true).Follows allowed
      (fun later result => ∀ session, result = .ok (some session) →
        Answered later (.loadSession sessionId) (some session)) trace := by
    refine Follows.perform (always _ _ rfl) (fun raw stamp => ?_)
      (fun error stamp session same => by cases same)
    cases raw with
    | none =>
        intro session same
        cases same
    | some stored =>
        refine Follows.perform (always _ _ rfl) (fun _ later session same => ?_)
          (fun error later session same => by cases same)
        cases same
        exact Answered.head.cons
  refine loads.bind (fun later found _ answered => ?_) (fun _ _ _ _ _ same => by cases same)
  refine Follows.ofOption (fun session same => ?_) (fun _ _ same => by cases same)
  refine Follows.ofExcept (fun signedPdfBytes _ => ?_) (fun _ _ _ same => by cases same)
  refine Follows.perform (always _ _ rfl) (fun existing stamp value same => ?_)
    (fun error stamp value same => by cases same)
  cases same
  exact ⟨session, (answered session (congrArg Except.ok ‹found = some session›)).cons, rfl, rfl⟩

theorem saveSignedPdf_idle (signedResult : SignedResult) :
    (saveSignedPdf signedResult).Uses Idle := by
  apply Uses.bind (idle_ask rfl)
  intro fileDoc
  apply Uses.bind (idle_ask rfl)
  intro flagged
  cases flagged with
  | false => trivial
  | true => exact Uses.bind (idle_ask rfl) fun _ => trivial

theorem addTimelineEntry_idle (doctype docname name : String) :
    (addTimelineEntry lib doctype docname name).Uses Idle := by
  apply Uses.bind (idle_ask rfl)
  intro req
  apply Uses.bind (idle_ask rfl)
  intro profile
  exact idle_ask rfl

end DscSigning
