/-
The email gate: what `make` checks and attaches before it hands over to core.

As at the print gate, which of several matching rows `frappe.db.get_value`
returns is left open.
-/

import DscSigning.Server.PrintGate
import DscSigning.Server.SigningEngine

namespace DscSigning

/-- DSC Rule, as far as the gate reads it. -/
structure EmailRule where
  targetDoctype : String
  isEnabled : Bool
  blockEmailUntilSigned : Bool
deriving DecidableEq

structure EmailSite where
  rules : Table String EmailRule
  requests : Table String SigningRequest
  files : Table String FileRow

/-- The `kwargs` of `make`; `others` are the ones the gate hands on unread. -/
structure EmailArguments where
  doctype : Text
  name : Text
  attachments : Option Json
  others : List (String × Json)

variable (site : EmailSite)

def EmailRule.blocks (doctype : String) (rule : EmailRule) : Bool :=
  rule.targetDoctype == doctype && rule.isEnabled && rule.blockEmailUntilSigned

def checkEmailAllowed (doctype docname : String) (rulePick requestPick : Nat) : Except Exn Unit :=
  match getValue site.rules (EmailRule.blocks doctype) rulePick with
  | none => .ok ()
  | some _ =>
      match getValue site.requests (SigningRequest.signedFor doctype docname) requestPick with
      | some _ => .ok ()
      | none => .error (thrown
          (s!"This {doctype} requires a digital signature before it can be emailed. " ++
            "Please sign the document first using 'Sign with DSC'."))

/-- The name of the File to attach. -/
def getSignedPdfForAttachment (doctype docname : String) (requestPick : Nat) :
    Except Exn (Option String) :=
  let signedFileName : Text :=
    (getValue site.requests (SigningRequest.signedFor doctype docname) requestPick).bind
      SigningRequest.signedFile
  if signedFileName.given then
    (orMissing "File" signedFileName.show (site.files.lookup signedFileName.show)).map fun _ =>
      some signedFileName.show
  else .ok none

/-- The attachment is the signed file, as a dict with its `fid` or by its name. -/
def namesFile (file : String) : Json → Bool
  | .object fields =>
      match fields.find? fun field => field.1 == "fid" with
      | some (_, .text fid) => fid == file
      | _ => false
  | .text name => name == file
  | _ => false

/-- `attachments or []`, with the signed file unless it is there already. -/
def attachSigned (attachments : Option Json) (file : String) : Except Exn (Option Json) := do
  let existing := match attachments with
    | some given => if given.truthy then given else .list []
    | none => .list []
  let items ← existing.iterate
  if items.any (namesFile file) then pure attachments
  else pure (some (.list (items ++ [.object [("fid", .text file)]])))

/-- `make`, up to the call of core's `make` with the arguments it returns. -/
def makeEmail (arguments : EmailArguments) (rulePick checkPick requestPick : Nat) :
    Except Exn EmailArguments :=
  if arguments.doctype.given && arguments.name.given then do
    let doctype := arguments.doctype.show
    let docname := arguments.name.show
    checkEmailAllowed site doctype docname rulePick checkPick
    let signedFile ← getSignedPdfForAttachment site doctype docname requestPick
    match signedFile with
    | none => pure arguments
    | some file => do
        let attachments ← attachSigned arguments.attachments file
        pure { arguments with attachments := attachments }
  else pure arguments

end DscSigning
