/-
What stands behind a computer that a page calls paired, and behind a
certificate that a page calls registered.

The first was agreed to in the dialog of that computer, the second lies on a
token that is plugged in there.
-/

import DscSigning.Bridge.Consent
import DscSigning.Handshake.FormRules
import DscSigning.Handshake.SignedFlow
import DscSigning.Server.AgentAnswers

namespace DscSigning.Page

open Interaction Clients

variable {lib : AgentApi.Libraries} {bridge : Bridge.Libraries} {platform : Platform}
  {ports : Nat → Int}

section Answers

variable {system : (desk lib bridge platform ports).System} (genuine : system.Genuine) {index : Nat}
  {client : (desk lib bridge platform ports).Client} (located : system.clients[index]? = some client)

include genuine located

end Answers

section Forms

variable {start : Start} {labels : List (desk lib bridge platform ports).Label}
  {system : (desk lib bridge platform ports).System}

end Forms

/-! ### A computer is paired, and its certificate registered -/

end DscSigning.Page
