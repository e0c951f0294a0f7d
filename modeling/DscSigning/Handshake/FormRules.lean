/-
What the two forms that talk to the agent rest their reports on.

DSC Profile registers a certificate that the agent has listed to it, the one
that the user chose of several.  DSC Agent Registration calls a computer paired
when the agent has taken the code that the site had made for it.
-/

import DscSigning.Handshake.FlowRules
import DscSigning.Handshake.TokenForms

namespace DscSigning.Page

open Interaction Program

variable {Stamp : Type} {platform : Platform} {window : Window}

/-! ### DSC Profile -/

/-- The agent has listed the certificate, alone or as the one that the user chose. -/
def Listed (window : Window) (trace : Trace face Stamp) (cert : Bridge.CertInfo) : Prop :=
  ∃ siteToken resp,
    Told trace (.fetch defaultAgentPort (getRequest window "/v1/certs" siteToken)) resp ∧
    cert ∈ listedCerts resp.body ∧
    (listedCerts resp.body = [cert] ∨ ∃ index : Nat,
      Told trace (.chooseCertificate ((listedCerts resp.body).map certificateLabel)) index ∧
      (listedCerts resp.body)[index]? = some cert)

theorem Listed.mono {trace later : Trace face Stamp} {cert : Bridge.CertInfo}
    (listed : Listed window trace cert) (suffix : trace <:+ later) : Listed window later cert := by
  obtain ⟨siteToken, resp, told, member, alone | ⟨index, chosen, there⟩⟩ := listed
  · exact ⟨siteToken, resp, told.mono suffix, member, Or.inl alone⟩
  · exact ⟨siteToken, resp, told.mono suffix, member, Or.inr ⟨index, chosen.mono suffix, there⟩⟩

/-- Neither a report nor a registration. -/
def Quiet : Operation → Prop
  | .agentApi (.registerCertificate ..) => False
  | .reloadDoc => False
  | .message _ => False
  | _ => True

section Registration

variable {profileName : String} {trace : Trace face Stamp}

/-- What `fetch_token_certs` returns is the list of an answer of the agent. -/
def FromAgent (window : Window) (trace : Trace face Stamp) (certs : List Bridge.CertInfo) : Prop :=
  ∃ siteToken resp,
    Told trace (.fetch defaultAgentPort (getRequest window "/v1/certs" siteToken)) resp ∧
    certs = listedCerts resp.body

theorem FromAgent.mono {trace later : Trace face Stamp} {certs : List Bridge.CertInfo}
    (listed : FromAgent window trace certs) (suffix : trace <:+ later) :
    FromAgent window later certs := by
  obtain ⟨siteToken, resp, told, same⟩ := listed
  exact ⟨siteToken, resp, told.mono suffix, same⟩

end Registration

/-! ### DSC Agent Registration -/

section Pairing

variable {trace : Trace face Stamp}

end Pairing

end DscSigning.Page
