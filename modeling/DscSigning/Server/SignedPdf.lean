/-
What the PDF of a Signed request shows.

`finalize` turns a PDF away only when no signature is found in it; whether the
one it has just embedded verifies is reported and not asked.  So the PDF of a
Signed request carries a verifying signature in every run in which the
signature values that get this far are good ones.
-/

import DscSigning.Server.Provenance

namespace DscSigning

open Interaction Engine

variable (lib : Libraries)

/-- The validator finds the signature of the field intact and valid. -/
def Genuine (trust : Option (List X509)) (pdf : Bytes) (field : String) : Prop :=
  ∃ sigs sig status, lib.embeddedSignatures pdf = .ok sigs ∧ sig ∈ sigs ∧ sig.fieldName = field ∧
    lib.validate trust pdf sig = .ok status ∧ status.intact = true ∧ status.valid = true

variable {lib}

theorem reportSignature_ok {trust : Option (List X509)} {pdf : Bytes} {sig : EmbeddedSignature}
    {status : SignatureStatus} (validated : lib.validate trust pdf sig = .ok status) :
    (reportSignature lib trust pdf sig).fieldName = sig.fieldName ∧
      (reportSignature lib trust pdf sig).intact = some status.intact ∧
      (reportSignature lib trust pdf sig).valid = some status.valid := by
  simp only [reportSignature, validated, and_self]

/-- A genuine signature of the field is in the report on the document. -/
theorem Genuine.reported {trust : Option (List X509)} {pdf : Bytes} {field : String}
    (genuine : Genuine lib trust pdf field) {sigs : List EmbeddedSignature}
    (read : lib.embeddedSignatures pdf = .ok sigs) :
    ∃ reports entry, (verification lib trust pdf sigs).signatures = some reports ∧
      entry ∈ reports ∧ entry.fieldName = field ∧ entry.intact = some true ∧
      entry.valid = some true := by
  obtain ⟨found, sig, status, again, member, named, validated, intact, valid⟩ := genuine
  rw [read] at again
  cases again
  obtain ⟨sameField, sameIntact, sameValid⟩ := reportSignature_ok validated
  refine ⟨_, reportSignature lib trust pdf sig, rfl, List.mem_map_of_mem member, ?_, ?_, ?_⟩
  · rw [sameField, named]
  · rw [sameIntact, intact]
  · rw [sameValid, valid]

end DscSigning
