/-
The trust roots that a signed PDF is verified against.

The bundle shipped with the application and the uploaded one are parsed inside
one exception scope, so an upload that cannot be read takes the shipped roots
with it.
-/

import DscSigning.Server.CanSign

namespace DscSigning

open Interaction Engine

variable (lib : Libraries)

/-- `_parse_pem_certs`, on the DER blocks that `pem.unarmor` finds. -/
def parsePemCerts (unarmor : Bytes → Except Exn (List Bytes)) (content : Bytes) :
    Except Exn (List X509) := do
  let blocks ← unarmor content
  blocks.mapM lib.loadCertificate

/-- The certificates of the upload, where DSC Settings name one. -/
def uploadedCerts (masters : Masters) : Except Exn (List X509) :=
  let bundleUrl := masters.settings.trustStoreBundle
  if bundleUrl.given then do
    let content ← orMissing "File" bundleUrl.show (masters.upload bundleUrl.show)
    lib.parsePemCerts content
  else .ok []

/-- The body of `_load_trust_store` on the two bundles. -/
def loadedRoots (shipped : Bytes) (masters : Masters) : Except Exn (Option (List X509)) := do
  let builtin ← lib.parsePemCerts shipped
  let uploaded ← uploadedCerts lib masters
  let anchors := builtin ++ uploaded
  if anchors.isEmpty then pure none
  else do
    lib.validationContext anchors
    pure (some anchors)

/-- What `_load_trust_store` returns: nothing, if anything was raised. -/
def trustRoots (shipped : Bytes) (masters : Masters) : Option (List X509) :=
  match loadedRoots lib shipped masters with
  | .ok trust => trust
  | .error _ => none

/-- Surroundings that raise nothing, with this bundle beside the code. -/
def Shipping (shipped : Bytes) (oracle : Oracle) : Prop :=
  oracle.fault = none ∧ oracle.given .builtinBundle = some (some shipped)

variable {lib}

section Load

variable {shipped : Bytes} {data : Database} {shared : Shared} {trace : ServerTrace} {Result : Type}
  {post : Except Exn Result → Database → Shared → ServerTrace → Prop}

theorem shipping_calm (oracle : Oracle) (shipping : Shipping shipped oracle) :
    oracle.fault = none := shipping.1

theorem shipping_answers (shipped : Bytes) (view : Database) (shared : Shared)
    (operation : Operation) :
    ∃ oracle replied, Shipping shipped oracle ∧ reply oracle view shared operation = some replied := by
  obtain ⟨oracle, replied, calm, answered⟩ := calm_answers view shared operation
  have quiet := calm.resolve_left id
  refine ⟨{ oracle with given := fun asked => match asked with
    | .builtinBundle => some (some shipped)
    | other => oracle.given other }, ?_⟩
  simp only [reply, quiet] at answered ⊢
  cases operation with
  | builtinBundle => exact ⟨_, ⟨rfl, rfl⟩, rfl⟩
  | _ => exact ⟨replied, ⟨rfl, rfl⟩, answered⟩

/-- The call has learned this, and its data and writes are as before. -/
def Learned {Value : Type} (told : Except Exn Value) (data : Database) (trace : ServerTrace)
    (result : Except Exn Value) (after : Database) (_shared : Shared) (grown : ServerTrace) : Prop :=
  result = told ∧ after = data ∧ site.pending grown = site.pending trace

theorem shippedAnchors_ensures :
    @Ensures face site (List X509) (Shipping shipped)
      (Learned (lib.parsePemCerts shipped) data trace) (shippedAnchors lib) data shared trace := by
  refine ensures_seen shipping_calm (by simp) (fun _ _ => rfl) ?_ ?_
  · intro oracle given later shipping answered pending
    simp only [answer, shipping.2, Option.map_some, Option.some.injEq, Prod.mk.injEq,
      Except.ok.injEq] at answered
    rw [← answered.1]
    simp only [attempt]
    cases parsed : lib.parsePemCerts shipped with
    | ok certs => exact ⟨rfl, rfl, pending⟩
    | error exn => exact ⟨rfl, rfl, pending⟩
  · intro oracle exn later shipping answered pending
    simp only [answer, shipping.2, Option.map_some, Option.some.injEq, Prod.mk.injEq, reduceCtorEq,
      false_and] at answered

theorem uploadedAnchors_ensures :
    @Ensures face site (List X509) (Shipping shipped)
      (Learned (uploadedCerts lib (site.view data (site.pending trace)).masters) data trace)
      (uploadedAnchors lib) data shared trace := by
  refine ensures_seen shipping_calm (by simp) (fun _ _ => rfl) ?_ ?_
  · intro oracle bundleUrl later _ answered pending
    simp only [answer, Option.some.injEq, Prod.mk.injEq, Except.ok.injEq] at answered
    obtain ⟨rfl, rfl⟩ := answered
    unfold uploadedCerts
    split
    · rename_i given
      simp only [if_pos given]
      refine ensures_seen shipping_calm (by simp) (fun _ _ => rfl) ?_ ?_
      · intro oracle content later _ answered unwritten
        rw [pending] at answered unwritten
        simp only [answer, Option.some.injEq, Prod.mk.injEq] at answered
        rw [answered.1]
        simp only [attempt]
        cases parsed : lib.parsePemCerts content with
        | ok certs => exact ⟨by rw [← parsed]; rfl, rfl, unwritten⟩
        | error exn => exact ⟨by rw [← parsed]; rfl, rfl, unwritten⟩
      · intro oracle exn later _ answered unwritten
        rw [pending] at answered unwritten
        simp only [answer, Option.some.injEq, Prod.mk.injEq] at answered
        rw [answered.1]
        exact ⟨rfl, rfl, unwritten⟩
    · rename_i absent
      simp only [if_neg absent]
      exact ⟨rfl, rfl, pending⟩
  · intro oracle exn later _ answered pending
    cases answered

/-- Run in any call, `_load_trust_store` returns what the call sees of the bundles. -/
theorem loadTrustStore_ensures :
    @Ensures face site (Option (List X509)) (Shipping shipped)
      (fun result _ _ _ =>
        result = .ok (trustRoots lib shipped (site.view data (site.pending trace)).masters))
      (loadTrustStore lib) data shared trace := by
  have loads : @Ensures face site (Option (List X509)) (Shipping shipped)
      (fun result _ _ _ =>
        result = loadedRoots lib shipped (site.view data (site.pending trace)).masters)
      (do
        let shipped ← shippedAnchors lib
        let uploaded ← uploadedAnchors lib
        let anchors := shipped ++ uploaded
        if anchors.isEmpty then pure none
        else do
          attempt (lib.validationContext anchors)
          pure (some anchors)) data shared trace := by
    unfold loadedRoots
    refine shippedAnchors_ensures.bind ?_ ?_
    · rintro builtin after later grown ⟨parsed, rfl, same⟩
      rw [← parsed]
      refine uploadedAnchors_ensures.bind ?_ ?_
      · rintro uploaded after later grown ⟨told, rfl, -⟩
        rw [same] at told
        rw [← told]
        change @Ensures face site (Option (List X509)) _ _
          (if (builtin ++ uploaded).isEmpty then pure none
            else (attempt (lib.validationContext (builtin ++ uploaded))).bind fun _ =>
              pure (some (builtin ++ uploaded))) _ _ _
        simp only [bind, Except.bind]
        split
        · rfl
        · cases accepted : lib.validationContext (builtin ++ uploaded) with
          | ok _ => rfl
          | error exn => rfl
      · rintro exn after later grown ⟨told, -, -⟩
        rw [same] at told
        rw [← told]
        rfl
    · rintro exn after later grown ⟨parsed, -, -⟩
      rw [← parsed]
      rfl
  refine loads.recover ?_ ?_
  · intro trust after later grown loaded
    simp only [trustRoots, ← loaded]
  · intro exn after later grown loaded
    simp only [trustRoots, ← loaded, Program.bind_eq]
    refine Ensures.perform ?_ ?_
    · intro oracle given later shipping replied
      rfl
    · intro oracle raised later shipping replied
      simp only [reply, shipping.1, answer, Option.map_eq_some_iff, Prod.mk.injEq, reduceCtorEq,
        false_and, and_false, exists_false] at replied

end Load

/-! ### Additivity -/

/-- The bundle beside the code can be read, and its roots are accepted. -/
structure ShippedRoots (lib : Libraries) (shipped : Bytes) (roots : List X509) : Prop where
  parsed : lib.parsePemCerts shipped = .ok roots
  nonempty : roots ≠ []
  accepted : lib.validationContext roots = .ok ()

/-- More trust roots never end the trust in a signature. -/
def MoreRootsTrustMore (lib : Libraries) : Prop :=
  ∀ fewer more pdf sig status, fewer ⊆ more → lib.validate (some fewer) pdf sig = .ok status →
    status.trusted = true →
    ∃ other, lib.validate (some more) pdf sig = .ok other ∧ other.trusted = true

/-- A trust store with the shipped roots and the certificates of a well-formed
upload, which trusts every signature that the shipped roots alone trust. -/
structure Additive (lib : Libraries) (roots : List X509) (masters : Masters)
    (anchors : List X509) : Prop where
  shipped : roots ⊆ anchors
  uploaded : ∀ certs, uploadedCerts lib masters = .ok certs → certs ⊆ anchors
  trusts : ∀ pdf sig, (reportSignature lib (some roots) pdf sig).trusted = true →
    (reportSignature lib (some anchors) pdf sig).trusted = true

/-- No upload, or one whose File exists, whose blocks are all certificates, and
which `ValidationContext` accepts beside the shipped roots. -/
def UploadReads (lib : Libraries) (unarmor : Bytes → Except Exn (List Bytes)) (roots : List X509)
    (masters : Masters) : Prop :=
  masters.settings.trustStoreBundle.given = false ∨
    ∃ content blocks certs, masters.upload masters.settings.trustStoreBundle.show = some content ∧
      unarmor content = .ok blocks ∧
      List.Forall₂ (fun der cert => lib.loadCertificate der = .ok cert) blocks certs ∧
      lib.validationContext (roots ++ certs) = .ok ()

theorem mapM_ok_iff {Item Value : Type} {parse : Item → Except Exn Value} {items : List Item}
    {values : List Value} :
    items.mapM parse = .ok values ↔ List.Forall₂ (fun item value => parse item = .ok value) items
      values := by
  induction items generalizing values with
  | nil =>
      rw [List.mapM_nil, List.forall₂_nil_left_iff]
      exact ⟨fun same => (Except.ok.inj same).symm, fun same => by rw [same]; rfl⟩
  | cons head rest ih =>
      rw [List.mapM_cons, List.forall₂_cons_left_iff]
      constructor
      · intro parsed
        obtain ⟨value, first, parsed⟩ := bind_ok parsed
        obtain ⟨others, later, same⟩ := bind_ok parsed
        exact ⟨value, others, first, ih.mp later, (Except.ok.inj same).symm⟩
      · rintro ⟨value, others, first, later, rfl⟩
        rw [first, ih.mpr later]
        rfl

section Roots

variable {shipped : Bytes} {roots : List X509} {masters : Masters}

theorem uploadedCerts_given {unarmor : Bytes → Except Exn (List Bytes)}
    (source : lib.parsePemCerts = parsePemCerts lib unarmor)
    (given : masters.settings.trustStoreBundle.given = true) (certs : List X509) :
    uploadedCerts lib masters = .ok certs ↔
      ∃ content blocks, masters.upload masters.settings.trustStoreBundle.show = some content ∧
        unarmor content = .ok blocks ∧
        List.Forall₂ (fun der cert => lib.loadCertificate der = .ok cert) blocks certs := by
  simp only [uploadedCerts, if_pos given, source]
  constructor
  · intro parsed
    obtain ⟨content, found, parsed⟩ := bind_ok parsed
    obtain ⟨blocks, unarmored, loaded⟩ := bind_ok parsed
    refine ⟨content, blocks, ?_, unarmored, mapM_ok_iff.mp loaded⟩
    cases there : masters.upload masters.settings.trustStoreBundle.show with
    | none =>
        rw [there] at found
        cases found
    | some stored =>
        rw [there] at found
        cases found
        rfl
  · rintro ⟨content, blocks, found, unarmored, loaded⟩
    simp only [found, orMissing, parsePemCerts]
    change (unarmor content >>= fun blocks => blocks.mapM lib.loadCertificate) = .ok certs
    rw [unarmored]
    exact mapM_ok_iff.mpr loaded

theorem loadedRoots_some (bundle : ShippedRoots lib shipped roots) (anchors : List X509) :
    loadedRoots lib shipped masters = .ok (some anchors) ↔
      ∃ certs, uploadedCerts lib masters = .ok certs ∧ anchors = roots ++ certs ∧
        lib.validationContext anchors = .ok () := by
  simp only [loadedRoots, bundle.parsed]
  constructor
  · intro loaded
    obtain ⟨builtin, same, loaded⟩ := bind_ok loaded
    cases same
    obtain ⟨certs, uploaded, loaded⟩ := bind_ok loaded
    refine ⟨certs, uploaded, ?_⟩
    split at loaded
    · cases loaded
    · obtain ⟨_, accepted, same⟩ := bind_ok loaded
      cases same
      exact ⟨rfl, accepted⟩
  · rintro ⟨certs, uploaded, rfl, accepted⟩
    have filled : (roots ++ certs).isEmpty = false := by
      simp [bundle.nonempty]
    rw [uploaded]
    simp only [bind, Except.bind, filled, Bool.false_eq_true, if_false, accepted]
    rfl

theorem uploadReads_iff {unarmor : Bytes → Except Exn (List Bytes)}
    (source : lib.parsePemCerts = parsePemCerts lib unarmor)
    (bundle : ShippedRoots lib shipped roots) :
    UploadReads lib unarmor roots masters ↔
      ∃ certs, uploadedCerts lib masters = .ok certs ∧
        lib.validationContext (roots ++ certs) = .ok () := by
  cases given : masters.settings.trustStoreBundle.given with
  | false =>
      refine iff_of_true (Or.inl given) ⟨[], ?_, ?_⟩
      · simp [uploadedCerts, given]
      · rw [List.append_nil]
        exact bundle.accepted
  | true =>
      simp only [UploadReads, given, reduceCtorEq, false_or, uploadedCerts_given source given]
      constructor
      · rintro ⟨content, blocks, certs, found, unarmored, loaded, accepted⟩
        exact ⟨certs, ⟨content, blocks, found, unarmored, loaded⟩, accepted⟩
      · rintro ⟨certs, ⟨content, blocks, found, unarmored, loaded⟩, accepted⟩
        exact ⟨content, blocks, certs, found, unarmored, loaded, accepted⟩

theorem moreRoots_report (monotone : MoreRootsTrustMore lib) {fewer more : List X509}
    (subset : fewer ⊆ more) (pdf : Bytes) (sig : EmbeddedSignature)
    (trusted : (reportSignature lib (some fewer) pdf sig).trusted = true) :
    (reportSignature lib (some more) pdf sig).trusted = true := by
  unfold reportSignature at trusted
  split at trusted
  · rename_i status validated
    obtain ⟨other, again, still⟩ := monotone fewer more pdf sig status subset validated trusted
    simp only [reportSignature, again]
    exact still
  · cases trusted

end Roots

/-- `_load_trust_store` gives the shipped roots with those of the upload exactly if
there is no upload, or one that can be read and is accepted. -/
theorem trust_store_additive_iff {unarmor : Bytes → Except Exn (List Bytes)} {shipped : Bytes}
    {roots : List X509} (source : lib.parsePemCerts = parsePemCerts lib unarmor)
    (bundle : ShippedRoots lib shipped roots) (monotone : MoreRootsTrustMore lib) (data : Database)
    (shared : Shared) (trace : ServerTrace) :
    @Ensures face site (Option (List X509)) (Shipping shipped)
        (fun result _ _ _ => ∃ anchors, result = .ok (some anchors) ∧
          Additive lib roots (site.view data (site.pending trace)).masters anchors)
        (loadTrustStore lib) data shared trace ↔
      UploadReads lib unarmor roots (site.view data (site.pending trace)).masters := by
  rw [uploadReads_iff source bundle]
  constructor
  · intro additive
    have exactly : @Ensures face site (Option (List X509)) (Shipping shipped) _ (loadTrustStore lib)
      data shared trace := loadTrustStore_ensures
    obtain ⟨result, _, _, _, ⟨anchors, same, -⟩, returned⟩ :=
      (additive.both exactly).met (shipping_answers shipped)
    rw [same, Except.ok.injEq, trustRoots] at returned
    split at returned
    · rename_i trust loaded
      subst returned
      obtain ⟨certs, uploaded, rfl, accepted⟩ := (loadedRoots_some bundle anchors).mp loaded
      exact ⟨certs, uploaded, accepted⟩
    · cases returned
  · rintro ⟨certs, uploaded, accepted⟩
    refine loadTrustStore_ensures.weaken ?_
    rintro result _ _ _ rfl
    have loaded := (loadedRoots_some bundle (roots ++ certs)).mpr ⟨certs, uploaded, rfl, accepted⟩
    refine ⟨roots ++ certs, by rw [trustRoots, loaded], List.subset_append_left roots certs, ?_, ?_⟩
    · intro others same
      rw [uploaded, Except.ok.injEq] at same
      rw [← same]
      exact List.subset_append_right roots certs
    · exact moreRoots_report monotone (List.subset_append_left roots certs)

/-! ### Two uploads -/

def sampleRoot : X509 := ⟨[48, 0], [], 1⟩

def shippedPem : Bytes := utf8 "-----BEGIN CERTIFICATE-----\nMAA=\n-----END CERTIFICATE-----\n"

def extraPem : Bytes := utf8 "-----BEGIN CERTIFICATE-----\nMAEA\n-----END CERTIFICATE-----\n"

/-- `pem.unarmor` on the two bundles and on a text that is no PEM. -/
def sampleUnarmor (content : Bytes) : Except Exn (List Bytes) :=
  if content = shippedPem then .ok [[48, 0]]
  else if content = extraPem then .ok [[48, 1, 0]]
  else .error ⟨"ValueError", "pem_bytes does not appear to contain PEM-encoded data"⟩

/-- A signature is trusted where the sample root is. -/
def trustLibraries : Libraries :=
  { sampleLibraries with
    parsePemCerts := parsePemCerts sampleLibraries sampleUnarmor
    validate := fun trust _ _ =>
      let trusted := trust.any fun anchors => anchors.contains sampleRoot
      .ok ⟨true, true, trusted, trusted⟩ }

/-- A site with this upload. -/
def uploadedSite (content : Bytes) : ServerWorld :=
  installed
    { sampleMasters with
      settings := { sampleMasters.settings with trustStoreBundle := some "/files/ca.pem" }
      upload := fun _ => some content } 0 0

theorem trustLibraries_shipped : ShippedRoots trustLibraries shippedPem [sampleRoot] :=
  ⟨by decide +kernel, by simp, rfl⟩

theorem trustLibraries_monotone : MoreRootsTrustMore trustLibraries := by
  intro fewer more pdf sig status subset validated trusted
  cases validated
  refine ⟨_, rfl, ?_⟩
  simp only [Option.any_some, List.contains_iff_mem] at trusted ⊢
  exact subset trusted

theorem trust_store_additive_extra :
    @Ensures face site (Option (List X509)) (Shipping shippedPem)
      (fun result _ _ _ => ∃ anchors, result = .ok (some anchors) ∧
        Additive trustLibraries [sampleRoot]
          (site.view (uploadedSite extraPem).data (site.pending [])).masters anchors)
      (loadTrustStore trustLibraries) (uploadedSite extraPem).data (uploadedSite extraPem).shared
      [] := by
  refine (trust_store_additive_iff rfl trustLibraries_shipped trustLibraries_monotone _ _ _).mpr
    (Or.inr ⟨extraPem, [[48, 1, 0]], [⟨[48, 1, 0], [], 1⟩], rfl, by decide +kernel, ?_, rfl⟩)
  exact .cons rfl .nil

/-- An upload that is no PEM: no trust store, and the signature is not trusted any more. -/
theorem malformed_upload_untrusts :
    ShippedRoots trustLibraries shippedPem [sampleRoot] ∧
    @Ensures face site (Option (List X509)) (Shipping shippedPem)
      (fun result _ _ _ => result = .ok none) (loadTrustStore trustLibraries)
      (uploadedSite (utf8 "no PEM")).data (uploadedSite (utf8 "no PEM")).shared [] ∧
    (reportSignature trustLibraries (some [sampleRoot]) [] ⟨"DSC_Signature_SR-1", []⟩).trusted =
      true ∧
    (reportSignature trustLibraries none [] ⟨"DSC_Signature_SR-1", []⟩).trusted = false := by
  refine ⟨trustLibraries_shipped, loadTrustStore_ensures.weaken ?_, by decide, by decide⟩
  rintro result _ _ _ rfl
  have nothing : trustRoots trustLibraries shippedPem
      (site.view (uploadedSite (utf8 "no PEM")).data (site.pending [])).masters = none := by
    decide +kernel
  rw [nothing]

end DscSigning
