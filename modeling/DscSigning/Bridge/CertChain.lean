/-
When the chain that the bridge fetches is one.

The loop takes what the servers return: whether it is a chain depends on what is
served for every certificate that is reached.
-/

import DscSigning.Bridge.OcspRequest

namespace DscSigning.Bridge

def X509.SelfSigned (cert : X509) : Prop :=
  cert.rawSubject = cert.rawIssuer ∧ cert.signedByOwnKey = true

section

variable (lib : X509Libraries) (network : Network)

/-- The certificate of an issuer that is not a root. -/
def IsIssuer (current : X509) (issuerDER : Bytes) (issuer : X509) : Prop :=
  lib.parseCertificate issuerDER = .ok issuer ∧ issuer.rawSubject = current.rawIssuer ∧
    ¬ issuer.SelfSigned

/-- Each element parses, has the issuer of the one before as its subject, and is no root. -/
inductive Issuers : X509 → List Bytes → Prop where
  | done {current : X509} : Issuers current []
  | next {current issuer : X509} {issuerDER : Bytes} {rest : List Bytes}
      (issues : IsIssuer lib current issuerDER issuer) (more : Issuers issuer rest) :
      Issuers current (issuerDER :: rest)

structure IssuerChain (leaf : X509) (chain : List Bytes) : Prop where
  short : chain.length ≤ 5
  issuers : Issuers lib leaf chain

/-- The certificate's names differ as texts, and its first address serves the bytes. -/
def Serves (current : X509) (issuerDER : Bytes) : Prop :=
  lib.nameString current.rawSubject ≠ lib.nameString current.rawIssuer ∧
    ∃ url rest, current.issuingCertificateURL = url :: rest ∧
      fetchDER lib network url = .ok issuerDER

/-- What is served and parses, level by level. -/
inductive Reached : X509 → Nat → X509 → Prop where
  | here {current : X509} : Reached current 0 current
  | above {current issuer cert : X509} {issuerDER : Bytes} {level : Nat}
      (serves : Serves lib network current issuerDER)
      (parsed : lib.parseCertificate issuerDER = .ok issuer)
      (reached : Reached issuer level cert) : Reached current (level + 1) cert

/-- Below the given level, whatever is served for a certificate is its issuer's, and no root. -/
def GenuineBelow (levels : Nat) (leaf : X509) : Prop :=
  ∀ level < levels, ∀ current, Reached lib network leaf level current →
    ∀ issuerDER, Serves lib network current issuerDER →
      ∃ issuer, IsIssuer lib current issuerDER issuer

variable {lib network}

theorem Serves.unique {current : X509} {one other : Bytes}
    (first : Serves lib network current one) (second : Serves lib network current other) :
    one = other := by
  obtain ⟨_, url, rest, urls, fetched⟩ := first
  obtain ⟨_, url', rest', urls', fetched'⟩ := second
  rw [urls] at urls'
  injection urls' with same
  rw [← same, fetched] at fetched'
  exact Except.ok.inj fetched'

/-- One round of the loop: nothing is served, or what is served is appended. -/
theorem walkChain_cases (levels : Nat) (current : X509) :
    (walkChain lib network (levels + 1) current = [] ∧
      ∀ issuerDER, ¬ Serves lib network current issuerDER) ∨
    ∃ issuerDER, Serves lib network current issuerDER ∧
      walkChain lib network (levels + 1) current = issuerDER ::
        match lib.parseCertificate issuerDER with
        | .error _ => []
        | .ok issuer => walkChain lib network levels issuer := by
  rw [walkChain]
  cases urls : current.issuingCertificateURL with
  | nil =>
      left
      refine ⟨rfl, ?_⟩
      rintro issuerDER ⟨_, url, rest, some, _⟩
      rw [urls] at some
      cases some
  | cons url rest =>
      by_cases root : lib.nameString current.rawSubject = lib.nameString current.rawIssuer
      · left
        exact ⟨if_pos root, fun issuerDER serves => serves.1 root⟩
      · simp only [if_neg root]
        cases fetched : fetchDER lib network url with
        | error error =>
            left
            refine ⟨rfl, ?_⟩
            rintro issuerDER ⟨_, url', rest', urls', fetched'⟩
            rw [urls] at urls'
            injection urls' with same
            rw [← same, fetched] at fetched'
            cases fetched'
        | ok issuerDER =>
            right
            exact ⟨issuerDER, ⟨root, url, rest, urls, fetched⟩, rfl⟩

theorem walkChain_length (levels : Nat) (current : X509) :
    (walkChain lib network levels current).length ≤ levels := by
  induction levels generalizing current with
  | zero => exact Nat.le_refl 0
  | succ levels ih =>
      rcases walkChain_cases levels current with ⟨stops, _⟩ | ⟨issuerDER, _, appended⟩
      · rw [stops]
        exact Nat.zero_le _
      · rw [appended, List.length_cons]
        cases parsed : lib.parseCertificate issuerDER with
        | error error => exact Nat.succ_le_succ (Nat.zero_le _)
        | ok issuer => exact Nat.succ_le_succ (ih issuer)

theorem genuineBelow_succ {levels : Nat} {current : X509} {issuerDER : Bytes}
    (serves : Serves lib network current issuerDER) :
    GenuineBelow lib network (levels + 1) current ↔
      ∃ issuer, IsIssuer lib current issuerDER issuer ∧
        GenuineBelow lib network levels issuer := by
  constructor
  · intro genuine
    obtain ⟨issuer, issues⟩ := genuine 0 (Nat.zero_lt_succ _) current .here issuerDER serves
    refine ⟨issuer, issues, ?_⟩
    intro level below cert reached
    exact genuine (level + 1) (Nat.succ_lt_succ below) cert (.above serves issues.1 reached)
  · rintro ⟨issuer, issues, genuine⟩ level below cert reached
    cases reached with
    | here =>
        intro other served
        rw [← serves.unique served]
        exact ⟨issuer, issues⟩
    | above served parsed reached =>
        rw [← serves.unique served, issues.1] at parsed
        cases parsed
        exact genuine _ (Nat.lt_of_succ_lt_succ below) cert reached

theorem walkChain_issuers (levels : Nat) (current : X509) :
    Issuers lib current (walkChain lib network levels current) ↔
      GenuineBelow lib network levels current := by
  induction levels generalizing current with
  | zero =>
      refine iff_of_true .done ?_
      intro level below
      exact absurd below (Nat.not_lt_zero level)
  | succ levels ih =>
      rcases walkChain_cases levels current with ⟨stops, silent⟩ | ⟨issuerDER, serves, appended⟩
      · rw [stops]
        refine iff_of_true .done ?_
        intro level below cert reached
        cases reached with
        | here =>
            intro issuerDER serves
            exact absurd serves (silent issuerDER)
        | above serves parsed reached => exact absurd serves (silent _)
      · rw [appended, genuineBelow_succ serves]
        constructor
        · intro issuers
          cases issuers with
          | next issues more =>
              simp only [issues.1] at more
              exact ⟨_, issues, (ih _).mp more⟩
        · rintro ⟨issuer, issues, genuine⟩
          refine .next issues ?_
          simp only [issues.1]
          exact (ih issuer).mpr genuine

/-- The chain of a certificate is one exactly where every server on the way up is genuine. -/
theorem fetchCertChain_issuers {leafDER : Bytes} {leaf : X509}
    (parsed : lib.parseCertificate leafDER = .ok leaf) :
    (∃ chain, fetchCertChain lib network leafDER = .ok chain ∧ IssuerChain lib leaf chain) ↔
      GenuineBelow lib network 5 leaf := by
  have result : fetchCertChain lib network leafDER = .ok (walkChain lib network 5 leaf) := by
    rw [fetchCertChain, parsed]
  rw [← walkChain_issuers, result]
  constructor
  · rintro ⟨chain, same, issuers⟩
    cases same
    exact issuers.issuers
  · intro issuers
    exact ⟨_, rfl, walkChain_length 5 leaf, issuers⟩

end

/-! ### A hierarchy of two -/

/-- `CN=A`, issued by the authority. -/
def signerCertificate : X509 where
  rawSubject := Der.sequence [Der.tlv 0x31 (Der.sequence
    [Der.tlv 0x06 [0x55, 0x04, 0x03], Der.tlv 0x0c [0x41]])]
  rawIssuer := caName
  serialNumber := 7
  subjectPublicKeyInfo := caKey
  issuingCertificateURL := ["http://ca.example/ca.cer"]
  ocspServer := ["http://ocsp.example"]
  signedByOwnKey := false

/-- Stands for the bytes of the signer's certificate. -/
def signerDER : Bytes := Der.sequence [signerCertificate.rawSubject]

def caDER : Bytes := Der.sequence [caName]

def twoCertificates : X509Libraries where
  parseCertificate := fun der =>
    if der = signerDER then .ok signerCertificate
    else if der = caDER then .ok caCertificate
    else .error "x509: malformed certificate"
  nameString := fun name => if name = caName then "CN=CA" else "CN=A"
  pemDecode := fun _ => none

/-- Every address serves the certificate of the authority. -/
def caNetwork : Network where
  get := fun _ => .ok ⟨200, .ok caDER⟩
  post := fun _ _ => .error "connection refused"

theorem fetchCertChain_of_signer :
    (∃ chain, fetchCertChain twoCertificates caNetwork signerDER = .ok chain ∧
      IssuerChain twoCertificates signerCertificate chain) ↔
      GenuineBelow twoCertificates caNetwork 5 signerCertificate :=
  fetchCertChain_issuers (by rfl)

/-- The authority signs its own certificate: the chain ends in it. -/
theorem fetchCertChain_includes_root :
    twoCertificates.parseCertificate signerDER = .ok signerCertificate ∧
      fetchCertChain twoCertificates caNetwork signerDER = .ok [caDER] ∧
      ¬ IssuerChain twoCertificates signerCertificate [caDER] := by
  have fetched : fetchDER twoCertificates caNetwork "http://ca.example/ca.cer" = .ok caDER := by
    rfl
  refine ⟨by rfl, by rfl, ?_⟩
  rintro ⟨_, issuers⟩
  cases issuers with
  | next issues more =>
      have parsed : twoCertificates.parseCertificate caDER = .ok caCertificate := by rfl
      rw [issues.1] at parsed
      cases parsed
      exact issues.2.2 ⟨rfl, rfl⟩

end DscSigning.Bridge
