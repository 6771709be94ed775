import Smime.SignerViolations

/-! RFC 6211: what the CMSAlgorithmProtection attributes of a signer have to be,
and what `prepare_signer` leaves unreported of them. -/
namespace Smime

open X690 (Octets tlv)
open X509 Mail Utils

section Meaning

variable (env : Externals)

/-- The signed attributes of one type. -/
def attributesOf (signer : SignerInfo) (oid : ObjectIdentifier) : List Attribute :=
  (signer.authenticatedAttributes.getD []).filter (·.typeId == oid)

/-- One CMSAlgorithmProtection, with one value, and it says which `prot` it is. -/
def CarriesProtection (signer : SignerInfo) (prot : CmsAlgorithmProtection) : Prop :=
  ∃ (attr : Attribute) (value : Octets),
    attributesOf signer cmsAlgorithmProtectionOid = [attr] ∧ attr.values = [value] ∧
      env.parseCmsAlgorithmProtection value = .ok prot

/-- The algorithms of the signer are the protected ones. -/
def ProtectionEnforced (signer : SignerInfo) : Prop :=
  ∃ prot : CmsAlgorithmProtection, CarriesProtection env signer prot ∧
    prot.digestAlgorithm = signer.digestAlgorithm ∧
      prot.signatureAlgorithm = some signer.digestEncryptionAlgorithm

/-- A signer with a CMSAlgorithmProtection is reported or protected. -/
def EnforcesProtection (signer : SignerInfo) (certs : List Certificate) (idx : Nat) : Prop :=
  attributesOf signer cmsAlgorithmProtectionOid ≠ [] →
    (prepareSigner env signer certs idx).1 = [] → ProtectionEnforced env signer

/-- Nothing that is looked at before the signature is amiss with the signer. -/
structure PassesChecks (signer : SignerInfo) (certs : List Certificate) (idx : Nat) : Prop where
  version : signer.version = expectedSignerVersion signer.issuerAndSerialNumber
  algorithms : checkAlgorithms env signer idx = .ok []
  attributes : Conforms env signer
  capabilities : (attributesOf signer smimeCapabilitiesOid).length ≤ 1
  signingTime : (attributesOf signer signingTimeOid).length ≤ 1
  named : ∃ cert ∈ certs, SidNames env signer.issuerAndSerialNumber cert

/-- One readable CMSAlgorithmProtection, with a signature algorithm. -/
def ReadableProtection (signer : SignerInfo) : Prop :=
  ∃ prot : CmsAlgorithmProtection, CarriesProtection env signer prot ∧
    prot.signatureAlgorithm.isSome

end Meaning

section Silence

variable {env : Externals} {signer : SignerInfo} {certs : List Certificate} {idx : Nat}

theorem step_smimeCapabilitiesCount (scan : AttributeScan) (attr : Attribute) :
    (scan.step env signer idx attr).smimeCapabilitiesCount =
      scan.smimeCapabilitiesCount + if attr.typeId = smimeCapabilitiesOid then 1 else 0 := by
  unfold AttributeScan.step
  by_cases hCapabilities : attr.typeId = smimeCapabilitiesOid
  · simp [hCapabilities, contentTypeOid, signingTimeOid, cmsAlgorithmProtectionOid,
      smimeCapabilitiesOid]
  · simp only [if_neg hCapabilities]
    split_ifs <;> rfl

theorem step_signingTimeCount (scan : AttributeScan) (attr : Attribute) :
    (scan.step env signer idx attr).signingTimeCount =
      scan.signingTimeCount + if attr.typeId = signingTimeOid then 1 else 0 := by
  unfold AttributeScan.step
  by_cases hTime : attr.typeId = signingTimeOid
  · simp [hTime, contentTypeOid, signingTimeOid]
  · simp only [if_neg hTime]
    split_ifs <;> rfl

theorem scanAttributes_count {count : AttributeScan → Nat} {oid : ObjectIdentifier}
    (hStep : ∀ (scan : AttributeScan) (attr : Attribute),
      count (scan.step env signer idx attr) = count scan + if attr.typeId = oid then 1 else 0)
    (hStart : count {} = 0) :
    count (scanAttributes env signer idx) = (attributesOf signer oid).length := by
  rw [scanAttributes, foldl_step_count hStep, hStart, Nat.zero_add]
  rfl

/-- Nothing is recorded about the numbers of attributes. -/
theorem cardinalityFailures_eq_nil_iff {scan : AttributeScan} :
    cardinalityFailures signer idx scan = [] ↔
      (¬ ∃ err ∈ cardinalityFailures signer idx scan, IsViolation idx err) ∧
        scan.smimeCapabilitiesCount ≤ 1 ∧ scan.signingTimeCount ≤ 1 := by
  rw [cardinalityFailures_violation_iff]
  unfold cardinalityFailures
  simp only [List.append_eq_nil_iff, ite_eq_right_iff, List.cons_ne_nil, imp_false, not_or, not_lt]
  tauto

theorem signerVersionFailures_eq_nil_iff :
    signerVersionFailures signer idx = [] ↔
      signer.version = expectedSignerVersion signer.issuerAndSerialNumber := by
  simp [signerVersionFailures]

/-- A signer is prepared without a failure exactly when it passes the checks. -/
theorem prepareSigner_silent_iff :
    (prepareSigner env signer certs idx).1 = [] ↔ PassesChecks env signer certs idx := by
  have hAttributes := @conforms_iff env signer idx
  have hScan : (scanAttributes env signer idx).failures =
      (signer.authenticatedAttributes.getD []).flatMap (attributeFailures env signer idx) :=
    (foldl_step_failures signer idx _ {}).trans (List.nil_append _)
  have hCapabilities := scanAttributes_count (@step_smimeCapabilitiesCount env signer idx) rfl
  have hTime := scanAttributes_count (@step_signingTimeCount env signer idx) rfl
  have hNamed : (∃ cert ∈ certs, SidNames env signer.issuerAndSerialNumber cert) ↔
      (certs.filter (sidMatchesCert env signer.issuerAndSerialNumber)).isEmpty = false := by
    rw [List.isEmpty_eq_false_iff, ne_eq, List.filter_eq_nil_iff]
    simp [sidMatchesCert_iff]
  have hPassed : PassesChecks env signer certs idx ↔
      signerVersionFailures signer idx = [] ∧ checkAlgorithms env signer idx = .ok [] ∧
        (scanAttributes env signer idx).failures = [] ∧
          cardinalityFailures signer idx (scanAttributes env signer idx) = [] ∧
            (certs.filter (sidMatchesCert env signer.issuerAndSerialNumber)).isEmpty = false := by
    rw [signerVersionFailures_eq_nil_iff, hScan, cardinalityFailures_eq_nil_iff, hCapabilities,
      hTime, ← hNamed]
    constructor
    · intro h
      obtain ⟨hFailures, hCardinality⟩ := hAttributes.mp h.attributes
      exact ⟨h.version, h.algorithms, hFailures, ⟨hCardinality, h.capabilities, h.signingTime⟩,
        h.named⟩
    · rintro ⟨hVersion, hAlgorithms, hFailures, ⟨hCardinality, hFew, hOnce⟩, hSome⟩
      exact ⟨hVersion, hAlgorithms, hAttributes.mpr ⟨hFailures, hCardinality⟩, hFew, hOnce, hSome⟩
  rw [hPassed]
  unfold prepareSigner
  cases checkAlgorithms env signer idx with
  | error err => simp
  | ok warnings =>
      dsimp only
      cases (certs.filter (sidMatchesCert env signer.issuerAndSerialNumber)).isEmpty with
      | true => simp
      | false => simp

end Silence

section Enforcement

/-- The only CMSAlgorithmProtection of a signer without a failure is enforced
exactly when it can be read and has a signature algorithm. -/
theorem enforcesProtection_iff (env : Externals) (signer : SignerInfo) (certs : List Certificate)
    (idx : Nat) :
    EnforcesProtection env signer certs idx ↔
      (attributesOf signer cmsAlgorithmProtectionOid ≠ [] →
        PassesChecks env signer certs idx → ReadableProtection env signer) := by
  unfold EnforcesProtection
  rw [prepareSigner_silent_iff]
  refine imp_congr_right fun _ => forall_congr' fun hPasses => ?_
  constructor
  · rintro ⟨prot, hCarries, -, hSignature⟩
    exact ⟨prot, hCarries, by rw [hSignature]; rfl⟩
  · rintro ⟨prot, ⟨attr, value, hOnly, hValues, hParse⟩, hSome⟩
    obtain ⟨sigAlg, hSigAlg⟩ := Option.isSome_iff_exists.mp hSome
    have hMem : attr ∈ attributesOf signer cmsAlgorithmProtectionOid := by
      rw [hOnly]
      exact List.mem_singleton_self attr
    obtain ⟨hAttr, hType⟩ := List.mem_filter.mp hMem
    obtain ⟨hDigest, hSignature⟩ := hPasses.attributes.algorithms attr hAttr (beq_iff_eq.mp hType)
      value hValues prot hParse
    refine ⟨prot, ⟨attr, value, hOnly, hValues, hParse⟩, hDigest, ?_⟩
    rw [hSigAlg, hSignature sigAlg hSigAlg]

/-- A CMSAlgorithmProtection that is NULL. -/
def nullProtection : Attribute := ⟨cmsAlgorithmProtectionOid, [[0x05, 0x00]]⟩

def nullSigner : SignerInfo :=
  { essSigner with
    authenticatedAttributes :=
      some [⟨contentTypeOid, [dataOidDer]⟩, ⟨messageDigestOid, [tlv [0x04] essDigest]⟩,
        nullProtection] }

/-- What cannot be read is skipped. -/
theorem not_enforcesProtection :
    ¬ ∀ (env : Externals) (signer : SignerInfo) (certs : List Certificate) (idx : Nat),
      EnforcesProtection env signer certs idx := by
  intro h
  have hPresent : attributesOf nullSigner cmsAlgorithmProtectionOid = [nullProtection] := by
    decide +kernel
  have hSilent : (prepareSigner essExternals nullSigner [leafCert] 0).1 = [] := by
    decide +kernel
  obtain ⟨prot, ⟨attr, value, hOnly, hValues, hParse⟩, -⟩ :=
    h essExternals nullSigner [leafCert] 0 (by rw [hPresent]; exact nofun) hSilent
  cases hParse

end Enforcement

end Smime
