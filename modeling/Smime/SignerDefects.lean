import Smime.AlgorithmProtection
import Smime.CandidateCertificates
import Smime.SignedContent
import Smime.VerifyFrame

/-! What is amiss with a SignedData and its signers, each defect with the failure
that stands for it, and that a verification records these failures and no others. -/
namespace Smime

open X690 (Octets)
open X509 Mail Utils

section Records

/-- What is on record after a step is what was there before, and the failures of
the defects. -/
def Records (defect : SmimeError → Prop) (before after : SmimeValidationResult) : Prop :=
  ∀ err : SmimeError, err ∈ after.failures ↔ err ∈ before.failures ∨ defect err

namespace Records

variable {before middle after : SmimeValidationResult} {defect other : SmimeError → Prop}

theorem of_failures (h : after.failures = before.failures) :
    Records (fun _ => False) before after := by
  intro err
  rw [h, or_false]

theorem extend (before : SmimeValidationResult) (errs : List SmimeError) :
    Records (· ∈ errs) before (before.extend errs) := by
  intro err
  rw [SmimeValidationResult.failures_extend, List.mem_append]

theorem push (before : SmimeValidationResult) (failure : SmimeError) :
    Records (· = failure) before (before.push failure) := by
  intro err
  rw [SmimeValidationResult.failures_push, List.mem_append, List.mem_singleton]

theorem trans (h : Records defect before middle) (h' : Records other middle after) :
    Records (fun err => defect err ∨ other err) before after := by
  intro err
  rw [h' err, h err, or_assoc]

theorem congr (h : Records defect before after) (hSame : ∀ err, defect err ↔ other err) :
    Records other before after := by
  intro err
  rw [h err, hSame err]

/-- A step that leaves the failures alone does not show. -/
theorem after_same (h : Records defect before middle)
    (hSame : after.failures = middle.failures) : Records defect before after := by
  intro err
  rw [hSame, h err]

/-- A step on an empty record. -/
theorem mem_iff (h : Records defect before after) (hNone : before.failures = [])
    (err : SmimeError) : err ∈ after.failures ↔ defect err := by
  rw [h err, hNone]
  simp

end Records

end Records

section Preparation

variable (env : Externals)

/-- The attributes of which a signer may have one. -/
def singleAttributes : List (ObjectIdentifier × String) :=
  [(contentTypeOid, "content-type"), (smimeCapabilitiesOid, "SMIMECapabilities"),
    (signingTimeOid, "signing-time")]

/-- What is amiss with a signer before its signature is looked at. -/
inductive PreparationDefect (signer : SignerInfo) (certs : List Certificate) (idx : Nat) :
    SmimeError → Prop where
  | version (hVersion : signer.version ≠ expectedSignerVersion signer.issuerAndSerialNumber) :
      PreparationDefect signer certs idx
        (.cmsVersionMismatch "SignerInfo" (expectedSignerVersion signer.issuerAndSerialNumber)
          signer.version (some idx))
  | algorithms {err : SmimeError} (hAlgorithms : checkAlgorithms env signer idx = .error err) :
      PreparationDefect signer certs idx err
  | warning {warnings : List SmimeError} {err : SmimeError}
      (hAlgorithms : checkAlgorithms env signer idx = .ok warnings) (hWarning : err ∈ warnings) :
      PreparationDefect signer certs idx err
  | badAttribute {warnings : List SmimeError} {attr : Attribute} {err : SmimeError}
      (hAlgorithms : checkAlgorithms env signer idx = .ok warnings)
      (hAttr : attr ∈ signer.authenticatedAttributes.getD [])
      (hFailure : err ∈ attributeFailures env signer idx attr) :
      PreparationDefect signer certs idx err
  | noContentType {warnings : List SmimeError}
      (hAlgorithms : checkAlgorithms env signer idx = .ok warnings)
      (hAttrs : signer.authenticatedAttributes.isSome)
      (hNone : attributesOf signer contentTypeOid = []) :
      PreparationDefect signer certs idx (.missingContentTypeAttr idx)
  | repeated {warnings : List SmimeError} {single : ObjectIdentifier × String}
      (hAlgorithms : checkAlgorithms env signer idx = .ok warnings)
      (hSingle : single ∈ singleAttributes) (hMany : 1 < (attributesOf signer single.1).length) :
      PreparationDefect signer certs idx (.attributeCardinality single.2 idx)
  | notFound {warnings : List SmimeError}
      (hAlgorithms : checkAlgorithms env signer idx = .ok warnings)
      (hNone : ∀ cert ∈ certs, ¬ SidNames env signer.issuerAndSerialNumber cert) :
      PreparationDefect signer certs idx
        (.signerCertNotFound (sidText env signer.issuerAndSerialNumber))

variable {env} {signer : SignerInfo} {certs : List Certificate} {idx : Nat} {err : SmimeError}

theorem mem_signerVersionFailures :
    err ∈ signerVersionFailures signer idx ↔
      signer.version ≠ expectedSignerVersion signer.issuerAndSerialNumber ∧
        err = .cmsVersionMismatch "SignerInfo"
          (expectedSignerVersion signer.issuerAndSerialNumber) signer.version (some idx) := by
  unfold signerVersionFailures
  dsimp only
  rw [List.mem_ite_nil_right, List.mem_singleton]

theorem mem_scanAttributes_failures :
    err ∈ (scanAttributes env signer idx).failures ↔
      ∃ attr ∈ signer.authenticatedAttributes.getD [],
        err ∈ attributeFailures env signer idx attr := by
  rw [scanAttributes, foldl_step_failures, List.mem_append, List.mem_flatMap]
  exact or_iff_right List.not_mem_nil

theorem mem_cardinalityFailures :
    err ∈ cardinalityFailures signer idx (scanAttributes env signer idx) ↔
      (signer.authenticatedAttributes.isSome ∧ attributesOf signer contentTypeOid = [] ∧
          err = .missingContentTypeAttr idx) ∨
        ∃ single ∈ singleAttributes, 1 < (attributesOf signer single.1).length ∧
          err = .attributeCardinality single.2 idx := by
  unfold cardinalityFailures
  rw [scanAttributes_count (@step_contentTypeCount env signer idx) rfl,
    scanAttributes_count (@step_smimeCapabilitiesCount env signer idx) rfl,
    scanAttributes_count (@step_signingTimeCount env signer idx) rfl]
  simp only [List.length_eq_zero_iff, List.mem_append, List.mem_ite_nil_right, singleAttributes,
    List.mem_cons, List.not_mem_nil, or_false, exists_eq_or_imp, exists_eq_left, gt_iff_lt,
    and_assoc, or_assoc]

theorem candidates_isEmpty_iff :
    (certs.filter (sidMatchesCert env signer.issuerAndSerialNumber)).isEmpty = true ↔
      ∀ cert ∈ certs, ¬ SidNames env signer.issuerAndSerialNumber cert := by
  rw [List.isEmpty_iff, List.filter_eq_nil_iff]
  simp only [sidMatchesCert_iff]

theorem mem_prepareSigner_iff :
    err ∈ (prepareSigner env signer certs idx).1 ↔
      PreparationDefect env signer certs idx err := by
  unfold prepareSigner
  cases hAlgorithms : checkAlgorithms env signer idx with
  | error failure =>
      dsimp only
      rw [List.mem_append, List.mem_singleton, mem_signerVersionFailures]
      constructor
      · rintro (⟨hVersion, rfl⟩ | rfl)
        · exact .version hVersion
        · exact .algorithms hAlgorithms
      · intro hDefect
        cases hDefect with
        | version hVersion => exact .inl ⟨hVersion, rfl⟩
        | algorithms hError =>
            rw [hAlgorithms] at hError
            cases hError
            exact .inr rfl
        | warning hOk | badAttribute hOk | noContentType hOk | repeated hOk | notFound hOk =>
            rw [hAlgorithms] at hOk
            cases hOk
  | ok warnings =>
      have hRecorded : err ∈ signerVersionFailures signer idx ++ warnings ++
            (scanAttributes env signer idx).failures ++
              cardinalityFailures signer idx (scanAttributes env signer idx) ∨
          ((∀ cert ∈ certs, ¬ SidNames env signer.issuerAndSerialNumber cert) ∧
            err = .signerCertNotFound (sidText env signer.issuerAndSerialNumber)) ↔
          PreparationDefect env signer certs idx err := by
        rw [List.mem_append, List.mem_append, List.mem_append, mem_signerVersionFailures,
          mem_scanAttributes_failures, mem_cardinalityFailures]
        constructor
        · rintro ((((⟨hVersion, rfl⟩ | hWarning) | ⟨attr, hAttr, hFailure⟩) |
            ⟨hAttrs, hNone, rfl⟩ | ⟨single, hSingle, hMany, rfl⟩) | ⟨hNone, rfl⟩)
          · exact .version hVersion
          · exact .warning hAlgorithms hWarning
          · exact .badAttribute hAlgorithms hAttr hFailure
          · exact .noContentType hAlgorithms hAttrs hNone
          · exact .repeated hAlgorithms hSingle hMany
          · exact .notFound hAlgorithms hNone
        · intro hDefect
          cases hDefect with
          | version hVersion => exact .inl (.inl (.inl (.inl ⟨hVersion, rfl⟩)))
          | algorithms hError =>
              rw [hAlgorithms] at hError
              cases hError
          | warning hOk hWarning =>
              rw [hAlgorithms] at hOk
              cases hOk
              exact .inl (.inl (.inl (.inr hWarning)))
          | badAttribute _ hAttr hFailure => exact .inl (.inl (.inr ⟨_, hAttr, hFailure⟩))
          | noContentType _ hAttrs hNone => exact .inl (.inr (.inl ⟨hAttrs, hNone, rfl⟩))
          | repeated _ hSingle hMany => exact .inl (.inr (.inr ⟨_, hSingle, hMany, rfl⟩))
          | notFound _ hNone => exact .inr ⟨hNone, rfl⟩
      rw [← hRecorded, ← candidates_isEmpty_iff]
      dsimp only
      split
      next hEmpty => simp only [List.mem_append, List.mem_singleton, hEmpty, true_and]
      next hNamed => simp only [hNamed, Bool.false_eq_true, false_and, or_false]

end Preparation

section Candidates

open SignedTarget

/-- The signature of the signer, checked under a key over what it is to cover. -/
def checkSignature (env : Externals) (target : SignedTarget) (pk : AnyPublicKey)
    (signer : SignerInfo) : Except SmimeError Unit :=
  match target with
  | .detached _ =>
      verifyDetachedSignature env pk signer.digestAlgorithm signer.digestEncryptionAlgorithm
        (signer.authenticatedAttributes.getD []) signer.encryptedDigest
  | .econtent content =>
      verifyEcontentSignature env pk signer.digestAlgorithm signer.digestEncryptionAlgorithm
        signer.authenticatedAttributes signer.encryptedDigest content

variable {env : Externals} (ctx : VerifyContext env)

/-- What is amiss with a certificate that is tried for the signer. -/
inductive CandidateDefect (idx : Nat) (signer : SignerInfo) (cert : Certificate) :
    SmimeError → Prop where
  | key {e : String} (hKey : publicKey env cert = .error e) :
      CandidateDefect idx signer cert (.chainValidation (fingerprintOrError env cert) idx e)
  | signature {pk : AnyPublicKey} {err : SmimeError} (hKey : publicKey env cert = .ok pk)
      (hSignature : checkSignature env ctx.target pk signer = .error err) :
      CandidateDefect idx signer cert err
  | digest {err : SmimeError} (hAttrs : signer.authenticatedAttributes.isSome)
      (hKey : (publicKey env cert).isOk) (hNot : ¬ CertVerifies ctx signer cert)
      (hDigest : verifyMessageDigest env signer.digestAlgorithm signer.authenticatedAttributes
        ctx.target.content = .error err) :
      CandidateDefect idx signer cert err
  | workaround (hVerifies : CertVerifies ctx signer cert)
      (hMisses : MissesDigest env ctx.target signer) :
      CandidateDefect idx signer cert .wildDuckWorkaround

/-- The search gets to the candidate: no other one before it verifies. -/
def Tried (signer : SignerInfo) (candidates : List Certificate) (cert : Certificate) : Prop :=
  ∃ before behind : List Certificate, candidates = before ++ cert :: behind ∧
    ∀ other ∈ before, ¬ CertVerifies ctx signer other

variable {ctx} {idx : Nat} {signer : SignerInfo}

theorem mem_failureOf {outcome : Except SmimeError Unit} {err : SmimeError} :
    err ∈ failureOf outcome ↔ outcome = .error err := by
  cases outcome with
  | ok => simp [failureOf]
  | error failure => simp [failureOf, eq_comm]

theorem candidateDefect_of_key_error {cert : Certificate} {e : String} {err : SmimeError}
    (hKey : publicKey env cert = .error e) :
    CandidateDefect ctx idx signer cert err ↔
      err = .chainValidation (fingerprintOrError env cert) idx e := by
  constructor
  · intro hDefect
    cases hDefect with
    | key hError =>
        rw [hKey] at hError
        cases hError
        rfl
    | signature hOk =>
        rw [hKey] at hOk
        cases hOk
    | digest _ hOk =>
        rw [hKey] at hOk
        cases hOk
    | workaround hVerifies =>
        obtain ⟨pk, hOk, -⟩ := hVerifies
        rw [hKey] at hOk
        cases hOk
  · rintro rfl
    exact .key hKey

theorem candidateDefect_of_key {cert : Certificate} {pk : AnyPublicKey} {err : SmimeError}
    (hKey : publicKey env cert = .ok pk) :
    CandidateDefect ctx idx signer cert err ↔
      checkSignature env ctx.target pk signer = .error err ∨
        (signer.authenticatedAttributes.isSome ∧
          ¬ KeyVerifies env ctx.target ctx.innerMessage pk signer ∧
            verifyMessageDigest env signer.digestAlgorithm signer.authenticatedAttributes
              ctx.target.content = .error err) ∨
        (KeyVerifies env ctx.target ctx.innerMessage pk signer ∧
          MissesDigest env ctx.target signer ∧ err = .wildDuckWorkaround) := by
  rw [← certVerifies_of_key hKey]
  constructor
  · intro hDefect
    cases hDefect with
    | key hError =>
        rw [hKey] at hError
        cases hError
    | signature hOk hSignature =>
        rw [hKey] at hOk
        cases hOk
        exact .inl hSignature
    | digest hAttrs _ hNot hDigest => exact .inr (.inl ⟨hAttrs, hNot, hDigest⟩)
    | workaround hVerifies hMisses => exact .inr (.inr ⟨hVerifies, hMisses, rfl⟩)
  · rintro (hSignature | ⟨hAttrs, hNot, hDigest⟩ | ⟨hVerifies, hMisses, rfl⟩)
    · exact .signature hKey hSignature
    · exact .digest hAttrs (by rw [hKey]; rfl) hNot hDigest
    · exact .workaround hVerifies hMisses

/-- A candidate key records what is amiss with its certificate. -/
theorem verifyCandidate_records {cert : Certificate} {pk : AnyPublicKey}
    (hPre : ctx.target.precheckSigner env signer.authenticatedAttributes.isSome = none)
    (hKey : publicKey env cert = .ok pk) (result : SmimeValidationResult) :
    Records (CandidateDefect ctx idx signer cert) result
      (ctx.target.verifyCandidate env pk signer signer.authenticatedAttributes.isSome
        ctx.innerMessage {} result).result := by
  have hVerifies := @verifyCandidate_verifies_iff env ctx.innerMessage pk signer result ctx.target
    hPre
  intro err
  rw [candidateDefect_of_key hKey, ← hVerifies]
  cases hTarget : ctx.target with
  | detached content =>
      rw [hTarget] at hPre
      rw [precheckSigner_detached hPre, missesDigest_detached]
      unfold verifyCandidate verifyDetachedCandidate checkSignature
      simp only [Bool.false_or, true_and, SignedTarget.content]
      generalize verifyDetachedSignature _ _ _ _ _ _ = signature
      generalize verifyMessageDigest _ _ _ content = digest
      generalize verifyMessageDigest _ _ _ _ = again
      cases signature <;> cases digest <;> cases again <;>
        simp [passed, failureOf, eq_comm]
  | econtent content =>
      have hMisses := @not_missesDigest_econtent env content signer
      unfold verifyCandidate verifyEcontentCandidate checkSignature
      simp only [Bool.false_or, SignedTarget.content, hMisses, false_and, and_false, or_false,
        SmimeValidationResult.failures_extend, List.mem_append, mem_failureOf, or_assoc]
      generalize verifyEcontentSignature _ _ _ _ _ _ _ = signature
      generalize verifyMessageDigest _ _ _ content = digest
      cases signer.authenticatedAttributes.isSome <;> cases signature <;> cases digest <;>
        simp [passed, eq_comm, or_comm]

theorem exists_tried_cons {p : Certificate → Prop} {candidate : Certificate}
    {rest : List Certificate} :
    (∃ cert, Tried ctx signer (candidate :: rest) cert ∧ p cert) ↔
      p candidate ∨
        (¬ CertVerifies ctx signer candidate ∧ ∃ cert, Tried ctx signer rest cert ∧ p cert) := by
  constructor
  · rintro ⟨cert, ⟨before, behind, hSplit, hBefore⟩, hCert⟩
    cases before with
    | nil =>
        rw [List.nil_append, List.cons.injEq] at hSplit
        rw [hSplit.1]
        exact .inl hCert
    | cons first before =>
        rw [List.cons_append, List.cons.injEq] at hSplit
        obtain ⟨rfl, rfl⟩ := hSplit
        obtain ⟨hFirst, hBefore⟩ := List.forall_mem_cons.mp hBefore
        exact .inr ⟨hFirst, cert, ⟨before, behind, rfl, hBefore⟩, hCert⟩
  · rintro (hCandidate | ⟨hNot, cert, ⟨before, behind, rfl, hBefore⟩, hCert⟩)
    · exact ⟨candidate, ⟨[], rest, rfl, by simp⟩, hCandidate⟩
    · refine ⟨cert, ⟨candidate :: before, behind, rfl, ?_⟩, hCert⟩
      exact List.forall_mem_cons.mpr ⟨hNot, hBefore⟩

/-- The search records what is amiss with the candidates it tries, which are those
up to the first that verifies. -/
theorem findLeaf_records
    (hPre : ctx.target.precheckSigner env signer.authenticatedAttributes.isSome = none)
    (candidates : List Certificate) (result : SmimeValidationResult) :
    Records
      (fun err => ∃ cert, Tried ctx signer candidates cert ∧
        CandidateDefect ctx idx signer cert err)
      result
      (findLeaf ctx signer signer.authenticatedAttributes.isSome idx candidates result).1 := by
  induction candidates generalizing result with
  | nil =>
      refine (Records.of_failures rfl).congr fun err => ?_
      simp [Tried]
  | cons candidate rest ih =>
      unfold findLeaf
      cases hKey : publicKey env candidate with
      | error e =>
          have hNot : ¬ CertVerifies ctx signer candidate := by
            rintro ⟨pk, hPk, -⟩
            rw [hKey] at hPk
            cases hPk
          refine ((Records.push result _).trans (ih _)).congr fun err => ?_
          rw [exists_tried_cons, candidateDefect_of_key_error hKey]
          simp only [hNot, not_false_eq_true, true_and]
      | ok pk =>
          have hFirst := @verifyCandidate_records env ctx idx signer candidate pk hPre hKey result
          have hVerifies := @verifyCandidate_verifies_iff env ctx.innerMessage pk signer result
            ctx.target hPre
          rw [← certVerifies_of_key hKey] at hVerifies
          dsimp only
          split
          next hEnds =>
            refine hFirst.congr fun err => ?_
            rw [exists_tried_cons]
            simp only [hVerifies.mp hEnds, not_true_eq_false, false_and, or_false]
          next hGoes =>
            have hNot : ¬ CertVerifies ctx signer candidate := fun h => hGoes (hVerifies.mpr h)
            refine (hFirst.trans (ih _)).congr fun err => ?_
            rw [exists_tried_cons]
            simp only [hNot, not_false_eq_true, true_and]

end Candidates

section Signers

variable {env : Externals} (ctx : VerifyContext env)

/-- What is amiss with the chain of the certificate that is found. -/
inductive ChainDefect (idx : Nat) (cert : Certificate) : SmimeError → Prop where
  | unverified {e : String}
      (hVerify : env.verify ctx.verifier cert (intermediariesOf cert ctx.certs) = .error e) :
      ChainDefect idx cert (.chainValidation (fingerprintOrError env cert) idx e)
  | revoked {chain : List Certificate} {subject issuer : Certificate}
      (hVerify : env.verify ctx.verifier cert (intermediariesOf cert ctx.certs) = .ok chain)
      (hLink : (subject, issuer) ∈ chain.zip chain.tail)
      (hRevoked : stapledStatusFor env ctx.staples subject issuer env.now = some .revoked) :
      ChainDefect idx cert (.stapledOcspRevoked (env.dnToString subject.subject))

/-- What is amiss with a signer. -/
inductive SignerDefect (idx : Nat) (signer : SignerInfo) : SmimeError → Prop where
  | preparation {err : SmimeError} (hDefect : PreparationDefect env signer ctx.certs idx err) :
      SignerDefect idx signer err
  | guard {warnings : List SmimeError} {cert : Certificate} {err : SmimeError}
      (hAlgorithms : checkAlgorithms env signer idx = .ok warnings) (hCert : cert ∈ ctx.certs)
      (hNamed : SidNames env signer.issuerAndSerialNumber cert)
      (hGuard : ctx.target.precheckSigner env signer.authenticatedAttributes.isSome = some err) :
      SignerDefect idx signer err
  | candidate {warnings : List SmimeError} {cert : Certificate} {err : SmimeError}
      (hAlgorithms : checkAlgorithms env signer idx = .ok warnings)
      (hGuard : ctx.target.precheckSigner env signer.authenticatedAttributes.isSome = none)
      (hTried : Tried ctx signer (candidatesOf ctx signer) cert)
      (hDefect : CandidateDefect ctx idx signer cert err) : SignerDefect idx signer err
  | chain {cert : Certificate} {err : SmimeError} (hFinds : Finds ctx idx signer cert)
      (hDefect : ChainDefect ctx idx cert err) : SignerDefect idx signer err

variable {ctx} {idx : Nat} {signer : SignerInfo} {err : SmimeError}

theorem mem_validateChain_failures {cert : Certificate} :
    err ∈ (validateChain env cert ctx.certs ctx.verifier ctx.staples idx).failures ↔
      ChainDefect ctx idx cert err := by
  unfold validateChain
  cases hVerify : env.verify ctx.verifier cert (intermediariesOf cert ctx.certs) with
  | error e =>
      dsimp only
      rw [List.mem_singleton]
      constructor
      · rintro rfl
        exact .unverified hVerify
      · intro hDefect
        cases hDefect with
        | unverified hError =>
            rw [hVerify] at hError
            cases hError
            rfl
        | revoked hOk =>
            rw [hVerify] at hOk
            cases hOk
  | ok chain =>
      dsimp only
      rw [applyStapledOcsp_eq]
      simp only [List.mem_map, List.mem_filter, linkRevoked, linkStatus, beq_iff_eq]
      constructor
      · rintro ⟨⟨subject, issuer⟩, ⟨hLink, hRevoked⟩, rfl⟩
        exact .revoked hVerify hLink hRevoked
      · intro hDefect
        cases hDefect with
        | unverified hError =>
            rw [hVerify] at hError
            cases hError
        | @revoked other subject issuer hOk hLink hRevoked =>
            rw [hVerify] at hOk
            cases hOk
            exact ⟨(subject, issuer), ⟨hLink, hRevoked⟩, rfl⟩

/-- A signer of which something is amiss after its preparation has been prepared. -/
theorem SignerDefect.prepared (h : SignerDefect ctx idx signer err) :
    PreparationDefect env signer ctx.certs idx err ∨
      ∃ signingTime, (prepareSigner env signer ctx.certs idx).2 =
        some (signingTime, candidatesOf ctx signer) := by
  rw [prepareSigner_some_iff]
  cases h with
  | preparation hDefect => exact .inl hDefect
  | guard hAlgorithms hCert hNamed =>
      refine .inr ⟨⟨_, hAlgorithms⟩, ?_, rfl⟩
      exact List.ne_nil_of_mem (List.mem_filter.mpr ⟨hCert, sidMatchesCert_iff.mpr hNamed⟩)
  | candidate hAlgorithms hGuard hTried =>
      obtain ⟨before, behind, hSplit, -⟩ := hTried
      refine .inr ⟨⟨_, hAlgorithms⟩, ?_, rfl⟩
      rw [hSplit]
      simp
  | chain hFinds => exact .inr ⟨hFinds.algorithms, firstVerifying_nonempty hFinds.first, rfl⟩

/-- Behind the guard there is nothing more to say of a signer. -/
theorem signerDefect_guarded_iff {warnings : List SmimeError} {failure : SmimeError}
    (hAlgorithms : checkAlgorithms env signer idx = .ok warnings)
    (hNonempty : candidatesOf ctx signer ≠ [])
    (hGuard : ctx.target.precheckSigner env signer.authenticatedAttributes.isSome =
      some failure) :
    SignerDefect ctx idx signer err ↔
      PreparationDefect env signer ctx.certs idx err ∨ err = failure := by
  obtain ⟨cert, hMem⟩ := List.exists_mem_of_ne_nil _ hNonempty
  obtain ⟨hCert, hNamed⟩ := List.mem_filter.mp hMem
  constructor
  · intro hDefect
    cases hDefect with
    | preparation hPreparation => exact .inl hPreparation
    | guard _ _ _ hSome =>
        rw [hGuard] at hSome
        cases hSome
        exact .inr rfl
    | candidate _ hNone =>
        rw [hGuard] at hNone
        cases hNone
    | chain hFinds =>
        have hNone := hFinds.guard
        rw [hGuard] at hNone
        cases hNone
  · rintro (hPreparation | rfl)
    · exact .preparation hPreparation
    · exact .guard hAlgorithms hCert (sidMatchesCert_iff.mp hNamed) hGuard

theorem signerDefect_unguarded_iff {warnings : List SmimeError}
    (hAlgorithms : checkAlgorithms env signer idx = .ok warnings)
    (hGuard : ctx.target.precheckSigner env signer.authenticatedAttributes.isSome = none) :
    SignerDefect ctx idx signer err ↔
      (PreparationDefect env signer ctx.certs idx err ∨
        ∃ cert, Tried ctx signer (candidatesOf ctx signer) cert ∧
          CandidateDefect ctx idx signer cert err) ∨
      ∃ cert, FirstVerifying ctx signer (candidatesOf ctx signer) cert ∧
        ChainDefect ctx idx cert err := by
  constructor
  · intro hDefect
    cases hDefect with
    | preparation hPreparation => exact .inl (.inl hPreparation)
    | guard _ _ _ hSome =>
        rw [hGuard] at hSome
        cases hSome
    | candidate _ _ hTried hCandidate => exact .inl (.inr ⟨_, hTried, hCandidate⟩)
    | chain hFound hChain => exact .inr ⟨_, hFound.first, hChain⟩
  · rintro ((hPreparation | ⟨cert, hTried, hCandidate⟩) | ⟨cert, hFound, hChain⟩)
    · exact .preparation hPreparation
    · exact .candidate hAlgorithms hGuard hTried hCandidate
    · exact .chain ⟨⟨warnings, hAlgorithms⟩, hGuard, hFound⟩ hChain

/-- One signer records what is amiss with it. -/
theorem verifySigner_records (ctx : VerifyContext env) (idx : Nat) (signer : SignerInfo)
    (result : SmimeValidationResult) :
    Records (SignerDefect ctx idx signer) result (verifySigner ctx idx signer result).1 := by
  have hFailures := fun err => @mem_prepareSigner_iff env signer ctx.certs idx err
  have hPrepared := fun candidates => @prepareSigner_some_iff env signer ctx.certs idx candidates
  have hAfter := fun err => @SignerDefect.prepared env ctx idx signer err
  rcases hPrepare : prepareSigner env signer ctx.certs idx with ⟨failures, prepared⟩
  rw [hPrepare] at hFailures hPrepared hAfter
  simp only [verifySigner, hPrepare]
  have hExtend := Records.extend result failures
  cases prepared with
  | none =>
      refine hExtend.congr fun err => ?_
      rw [hFailures]
      refine ⟨.preparation, fun hDefect => ?_⟩
      rcases hAfter err hDefect with hPreparation | ⟨signingTime, hSome⟩
      · exact hPreparation
      · cases hSome
  | some prepared =>
      obtain ⟨signingTime, candidates⟩ := prepared
      obtain ⟨⟨warnings, hAlgorithms⟩, hNonempty, rfl⟩ :=
        (hPrepared candidates).mp ⟨signingTime, rfl⟩
      dsimp only
      cases hGuard : ctx.target.precheckSigner env signer.authenticatedAttributes.isSome with
      | some failure =>
          refine (hExtend.trans (.push _ failure)).congr fun err => ?_
          rw [hFailures, signerDefect_guarded_iff hAlgorithms hNonempty hGuard]
      | none =>
          have hSearch := hExtend.trans (@findLeaf_records env ctx idx signer hGuard
            (candidatesOf ctx signer) (result.extend failures))
          have hFirst := fun cert => @findLeaf_some_iff env ctx signer idx
            (candidatesOf ctx signer) (result.extend failures) cert hGuard
          have hDefect := fun err =>
            @signerDefect_unguarded_iff env ctx idx signer err warnings hAlgorithms hGuard
          simp only [← hFailures] at hDefect
          unfold candidatesOf at hSearch hFirst hDefect
          rcases hFind : findLeaf ctx signer signer.authenticatedAttributes.isSome idx
            (ctx.certs.filter (sidMatchesCert env signer.issuerAndSerialNumber))
            (result.extend failures) with ⟨after, found⟩
          rw [hFind] at hSearch
          simp only [hFind] at hFirst ⊢
          cases found with
          | none =>
              refine hSearch.congr fun err => ?_
              have hNone : ¬ ∃ cert, FirstVerifying ctx signer
                  (ctx.certs.filter (sidMatchesCert env signer.issuerAndSerialNumber)) cert ∧
                    ChainDefect ctx idx cert err := by
                rintro ⟨cert, hFound, -⟩
                cases (hFirst cert).mpr hFound
              rw [hDefect, or_iff_left hNone]
          | some found =>
              obtain ⟨leaf, checks⟩ := found
              dsimp only
              refine (hSearch.trans (.extend after _)).congr fun err => ?_
              rw [hDefect, mem_validateChain_failures]
              apply or_congr_right
              constructor
              · exact fun hChain => ⟨leaf, (hFirst leaf).mp rfl, hChain⟩
              · rintro ⟨cert, hFound, hChain⟩
                cases (hFirst cert).mpr hFound
                exact hChain

/-- One iteration of the loop records what is amiss with its signer. -/
theorem signerStep_records (ctx : VerifyContext env) (loop : SignerLoop)
    (signer : Nat × SignerInfo) :
    Records (SignerDefect ctx signer.1 signer.2) loop.result
      (signerStep ctx loop signer).result := by
  obtain ⟨notes, address, comment, date, hResult⟩ := signerStep_result ctx loop signer
  rw [hResult]
  exact (verifySigner_records ctx signer.1 signer.2 loop.result).after_same rfl

/-- The loop records what is amiss with each of its signers. -/
theorem foldl_signerStep_records (ctx : VerifyContext env) (signers : List (Nat × SignerInfo))
    (loop : SignerLoop) :
    Records (fun err => ∃ signer ∈ signers, SignerDefect ctx signer.1 signer.2 err) loop.result
      (signers.foldl (signerStep ctx) loop).result := by
  induction signers generalizing loop with
  | nil =>
      refine (Records.of_failures rfl).congr fun err => ?_
      simp
  | cons signer rest ih =>
      rw [List.foldl_cons]
      refine ((signerStep_records ctx loop signer).trans (ih _)).congr fun err => ?_
      rw [List.exists_mem_cons_iff]

end Signers

section Verification

variable (env : Externals) (signedData : SignedData) (target : SignedTarget) (trust : TrustConfig)
  (sender : Option Addr) (date : Option Instant)

/-- What is amiss with a SignedData before its signers are looked at. -/
inductive StartDefect : SmimeError → Prop where
  | unexpected (hContent : signedData.content = .other) : StartDefect .unexpectedEContentType
  | version {err : SmimeError} (hContent : signedData.content ≠ .other)
      (hVersion : validateSignedDataVersion signedData signedData.signerInfos = some err) :
      StartDefect err
  | anchors {err : SmimeError} (hContent : signedData.content ≠ .other)
      (hCerts : loadCaCerts env trust.stores trust.caFilePem = .error err) : StartDefect err
  | sender (hAsks : AsksSender env signedData trust) (hNone : sender = none) :
      StartDefect .missingFrom
  | inner (hAsks : AsksSender env signedData trust)
      (hNone : env.parseMessage target.content = none) : StartDefect .parseInner
  | policy {caCerts : List Certificate} {innerMessage : Message} {err : SmimeError}
      (hContent : signedData.content ≠ .other)
      (hCerts : loadCaCerts env trust.stores trust.caFilePem = .ok caCerts)
      (hInner : env.parseMessage target.content = some innerMessage)
      (hPolicy : buildPolicyBuilder env caCerts = .error err) : StartDefect err
  | verifier {caCerts : List Certificate} {innerMessage : Message} {builder : env.Builder}
      {e : String} (hContent : signedData.content ≠ .other)
      (hCerts : loadCaCerts env trust.stores trust.caFilePem = .ok caCerts)
      (hInner : env.parseMessage target.content = some innerMessage)
      (hPolicy : buildPolicyBuilder env caCerts = .ok builder)
      (hVerifier : env.buildEmailVerifier builder = .error e) : StartDefect (.buildVerifier e)

/-- What is amiss with a SignedData that is verified. -/
inductive VerificationDefect : SmimeError → Prop where
  | start {err : SmimeError} (hDefect : StartDefect env signedData target trust sender err) :
      VerificationDefect err
  | signer {ctx : VerifyContext env} {idx : Nat} {signer : SignerInfo} {err : SmimeError}
      (hCtx : Reaches signedData target trust.stores trust.caFilePem date ctx)
      (hSigner : signedData.signerInfos[idx]? = some signer)
      (hDefect : SignerDefect ctx idx signer err) : VerificationDefect err

variable {env signedData target trust sender date} {err : SmimeError}

theorem verifyContext_error_iff {prepared : Prepared} :
    verifyContext env signedData target trust.stores date prepared = .error err ↔
      buildPolicyBuilder env prepared.caCerts = .error err ∨
        ∃ (builder : env.Builder) (e : String),
          buildPolicyBuilder env prepared.caCerts = .ok builder ∧
            env.buildEmailVerifier builder = .error e ∧ err = .buildVerifier e := by
  unfold verifyContext
  cases buildPolicyBuilder env prepared.caCerts with
  | error failure => simp [Except.error_bind']
  | ok builder =>
      rw [Except.ok_bind']
      cases hVerifier : env.buildEmailVerifier builder with
      | error e => simp [Except.mapError, Except.error_bind', hVerifier, eq_comm]
      | ok verifier => simp [Except.mapError, Except.ok_bind', hVerifier]

/-- What is amiss with a SignedData of a known content, in the order of the checks. -/
theorem startDefect_iff (date : Option Instant) (hContent : signedData.content ≠ .other) :
    StartDefect env signedData target trust sender err ↔
      validateSignedDataVersion signedData signedData.signerInfos = some err ∨
        loadCaCerts env trust.stores trust.caFilePem = .error err ∨
          ∃ caCerts : List Certificate,
            loadCaCerts env trust.stores trust.caFilePem = .ok caCerts ∧
              ((sender = none ∧ err = .missingFrom) ∨
                (env.parseMessage target.content = none ∧ err = .parseInner) ∨
                  ∃ innerMessage : Message,
                    env.parseMessage target.content = some innerMessage ∧
                      verifyContext env signedData target trust.stores date
                        (preparedWith signedData caCerts innerMessage) = .error err) := by
  simp only [verifyContext_error_iff]
  constructor
  · intro hDefect
    cases hDefect with
    | unexpected hOther => exact absurd hOther hContent
    | version _ hVersion => exact .inl hVersion
    | anchors _ hCerts => exact .inr (.inl hCerts)
    | sender hAsks hNone =>
        obtain ⟨-, caCerts, hCerts⟩ := hAsks
        exact .inr (.inr ⟨caCerts, hCerts, .inl ⟨hNone, rfl⟩⟩)
    | inner hAsks hNone =>
        obtain ⟨-, caCerts, hCerts⟩ := hAsks
        exact .inr (.inr ⟨caCerts, hCerts, .inr (.inl ⟨hNone, rfl⟩)⟩)
    | policy _ hCerts hInner hPolicy =>
        exact .inr (.inr ⟨_, hCerts, .inr (.inr ⟨_, hInner, .inl hPolicy⟩)⟩)
    | verifier _ hCerts hInner hPolicy hVerifier =>
        refine .inr (.inr ⟨_, hCerts, .inr (.inr ⟨_, hInner, .inr ?_⟩)⟩)
        exact ⟨_, _, hPolicy, hVerifier, rfl⟩
  · rintro (hVersion | hCerts | ⟨caCerts, hCerts, ⟨hNone, rfl⟩ | ⟨hNone, rfl⟩ |
      ⟨innerMessage, hInner, hPolicy | ⟨builder, e, hPolicy, hVerifier, rfl⟩⟩⟩)
    · exact .version hContent hVersion
    · exact .anchors hContent hCerts
    · exact .sender ⟨hContent, caCerts, hCerts⟩ hNone
    · exact .inner ⟨hContent, caCerts, hCerts⟩ hNone
    · exact .policy hContent hCerts hInner hPolicy
    · exact .verifier hContent hCerts hInner hPolicy hVerifier

theorem shownResult_records (signedData : SignedData) (content : Octets)
    (before : SmimeValidationResult) :
    Records (validateSignedDataVersion signedData signedData.signerInfos = some ·) before
      (shownResult signedData content before) := by
  refine ((Records.extend before _).after_same rfl).congr fun err => ?_
  rw [Option.mem_toList]

theorem askedResult_records (env : Externals) (sender : Option Addr) (date : Option Instant)
    (shown : SmimeValidationResult) :
    Records (fun err => sender = none ∧ err = .missingFrom) shown
      (askedResult env sender date shown) := by
  cases sender with
  | none =>
      refine ((Records.push shown .missingFrom).after_same rfl).congr fun err => ?_
      simp
  | some address =>
      refine (Records.of_failures rfl).congr fun err => ?_
      simp

theorem startVerification_records (env : Externals) (signedData : SignedData)
    (target : SignedTarget) (trust : TrustConfig) (sender : Option Addr) (date : Option Instant)
    (result : SmimeValidationResult) :
    Records (StartDefect env signedData target trust sender) result
      (startVerification env signedData target trust.stores trust.caFilePem sender date
        result).1 := by
  have hOutcome := startVerification_outcome env signedData target trust.stores trust.caFilePem
    sender date result
  have hShown := shownResult_records signedData target.content result
  have hAsked := hShown.trans (askedResult_records env sender date _)
  generalize startVerification env signedData target trust.stores trust.caFilePem sender date
    result = start at hOutcome
  cases hOutcome with
  | unexpected hContent =>
      refine (Records.push result _).congr fun err => ?_
      constructor
      · rintro rfl
        exact .unexpected hContent
      · intro hDefect
        cases hDefect with
        | unexpected => rfl
        | version hNot | anchors hNot | policy hNot | verifier hNot => exact absurd hContent hNot
        | sender hAsks | inner hAsks => exact absurd hContent hAsks.1
  | noAnchors hContent hCerts =>
      refine (hShown.trans (.push _ _)).congr fun err => ?_
      rw [startDefect_iff date hContent, hCerts]
      simp [eq_comm]
  | noInner hContent hCerts hInner =>
      refine (hAsked.trans (.push _ _)).congr fun err => ?_
      rw [startDefect_iff date hContent, hCerts, hInner]
      simp [or_assoc]
  | noVerifier hContent hCerts hInner hVerifier =>
      refine (hAsked.trans (.push _ _)).congr fun err => ?_
      rw [startDefect_iff date hContent, hCerts, hInner]
      simp [hVerifier, or_assoc, eq_comm]
  | started hContent hCerts hInner hVerifier =>
      refine hAsked.congr fun err => ?_
      rw [startDefect_iff date hContent, hCerts, hInner]
      simp [hVerifier]

/-- A verification records what is amiss with the SignedData. -/
theorem verifySignedData_records (env : Externals) (signedData : SignedData)
    (target : SignedTarget) (trust : TrustConfig) (sender : Option Addr) (date : Option Instant)
    (result : SmimeValidationResult) :
    Records (VerificationDefect env signedData target trust sender date) result
      (verifySignedData env signedData target trust.stores trust.caFilePem sender date result) := by
  have hStart := startVerification_records env signedData target trust sender date result
  have hRun := verifySignedData_run env signedData target trust.stores trust.caFilePem sender date
    result
  generalize (startVerification env signedData target trust.stores trust.caFilePem sender date
    result).1 = start at hStart hRun
  generalize verifySignedData env signedData target trust.stores trust.caFilePem sender date
    result = after at hRun ⊢
  cases hRun with
  | stopped hNone =>
      refine hStart.congr fun err => ?_
      refine ⟨.start, fun hDefect => ?_⟩
      cases hDefect with
      | start hDefect => exact hDefect
      | signer hCtx => exact absurd hCtx (hNone _)
  | @looped ctx hCtx =>
      refine (hStart.trans (foldl_signerStep_records ctx _ { result := start })).congr fun err => ?_
      rw [reaches_signers hCtx]
      constructor
      · rintro (hDefect | ⟨⟨idx, signer⟩, hSigner, hDefect⟩)
        · exact .start hDefect
        · exact .signer hCtx (mem_indexed.mp hSigner) hDefect
      · intro hDefect
        cases hDefect with
        | start hDefect => exact .inl hDefect
        | @signer other idx signer err hOther hSigner hDefect =>
            cases reaches_unique hCtx hOther
            exact .inr ⟨(idx, signer), mem_indexed.mpr hSigner, hDefect⟩

end Verification

end Smime
