import Smime.SignerViolations

/-! What a verification leaves of the result as it was, and that the sender is
missing only where none is given. -/
namespace Smime

open X690 (Octets)
open X509 Mail Utils

variable {env : Externals}

section Frame

/-- The fields that a verification never writes. -/
structure SameSystem (before after : SmimeValidationResult) : Prop where
  signingSystem : after.signingSystem = before.signingSystem
  encryptionInfo : after.encryptionInfo = before.encryptionInfo

namespace SameSystem

theorem refl (result : SmimeValidationResult) : SameSystem result result := ⟨rfl, rfl⟩

theorem trans {first second third : SmimeValidationResult} (h : SameSystem first second)
    (h' : SameSystem second third) : SameSystem first third :=
  ⟨h'.signingSystem.trans h.signingSystem, h'.encryptionInfo.trans h.encryptionInfo⟩

end SameSystem

theorem signerStep_sameSystem (ctx : VerifyContext env) (loop : SignerLoop)
    (signer : Nat × SignerInfo) :
    SameSystem loop.result (signerStep ctx loop signer).result := by
  obtain ⟨failures, content, hRecords⟩ :=
    (verifySigner_cases ctx signer.1 signer.2 loop.result).1
  obtain ⟨notes, address, comment, date, hResult⟩ := signerStep_result ctx loop signer
  rw [hResult, hRecords]
  exact ⟨rfl, rfl⟩

theorem foldl_signerStep_sameSystem (ctx : VerifyContext env) (signers : List (Nat × SignerInfo))
    (loop : SignerLoop) :
    SameSystem loop.result (signers.foldl (signerStep ctx) loop).result := by
  induction signers generalizing loop with
  | nil => exact .refl _
  | cons signer rest ih =>
      rw [List.foldl_cons]
      exact (signerStep_sameSystem ctx loop signer).trans (ih _)

theorem startVerification_sameSystem (env : Externals) (signedData : SignedData)
    (target : SignedTarget) (trustStores : List TrustStore) (caFilePem : Option Octets)
    (outerFrom : Option Addr) (outerDate : Option Instant) (result : SmimeValidationResult) :
    SameSystem result (startVerification env signedData target trustStores caFilePem outerFrom
      outerDate result).1 := by
  have hOutcome := startVerification_outcome env signedData target trustStores caFilePem outerFrom
    outerDate result
  have hAsked : SameSystem result
      (askedResult env outerFrom outerDate (shownResult signedData target.content result)) := by
    cases outerFrom <;> exact ⟨rfl, rfl⟩
  generalize startVerification env signedData target trustStores caFilePem outerFrom outerDate
    result = start at hOutcome
  cases hOutcome with
  | unexpected hContent => exact ⟨rfl, rfl⟩
  | noAnchors hContent hCerts => exact ⟨rfl, rfl⟩
  | noInner hContent hCerts hInner => exact hAsked.trans ⟨rfl, rfl⟩
  | noVerifier hContent hCerts hInner hVerifier => exact hAsked.trans ⟨rfl, rfl⟩
  | started hContent hCerts hInner hVerifier => exact hAsked

theorem verifySignedData_sameSystem (env : Externals) (signedData : SignedData)
    (target : SignedTarget) (trustStores : List TrustStore) (caFilePem : Option Octets)
    (outerFrom : Option Addr) (outerDate : Option Instant) (result : SmimeValidationResult) :
    SameSystem result (verifySignedData env signedData target trustStores caFilePem outerFrom
      outerDate result) := by
  have hStart := startVerification_sameSystem env signedData target trustStores caFilePem outerFrom
    outerDate result
  have hRun := verifySignedData_run env signedData target trustStores caFilePem outerFrom outerDate
    result
  generalize (startVerification env signedData target trustStores caFilePem outerFrom outerDate
    result).1 = start at hStart hRun
  generalize verifySignedData env signedData target trustStores caFilePem outerFrom outerDate
    result = after at hRun ⊢
  cases hRun with
  | stopped hNone => exact hStart
  | @looped ctx hCtx =>
      exact hStart.trans (foldl_signerStep_sameSystem ctx (indexed ctx.signers) { result := start })

end Frame

section Sender

open Except SignedTarget

/-- The error is not the one about the sender. -/
def NotSender : SmimeError → Prop
  | .missingFrom => False
  | _ => True

theorem hashOidToHashTypePermitted_failsOnly (oid : ObjectIdentifier) :
    FailsOnly NotSender (hashOidToHashTypePermitted env oid) := by
  unfold hashOidToHashTypePermitted
  split
  · exact .ite (.ok _) (.error trivial)
  · exact .error trivial

theorem verifyMessageDigest_failsOnly (digestAlgorithm : AlgorithmIdentifier)
    (attributes : Option (List Attribute)) (content : Octets) :
    FailsOnly NotSender (verifyMessageDigest env digestAlgorithm attributes content) := by
  have hAttributes : FailsOnly NotSender
      (orError (.digestVerify "message-digest attribute missing") attributes) := by
    cases attributes with
    | none => exact .error trivial
    | some attrs => exact .ok _
  unfold verifyMessageDigest
  refine hAttributes.bind fun attrs => (FailsOnly.mapError (fun _ => trivial) _).bind fun hash =>
    (FailsOnly.mapError (fun _ => trivial) _).bind fun computed => ?_
  split
  · exact .error trivial
  · exact .error trivial
  · split
    · exact (FailsOnly.mapError (fun _ => trivial) _).bind fun expected =>
        .ite (.ok _) (.error trivial)
    · exact .error trivial

theorem encodeSignedAttrs_failsOnly (attrs : List Attribute) :
    FailsOnly NotSender (encodeSignedAttrs env attrs) := by
  unfold encodeSignedAttrs
  refine (FailsOnly.mapM (fun attr => ?_) attrs).bind fun encoded =>
    FailsOnly.mapError (fun _ => trivial) _
  exact (FailsOnly.mapError (fun _ => trivial) _).bind fun der => .ok _

theorem doVerifySignature_failsOnly (pk : AnyPublicKey)
    (digestAlgorithm signatureAlgorithm : AlgorithmIdentifier) (signature data : Octets) :
    FailsOnly NotSender
      (doVerifySignature env pk digestAlgorithm signatureAlgorithm signature data) :=
  (hashOidToHashTypePermitted_failsOnly _).bind fun _ => FailsOnly.mapError (fun _ => trivial) _

theorem verifyDetachedSignature_failsOnly (pk : AnyPublicKey)
    (digestAlgorithm signatureAlgorithm : AlgorithmIdentifier) (attrs : List Attribute)
    (signature : Octets) :
    FailsOnly NotSender
      (verifyDetachedSignature env pk digestAlgorithm signatureAlgorithm attrs signature) :=
  (encodeSignedAttrs_failsOnly attrs).bind fun _ => doVerifySignature_failsOnly _ _ _ _ _

theorem verifyEcontentSignature_failsOnly (pk : AnyPublicKey)
    (digestAlgorithm signatureAlgorithm : AlgorithmIdentifier)
    (attributes : Option (List Attribute)) (signature eContent : Octets) :
    FailsOnly NotSender (verifyEcontentSignature env pk digestAlgorithm signatureAlgorithm
      attributes signature eContent) := by
  unfold verifyEcontentSignature
  cases attributes with
  | none => exact (FailsOnly.ok _).bind fun _ => doVerifySignature_failsOnly _ _ _ _ _
  | some attrs =>
      exact (encodeSignedAttrs_failsOnly attrs).bind fun _ => doVerifySignature_failsOnly _ _ _ _ _

theorem loadCaCerts_failsOnly (trustStores : List TrustStore) (caFilePem : Option Octets) :
    FailsOnly NotSender (loadCaCerts env trustStores caFilePem) := by
  have hBundle : ∀ (bundle : Octets) (label : String),
      FailsOnly NotSender (loadBundle env bundle label) := fun bundle label =>
    (FailsOnly.mapError (fun _ => trivial) _).bind fun _ => .ok _
  unfold loadCaCerts
  refine (FailsOnly.mapM (fun store => hBundle _ _) trustStores).bind fun builtin => ?_
  cases caFilePem with
  | none => exact (FailsOnly.ok _).bind fun _ => .ok _
  | some bundle => exact (hBundle _ _).bind fun _ => .ok _

theorem verifyContext_failsOnly (signedData : SignedData) (target : SignedTarget)
    (trustStores : List TrustStore) (outerDate : Option Instant) (prepared : Prepared) :
    FailsOnly NotSender (verifyContext env signedData target trustStores outerDate prepared) := by
  have hStep : ∀ {α : Type} (step : String) (outcome : Except String α),
      FailsOnly NotSender (policyStep step outcome) := fun step outcome =>
    FailsOnly.mapError (fun _ => trivial) outcome
  have hBuilder : FailsOnly NotSender (buildPolicyBuilder env prepared.caCerts) :=
    (hStep _ _).bind fun _ => (hStep _ _).bind fun _ => (hStep _ _).bind fun _ => hStep _ _
  exact hBuilder.bind fun _ => (FailsOnly.mapError (fun _ => trivial) _).bind fun _ => .ok _

/-- What is added to the failures is not about the sender. -/
def RecordsNoSender (before after : SmimeValidationResult) : Prop :=
  ∃ failures : List SmimeError, (∀ err ∈ failures, NotSender err) ∧
    after.failures = before.failures ++ failures

namespace RecordsNoSender

theorem refl (result : SmimeValidationResult) : RecordsNoSender result result :=
  ⟨[], by simp, by rw [List.append_nil]⟩

theorem trans {first second third : SmimeValidationResult} (h : RecordsNoSender first second)
    (h' : RecordsNoSender second third) : RecordsNoSender first third := by
  obtain ⟨failures, hFailures, hSecond⟩ := h
  obtain ⟨more, hMore, hThird⟩ := h'
  refine ⟨failures ++ more, List.forall_mem_append.mpr ⟨hFailures, hMore⟩, ?_⟩
  rw [hThird, hSecond, List.append_assoc]

theorem extend {errs : List SmimeError} (h : ∀ err ∈ errs, NotSender err)
    (result : SmimeValidationResult) : RecordsNoSender result (result.extend errs) :=
  ⟨errs, h, rfl⟩

theorem push {err : SmimeError} (h : NotSender err) (result : SmimeValidationResult) :
    RecordsNoSender result (result.push err) :=
  ⟨[err], by simpa using h, rfl⟩

theorem missingFrom_iff {before after : SmimeValidationResult} (h : RecordsNoSender before after) :
    .missingFrom ∈ after.failures ↔ .missingFrom ∈ before.failures := by
  obtain ⟨failures, hFailures, hAfter⟩ := h
  rw [hAfter, List.mem_append]
  exact or_iff_left fun hMem => hFailures _ hMem

end RecordsNoSender

theorem failureOf_notSender {α : Type} {outcome : Except SmimeError α}
    (h : FailsOnly NotSender outcome) : ∀ err ∈ failureOf outcome, NotSender err := by
  cases outcome with
  | ok a => simp [failureOf]
  | error e => simpa [failureOf] using h e rfl

theorem optional_notSender {c : Prop} [Decidable c] {err : SmimeError} (h : NotSender err) :
    ∀ other ∈ if c then [err] else [], NotSender other := by
  split
  · simpa using h
  · simp

theorem checkAlgorithms_failsOnly (signer : SignerInfo) (idx : Nat) :
    FailsOnly NotSender (checkAlgorithms env signer idx) := by
  have hIdx : ∀ err, NotSender err → NotSender (setDigestIdx idx err) := by
    intro err hErr
    cases err <;> trivial
  refine (FailsOnly.mapError_of (hashOidToHashTypePermitted_failsOnly _) hIdx).bind fun hash => ?_
  dsimp only
  refine .ite (.ok _) (.ite (.error trivial) ?_)
  exact (FailsOnly.mapError (fun _ => trivial) _).bind fun _ => .ok _

theorem checkAlgorithms_warnings {signer : SignerInfo} {idx : Nat} {warnings : List SmimeError}
    (h : checkAlgorithms env signer idx = .ok warnings) : ∀ err ∈ warnings, NotSender err := by
  simp only [checkAlgorithms, bind_eq_ok_iff] at h
  obtain ⟨hash, -, h⟩ := h
  split at h
  · cases h
    simp
  · split at h
    · cases h
    · simp only [bind_eq_ok_iff] at h
      obtain ⟨params, -, h⟩ := h
      cases h
      have hMismatch : ∀ err ∈ digestMismatchWarnings env params hash idx, NotSender err := by
        cases params with
        | other => simp [digestMismatchWarnings]
        | _ => exact optional_notSender trivial
      have hPss : ∀ err ∈ rsaPssWarnings env signer.digestEncryptionAlgorithm.params idx,
          NotSender err := by
        unfold rsaPssWarnings
        split
        · refine List.forall_mem_append.mpr ⟨optional_notSender trivial, ?_⟩
          split
          · exact optional_notSender trivial
          · simp
        · simp
      have hWeak : ∀ err ∈ weakDigestWarnings env signer.digestEncryptionAlgorithm.oid hash idx,
          NotSender err := by
        unfold weakDigestWarnings
        split
        · split
          · simp
          · simp [NotSender]
        · simp
      simp only [List.forall_mem_append]
      exact ⟨⟨hMismatch, hPss⟩, hWeak⟩

theorem attributeFailures_notSender (signer : SignerInfo) (idx : Nat) (attr : Attribute) :
    ∀ err ∈ attributeFailures env signer idx attr, NotSender err := by
  intro err hErr
  have hViolation := isViolation_of_mem_attributeFailures hErr
  cases err <;> trivial

theorem prepareSigner_notSender (signer : SignerInfo) (certs : List Certificate) (idx : Nat) :
    ∀ err ∈ (prepareSigner env signer certs idx).1, NotSender err := by
  have hVersion : ∀ err ∈ signerVersionFailures signer idx, NotSender err :=
    optional_notSender trivial
  unfold prepareSigner
  cases hAlgorithms : checkAlgorithms env signer idx with
  | error err =>
      refine List.forall_mem_append.mpr ⟨hVersion, ?_⟩
      simpa using checkAlgorithms_failsOnly signer idx err hAlgorithms
  | ok warnings =>
      have hScan : ∀ err ∈ (scanAttributes env signer idx).failures, NotSender err := by
        rw [scanAttributes, foldl_step_failures]
        simpa using fun err attr _ => attributeFailures_notSender signer idx attr err
      have hCardinality : ∀ err ∈ cardinalityFailures signer idx (scanAttributes env signer idx),
          NotSender err := by
        simp only [cardinalityFailures, List.forall_mem_append]
        exact ⟨⟨⟨optional_notSender trivial, optional_notSender trivial⟩,
          optional_notSender trivial⟩, optional_notSender trivial⟩
      have hAll := List.forall_mem_append.mpr ⟨List.forall_mem_append.mpr
        ⟨List.forall_mem_append.mpr ⟨hVersion, checkAlgorithms_warnings hAlgorithms⟩, hScan⟩,
        hCardinality⟩
      dsimp only
      split
      · exact List.forall_mem_append.mpr ⟨hAll, by simp [NotSender]⟩
      · exact hAll

theorem verifyCandidate_noSender (target : SignedTarget) (pk : AnyPublicKey) (signer : SignerInfo)
    (hasSignedAttrs : Bool) (innerMessage : Message) (checks : SignatureChecks)
    (result : SmimeValidationResult) :
    RecordsNoSender result (target.verifyCandidate env pk signer hasSignedAttrs innerMessage checks
      result).result := by
  cases target with
  | detached content =>
      have hDigest := failureOf_notSender (@verifyMessageDigest_failsOnly env
        signer.digestAlgorithm signer.authenticatedAttributes content)
      have hSignature := failureOf_notSender (@verifyDetachedSignature_failsOnly env pk
        signer.digestAlgorithm signer.digestEncryptionAlgorithm
        (signer.authenticatedAttributes.getD []) signer.encryptedDigest)
      unfold verifyCandidate verifyDetachedCandidate
      dsimp only
      split
      · exact .extend hSignature _
      · split
        · exact (RecordsNoSender.extend hSignature result).trans
            ⟨[.wildDuckWorkaround], by simp [NotSender], rfl⟩
        · exact (RecordsNoSender.extend hSignature _).trans (.extend hDigest _)
  | econtent content =>
      have hDigest : FailsOnly NotSender (if hasSignedAttrs then
          verifyMessageDigest env signer.digestAlgorithm signer.authenticatedAttributes content
          else .ok ()) := .ite (verifyMessageDigest_failsOnly _ _ _) (.ok _)
      exact (RecordsNoSender.extend (failureOf_notSender hDigest) _).trans
        (.extend (failureOf_notSender (verifyEcontentSignature_failsOnly _ _ _ _ _ _)) _)

theorem findLeaf_noSender (ctx : VerifyContext env) (signer : SignerInfo) (hasSignedAttrs : Bool) (idx : Nat)
    (candidates : List Certificate) (result : SmimeValidationResult) :
    RecordsNoSender result (findLeaf ctx signer hasSignedAttrs idx candidates result).1 := by
  induction candidates generalizing result with
  | nil => exact .refl _
  | cons candidate rest ih =>
      unfold findLeaf
      split
      next e hKey =>
        have hError : NotSender (.chainValidation (fingerprintOrError env candidate) idx e) := trivial
        exact (RecordsNoSender.push hError result).trans (ih _)
      next =>
        dsimp only
        split
        · exact verifyCandidate_noSender _ _ _ _ _ _ _
        · exact (verifyCandidate_noSender _ _ _ _ _ _ _).trans (ih _)

theorem scan_noSender (staples : List BasicOcspResponse)
    (links : List (Nat × Certificate × Certificate)) (scan : OcspScan)
    (h : ∀ err ∈ scan.errors, NotSender err) :
    ∀ err ∈ (links.foldl (OcspScan.step env staples) scan).errors, NotSender err := by
  induction links generalizing scan with
  | nil => exact h
  | cons link rest ih =>
      rw [List.foldl_cons]
      apply ih
      unfold OcspScan.step
      dsimp only
      split
      · exact h
      · dsimp only
        split
        · exact List.forall_mem_append.mpr ⟨h, by simp [NotSender]⟩
        · exact h

theorem validateChain_noSender (cert : Certificate) (certs : List Certificate)
    (verifier : env.Verifier) (staples : List BasicOcspResponse) (idx : Nat) :
    ∀ err ∈ (validateChain env cert certs verifier staples idx).failures, NotSender err := by
  unfold validateChain
  cases env.verify verifier cert (intermediariesOf cert certs) with
  | error e => simp [NotSender]
  | ok chain =>
      dsimp only
      unfold applyStapledOcsp
      split
      · simp
      · exact scan_noSender staples _ {} (by simp)

theorem verifySigner_noSender (ctx : VerifyContext env) (idx : Nat) (signer : SignerInfo)
    (result : SmimeValidationResult) :
    RecordsNoSender result (verifySigner ctx idx signer result).1 := by
  have hPrepared := @prepareSigner_notSender env signer ctx.certs idx
  rcases hPrepare : prepareSigner env signer ctx.certs idx with ⟨failures, prepared⟩
  rw [hPrepare] at hPrepared
  have hExtend := RecordsNoSender.extend hPrepared result
  simp only [verifySigner, hPrepare]
  cases prepared with
  | none => exact hExtend
  | some prepared =>
      obtain ⟨signingTime, candidates⟩ := prepared
      dsimp only
      cases hGuard : ctx.target.precheckSigner env signer.authenticatedAttributes.isSome with
      | some err =>
          refine hExtend.trans (.push ?_ _)
          cases hTarget : ctx.target with
          | detached content =>
              rw [hTarget] at hGuard
              simp only [precheckSigner] at hGuard
              split at hGuard
              · cases hGuard
              · cases hGuard
                trivial
          | econtent content =>
              rw [hTarget] at hGuard
              simp only [precheckSigner] at hGuard
              split at hGuard
              · cases hGuard
                trivial
              · cases hGuard
      | none =>
          have hFound := hExtend.trans (findLeaf_noSender ctx signer
            signer.authenticatedAttributes.isSome idx candidates (result.extend failures))
          rcases hFind : findLeaf ctx signer signer.authenticatedAttributes.isSome idx candidates
            (result.extend failures) with ⟨after, found⟩
          rw [hFind] at hFound
          cases found with
          | none => exact hFound
          | some found => exact hFound.trans (.extend (validateChain_noSender _ _ _ _ _) _)

theorem signerStep_noSender (ctx : VerifyContext env) (loop : SignerLoop)
    (signer : Nat × SignerInfo) :
    RecordsNoSender loop.result (signerStep ctx loop signer).result := by
  obtain ⟨notes, address, comment, date, hResult⟩ := signerStep_result ctx loop signer
  rw [hResult]
  exact verifySigner_noSender ctx signer.1 signer.2 loop.result

theorem foldl_signerStep_noSender (ctx : VerifyContext env) (signers : List (Nat × SignerInfo))
    (loop : SignerLoop) :
    RecordsNoSender loop.result (signers.foldl (signerStep ctx) loop).result := by
  induction signers generalizing loop with
  | nil => exact .refl _
  | cons signer rest ih =>
      rw [List.foldl_cons]
      exact (signerStep_noSender ctx loop signer).trans (ih _)

/-- The verification gets as far as to look for the sender. -/
def AsksSender (env : Externals) (signedData : SignedData) (trust : TrustConfig) : Prop :=
  signedData.content ≠ .other ∧ ∃ caCerts : List Certificate,
    loadCaCerts env trust.stores trust.caFilePem = .ok caCerts

theorem startVerification_missingFrom_iff (env : Externals) (signedData : SignedData)
    (target : SignedTarget) (trust : TrustConfig) (sender : Option Addr) (date : Option Instant)
    (result : SmimeValidationResult) :
    .missingFrom ∈ (startVerification env signedData target trust.stores trust.caFilePem sender
        date result).1.failures ↔
      .missingFrom ∈ result.failures ∨ (sender = none ∧ AsksSender env signedData trust) := by
  have hVersion : .missingFrom ∉
      (validateSignedDataVersion signedData signedData.signerInfos).toList := by
    unfold validateSignedDataVersion
    dsimp only
    split <;> simp
  have hOutcome := startVerification_outcome env signedData target trust.stores trust.caFilePem
    sender date result
  have hShown : .missingFrom ∈ (shownResult signedData target.content result).failures ↔
      .missingFrom ∈ result.failures := by
    simp [shownResult, hVersion]
  have hAsked : ∀ (caCerts : List Certificate) (shown : SmimeValidationResult),
      signedData.content ≠ .other → loadCaCerts env trust.stores trust.caFilePem = .ok caCerts →
        (.missingFrom ∈ (askedResult env sender date shown).failures ↔
          .missingFrom ∈ shown.failures ∨ (sender = none ∧ AsksSender env signedData trust)) := by
    intro caCerts shown hContent hCerts
    have hAsks : AsksSender env signedData trust := ⟨hContent, caCerts, hCerts⟩
    cases sender <;> simp [askedResult, hAsks]
  have hPush : ∀ (e : SmimeError) (before : SmimeValidationResult), NotSender e →
      (.missingFrom ∈ (before.push e).failures ↔ .missingFrom ∈ before.failures) :=
    fun e before hError => (RecordsNoSender.push hError before).missingFrom_iff
  generalize startVerification env signedData target trust.stores trust.caFilePem sender date
    result = start at hOutcome
  cases hOutcome with
  | unexpected hContent => simp [AsksSender, hContent]
  | noAnchors hContent hCerts =>
      rw [hPush _ _ (loadCaCerts_failsOnly _ _ _ hCerts), hShown]
      simp [AsksSender, hCerts]
  | noInner hContent hCerts hInner =>
      rw [hPush .parseInner _ trivial, hAsked _ _ hContent hCerts, hShown]
  | noVerifier hContent hCerts hInner hVerifier =>
      rw [hPush _ _ (verifyContext_failsOnly _ _ _ _ _ _ hVerifier), hAsked _ _ hContent hCerts,
        hShown]
  | started hContent hCerts hInner hVerifier => rw [hAsked _ _ hContent hCerts, hShown]

/-- A sender is missing when none is given and the verification looks for it. -/
theorem verifySignedData_missingFrom_iff (env : Externals) (signedData : SignedData)
    (target : SignedTarget) (trust : TrustConfig) (sender : Option Addr) (date : Option Instant)
    (result : SmimeValidationResult) :
    .missingFrom ∈ (verifySignedData env signedData target trust.stores trust.caFilePem sender date
        result).failures ↔
      .missingFrom ∈ result.failures ∨ (sender = none ∧ AsksSender env signedData trust) := by
  rw [← startVerification_missingFrom_iff env signedData target trust sender date result]
  have hRun := verifySignedData_run env signedData target trust.stores trust.caFilePem sender date
    result
  generalize (startVerification env signedData target trust.stores trust.caFilePem sender date
    result).1 = start at hRun ⊢
  generalize verifySignedData env signedData target trust.stores trust.caFilePem sender date
    result = after at hRun ⊢
  cases hRun with
  | stopped hNone => rfl
  | @looped ctx hCtx =>
      exact (foldl_signerStep_noSender ctx (indexed ctx.signers) { result := start }).missingFrom_iff

end Sender

section Headers

/-- The two results show the same sender and date. -/
structure SameHeaders (first second : SmimeValidationResult) : Prop where
  fromAddress : first.fromAddress = second.fromAddress
  fromComment : first.fromComment = second.fromComment
  date : first.date = second.date

namespace SameHeaders

theorem refl (result : SmimeValidationResult) : SameHeaders result result := ⟨rfl, rfl, rfl⟩

theorem symm {first second : SmimeValidationResult} (h : SameHeaders first second) :
    SameHeaders second first :=
  ⟨h.fromAddress.symm, h.fromComment.symm, h.date.symm⟩

theorem trans {first second third : SmimeValidationResult} (h : SameHeaders first second)
    (h' : SameHeaders second third) : SameHeaders first third :=
  ⟨h.fromAddress.trans h'.fromAddress, h.fromComment.trans h'.fromComment, h.date.trans h'.date⟩

end SameHeaders

/-- The result with the sender and date of another one. -/
def SmimeValidationResult.withHeaders (headers result : SmimeValidationResult) :
    SmimeValidationResult :=
  { result with
    fromAddress := headers.fromAddress
    fromComment := headers.fromComment
    date := headers.date }

/-- A verification that gets to the sender puts it, with the date, in the place
of what was there. -/
theorem startVerification_withHeaders (signedData : SignedData) (target : SignedTarget)
    (trust : TrustConfig) (sender : Option Addr) (date : Option Instant)
    (headers result : SmimeValidationResult) (hAsks : AsksSender env signedData trust)
    (hSame : sender = none →
      headers.fromAddress = result.fromAddress ∧ headers.fromComment = result.fromComment) :
    startVerification env signedData target trust.stores trust.caFilePem sender date
        (headers.withHeaders result) =
      startVerification env signedData target trust.stores trust.caFilePem sender date result := by
  obtain ⟨hContent, caCerts, hCerts⟩ := hAsks
  unfold startVerification prepareSignedDataVerification
  cases hData : signedData.content with
  | other => exact absurd hData hContent
  | data content =>
      dsimp only
      rw [hCerts]
      cases sender with
      | some address => rfl
      | none =>
          obtain ⟨hAddress, hComment⟩ := hSame rfl
          simp only [SmimeValidationResult.withHeaders, hAddress, hComment]
          rfl

theorem verifySignedData_withHeaders (signedData : SignedData) (target : SignedTarget)
    (trust : TrustConfig) (sender : Option Addr) (date : Option Instant)
    (headers result : SmimeValidationResult) (hAsks : AsksSender env signedData trust)
    (hSame : sender = none →
      headers.fromAddress = result.fromAddress ∧ headers.fromComment = result.fromComment) :
    verifySignedData env signedData target trust.stores trust.caFilePem sender date
        (headers.withHeaders result) =
      verifySignedData env signedData target trust.stores trust.caFilePem sender date result := by
  rw [verifySignedData, verifySignedData,
    startVerification_withHeaders signedData target trust sender date headers result hAsks hSame]

/-- Otherwise the sender and date are of no use, and those from before stay. -/
theorem verifySignedData_of_not_asks (signedData : SignedData) (target : SignedTarget)
    (trust : TrustConfig) (sender other : Option Addr) (date otherDate : Option Instant)
    (headers result : SmimeValidationResult) (hNot : ¬ AsksSender env signedData trust) :
    verifySignedData env signedData target trust.stores trust.caFilePem sender date
        (headers.withHeaders result) =
      headers.withHeaders (verifySignedData env signedData target trust.stores trust.caFilePem other
        otherDate result) := by
  unfold verifySignedData startVerification prepareSignedDataVerification
  cases hData : signedData.content with
  | other => rfl
  | data content =>
      dsimp only
      cases hCerts : loadCaCerts env trust.stores trust.caFilePem with
      | error e => rfl
      | ok caCerts =>
          refine absurd ⟨?_, caCerts, hCerts⟩ hNot
          rw [hData]
          exact nofun

end Headers

end Smime
