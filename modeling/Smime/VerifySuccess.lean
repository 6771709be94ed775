import Smime.Layers

/-! What a verification without failures says about the signers: which message
has a SignedData, that whatever is left unverified leaves a failure, and when no
failure means that there is a valid signature. -/
namespace Smime

open X690 (Octets)
open X509 Mail Utils

variable {env : Externals}

section Silence

open SignedTarget

/-- A signer that is skipped leaves a failure. -/
theorem prepareSigner_none_failures {signer : SignerInfo} {certs : List Certificate} {idx : Nat}
    (h : (prepareSigner env signer certs idx).2 = none) :
    (prepareSigner env signer certs idx).1 ≠ [] := by
  unfold prepareSigner at h ⊢
  cases hAlgorithms : checkAlgorithms env signer idx with
  | error err => simp
  | ok warnings =>
      rw [hAlgorithms] at h
      dsimp only at h ⊢
      split at h
      next hEmpty => simp [hEmpty]
      next => cases h

theorem failureOf_eq_nil_iff {outcome : Except SmimeError Unit} :
    failureOf outcome = [] ↔ passed outcome = true := by
  cases outcome with
  | ok => simp [failureOf, passed]
  | error => simp [failureOf, passed]

/-- A candidate key that does not verify leaves a failure. -/
theorem verifyCandidate_silent {target : SignedTarget} {pk : AnyPublicKey} {signer : SignerInfo}
    {innerMessage : Message} {result : SmimeValidationResult}
    (h : (target.verifyCandidate env pk signer signer.authenticatedAttributes.isSome innerMessage {}
      result).result.failures.length ≤ result.failures.length) :
    (target.verifyCandidate env pk signer signer.authenticatedAttributes.isSome innerMessage {}
      result).verifies = true := by
  cases target with
  | detached content =>
      unfold verifyCandidate verifyDetachedCandidate at h ⊢
      dsimp only at h ⊢
      split at h
      next hBoth => rw [if_pos hBoth]
      next hNotBoth =>
        rw [if_neg hNotBoth]
        split at h
        next hBoth => rw [if_pos hBoth]
        next =>
          exfalso
          simp only [SmimeValidationResult.failures_extend, List.length_append] at h
          have hSignature : passed (verifyDetachedSignature env pk signer.digestAlgorithm
              signer.digestEncryptionAlgorithm (signer.authenticatedAttributes.getD [])
              signer.encryptedDigest) = true := by
            rw [← failureOf_eq_nil_iff, ← List.length_eq_zero_iff]
            omega
          have hDigest : passed (verifyMessageDigest env signer.digestAlgorithm
              signer.authenticatedAttributes content) = true := by
            rw [← failureOf_eq_nil_iff, ← List.length_eq_zero_iff]
            omega
          apply hNotBoth
          rw [hSignature, hDigest]
          rfl
  | econtent content =>
      unfold verifyCandidate verifyEcontentCandidate at h ⊢
      simp only [SmimeValidationResult.failures_extend, List.length_append] at h
      have hSignature : passed (verifyEcontentSignature env pk signer.digestAlgorithm
          signer.digestEncryptionAlgorithm signer.authenticatedAttributes signer.encryptedDigest
          content) = true := by
        rw [← failureOf_eq_nil_iff, ← List.length_eq_zero_iff]
        omega
      cases hAttrs : signer.authenticatedAttributes with
      | none =>
          rw [hAttrs] at hSignature
          simp [hSignature]
      | some attrs =>
          have hDigest : passed (verifyMessageDigest env signer.digestAlgorithm
              signer.authenticatedAttributes content) = true := by
            rw [← failureOf_eq_nil_iff, ← List.length_eq_zero_iff]
            rw [hAttrs, Option.isSome_some, if_pos rfl] at h
            rw [hAttrs]
            omega
          rw [hAttrs] at hSignature hDigest
          simp [hSignature, hDigest]

theorem onlyRecords_length {before after : SmimeValidationResult} (h : OnlyRecords before after) :
    before.failures.length ≤ after.failures.length := by
  obtain ⟨failures, content, rfl⟩ := h
  simp

variable {ctx : VerifyContext env} {signer : SignerInfo}

/-- When no candidate key verifies, each of them leaves a failure. -/
theorem findLeaf_none_failures {idx : Nat} {candidates : List Certificate}
    {result : SmimeValidationResult} (hCandidates : candidates ≠ [])
    (h : (findLeaf ctx signer signer.authenticatedAttributes.isSome idx candidates
      result).2 = none) :
    result.failures.length < (findLeaf ctx signer signer.authenticatedAttributes.isSome idx
      candidates result).1.failures.length := by
  cases candidates with
  | nil => exact absurd rfl hCandidates
  | cons candidate rest =>
      unfold findLeaf at h ⊢
      cases hKey : publicKey env candidate with
      | error e =>
          have hRest := onlyRecords_length (@findLeaf_onlyRecords env ctx signer
            signer.authenticatedAttributes.isSome idx rest
            (result.push (.chainValidation (fingerprintOrError env candidate) idx e)))
          rw [SmimeValidationResult.failures_push, List.length_append] at hRest
          exact hRest
      | ok pk =>
          rw [hKey] at h
          dsimp only at h ⊢
          split at h
          next => cases h
          next hNot =>
            rw [if_neg hNot]
            have hGrown : result.failures.length < (ctx.target.verifyCandidate env pk signer
                signer.authenticatedAttributes.isSome ctx.innerMessage {}
                result).result.failures.length := by
              by_contra hSame
              exact hNot (verifyCandidate_silent (not_lt.mp hSame))
            exact hGrown.trans_le (onlyRecords_length findLeaf_onlyRecords)

/-- A chain that is not trusted leaves a failure. -/
theorem scan_silent {staples : List BasicOcspResponse}
    {links : List (Nat × Certificate × Certificate)} {scan : OcspScan}
    (hScan : scan.anyRevoked = true → scan.errors ≠ []) :
    (links.foldl (OcspScan.step env staples) scan).anyRevoked = true →
      (links.foldl (OcspScan.step env staples) scan).errors ≠ [] := by
  induction links generalizing scan with
  | nil => exact hScan
  | cons link rest ih =>
      rw [List.foldl_cons]
      apply ih
      unfold OcspScan.step
      dsimp only
      cases stapledStatusFor env staples link.2.1 link.2.2 env.now with
      | none => exact hScan
      | some status =>
          dsimp only
          by_cases hRevoked : status = .revoked
          · simp [hRevoked]
          · simpa [hRevoked] using hScan

theorem validateChain_silent {cert : Certificate} {certs : List Certificate}
    {verifier : env.Verifier} {staples : List BasicOcspResponse} {idx : Nat}
    (h : (validateChain env cert certs verifier staples idx).failures = []) :
    (validateChain env cert certs verifier staples idx).trusted = true := by
  unfold validateChain at h ⊢
  cases hVerify : env.verify verifier cert (intermediariesOf cert certs) with
  | error e =>
      rw [hVerify] at h
      cases h
  | ok chain =>
      rw [hVerify] at h
      dsimp only at h ⊢
      unfold applyStapledOcsp at h ⊢
      split at h
      next hEmpty => rw [if_pos hEmpty]; rfl
      next hStaples =>
        rw [if_neg hStaples]
        obtain ⟨-, hLeaf⟩ := @scan_anyRevoked_iff env staples (chainLinks chain) {} (by simp)
        have hSilent := @scan_silent env staples (chainLinks chain) {} (by simp)
        dsimp only at h ⊢
        cases hAny : ((chainLinks chain).foldl (OcspScan.step env staples) {}).anyRevoked with
        | true => exact absurd h (hSilent hAny)
        | false =>
            rw [bne_iff_ne]
            intro hRevoked
            rw [hLeaf hRevoked] at hAny
            cases hAny

/-- A signer of which nothing is recorded has an entry, and it is valid. -/
theorem verifySigner_silent {idx : Nat} {result : SmimeValidationResult}
    (h : (verifySigner ctx idx signer result).1.failures.length ≤ result.failures.length) :
    ∃ (cert : Certificate) (entry : SignerValidation),
      (verifySigner ctx idx signer result).2 = some entry ∧ Accepts ctx idx signer cert ∧
        EntryOf env cert entry ∧ entry.signatureValid = true := by
  have hCases := (verifySigner_cases ctx idx signer result).2
  have hPrepared := @prepareSigner_none_failures env signer ctx.certs idx
  have hCandidates := @prepareSigner_some_iff env signer ctx.certs idx
  rcases hPrepare : prepareSigner env signer ctx.certs idx with ⟨failures, prepared⟩
  rw [hPrepare] at hPrepared hCandidates
  simp only [verifySigner, hPrepare] at h hCases ⊢
  have hExtend : result.failures.length ≤ (result.extend failures).failures.length :=
    onlyRecords_length (.extend result failures)
  cases prepared with
  | none =>
      have hNonempty := List.length_pos_of_ne_nil (hPrepared rfl)
      simp only [SmimeValidationResult.failures_extend, List.length_append] at h hNonempty
      omega
  | some prepared =>
      obtain ⟨signingTime, candidates⟩ := prepared
      obtain ⟨-, hNonempty, -⟩ := hCandidates.mp ⟨signingTime, rfl⟩
      dsimp only at h hCases ⊢
      cases hGuard : ctx.target.precheckSigner env signer.authenticatedAttributes.isSome with
      | some err =>
          rw [hGuard] at h
          simp only [SmimeValidationResult.failures_push, List.length_append,
            List.length_singleton] at h
          omega
      | none =>
          have hNotFound := @findLeaf_none_failures env ctx signer idx candidates
            (result.extend failures) hNonempty
          have hRecords := onlyRecords_length (@findLeaf_onlyRecords env ctx signer
            signer.authenticatedAttributes.isSome idx candidates (result.extend failures))
          rw [hGuard] at h hCases
          rcases hFind : findLeaf ctx signer signer.authenticatedAttributes.isSome idx candidates
            (result.extend failures) with ⟨after, found⟩
          rw [hFind] at hNotFound hRecords
          simp only [hFind] at h hCases ⊢
          cases found with
          | none =>
              have hGrown := hNotFound rfl
              dsimp only at h hGrown
              omega
          | some found =>
              dsimp only at h hCases hRecords ⊢
              rcases hCases with ⟨hNone, -⟩ | ⟨cert, entry, hEntry, hFinds, hOf, hValid⟩
              · cases hNone
              · obtain ⟨leaf, checks⟩ := found
                obtain ⟨⟨signature, digest, rfl⟩, hFlags⟩ := findLeaf_checks hFind
                have hTrusted : (validateChain env leaf ctx.certs ctx.verifier ctx.staples
                    idx).trusted = true := by
                  apply validateChain_silent
                  rw [← List.length_eq_zero_iff]
                  simp only [SmimeValidationResult.failures_extend, List.length_append] at h
                  omega
                have hEntryValid : entry.signatureValid = true := by
                  rw [← Option.some.inj hEntry]
                  cases ctx.innerMessage.contentType <;>
                    simp only [judge, buildSignerEntry, hFlags, hTrusted, Bool.and_self]
                exact ⟨cert, entry, hEntry, ⟨hFinds, hValid.mp hEntryValid⟩, hOf, hEntryValid⟩

end Silence

section Loop

variable {ctx : VerifyContext env}

/-- The entry is valid and that of the signer. -/
def VerifiedBy (ctx : VerifyContext env) (signer : Nat × SignerInfo) (entry : SignerValidation) :
    Prop :=
  entry.signatureValid = true ∧
    ∃ cert : Certificate, Accepts ctx signer.1 signer.2 cert ∧ EntryOf env cert entry

/-- The loop only adds failures. -/
theorem signerStep_failures_length (ctx : VerifyContext env) (loop : SignerLoop)
    (signer : Nat × SignerInfo) :
    (verifySigner ctx signer.1 signer.2 loop.result).1.failures.length =
        (signerStep ctx loop signer).result.failures.length ∧
      loop.result.failures.length ≤ (signerStep ctx loop signer).result.failures.length := by
  have hRecords := onlyRecords_length (verifySigner_cases ctx signer.1 signer.2 loop.result).1
  obtain ⟨notes, address, comment, date, hResult⟩ := signerStep_result ctx loop signer
  rw [hResult]
  exact ⟨rfl, hRecords⟩

theorem foldl_signerStep_failures_length (ctx : VerifyContext env)
    (signers : List (Nat × SignerInfo)) (loop : SignerLoop) :
    loop.result.failures.length ≤
      (signers.foldl (signerStep ctx) loop).result.failures.length := by
  induction signers generalizing loop with
  | nil => exact le_refl _
  | cons signer rest ih =>
      rw [List.foldl_cons]
      exact (signerStep_failures_length ctx loop signer).2.trans (ih _)

/-- An iteration that records nothing pushes a valid entry. -/
theorem signerStep_silent {loop : SignerLoop} {signer : Nat × SignerInfo}
    (h : (signerStep ctx loop signer).result.failures.length ≤ loop.result.failures.length) :
    ∃ entry : SignerValidation,
      (signerStep ctx loop signer).result.signers = loop.result.signers ++ [entry] ∧
        VerifiedBy ctx signer entry := by
  rw [← (signerStep_failures_length ctx loop signer).1] at h
  obtain ⟨cert, entry, hEntry, hAccepts, hOf, hValid⟩ := verifySigner_silent h
  obtain ⟨⟨failures, content, hRecords⟩, -⟩ := verifySigner_cases ctx signer.1 signer.2 loop.result
  obtain ⟨notes, address, comment, date, hResult⟩ := signerStep_result ctx loop signer
  rw [hResult, hEntry, hRecords]
  exact ⟨pushNotes entry notes, rfl, hValid, cert, hAccepts, hOf.emails, hOf.names⟩

/-- A loop that records nothing has one valid entry for each signer. -/
theorem foldl_signerStep_silent {signers : List (Nat × SignerInfo)} {loop : SignerLoop}
    (h : (signers.foldl (signerStep ctx) loop).result.failures.length ≤
      loop.result.failures.length) :
    ∃ pushed : List SignerValidation,
      (signers.foldl (signerStep ctx) loop).result.signers = loop.result.signers ++ pushed ∧
        List.Forall₂ (VerifiedBy ctx) signers pushed := by
  induction signers generalizing loop with
  | nil => exact ⟨[], by simp, .nil⟩
  | cons signer rest ih =>
      rw [List.foldl_cons] at h
      have hFirst := (signerStep_failures_length ctx loop signer).2
      have hRest := foldl_signerStep_failures_length ctx rest (signerStep ctx loop signer)
      obtain ⟨entry, hEntry, hVerified⟩ := @signerStep_silent env ctx loop signer (hRest.trans h)
      obtain ⟨pushed, hPushed, hAll⟩ := ih (h.trans hFirst)
      refine ⟨entry :: pushed, ?_, .cons hVerified hAll⟩
      rw [List.foldl_cons, hPushed, hEntry, List.append_assoc, List.singleton_append]

end Loop

section Start

/-- Nothing is amiss before the signers are looked at. -/
structure StartsCleanly (env : Externals) (signedData : SignedData) (target : SignedTarget)
    (trust : TrustConfig) (sender : Option Addr) (date : Option Instant) : Prop where
  version : validateSignedDataVersion signedData signedData.signerInfos = none
  sender : sender.isSome
  reaches : ∃ ctx : VerifyContext env,
    Reaches signedData target trust.stores trust.caFilePem date ctx

/-- What is before the loop is silent exactly when nothing is amiss. -/
theorem startVerification_silent_iff (env : Externals) (signedData : SignedData)
    (target : SignedTarget) (trust : TrustConfig) (sender : Option Addr) (date : Option Instant)
    (result : SmimeValidationResult) :
    let start := startVerification env signedData target trust.stores trust.caFilePem sender date
      result
    (start.1.failures.length ≤ result.failures.length ↔
        StartsCleanly env signedData target trust sender date) ∧
      result.failures.length ≤ start.1.failures.length := by
  have hReaches : ∀ ctx : VerifyContext env,
      (startVerification env signedData target trust.stores trust.caFilePem sender date
        result).2 = some ctx ↔ Reaches signedData target trust.stores trust.caFilePem date ctx :=
    (startVerification_cases env signedData target trust.stores trust.caFilePem sender date
      result).2
  have hClean : StartsCleanly env signedData target trust sender date ↔
      validateSignedDataVersion signedData signedData.signerInfos = none ∧ sender.isSome ∧
        (startVerification env signedData target trust.stores trust.caFilePem sender date
          result).2.isSome := by
    constructor
    · rintro ⟨hVersion, hSender, ctx, hCtx⟩
      exact ⟨hVersion, hSender, Option.isSome_iff_exists.mpr ⟨ctx, (hReaches ctx).mpr hCtx⟩⟩
    · rintro ⟨hVersion, hSender, hSome⟩
      obtain ⟨ctx, hCtx⟩ := Option.isSome_iff_exists.mp hSome
      exact ⟨hVersion, hSender, ctx, (hReaches ctx).mp hCtx⟩
  rw [hClean]
  have hOutcome := startVerification_outcome env signedData target trust.stores trust.caFilePem
    sender date result
  dsimp only
  generalize startVerification env signedData target trust.stores trust.caFilePem sender date
    result = start at hOutcome
  cases hOutcome with
  | unexpected hContent => simp
  | noAnchors hContent hCerts => simp [shownResult]
  | noInner hContent hCerts hInner => cases sender <;> simp [askedResult, shownResult]
  | noVerifier hContent hCerts hInner hVerifier => cases sender <;> simp [askedResult, shownResult]
  | started hContent hCerts hInner hVerifier => cases sender <;> simp [askedResult, shownResult]

end Start

section Messages

/-- The message has a SignedData, and its signatures are over `signed`. -/
def CarriesSignedData (env : Externals) (target : Target) (eml : Octets) (message : Message)
    (signedData : SignedData) (signed : SignedTarget) : Prop :=
  env.parseMessage eml = some message ∧
    ∃ ct : ContentType, message.contentType = some ct ∧ lacksBoundary ct = false ∧
      ((smimeContentKind ct = .signedMultipart ∧ ∃ content : Octets,
          clearSignedInput env target message eml = .ok (content, signedData) ∧
            signed = .detached content) ∨
        (smimeContentKind ct = .pkcs7Mime ∧ opaqueInput env target message = .ok signedData ∧
          SignedTarget.ofEcontent signedData = .ok signed))

theorem carriesSignedData_iff {target : Target} {eml : Octets} {message other : Message}
    {ct : ContentType} {signedData : SignedData} {signed : SignedTarget}
    (hMessage : env.parseMessage eml = some message) (hCt : message.contentType = some ct) :
    CarriesSignedData env target eml other signedData signed ↔
      other = message ∧ lacksBoundary ct = false ∧
        ((smimeContentKind ct = .signedMultipart ∧ ∃ content : Octets,
            clearSignedInput env target message eml = .ok (content, signedData) ∧
              signed = .detached content) ∨
          (smimeContentKind ct = .pkcs7Mime ∧ opaqueInput env target message = .ok signedData ∧
            SignedTarget.ofEcontent signedData = .ok signed)) := by
  unfold CarriesSignedData
  rw [hMessage, Option.some.injEq]
  constructor
  · rintro ⟨rfl, ct', hCt', hRest⟩
    rw [hCt, Option.some.injEq] at hCt'
    subst hCt'
    exact ⟨rfl, hRest⟩
  · rintro ⟨rfl, hRest⟩
    exact ⟨rfl, ct, hCt, hRest⟩

/-- A message without a SignedData gives one failure and nothing else. -/
theorem verifySmimeFromEmlDetailed_cases (env : Externals) (target : Target) (eml : Octets)
    (trust : TrustConfig) :
    (∃ (message : Message) (signedData : SignedData) (signed : SignedTarget)
        (signingSystem : SigningSystem),
      CarriesSignedData env target eml message signedData signed ∧
        verifySmimeFromEmlDetailed env target eml trust =
          verifySignedData env signedData signed trust.stores trust.caFilePem message.fromAddr
            (outerDateOf env message) { signingSystem }) ∨
      ((∀ (message : Message) (signedData : SignedData) (signed : SignedTarget),
          ¬ CarriesSignedData env target eml message signedData signed) ∧
        ∃ (signingSystem : SigningSystem) (err : SmimeError),
          verifySmimeFromEmlDetailed env target eml trust =
            { signingSystem, failures := [err] }) := by
  cases hMessage : env.parseMessage eml with
  | none =>
      right
      refine ⟨by simp [CarriesSignedData, hMessage], ?_⟩
      rw [verifySmimeFromEmlDetailed, hMessage]
      exact ⟨_, _, rfl⟩
  | some message =>
      cases hCt : message.contentType with
      | none =>
          right
          constructor
          · rintro other signedData signed ⟨hOther, ct, hCt', -⟩
            rw [hMessage, Option.some.injEq] at hOther
            rw [← hOther, hCt] at hCt'
            cases hCt'
          · rw [verifySmimeFromEmlDetailed, hMessage]
            dsimp only
            rw [hCt]
            exact ⟨_, _, rfl⟩
      | some ct =>
          simp only [verifySmimeFromEmlDetailed, hMessage, hCt,
            carriesSignedData_iff hMessage hCt]
          by_cases hBoundary : lacksBoundary ct = true
          · rw [if_pos hBoundary]
            exact .inr ⟨by simp [hBoundary], _, _, rfl⟩
          · rw [if_neg hBoundary]
            rw [Bool.not_eq_true] at hBoundary
            cases hKind : smimeContentKind ct with
            | pkcs7Signature => exact .inr ⟨by simp, _, _, rfl⟩
            | other => exact .inr ⟨by simp, _, _, rfl⟩
            | signedMultipart =>
                dsimp only [verifyClearSigned]
                cases hInput : clearSignedInput env target message eml with
                | error e => exact .inr ⟨by simp, _, _, rfl⟩
                | ok input =>
                    obtain ⟨content, signedData⟩ := input
                    exact .inl ⟨message, signedData, .detached content, .multipartSignedSmime,
                      ⟨rfl, hBoundary, .inl ⟨rfl, content, rfl, rfl⟩⟩, rfl⟩
            | pkcs7Mime =>
                dsimp only [verifyOpaque]
                cases hInput : opaqueInput env target message with
                | error e => exact .inr ⟨by simp, _, _, rfl⟩
                | ok signedData =>
                    dsimp only
                    cases hTarget : SignedTarget.ofEcontent signedData with
                    | error e =>
                        refine .inr ⟨?_, _, _, rfl⟩
                        rintro other otherData signed ⟨-, -, hCase | ⟨-, hData, hSigned⟩⟩
                        · cases hCase.1
                        · rw [Except.ok.injEq] at hData
                          rw [← hData, hTarget] at hSigned
                          cases hSigned
                    | ok signed =>
                        exact .inl ⟨message, signedData, signed, .mimePartSmime,
                          ⟨rfl, hBoundary, .inr ⟨rfl, rfl, hTarget⟩⟩, rfl⟩

theorem carriesSignedData_unique {target : Target} {eml : Octets} {message other : Message}
    {signedData otherData : SignedData} {signed otherSigned : SignedTarget}
    (h : CarriesSignedData env target eml message signedData signed)
    (h' : CarriesSignedData env target eml other otherData otherSigned) :
    other = message ∧ otherData = signedData ∧ otherSigned = signed := by
  obtain ⟨hMessage, ct, hCt, -, hKinds⟩ := h
  obtain ⟨rfl, -, hKinds'⟩ := (carriesSignedData_iff hMessage hCt).mp h'
  refine ⟨rfl, ?_⟩
  rcases hKinds with ⟨hKind, content, hInput, rfl⟩ | ⟨hKind, hInput, hSigned⟩
  · rcases hKinds' with ⟨-, content', hInput', rfl⟩ | ⟨hKind', -⟩
    · rw [hInput, Except.ok.injEq, Prod.mk.injEq] at hInput'
      exact ⟨hInput'.2.symm, by rw [hInput'.1]⟩
    · rw [hKind] at hKind'
      cases hKind'
  · rcases hKinds' with ⟨hKind', -⟩ | ⟨-, hInput', hSigned'⟩
    · rw [hKind] at hKind'
      cases hKind'
    · rw [hInput, Except.ok.injEq] at hInput'
      subst hInput'
      rw [hSigned, Except.ok.injEq] at hSigned'
      exact ⟨rfl, hSigned'.symm⟩

/-- Success, that is no failure, means one valid entry for each signer, and that
there is a signer. -/
def SuccessIsVerified (env : Externals) (target : Target) (eml : Octets) (trust : TrustConfig) :
    Prop :=
  let result := verifySmimeFromEmlDetailed env target eml trust
  result.failures = [] →
    ∃ (message : Message) (signedData : SignedData) (signed : SignedTarget),
      CarriesSignedData env target eml message signedData signed ∧ result.signers ≠ [] ∧
        List.Forall₂
          (fun signer entry => entry.signatureValid = true ∧ ∃ cert : Certificate,
            Vouches env signedData signed trust.stores trust.caFilePem signer.1 signer.2 cert ∧
              EntryOf env cert entry)
          (indexed signedData.signerInfos) result.signers

/-- A verification without failures started cleanly, and every signer is verified. -/
theorem verifySignedData_silent {signedData : SignedData} {target : SignedTarget}
    {trust : TrustConfig} {sender : Option Addr} {date : Option Instant}
    {signingSystem : SigningSystem}
    (h : (verifySignedData env signedData target trust.stores trust.caFilePem sender date
      { signingSystem }).failures = []) :
    StartsCleanly env signedData target trust sender date ∧
      List.Forall₂
        (fun signer entry => entry.signatureValid = true ∧ ∃ cert : Certificate,
          Vouches env signedData target trust.stores trust.caFilePem signer.1 signer.2 cert ∧
            EntryOf env cert entry)
        (indexed signedData.signerInfos)
        (verifySignedData env signedData target trust.stores trust.caFilePem sender date
          { signingSystem }).signers := by
  obtain ⟨hSilent, hGrown⟩ := startVerification_silent_iff env signedData target trust sender date
    { signingSystem }
  have hSigners := (startVerification_cases env signedData target trust.stores trust.caFilePem
    sender date { signingSystem }).1
  have hRun := verifySignedData_run env signedData target trust.stores trust.caFilePem sender date
    { signingSystem }
  generalize (startVerification env signedData target trust.stores trust.caFilePem sender date
    { signingSystem }).1 = start at hRun hSilent hSigners
  generalize verifySignedData env signedData target trust.stores trust.caFilePem sender date
    { signingSystem } = after at h hRun ⊢
  cases hRun with
  | stopped hNone =>
      have hClean := hSilent.mp (by simp [h])
      obtain ⟨ctx, hCtx⟩ := hClean.reaches
      exact absurd hCtx (hNone ctx)
  | @looped ctx hCtx =>
      have hLoop := foldl_signerStep_failures_length ctx (indexed ctx.signers) { result := start }
      rw [h] at hLoop
      refine ⟨hSilent.mp (hLoop.trans (Nat.zero_le _)), ?_⟩
      obtain ⟨pushed, hPushed, hAll⟩ := @foldl_signerStep_silent env ctx (indexed ctx.signers)
        { result := start } (by simp [h])
      rw [hPushed]
      dsimp only
      rw [hSigners, List.nil_append, ← reaches_signers hCtx]
      refine hAll.imp fun signer entry hVerified => ?_
      obtain ⟨hValid, cert, hAccepts, hOf⟩ := hVerified
      exact ⟨hValid, cert, vouches_of_accepts hCtx hAccepts, hOf⟩

/-- A SignedData without signers that starts cleanly is a success. -/
theorem verifySignedData_signerless {signedData : SignedData} {target : SignedTarget}
    {trust : TrustConfig} {sender : Option Addr} {date : Option Instant}
    {signingSystem : SigningSystem} (hSigners : signedData.signerInfos = [])
    (hClean : StartsCleanly env signedData target trust sender date) :
    (verifySignedData env signedData target trust.stores trust.caFilePem sender date
        { signingSystem }).failures = [] ∧
      (verifySignedData env signedData target trust.stores trust.caFilePem sender date
        { signingSystem }).signers = [] := by
  obtain ⟨hSilent, -⟩ := startVerification_silent_iff env signedData target trust sender date
    { signingSystem }
  have hBefore := (startVerification_cases env signedData target trust.stores trust.caFilePem
    sender date { signingSystem }).1
  have hFailures := List.length_eq_zero_iff.mp (Nat.le_zero.mp (hSilent.mpr hClean))
  have hRun := verifySignedData_run env signedData target trust.stores trust.caFilePem sender date
    { signingSystem }
  generalize verifySignedData env signedData target trust.stores trust.caFilePem sender date
    { signingSystem } = after at hRun ⊢
  cases hRun with
  | stopped hNone => exact ⟨hFailures, hBefore⟩
  | @looped ctx hCtx =>
      rw [reaches_signers hCtx, hSigners]
      exact ⟨hFailures, hBefore⟩

/-- Success means a valid signature exactly when a SignedData with which nothing
is amiss before its signers has a signer. -/
theorem success_isVerified_iff (env : Externals) (target : Target) (eml : Octets)
    (trust : TrustConfig) :
    SuccessIsVerified env target eml trust ↔
      ∀ (message : Message) (signedData : SignedData) (signed : SignedTarget),
        CarriesSignedData env target eml message signedData signed →
          StartsCleanly env signedData signed trust message.fromAddr (outerDateOf env message) →
            signedData.signerInfos ≠ [] := by
  unfold SuccessIsVerified
  dsimp only
  rcases verifySmimeFromEmlDetailed_cases env target eml trust with
    ⟨message, signedData, signed, signingSystem, hCarries, hResult⟩ | ⟨hNone, signingSystem, err, hResult⟩
  · rw [hResult]
    constructor
    · intro hSuccess other otherData otherSigned hOther hClean hSigners
      obtain ⟨rfl, rfl, rfl⟩ := carriesSignedData_unique hCarries hOther
      obtain ⟨hFailures, hEntries⟩ :=
        @verifySignedData_signerless env _ _ _ _ _ signingSystem hSigners hClean
      obtain ⟨-, -, -, -, hNonempty, -⟩ := hSuccess hFailures
      exact hNonempty hEntries
    · intro hSigners hFailures
      obtain ⟨hClean, hAll⟩ := verifySignedData_silent hFailures
      refine ⟨message, signedData, signed, hCarries, ?_, hAll⟩
      intro hEntries
      rw [hEntries, List.forall₂_nil_right_iff] at hAll
      apply hSigners message signedData signed hCarries hClean
      simpa [indexed] using hAll
  · rw [hResult]
    constructor
    · intro _ message signedData signed hCarries
      exact absurd hCarries (hNone message signedData signed)
    · intro _ hFailures
      cases hFailures

end Messages

section Samples

/-! A message without signers, to which the outside answers as it does for one. -/

def signerlessEml : Octets := ascii "From: anu@naide.ee\r\n" ++ innerEml

def signerlessMessage : Message :=
  singlePart pkcs7MimeType (some ⟨none, some "anu@naide.ee"⟩) (unsignedDer 1 helloContent)
    signerlessEml

def signerlessMessages (eml : Octets) : Option Message :=
  if eml = signerlessEml then some signerlessMessage else nestedMessage eml

def signerlessExternals : Externals :=
  { essExternals with
    parseMessage := signerlessMessages
    parseContentInfo := nestedContentInfo }

theorem signerlessEml_carries :
    CarriesSignedData signerlessExternals .native64 signerlessEml signerlessMessage
      (unsignedData 1 helloContent) (.econtent helloContent) := by
  have hInput : opaqueInput signerlessExternals .native64 signerlessMessage =
      .ok (unsignedData 1 helloContent) := by
    decide +kernel
  have hMessage : signerlessExternals.parseMessage signerlessEml = some signerlessMessage := by
    rw [show signerlessExternals.parseMessage = signerlessMessages from rfl, signerlessMessages,
      if_pos rfl]
  have hBoundary : lacksBoundary pkcs7MimeType = false := by decide
  have hKind : smimeContentKind pkcs7MimeType = .pkcs7Mime := by decide
  have hCt : signerlessMessage.contentType = some pkcs7MimeType := rfl
  have hSigned : SignedTarget.ofEcontent (unsignedData 1 helloContent) =
      .ok (.econtent helloContent) := rfl
  exact ⟨hMessage, pkcs7MimeType, hCt, hBoundary, .inr ⟨hKind, hInput, hSigned⟩⟩

theorem signerless_startsCleanly :
    StartsCleanly signerlessExternals (unsignedData 1 helloContent) (.econtent helloContent)
      ⟨[.debug], none⟩ signerlessMessage.fromAddr (outerDateOf signerlessExternals signerlessMessage)
      := by
  have hInner : (signerlessExternals.parseMessage helloContent).isSome = true := by
    decide +kernel
  obtain ⟨innerMessage, hInner⟩ := Option.isSome_iff_exists.mp hInner
  refine ⟨rfl, rfl, _, by decide, [rootCert], innerMessage, [rootCert], [rootCert], ?_, hInner, rfl,
    rfl, rfl⟩
  decide +kernel

/-- No failure, and no signer. -/
theorem not_success_isVerified :
    ¬ ∀ (env : Externals) (target : Target) (eml : Octets) (trust : TrustConfig),
      SuccessIsVerified env target eml trust := by
  intro h
  exact (success_isVerified_iff signerlessExternals .native64 signerlessEml ⟨[.debug], none⟩).mp
    (h _ _ _ _) _ _ _ signerlessEml_carries signerless_startsCleanly rfl

end Samples

end Smime
