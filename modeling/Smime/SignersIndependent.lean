import Smime.SignerViolations

/-! The signers of a SignedData do not matter to each other: the loop of
`verify_signed_data` carries a result and a sender from one to the next, and the
verdict on a signer depends on neither. -/
namespace Smime

open X690 (Octets)
open X509 Mail Utils

/-- What is found out about a signer, apart from the notes, to which the
resolution of the sender adds. -/
def SignerValidation.withoutNotes (entry : SignerValidation) : SignerValidation :=
  { entry with validationDetails := { entry.validationDetails with otherNotes := [] } }

/-- The SignedData with one signer. -/
def withOnly (signedData : SignedData) (signer : SignerInfo) : SignedData :=
  { signedData with signerInfos := [signer] }

@[simp] theorem withoutNotes_pushNotes (entry : SignerValidation) (notes : List SmimeError) :
    (pushNotes entry notes).withoutNotes = entry.withoutNotes := rfl

section Preparation

variable {env : Externals}

/-- The index of a signer is in its failures only. -/
theorem scanStep_signingTime {signer : SignerInfo} {idx other : Nat} {scan before : AttributeScan}
    (h : scan.signingTime = before.signingTime) (attr : Attribute) :
    (AttributeScan.step env signer idx scan attr).signingTime =
      (AttributeScan.step env signer other before attr).signingTime := by
  unfold AttributeScan.step
  split_ifs
  · exact h
  · show readSigningTime env scan.signingTime attr.values =
      readSigningTime env before.signingTime attr.values
    rw [h]
  all_goals exact h

theorem foldl_scanStep_signingTime {signer : SignerInfo} {idx other : Nat} (attrs : List Attribute)
    {scan before : AttributeScan} (h : scan.signingTime = before.signingTime) :
    (attrs.foldl (AttributeScan.step env signer idx) scan).signingTime =
      (attrs.foldl (AttributeScan.step env signer other) before).signingTime := by
  induction attrs generalizing scan before with
  | nil => exact h
  | cons attr rest ih => exact ih (scanStep_signingTime h attr)

variable (env) in
theorem checkAlgorithms_isOk (signer : SignerInfo) (idx other : Nat) :
    (checkAlgorithms env signer idx).isOk = (checkAlgorithms env signer other).isOk := by
  simp only [checkAlgorithms]
  cases hashOidToHashTypePermitted env signer.digestAlgorithm.oid with
  | error err => rfl
  | ok hash =>
      simp only [Except.mapError, Except.ok_bind']
      split_ifs
      · rfl
      · rfl
      · cases env.identifySignatureAlgorithmParameters signer.digestEncryptionAlgorithm <;> rfl

variable (env) in
theorem prepareSigner_snd (signer : SignerInfo) (certs : List Certificate) (idx other : Nat) :
    (prepareSigner env signer certs idx).2 = (prepareSigner env signer certs other).2 := by
  have hTime : (scanAttributes env signer idx).signingTime =
      (scanAttributes env signer other).signingTime := foldl_scanStep_signingTime _ rfl
  have hOk := checkAlgorithms_isOk env signer idx other
  simp only [prepareSigner]
  cases hFirst : checkAlgorithms env signer idx with
  | error err =>
      cases hSecond : checkAlgorithms env signer other with
      | error => rfl
      | ok => simp [hFirst, hSecond, Except.isOk, Except.toBool] at hOk
  | ok warnings =>
      cases hSecond : checkAlgorithms env signer other with
      | error => simp [hFirst, hSecond, Except.isOk, Except.toBool] at hOk
      | ok => split_ifs <;> simp [hTime]

end Preparation

section Verdict

variable {env : Externals} {ctx : VerifyContext env}

variable (env) in
/-- A candidate key verifies whatever was recorded before. -/
theorem verifyCandidate_fresh (target : SignedTarget) (pk : AnyPublicKey) (signer : SignerInfo)
    (hasSignedAttrs : Bool) (innerMessage : Message) (checks : SignatureChecks)
    (result other : SmimeValidationResult) :
    (target.verifyCandidate env pk signer hasSignedAttrs innerMessage checks result).verifies =
        (target.verifyCandidate env pk signer hasSignedAttrs innerMessage checks other).verifies ∧
      (target.verifyCandidate env pk signer hasSignedAttrs innerMessage checks result).checks =
        (target.verifyCandidate env pk signer hasSignedAttrs innerMessage checks other).checks := by
  cases target with
  | econtent content => exact ⟨rfl, rfl⟩
  | detached content =>
      simp only [SignedTarget.verifyCandidate, SignedTarget.verifyDetachedCandidate]
      split_ifs <;> exact ⟨rfl, rfl⟩

variable (ctx) in
theorem findLeaf_snd (signers : List SignerInfo) (signer : SignerInfo) (hasSignedAttrs : Bool)
    (idx otherIdx : Nat) (candidates : List Certificate) (result other : SmimeValidationResult) :
    (findLeaf ctx signer hasSignedAttrs idx candidates result).2 =
      (findLeaf { ctx with signers } signer hasSignedAttrs otherIdx candidates other).2 := by
  induction candidates generalizing result other with
  | nil => rfl
  | cons candidate rest ih =>
      rw [findLeaf, findLeaf]
      cases publicKey env candidate with
      | error e => exact ih _ _
      | ok pk =>
          obtain ⟨hVerifies, hChecks⟩ := verifyCandidate_fresh env ctx.target pk signer
            hasSignedAttrs ctx.innerMessage {} result other
          dsimp only
          rw [hVerifies, hChecks]
          split_ifs
          · rfl
          · exact ih _ _

/-- The entry of a signer, whatever was recorded before it, at whichever place
and beside whichever others it stands. -/
theorem verifySigner_snd (signers : List SignerInfo) (signer : SignerInfo) (idx otherIdx : Nat)
    (result other : SmimeValidationResult) :
    (verifySigner ctx idx signer result).2 =
      (verifySigner { ctx with signers } otherIdx signer other).2 := by
  have hPrepared := prepareSigner_snd env signer ctx.certs idx otherIdx
  simp only [verifySigner]
  rcases hFirst : prepareSigner env signer ctx.certs idx with ⟨failures, prepared⟩
  rcases hSecond : prepareSigner env signer ctx.certs otherIdx with ⟨otherFailures, otherPrepared⟩
  rw [hFirst, hSecond] at hPrepared
  obtain rfl : prepared = otherPrepared := hPrepared
  cases prepared with
  | none => rfl
  | some prepared =>
      dsimp only
      cases ctx.target.precheckSigner env signer.authenticatedAttributes.isSome with
      | some err => rfl
      | none =>
          have hLeaf := findLeaf_snd ctx signers signer
            signer.authenticatedAttributes.isSome idx otherIdx prepared.2
            (result.extend failures) (other.extend otherFailures)
          dsimp only
          rcases hFirst : findLeaf ctx signer signer.authenticatedAttributes.isSome idx prepared.2
            (result.extend failures) with ⟨after, found⟩
          rcases hSecond : findLeaf { ctx with signers } signer
            signer.authenticatedAttributes.isSome otherIdx prepared.2
            (other.extend otherFailures) with ⟨otherAfter, otherFound⟩
          rw [hFirst, hSecond] at hLeaf
          obtain rfl : found = otherFound := hLeaf
          cases found with
          | none => rfl
          | some leaf =>
              -- Only the failures of the chain have the index.
              simp only [validateChain, buildSignerEntry, judge]
              cases env.verify ctx.verifier leaf.1 (intermediariesOf leaf.1 ctx.certs) <;> rfl

/-- The loop adds for each signer the entry it has on its own. -/
theorem foldl_signerStep_entries (ctx : VerifyContext env) (signers : List (Nat × SignerInfo))
    (loop : SignerLoop) :
    (signers.foldl (signerStep ctx) loop).result.signers.map SignerValidation.withoutNotes =
      loop.result.signers.map SignerValidation.withoutNotes ++ signers.flatMap fun signer =>
        (verifySigner ctx signer.1 signer.2 {}).2.toList.map SignerValidation.withoutNotes := by
  induction signers generalizing loop with
  | nil => simp
  | cons signer rest ih =>
      obtain ⟨notes, address, comment, date, hResult⟩ := signerStep_result ctx loop signer
      have hKept : (verifySigner ctx signer.1 signer.2 loop.result).1.signers =
          loop.result.signers := by
        obtain ⟨failures, content, hRecords⟩ :=
          (verifySigner_cases ctx signer.1 signer.2 loop.result).1
        rw [hRecords]
      have hFresh : (verifySigner ctx signer.1 signer.2 loop.result).2 =
          (verifySigner ctx signer.1 signer.2 {}).2 :=
        verifySigner_snd ctx.signers signer.2 signer.1 signer.1 loop.result {}
      rw [List.foldl_cons, ih, hResult, List.flatMap_cons, ← List.append_assoc]
      dsimp only
      rw [hKept, hFresh, List.map_append, List.map_map]
      rfl

end Verdict

section Together

/-- The SignedData with one of its signers is verified in the same context. -/
theorem reaches_only {env : Externals} {signedData : SignedData} {target : SignedTarget}
    {trustStores : List TrustStore} {caFilePem : Option Octets} {outerDate : Option Instant}
    {ctx : VerifyContext env}
    (h : Reaches signedData target trustStores caFilePem outerDate ctx) (signer : SignerInfo) :
    Reaches (withOnly signedData signer) target trustStores caFilePem outerDate
      { ctx with signers := [signer] } := by
  obtain ⟨hContent, caCerts, innerMessage, builder, verifier, hCerts, hInner, hBuilder, hVerifier,
    rfl⟩ := h
  exact ⟨hContent, caCerts, innerMessage, builder, verifier, hCerts, hInner, hBuilder, hVerifier,
    rfl⟩

theorem reaches_of_only {env : Externals} {signedData : SignedData} {target : SignedTarget}
    {trustStores : List TrustStore} {caFilePem : Option Octets} {outerDate : Option Instant}
    {signer : SignerInfo} {ctx : VerifyContext env}
    (h : Reaches (withOnly signedData signer) target trustStores caFilePem outerDate ctx) :
    Reaches signedData target trustStores caFilePem outerDate
      { ctx with signers := signedData.signerInfos } := by
  obtain ⟨hContent, caCerts, innerMessage, builder, verifier, hCerts, hInner, hBuilder, hVerifier,
    rfl⟩ := h
  exact ⟨hContent, caCerts, innerMessage, builder, verifier, hCerts, hInner, hBuilder, hVerifier,
    rfl⟩

/-- What a verification reports of its signers, when it gets to them. -/
theorem verifySignedData_entries {env : Externals} {signedData : SignedData}
    {target : SignedTarget} {trustStores : List TrustStore} {caFilePem : Option Octets}
    {outerDate : Option Instant} {ctx : VerifyContext env}
    (hCtx : Reaches signedData target trustStores caFilePem outerDate ctx)
    (outerFrom : Option Addr) (result : SmimeValidationResult) :
    (verifySignedData env signedData target trustStores caFilePem outerFrom outerDate
        result).signers.map SignerValidation.withoutNotes =
      result.signers.map SignerValidation.withoutNotes ++
        (indexed signedData.signerInfos).flatMap fun signer =>
          (verifySigner ctx signer.1 signer.2 {}).2.toList.map SignerValidation.withoutNotes := by
  have hStart := (startVerification_cases env signedData target trustStores caFilePem outerFrom
    outerDate result).1
  have hRun := verifySignedData_run env signedData target trustStores caFilePem outerFrom
    outerDate result
  generalize (startVerification env signedData target trustStores caFilePem outerFrom
    outerDate result).1 = start at hStart hRun
  generalize verifySignedData env signedData target trustStores caFilePem outerFrom outerDate
    result = after at hRun ⊢
  cases hRun with
  | stopped hNone => exact absurd hCtx (hNone ctx)
  | @looped other hOther =>
      cases reaches_unique hCtx hOther
      rw [foldl_signerStep_entries, reaches_signers hCtx]
      dsimp only
      rw [hStart]

/-- A verification that ends before its signers reports none. -/
theorem verifySignedData_stopped {env : Externals} {signedData : SignedData}
    {target : SignedTarget} {trustStores : List TrustStore} {caFilePem : Option Octets}
    {outerDate : Option Instant}
    (hStop : ∀ ctx : VerifyContext env,
      ¬ Reaches signedData target trustStores caFilePem outerDate ctx)
    (outerFrom : Option Addr) (result : SmimeValidationResult) :
    (verifySignedData env signedData target trustStores caFilePem outerFrom outerDate
      result).signers = result.signers := by
  have hStart := (startVerification_cases env signedData target trustStores caFilePem outerFrom
    outerDate result).1
  have hRun := verifySignedData_run env signedData target trustStores caFilePem outerFrom outerDate
    result
  generalize verifySignedData env signedData target trustStores caFilePem outerFrom outerDate
    result = after at hRun ⊢
  cases hRun with
  | stopped => exact hStart
  | looped hCtx => exact absurd hCtx (hStop _)

theorem flatMap_indexed {α : Type} (signers : List SignerInfo) (f : Nat → SignerInfo → List α)
    (h : ∀ (idx : Nat) (signer : SignerInfo), f idx signer = f 0 signer) :
    (indexed signers).flatMap (fun signer => f signer.1 signer.2) = signers.flatMap (f 0) := by
  have hSecond : (indexed signers).map Prod.snd = signers := by
    apply List.ext_getElem?
    intro i
    rw [indexed, List.getElem?_map, List.getElem?_mapIdx]
    cases signers[i]? <;> rfl
  have hFirst : (fun signer : Nat × SignerInfo => f signer.1 signer.2) =
      fun signer => f 0 signer.2 := by
    funext signer
    exact h signer.1 signer.2
  calc (indexed signers).flatMap (fun signer => f signer.1 signer.2)
      = (indexed signers).flatMap (fun signer => f 0 signer.2) := by rw [hFirst]
    _ = ((indexed signers).map Prod.snd).flatMap (f 0) := by rw [List.flatMap_map]
    _ = signers.flatMap (f 0) := by rw [hSecond]

/-- A SignedData is verified signer by signer: up to the notes, what is reported
of its signers is what is reported of each when it is the only one. -/
theorem verifySignedData_signers_independent (env : Externals) (signedData : SignedData)
    (target : SignedTarget) (trustStores : List TrustStore) (caFilePem : Option Octets)
    (outerFrom : Option Addr) (outerDate : Option Instant) (result : SmimeValidationResult) :
    (verifySignedData env signedData target trustStores caFilePem outerFrom outerDate
        result).signers.map SignerValidation.withoutNotes =
      result.signers.map SignerValidation.withoutNotes ++
        signedData.signerInfos.flatMap fun signer =>
          (verifySignedData env (withOnly signedData signer) target trustStores caFilePem outerFrom
            outerDate {}).signers.map SignerValidation.withoutNotes := by
  by_cases hReaches : ∃ ctx : VerifyContext env,
      Reaches signedData target trustStores caFilePem outerDate ctx
  · obtain ⟨ctx, hCtx⟩ := hReaches
    rw [verifySignedData_entries hCtx]
    congr 1
    rw [flatMap_indexed signedData.signerInfos (fun idx signer =>
      (verifySigner ctx idx signer {}).2.toList.map SignerValidation.withoutNotes)]
    · congr 1
      funext signer
      rw [verifySignedData_entries (reaches_only hCtx signer)]
      show _ = _ ++ ((verifySigner { ctx with signers := [signer] } 0 signer {}).2.toList.map
        SignerValidation.withoutNotes ++ [])
      rw [← verifySigner_snd [signer] signer 0 0 {} {}]
      simp
    · intro idx signer
      rw [verifySigner_snd ctx.signers signer idx 0 {} {}]
  · have hOnly : ∀ signer : SignerInfo, ∀ ctx : VerifyContext env,
        ¬ Reaches (withOnly signedData signer) target trustStores caFilePem outerDate ctx :=
      fun signer ctx hCtx => hReaches ⟨_, reaches_of_only hCtx⟩
    rw [verifySignedData_stopped fun ctx hCtx => hReaches ⟨ctx, hCtx⟩]
    simp [verifySignedData_stopped (hOnly _)]

end Together

end Smime
