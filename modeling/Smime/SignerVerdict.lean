import Smime.CandidateKey

/-! The verdict on one signer: which certificate is found for it, when the entry
that is built from it is valid, and what the loop does with the entry. -/
namespace Smime

open X690 (Octets)
open X509 Mail Utils

section Meaning

variable (env : Externals)

/-- The certificate that a signer identifier names. -/
def SidNames (sid : SignerIdentifier) (cert : Certificate) : Prop :=
  match sid with
  | .issuerAndSerialNumber ias => cert.issuer = ias.issuer ∧ cert.serial = ias.serialNumber
  | .subjectKeyIdentifier ski =>
      ∃ (extensions : List Extension) (extension : Extension),
        cert.extensions = some extensions ∧
          getExtension extensions subjectKeyIdentifierOid = some extension ∧
            env.parseOctetString extension.value = .ok ski

/-- The octets are a SET OF Attribute with a content type and a message digest. -/
def CarriesSignedAttrs (content : Octets) : Prop :=
  ∃ attrs : List Attribute, env.parseAttributes content = .ok attrs ∧
    (∃ attr ∈ attrs, attr.typeId = contentTypeOid) ∧ ∃ attr ∈ attrs, attr.typeId = messageDigestOid

/-- No stapled response revokes a certificate of the chain below the anchor. -/
def NotRevoked (staples : List BasicOcspResponse) (chain : List Certificate) : Prop :=
  ∀ link ∈ chain.zip chain.tail,
    stapledStatusFor env staples link.1 link.2 env.now ≠ some .revoked

variable {env}

theorem sidMatchesCert_iff {sid : SignerIdentifier} {cert : Certificate} :
    sidMatchesCert env sid cert = true ↔ SidNames env sid cert := by
  cases sid with
  | issuerAndSerialNumber ias => simp [sidMatchesCert, iasMatchesCert, SidNames]
  | subjectKeyIdentifier ski =>
      simp only [sidMatchesCert, skiMatchesCert, SidNames, extensionValue, Option.any_eq_true,
        Option.bind_eq_some_iff, beq_iff_eq]
      constructor
      · rintro ⟨extensions, hExtensions, value, ⟨extension, hExtension, hValue⟩, rfl⟩
        refine ⟨extensions, extension, hExtensions, hExtension, ?_⟩
        cases hParse : env.parseOctetString extension.value with
        | error e =>
            rw [hParse] at hValue
            cases hValue
        | ok parsed =>
            rw [hParse] at hValue
            rw [← Option.some.inj hValue]
      · rintro ⟨extensions, extension, hExtensions, hExtension, hParse⟩
        exact ⟨extensions, hExtensions, ski, ⟨extension, hExtension, by rw [hParse]; rfl⟩, rfl⟩

theorem econtentLooksLikeSignedAttrs_iff {content : Octets} :
    econtentLooksLikeSignedAttrs env content = true ↔ CarriesSignedAttrs env content := by
  unfold econtentLooksLikeSignedAttrs CarriesSignedAttrs
  cases env.parseAttributes content with
  | error e => simp
  | ok attrs => simp

/-- What a signer has to bring for the guard to let it pass. -/
theorem precheckSigner_none_iff {target : SignedTarget} {hasSignedAttrs : Bool} :
    target.precheckSigner env hasSignedAttrs = none ↔
      (∀ content, target = .detached content → hasSignedAttrs = true) ∧
        ∀ content, target = .econtent content → hasSignedAttrs = false →
          ¬ CarriesSignedAttrs env content := by
  cases target with
  | detached content => cases hasSignedAttrs <;> simp [SignedTarget.precheckSigner]
  | econtent content =>
      cases hasSignedAttrs <;>
        simp [SignedTarget.precheckSigner, ← econtentLooksLikeSignedAttrs_iff]

end Meaning

section Revocation

variable {env : Externals} {staples : List BasicOcspResponse}

theorem stapledStatusFor_nil (leaf issuer : Certificate) :
    stapledStatusFor env [] leaf issuer env.now = none := rfl

/-- What one link adds: a revocation sets the flag, and a revoked leaf does. -/
theorem scan_step {scan : OcspScan} {link : Nat × Certificate × Certificate}
    (hLeaf : scan.leafStatus = some .revoked → scan.anyRevoked = true) :
    ((scan.step env staples link).anyRevoked = true ↔
      scan.anyRevoked = true ∨
        stapledStatusFor env staples link.2.1 link.2.2 env.now = some .revoked) ∧
      ((scan.step env staples link).leafStatus = some .revoked →
        (scan.step env staples link).anyRevoked = true) := by
  unfold OcspScan.step
  dsimp only
  cases hStatus : stapledStatusFor env staples link.2.1 link.2.2 env.now with
  | none => simpa using hLeaf
  | some status =>
      refine ⟨by simp, ?_⟩
      dsimp only
      split
      · intro hRevoked
        simp [Option.some.inj hRevoked]
      · intro hRevoked
        simp [hLeaf hRevoked]

theorem scan_anyRevoked_iff {links : List (Nat × Certificate × Certificate)} {scan : OcspScan}
    (hLeaf : scan.leafStatus = some .revoked → scan.anyRevoked = true) :
    ((links.foldl (OcspScan.step env staples) scan).anyRevoked = true ↔
      scan.anyRevoked = true ∨ ∃ link ∈ links,
        stapledStatusFor env staples link.2.1 link.2.2 env.now = some .revoked) ∧
      ((links.foldl (OcspScan.step env staples) scan).leafStatus = some .revoked →
        (links.foldl (OcspScan.step env staples) scan).anyRevoked = true) := by
  induction links generalizing scan with
  | nil => simpa using hLeaf
  | cons link rest ih =>
      obtain ⟨hAny, hLeaf'⟩ := @scan_step env staples scan link hLeaf
      rw [List.foldl_cons]
      refine ⟨?_, (ih hLeaf').2⟩
      rw [(ih hLeaf').1, hAny, List.exists_mem_cons_iff]
      exact or_assoc

theorem mem_chainLinks {chain : List Certificate} {subject issuer : Certificate} :
    (∃ i, (i, subject, issuer) ∈ chainLinks chain) ↔ (subject, issuer) ∈ chain.zip chain.tail := by
  simp only [chainLinks, List.mem_mapIdx, Prod.mk.injEq]
  rw [List.mem_iff_getElem]
  constructor
  · rintro ⟨_, i, hi, -, hLink⟩
    exact ⟨i, hi, hLink⟩
  · rintro ⟨i, hi, hLink⟩
    exact ⟨i, i, hi, rfl, hLink⟩

/-- The verdict on the chain is Revoked exactly when a certificate below the
anchor is. -/
theorem applyStapledOcsp_revoked_iff {chain : List Certificate} :
    (applyStapledOcsp env chain staples).1 ≠ some .revoked ↔ NotRevoked env staples chain := by
  unfold applyStapledOcsp
  cases hStaples : staples with
  | nil => simp [NotRevoked, stapledStatusFor_nil]
  | cons staple rest =>
      rw [← hStaples, if_neg (by simp [hStaples])]
      obtain ⟨hAny, hLeaf⟩ := @scan_anyRevoked_iff env staples (chainLinks chain) {} (by simp)
      have hIff : ((chainLinks chain).foldl (OcspScan.step env staples) {}).anyRevoked = true ↔
          ¬ NotRevoked env staples chain := by
        rw [hAny]
        simp only [Bool.false_eq_true, false_or, NotRevoked, not_forall, not_not, exists_prop]
        constructor
        · rintro ⟨⟨i, subject, issuer⟩, hMem, hRevoked⟩
          exact ⟨(subject, issuer), mem_chainLinks.mp ⟨i, hMem⟩, hRevoked⟩
        · rintro ⟨⟨subject, issuer⟩, hMem, hRevoked⟩
          obtain ⟨i, hLink⟩ := mem_chainLinks.mpr hMem
          exact ⟨(i, subject, issuer), hLink, hRevoked⟩
      dsimp only
      split
      next hTrue => simpa using hIff.mp hTrue
      next hFalse =>
        rw [hIff, not_not] at hFalse
        simp only [hFalse, iff_true]
        exact fun hRevoked => hIff.mp (hLeaf hRevoked) hFalse

end Revocation

section Signer

variable {env : Externals} {ctx : VerifyContext env}

/-- The chain verifies and is not revoked. -/
def ChainTrusted (ctx : VerifyContext env) (cert : Certificate) : Prop :=
  ∃ chain : List Certificate,
    env.verify ctx.verifier cert (intermediariesOf cert ctx.certs) = .ok chain ∧
      NotRevoked env ctx.staples chain

theorem validateChain_trusted_iff {cert : Certificate} {idx : Nat} :
    (validateChain env cert ctx.certs ctx.verifier ctx.staples idx).trusted = true ↔
      ChainTrusted ctx cert := by
  unfold validateChain ChainTrusted
  cases env.verify ctx.verifier cert (intermediariesOf cert ctx.certs) with
  | error e => simp
  | ok chain =>
      simp only [bne_iff_ne, Except.ok.injEq, exists_eq_left']
      exact applyStapledOcsp_revoked_iff

/-- What is found for a signer before any chain is looked at. -/
structure Finds (ctx : VerifyContext env) (idx : Nat) (signer : SignerInfo)
    (cert : Certificate) : Prop where
  algorithms : ∃ warnings : List SmimeError, checkAlgorithms env signer idx = .ok warnings
  guard : ctx.target.precheckSigner env signer.authenticatedAttributes.isSome = none
  first : FirstVerifying ctx signer
    (ctx.certs.filter (sidMatchesCert env signer.issuerAndSerialNumber)) cert

/-- A signer is skipped when its algorithms are not acceptable or no certificate
matches it. -/
theorem prepareSigner_some_iff {signer : SignerInfo} {certs : List Certificate} {idx : Nat}
    {candidates : List Certificate} :
    (∃ signingTime, (prepareSigner env signer certs idx).2 = some (signingTime, candidates)) ↔
      (∃ warnings : List SmimeError, checkAlgorithms env signer idx = .ok warnings) ∧
        candidates ≠ [] ∧
          candidates = certs.filter (sidMatchesCert env signer.issuerAndSerialNumber) := by
  unfold prepareSigner
  cases checkAlgorithms env signer idx with
  | error err => simp
  | ok warnings =>
      dsimp only
      split
      next hEmpty =>
        rw [List.isEmpty_iff] at hEmpty
        simp only [reduceCtorEq, exists_false, false_iff, not_and]
        rintro - hNonempty rfl
        exact hNonempty hEmpty
      next hNonempty =>
        rw [List.isEmpty_iff] at hNonempty
        simp only [Option.some.injEq, Prod.mk.injEq, exists_eq_left']
        constructor
        · rintro rfl
          exact ⟨⟨warnings, rfl⟩, hNonempty, rfl⟩
        · rintro ⟨-, -, rfl⟩
          rfl

/-- The identities that an entry reports are those of the certificate. -/
structure EntryOf (env : Externals) (cert : Certificate) (entry : SignerValidation) : Prop where
  emails : entry.validationDetails.checks.certificateEmails = (extractCertInfo env cert).emails
  names : entry.validationDetails.checks.certificateNames = (extractCertInfo env cert).names

theorem firstVerifying_nonempty {signer : SignerInfo} {candidates : List Certificate}
    {cert : Certificate} (h : FirstVerifying ctx signer candidates cert) : candidates ≠ [] := by
  obtain ⟨before, behind, rfl, -, -⟩ := h
  simp

/-- The two ways in which a signer is done with. Either nothing is found for it
and it has no entry, or its entry is that of the certificate found, valid when
the chain is trusted. -/
theorem verifySigner_cases (ctx : VerifyContext env) (idx : Nat) (signer : SignerInfo)
    (result : SmimeValidationResult) :
    OnlyRecords result (verifySigner ctx idx signer result).1 ∧
      (((verifySigner ctx idx signer result).2 = none ∧
          ∀ cert : Certificate, ¬ Finds ctx idx signer cert) ∨
        ∃ (cert : Certificate) (entry : SignerValidation),
          (verifySigner ctx idx signer result).2 = some entry ∧ Finds ctx idx signer cert ∧
            EntryOf env cert entry ∧ (entry.signatureValid = true ↔ ChainTrusted ctx cert)) := by
  have hPrepared := @prepareSigner_some_iff env signer ctx.certs idx
  rcases hPrepare : prepareSigner env signer ctx.certs idx with ⟨failures, prepared⟩
  rw [hPrepare] at hPrepared
  simp only [verifySigner, hPrepare]
  have hExtend := OnlyRecords.extend result failures
  cases prepared with
  | none =>
      refine ⟨hExtend, .inl ⟨rfl, fun cert hFinds => ?_⟩⟩
      obtain ⟨time, hTime⟩ :=
        hPrepared.mpr ⟨hFinds.algorithms, firstVerifying_nonempty hFinds.first, rfl⟩
      cases hTime
  | some prepared =>
      obtain ⟨signingTime, candidates⟩ := prepared
      obtain ⟨hAlgorithms, -, rfl⟩ := hPrepared.mp ⟨signingTime, rfl⟩
      cases hGuard : ctx.target.precheckSigner env signer.authenticatedAttributes.isSome with
      | some err =>
          refine ⟨hExtend.trans (.push _ _), .inl ⟨rfl, fun cert hFinds => ?_⟩⟩
          have hNone := hFinds.guard
          rw [hGuard] at hNone
          cases hNone
      | none =>
          have hFirst := fun cert => @findLeaf_some_iff env ctx signer idx
            (ctx.certs.filter (sidMatchesCert env signer.issuerAndSerialNumber))
            (result.extend failures) cert hGuard
          have hRecords := hExtend.trans (@findLeaf_onlyRecords env ctx signer
            signer.authenticatedAttributes.isSome idx
            (ctx.certs.filter (sidMatchesCert env signer.issuerAndSerialNumber))
            (result.extend failures))
          rcases hFind : findLeaf ctx signer signer.authenticatedAttributes.isSome idx
            (ctx.certs.filter (sidMatchesCert env signer.issuerAndSerialNumber))
            (result.extend failures) with ⟨after, found⟩
          rw [hFind] at hRecords
          simp only [hFind] at hFirst ⊢
          cases found with
          | none =>
              refine ⟨hRecords, .inl ⟨rfl, fun cert hFinds => ?_⟩⟩
              have hNone := (hFirst cert).mpr hFinds.first
              cases hNone
          | some found =>
              obtain ⟨cert, checks⟩ := found
              obtain ⟨⟨signature, digest, rfl⟩, hFlags⟩ := findLeaf_checks hFind
              have hTrusted := @validateChain_trusted_iff env ctx cert idx
              refine ⟨hRecords.trans (.extend _ _), .inr ⟨cert, _, rfl,
                ⟨hAlgorithms, hGuard, (hFirst cert).mp rfl⟩, ?_⟩⟩
              cases ctx.innerMessage.contentType with
              | none =>
                  refine ⟨⟨List.nil_append _, List.nil_append _⟩, ?_⟩
                  rw [← hTrusted]
                  simp only [judge, buildSignerEntry, hFlags, Bool.true_and]
              | some ct =>
                  refine ⟨⟨List.nil_append _, List.nil_append _⟩, ?_⟩
                  rw [← hTrusted]
                  simp only [judge, buildSignerEntry, hFlags, Bool.true_and]

end Signer

section Resolution

variable {env : Externals} {ctx : VerifyContext env}

/-- What is resolved of the sender leaves the rest of the result alone, and the
entry with more notes. -/
theorem resolveSender_cases (ctx : VerifyContext env) (entry : SignerValidation)
    (loop : SignerLoop) :
    (∃ notes : List SmimeError, (resolveSender ctx entry loop).1 = pushNotes entry notes) ∧
      ∃ (address comment : Option String) (date : Option Instant),
        (resolveSender ctx entry loop).2.result =
          { loop.result with fromAddress := address, fromComment := comment, date } := by
  unfold resolveSender
  split
  · exact ⟨⟨[], by simp [pushNotes]⟩, _, _, _, rfl⟩
  · dsimp only
    cases ctx.innerMessage.fromAddr with
    | none => exact ⟨⟨_, rfl⟩, _, _, _, rfl⟩
    | some innerFrom =>
        dsimp only
        refine ⟨⟨_, by simp only [pushNotes, List.append_assoc]; rfl⟩, ?_⟩
        split
        · exact ⟨_, _, _, rfl⟩
        · exact ⟨_, _, _, rfl⟩

/-- One iteration leaves what the signer leaves, but for the sender and the entry
of the signer, which is pushed with more notes. -/
theorem signerStep_result (ctx : VerifyContext env) (loop : SignerLoop)
    (signer : Nat × SignerInfo) :
    ∃ (notes : List SmimeError) (address comment : Option String) (date : Option Instant),
      (signerStep ctx loop signer).result =
        { (verifySigner ctx signer.1 signer.2 loop.result).1 with
          signers := (verifySigner ctx signer.1 signer.2 loop.result).1.signers ++
            (verifySigner ctx signer.1 signer.2 loop.result).2.toList.map
              (pushNotes · notes)
          fromAddress := address
          fromComment := comment
          date } := by
  unfold signerStep
  rcases verifySigner ctx signer.1 signer.2 loop.result with ⟨after, found⟩
  cases found with
  | none => exact ⟨[], after.fromAddress, after.fromComment, after.date, by simp⟩
  | some entry =>
      obtain ⟨⟨notes, hNotes⟩, address, comment, date, hResult⟩ :=
        resolveSender_cases ctx entry { loop with result := after }
      refine ⟨notes, address, comment, date, ?_⟩
      dsimp only
      rw [hNotes, hResult]
      rfl

end Resolution

end Smime
