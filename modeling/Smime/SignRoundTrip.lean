import Mathlib.Data.List.Permutation
import Smime.Cms.EnvelopedData
import Smime.Cms.SignedData
import Smime.CreateCms
import Smime.EncryptDecrypt
import Smime.SignedContent
import Smime.VerifySuccess

/-! What `build_stapled_cms` signs is verified: the counterpart of the round trip
of the encryption. -/
namespace Smime.CreateCms

open X690 (Octets tlv)
open X509 Mail Utils

section Laws

/-- What `build_stapled_cms` puts together: its one signer, and the certificates and the
staples as they were read. -/
inductive Assembled (env : CreateExternals) (signer : StapledSigner) (content : Octets) :
    SignedData → Prop
  | mk {attrsSetDer : Octets} {attrs : List Attribute} {issuer : Name} {certs : List Certificate}
      {choices : List RevocationInfoChoice}
      (written : IsSetOf env.toExternals
        [contentTypeAttr, messageDigestAttr (env.digest .sha256 content)] attrsSetDer)
      (parsed : env.parseAttributes attrsSetDer = .ok attrs)
      (named : env.parseName signer.signerIssuerNameDer = .ok issuer)
      (minimal : bigInt signer.leafSerial = some signer.leafSerial)
      (certificates : List.Forall₂ (fun der cert => env.parseCertificate der = .ok cert)
        (signer.leafDer :: signer.rootDer :: signer.extraCertDers) certs)
      (staples : List.Forall₂ (fun der choice => ocspChoice env der = some choice)
        signer.ocspRespDers choices) :
      Assembled env signer content (signedDataOf certs choices (signerInfoOf issuer
        signer.leafSerial sha256Algorithm rsaSha256Alg attrs (signer.leafSign attrsSetDer)) content)

/-- The fields of a SignedData that are a SET OF, in another order. -/
structure Reordered (sent read : SignedData) : Prop where
  certificates : Option.Rel List.Perm sent.certificates read.certificates
  crls : Option.Rel List.Perm sent.crls read.crls
  rest : read = { sent with certificates := read.certificates, crls := read.crls }

/-- What is put together and written is read again, a SET OF in the order of its
encoding; and RSA with SHA-256 is one of the permitted algorithms. -/
structure SigningLaws (env : CreateExternals) : Prop where
  attributes : ∀ (contentHash data : Octets) (parsed : List Attribute),
    IsSetOf env.toExternals [contentTypeAttr, messageDigestAttr contentHash] data →
      env.parseAttributes data = .ok parsed →
        parsed.Perm [contentTypeAttr, messageDigestAttr contentHash]
  dataOid : env.parseObjectIdentifier pkcs7DataOidDer = .ok pkcs7DataOid
  digest : ∀ content : Octets, env.parseOctetString (tlv [0x04] (env.digest .sha256 content)) =
    .ok (env.digest .sha256 content)
  signedData : ∀ (signer : StapledSigner) (content : Octets) (sent : SignedData) (der : Octets),
    Assembled env signer content sent → env.writeSignedData [sha256Algorithm] sent = .ok der →
      ∃ read : SignedData, Reordered sent read ∧
        env.parseContentInfo der = .ok (.signedData read)
  sha256 : env.hashOidToHashType sha256Oid = .ok .sha256
  permitted : rsaSha256Alg ∈ env.permittedSignatureAlgorithms
  rsaSha256 : env.identifySignatureAlgorithmParameters rsaSha256Alg = .ok (.rsaPkcs1v15 .sha256)

/-- The arguments are those of the certificate: its name and serial number, which
no other of the certificates has, and its private key. -/
structure StapledSigner.Owns (env : CreateExternals) (signer : StapledSigner) (leaf : Certificate) :
    Prop where
  read : env.parseCertificate signer.leafDer = .ok leaf
  issuer : env.parseName signer.signerIssuerNameDer = .ok leaf.issuer
  serial : signer.leafSerial = leaf.serial
  alone : ∀ der ∈ signer.rootDer :: signer.extraCertDers, ∀ cert : Certificate,
    env.parseCertificate der = .ok cert → iasMatchesCert ⟨leaf.issuer, leaf.serial⟩ cert →
      cert = leaf
  key : ∃ pk : AnyPublicKey, publicKey env.toExternals leaf = .ok pk ∧
    ∀ data : Octets, env.verifySignatureWithSignatureAlgorithm pk rsaSha256Alg
      (signer.leafSign data) data = .ok ()

/-- The SignedData has the certificates and the staples of the signer, in some order. -/
def Embeds (env : CreateExternals) (signer : StapledSigner) (signedData : SignedData) : Prop :=
  ∃ (certs : List Certificate) (choices : List RevocationInfoChoice),
    List.Forall₂ (fun der cert => env.parseCertificate der = .ok cert)
        (signer.leafDer :: signer.rootDer :: signer.extraCertDers) certs ∧
      List.Forall₂ (fun der choice => ocspChoice env der = some choice) signer.ocspRespDers
          choices ∧
        (extractCertificates signedData).Perm certs ∧ (signedData.crls.getD []).Perm choices

/-- The receiver's anchors trust the certificate, by what is embedded with it. -/
def StapledSigner.TrustedBy (env : CreateExternals) (signer : StapledSigner) (leaf : Certificate)
    (trust : TrustConfig) : Prop :=
  ∃ (caCerts : List Certificate) (builder : env.Builder) (verifier : env.Verifier),
    loadCaCerts env.toExternals trust.stores trust.caFilePem = .ok caCerts ∧
      buildPolicyBuilder env.toExternals caCerts = .ok builder ∧
        env.buildEmailVerifier builder = .ok verifier ∧
          ∀ signedData : SignedData, Embeds env signer signedData → ∃ chain : List Certificate,
            env.verify verifier leaf (intermediariesOf leaf (extractCertificates signedData)) =
                .ok chain ∧
              NotRevoked env.toExternals (extractStapledOcsp env.toExternals signedData) chain

end Laws

section Built

variable {env : CreateExternals} {signer : StapledSigner} {leaf : Certificate}
  {content der : Octets}

theorem bigInt_eq_some {octets serial : Octets} (h : bigInt octets = some serial) :
    serial = octets := by
  unfold bigInt at h
  split at h
  · cases h
  · cases h
    rfl
  · split at h
    · cases h
    · cases h
      rfl

theorem isSetOf_iff_writeSetOf {attrs : List Attribute} {data : Octets} :
    writeSetOf env.toExternals attrs = .ok data ↔ IsSetOf env.toExternals attrs data := by
  rw [writeSetOf, Except.bind_eq_ok_iff]
  apply exists_congr
  intro ders
  rw [Except.mapM_eq_ok_iff, Except.pure_eq_ok', Except.ok.injEq]
  exact and_congr_right fun _ => eq_comm

/-- A SET OF is the same in whichever order its members are given. -/
theorem IsSetOf.perm {attrs others : List Attribute} {data : Octets}
    (h : IsSetOf env.toExternals attrs data) (hPerm : others.Perm attrs) :
    IsSetOf env.toExternals others data := by
  obtain ⟨ders, hDers, rfl⟩ := h
  rw [Except.forall₂_ok_iff_pairs] at hDers
  obtain ⟨pairs, rfl, rfl, hPairs⟩ := hDers
  obtain ⟨reordered, rfl, hReordered⟩ := Cms.exists_perm_of_perm_map hPerm
  refine ⟨reordered.map Prod.fst, ?_, ?_⟩
  · rw [Except.forall₂_ok_iff_pairs]
    exact ⟨reordered, rfl, rfl, fun pair hPair => hPairs pair (hReordered.mem_iff.mp hPair)⟩
  · rw [X690.insertionSort_congr (hReordered.map Prod.fst)]

/-- What `build_stapled_cms` writes. -/
theorem buildStapledCms_some (hBuilt : buildStapledCms env signer content = some der) :
    ∃ sent : SignedData, Assembled env signer content sent ∧
      env.writeSignedData [sha256Algorithm] sent = .ok der := by
  simp only [buildStapledCms, signAttrs, Option.bind_eq_bind, Option.bind_eq_some_iff,
    toOption_eq_some_iff, isSetOf_iff_writeSetOf, Option.pure_def, Option.some.injEq] at hBuilt
  obtain ⟨signed, ⟨attrsSetDer, hSetOf, parsedAttrs, hParsed, rfl⟩, leafCert, hLeaf, rootCert,
    hRoot, issuer, hIssuer, serial, hSerial, extraCerts, hExtra, choices, hChoices, hWrite⟩ := hBuilt
  rw [mapM_eq_some_iff] at hExtra hChoices
  simp only [toOption_eq_some_iff] at hExtra
  obtain rfl := bigInt_eq_some hSerial
  exact ⟨_, .mk hSetOf hParsed hIssuer hSerial (.cons hLeaf (.cons hRoot hExtra)) hChoices, hWrite⟩

end Built

section Checks

variable {env : CreateExternals}

/-- Neither attribute is amiss, in either order. -/
theorem scanAttributes_signed (laws : SigningLaws env) {signer : SignerInfo} (idx : Nat)
    {attrs : List Attribute} {contentHash : Octets}
    (hAttrs : signer.authenticatedAttributes = some attrs)
    (hPerm : attrs.Perm [contentTypeAttr, messageDigestAttr contentHash]) :
    scanAttributes env.toExternals signer idx = { contentTypeCount := 1 } := by
  have hFound : contentTypeFailures env.toExternals idx contentTypeAttr.values = [] := by
    simp [contentTypeFailures, contentTypeAttr, laws.dataOid]
  have hDigestStep : ∀ scan : AttributeScan, AttributeScan.step env.toExternals signer idx scan
      (messageDigestAttr contentHash) = scan := by
    intro scan
    have hOther : messageDigestOid ≠ contentTypeOid ∧ messageDigestOid ≠ signingTimeOid ∧
        messageDigestOid ≠ cmsAlgorithmProtectionOid ∧ messageDigestOid ≠ smimeCapabilitiesOid ∧
        messageDigestOid ≠ signingCertificateOid ∧ messageDigestOid ≠ signingCertificateV2Oid := by
      decide
    simp [AttributeScan.step, messageDigestAttr, hOther]
  have hTypeStep : AttributeScan.step env.toExternals signer idx {} contentTypeAttr =
      { contentTypeCount := 1 } := by
    rw [AttributeScan.step, if_pos (show contentTypeAttr.typeId = contentTypeOid from rfl), hFound]
    rfl
  rw [scanAttributes, hAttrs, Option.getD_some]
  rcases List.perm_pair.mp hPerm with rfl | rfl
  · rw [List.foldl_cons, hTypeStep, List.foldl_cons, hDigestStep, List.foldl_nil]
  · rw [List.foldl_cons, hDigestStep, List.foldl_cons, hTypeStep, List.foldl_nil]

theorem checkAlgorithms_rsaSha256 (laws : SigningLaws env) {signer : SignerInfo} (idx : Nat)
    (hDigest : signer.digestAlgorithm = sha256Algorithm)
    (hSignature : signer.digestEncryptionAlgorithm = rsaSha256Alg) :
    checkAlgorithms env.toExternals signer idx = .ok [] := by
  have hPermittedHash : hashOidToHashTypePermitted env.toExternals sha256Oid = .ok .sha256 := by
    rw [hashOidToHashTypePermitted, laws.sha256]
    rfl
  have hPermitted : env.permittedSignatureAlgorithms.contains rsaSha256Alg = true :=
    List.contains_iff_mem.mpr laws.permitted
  have hRsa : rsaSha256Alg.oid ≠ rsaOid := by decide
  have hNull : ({ rsaSha256Alg with params := withNullParams rsaSha256Alg.params } :
      AlgorithmIdentifier) = rsaSha256Alg := rfl
  have hStrong : minHashes rsaSha256Alg.oid = none := by decide
  have hPss : rsaPssWarnings env.toExternals rsaSha256Alg.params idx = [] := rfl
  simp only [checkAlgorithms, hDigest, hSignature, sha256Algorithm, hPermittedHash,
    Except.mapError, Except.ok_bind', hNull, hPermitted, laws.rsaSha256, Bool.not_true,
    Bool.false_eq_true, if_false, if_neg hRsa, hPss, weakDigestWarnings, hStrong,
    digestMismatchWarnings]
  rfl

/-- The key of the signer verifies it, and leaves no failure. -/
theorem verifyCandidate_signed (laws : SigningLaws env) {pk : AnyPublicKey} {signer : SignerInfo}
    {attrs : List Attribute} {content attrsSetDer : Octets}
    (hDigest : signer.digestAlgorithm = sha256Algorithm)
    (hSignature : signer.digestEncryptionAlgorithm = rsaSha256Alg)
    (hAttrs : signer.authenticatedAttributes = some attrs)
    (hPerm : attrs.Perm [contentTypeAttr, messageDigestAttr (env.digest .sha256 content)])
    (hSetOf : IsSetOf env.toExternals
      [contentTypeAttr, messageDigestAttr (env.digest .sha256 content)] attrsSetDer)
    (hKey : env.verifySignatureWithSignatureAlgorithm pk rsaSha256Alg signer.encryptedDigest
      attrsSetDer = .ok ())
    (innerMessage : Message) (result : SmimeValidationResult) :
    let run := (SignedTarget.econtent content).verifyCandidate env.toExternals pk signer true
      innerMessage {} result
    run.verifies = true ∧ run.result = result := by
  have hFilter : attrs.filter (·.typeId == messageDigestOid) =
      [messageDigestAttr (env.digest .sha256 content)] := by
    rcases List.perm_pair.mp hPerm with rfl | rfl <;> rfl
  have hCovers : verifyMessageDigest env.toExternals signer.digestAlgorithm
      signer.authenticatedAttributes content = .ok () := by
    rw [verifyMessageDigest_ok_iff, hDigest]
    exact ⟨attrs, _, hAttrs, ⟨_, _, hFilter, rfl, laws.digest content⟩, .sha256, laws.sha256, rfl,
      rfl⟩
  have hVerify : verifyEcontentSignature env.toExternals pk signer.digestAlgorithm
      signer.digestEncryptionAlgorithm signer.authenticatedAttributes signer.encryptedDigest
      content = .ok () := by
    rw [verifyEcontentSignature_ok_iff]
    refine ⟨attrsSetDer, ?_, ?_⟩
    · rw [SignedOctets, hAttrs]
      exact IsSetOf.perm hSetOf hPerm
    · have hHash : hashOidToHashTypePermitted env.toExternals sha256Algorithm.oid = .ok .sha256 := by
        rw [hashOidToHashTypePermitted, sha256Algorithm, laws.sha256]
        rfl
      rw [doVerifySignature, hDigest, hHash, hSignature, Except.ok_bind',
        if_neg (by decide : rsaSha256Alg.oid ≠ rsaOid), hKey]
      rfl
  simp [SignedTarget.verifyCandidate, SignedTarget.verifyEcontentCandidate, hCovers, hVerify,
    SignedTarget.passed, SignedTarget.failureOf, SmimeValidationResult.extend]

/-- Nothing is recorded of a chain without a revocation. -/
theorem scan_errors_nil {staples : List BasicOcspResponse}
    {links : List (Nat × Certificate × Certificate)} {scan : OcspScan}
    (hLinks : ∀ link ∈ links,
      stapledStatusFor env.toExternals staples link.2.1 link.2.2 env.now ≠ some .revoked)
    (hScan : scan.errors = []) :
    (links.foldl (OcspScan.step env.toExternals staples) scan).errors = [] := by
  induction links generalizing scan with
  | nil => exact hScan
  | cons link rest ih =>
      rw [List.foldl_cons]
      apply ih fun next hNext => hLinks next (List.mem_cons_of_mem _ hNext)
      have hLink := hLinks link List.mem_cons_self
      unfold OcspScan.step
      dsimp only
      cases hStatus : stapledStatusFor env.toExternals staples link.2.1 link.2.2 env.now with
      | none => exact hScan
      | some status =>
          have hGood : status ≠ .revoked := fun hRevoked => hLink (hRevoked ▸ hStatus)
          simp [hGood, hScan]

theorem validateChain_failures_nil {cert : Certificate} {certs chain : List Certificate}
    {verifier : env.Verifier} (staples : List BasicOcspResponse) (idx : Nat)
    (hVerify : env.verify verifier cert (intermediariesOf cert certs) = .ok chain)
    (hChain : NotRevoked env.toExternals staples chain) :
    (validateChain env.toExternals cert certs verifier staples idx).failures = [] := by
  rw [validateChain, hVerify]
  dsimp only
  unfold applyStapledOcsp
  split
  · rfl
  · apply scan_errors_nil _ rfl
    intro link hLink
    exact hChain (link.2.1, link.2.2) (mem_chainLinks.mp ⟨link.1, hLink⟩)

end Checks

section RoundTrip

variable {env : CreateExternals} {signer : StapledSigner} {leaf : Certificate}
  {content der : Octets} {trust : TrustConfig}

theorem findLeaf_signed (ctx : VerifyContext env.toExternals) (signerInfo : SignerInfo)
    {candidates : List Certificate} {pk : AnyPublicKey}
    (hAll : ∀ cert ∈ candidates, cert = leaf) (hNonempty : candidates ≠ [])
    (hKey : publicKey env.toExternals leaf = .ok pk) (idx : Nat) (result : SmimeValidationResult)
    (hRun :
      let run := ctx.target.verifyCandidate env.toExternals pk signerInfo true ctx.innerMessage {}
        result
      run.verifies = true ∧ run.result = result) :
    ∃ checks : SignatureChecks,
      findLeaf ctx signerInfo true idx candidates result = (result, some (leaf, checks)) := by
  cases candidates with
  | nil => exact absurd rfl hNonempty
  | cons candidate rest =>
      obtain rfl : candidate = leaf := hAll candidate List.mem_cons_self
      refine ⟨(ctx.target.verifyCandidate env.toExternals pk signerInfo true ctx.innerMessage {}
        result).checks, ?_⟩
      rw [findLeaf, hKey]
      dsimp only at hRun ⊢
      rw [if_pos hRun.1, hRun.2]

/-- The SignedData as it was built, up to the order of its sets. -/
structure ReadsAs (env : CreateExternals) (signer : StapledSigner) (leaf : Certificate)
    (content : Octets) (signedData : SignedData) : Prop where
  embeds : Embeds env signer signedData
  target : signedData.content = .data (some content)
  version : validateSignedDataVersion signedData signedData.signerInfos = none
  signer : ∃ (attrsSetDer : Octets) (attrs : List Attribute),
    IsSetOf env.toExternals
        [contentTypeAttr, messageDigestAttr (env.digest .sha256 content)] attrsSetDer ∧
      attrs.Perm [contentTypeAttr, messageDigestAttr (env.digest .sha256 content)] ∧
      signedData.signerInfos = [signerInfoOf leaf.issuer leaf.serial sha256Algorithm rsaSha256Alg
        attrs (signer.leafSign attrsSetDer)]

theorem filterMap_certificates {choices : List CertificateChoices} {certs : List Certificate}
    (h : choices.Perm (certs.map CertificateChoices.certificate)) :
    ∃ reordered : List Certificate, choices = reordered.map .certificate ∧ reordered.Perm certs :=
  Cms.exists_perm_of_perm_map h

/-- What is read has the version that RFC 5652 wants. -/
theorem version_reordered {certs : List Certificate} {choices crls : List RevocationInfoChoice}
    {signedData : SignedData} {signerInfo : SignerInfo} {ias : IssuerAndSerialNumber}
    (hSid : signerInfo.issuerAndSerialNumber = .issuerAndSerialNumber ias)
    (hOther : ∀ choice ∈ choices, ∃ format info, choice = .other format info)
    (hPerm : crls.Perm choices)
    (hVersion : signedData.version = if choices.isEmpty then 1 else 5)
    (hContent : signedData.content ≠ .other)
    (hCerts : signedData.certificates = some (certs.map .certificate))
    (hCrls : signedData.crls.getD [] = crls) :
    validateSignedDataVersion signedData [signerInfo] = none := by
  have hExpected : expectedSignedDataVersion signedData [signerInfo] = signedData.version := by
    rw [expectedSignedDataVersion, hCerts, Option.getD_some, hCrls, hVersion]
    cases choices with
    | nil =>
        rw [hPerm.eq_nil]
        simp [hSid, hContent, List.contains_eq_mem]
    | cons choice rest =>
        have hMem : choice ∈ crls := hPerm.mem_iff.mpr List.mem_cons_self
        obtain ⟨format, info, rfl⟩ := hOther choice List.mem_cons_self
        rw [if_pos, List.isEmpty_cons, if_neg (by simp)]
        rw [Bool.or_eq_true, List.any_eq_true]
        exact .inr ⟨_, hMem, rfl⟩
  rw [validateSignedDataVersion, hExpected]
  exact if_neg (fun h => h rfl)

theorem ocspChoice_other {ders : List Octets} {choices : List RevocationInfoChoice}
    (h : List.Forall₂ (fun der choice => ocspChoice env der = some choice) ders choices) :
    ∀ choice ∈ choices, ∃ format info, choice = .other format info := by
  intro choice hChoice
  obtain ⟨der, -, hDer⟩ := h.exists_left hChoice
  simp only [ocspChoice, Option.bind_eq_bind, Option.bind_eq_some_iff, Option.pure_def,
    Option.some.injEq] at hDer
  obtain ⟨tlv, -, rfl⟩ := hDer
  exact ⟨_, _, rfl⟩

/-- What is built is read as it was built. -/
theorem buildStapledCms_reads (laws : SigningLaws env) (hOwns : signer.Owns env leaf)
    (hBuilt : buildStapledCms env signer content = some der) :
    ∃ signedData : SignedData, env.parseContentInfo der = .ok (.signedData signedData) ∧
      ReadsAs env signer leaf content signedData := by
  obtain ⟨sent, hAssembled, hWrite⟩ := buildStapledCms_some hBuilt
  obtain ⟨read, hReordered, hRead⟩ := laws.signedData _ _ _ _ hAssembled hWrite
  obtain @⟨attrsSetDer, attrs, issuer, certs, choices, hSetOf, hParsed, hIssuer, -, hCerts,
    hChoices⟩ := hAssembled
  rw [hOwns.issuer, Except.ok.injEq] at hIssuer
  subst hIssuer
  rw [hOwns.serial] at hReordered
  have hAttrs := laws.attributes _ _ _ hSetOf hParsed
  obtain ⟨readCerts, hReadCerts, hCertsPerm⟩ : ∃ readCerts : List Certificate,
      read.certificates = some (readCerts.map .certificate) ∧ readCerts.Perm certs := by
    have hRel := hReordered.certificates
    rw [signedDataOf] at hRel
    dsimp only at hRel
    cases hSome : read.certificates with
    | none =>
        rw [hSome] at hRel
        cases hRel
    | some found =>
        rw [hSome] at hRel
        cases hRel with
        | some hPerm =>
            obtain ⟨reordered, rfl, hOrder⟩ := filterMap_certificates hPerm.symm
            exact ⟨reordered, rfl, hOrder⟩
  have hCrlsPerm : (read.crls.getD []).Perm choices := by
    have hRel := hReordered.crls
    rw [signedDataOf] at hRel
    dsimp only at hRel
    split at hRel
    next hEmpty =>
      rw [List.isEmpty_iff] at hEmpty
      cases hSome : read.crls with
      | none => rw [hEmpty]; exact .refl _
      | some found =>
          rw [hSome] at hRel
          cases hRel
    next hNonempty =>
      cases hSome : read.crls with
      | none =>
          rw [hSome] at hRel
          cases hRel
      | some found =>
          rw [hSome] at hRel
          cases hRel with
          | some hPerm => exact hPerm.symm
  have hExtract : extractCertificates read = readCerts := by
    rw [extractCertificates, hReadCerts, Option.getD_some, List.filterMap_map]
    exact List.filterMap_some
  have hSigners : read.signerInfos = [signerInfoOf leaf.issuer leaf.serial sha256Algorithm
      rsaSha256Alg attrs (signer.leafSign attrsSetDer)] := by
    rw [hReordered.rest]
    rfl
  have hContent : read.content = .data (some content) := by
    rw [hReordered.rest]
    rfl
  refine ⟨read, hRead, ⟨certs, choices, hCerts, hChoices, ?_, hCrlsPerm⟩, hContent, ?_, attrsSetDer,
    attrs, hSetOf, hAttrs, hSigners⟩
  · rw [hExtract]
    exact hCertsPerm
  · rw [hSigners]
    apply version_reordered rfl (ocspChoice_other hChoices) hCrlsPerm _ (by rw [hContent]; simp)
      hReadCerts rfl
    rw [hReordered.rest]
    rfl

/-- The verification that a signed content deserves. -/
structure VerifiedAs (env : CreateExternals) (leaf : Certificate) (content : Octets)
    (result : SmimeValidationResult) : Prop where
  failures : result.failures = []
  content : result.signedContent = some content
  signer : ∃ entry : SignerValidation, result.signers = [entry] ∧ entry.signatureValid = true ∧
    EntryOf env.toExternals leaf entry

/-- The one signer is found with the leaf; the rest is up to the chain. -/
structure JudgedBy (env : CreateExternals) (leaf : Certificate) (validation : ChainValidation)
    (entry : SignerValidation) : Prop where
  entryOf : EntryOf env.toExternals leaf entry
  valid : entry.signatureValid = validation.trusted
  status : entry.validationDetails.revocationStatus = validation.revocationStatus

/-- The leaf is the one certificate that the signer names. -/
theorem candidates_built (hOwns : signer.Owns env leaf) {signedData : SignedData}
    (hEmbeds : Embeds env signer signedData) {signerInfo : SignerInfo}
    (hSid : signerInfo.issuerAndSerialNumber =
      .issuerAndSerialNumber ⟨leaf.issuer, leaf.serial⟩) :
    let candidates := (extractCertificates signedData).filter
      (sidMatchesCert env.toExternals signerInfo.issuerAndSerialNumber)
    (∀ cert ∈ candidates, cert = leaf) ∧ leaf ∈ candidates := by
  obtain ⟨certs, choices, hParsed, -, hPerm, -⟩ := hEmbeds
  have hMatches : ∀ cert : Certificate, sidMatchesCert env.toExternals
      signerInfo.issuerAndSerialNumber cert = iasMatchesCert ⟨leaf.issuer, leaf.serial⟩ cert := by
    intro cert
    rw [hSid]
    rfl
  constructor
  · intro cert hCert
    rw [List.mem_filter, hMatches] at hCert
    obtain ⟨der, hDer, hRead⟩ := hParsed.exists_left (hPerm.mem_iff.mp hCert.1)
    rcases List.mem_cons.mp hDer with rfl | hDer
    · rw [hOwns.read, Except.ok.injEq] at hRead
      exact hRead.symm
    · exact hOwns.alone der hDer cert hRead hCert.2
  · rw [List.mem_filter, hMatches]
    obtain ⟨cert, hMem, hRead⟩ := hParsed.exists_right (a := signer.leafDer) List.mem_cons_self
    rw [hOwns.read, Except.ok.injEq] at hRead
    subst hRead
    exact ⟨hPerm.mem_iff.mpr hMem, by simp [iasMatchesCert]⟩

/-- Nothing is amiss with the signer itself. -/
theorem prepareSigner_built (laws : SigningLaws env) {signerInfo : SignerInfo}
    {attrs : List Attribute} {attrsSignature : Octets} {certs : List Certificate} (idx : Nat)
    (hInfo : signerInfo = signerInfoOf leaf.issuer leaf.serial sha256Algorithm rsaSha256Alg attrs
      attrsSignature)
    (hAttrs : attrs.Perm [contentTypeAttr, messageDigestAttr (env.digest .sha256 content)])
    (hMem : leaf ∈ certs.filter
      (sidMatchesCert env.toExternals signerInfo.issuerAndSerialNumber)) :
    prepareSigner env.toExternals signerInfo certs idx =
      ([], some (none, certs.filter
        (sidMatchesCert env.toExternals signerInfo.issuerAndSerialNumber))) := by
  have hAlgorithms : checkAlgorithms env.toExternals signerInfo idx = .ok [] := by
    apply checkAlgorithms_rsaSha256 laws idx
    · rw [hInfo]
      rfl
    · rw [hInfo]
      rfl
  have hScan : scanAttributes env.toExternals signerInfo idx = { contentTypeCount := 1 } := by
    refine scanAttributes_signed laws idx ?_ hAttrs
    rw [hInfo]
    rfl
  have hVersion : signerVersionFailures signerInfo idx = [] := by
    rw [hInfo]
    rfl
  have hNonempty : (certs.filter
      (sidMatchesCert env.toExternals signerInfo.issuerAndSerialNumber)).isEmpty = false := by
    rw [List.isEmpty_eq_false_iff]
    exact List.ne_nil_of_mem hMem
  simp [prepareSigner, hAlgorithms, hScan, hVersion, cardinalityFailures, hNonempty]

theorem verifySigner_built (laws : SigningLaws env) (hOwns : signer.Owns env leaf)
    {signedData : SignedData} (hReads : ReadsAs env signer leaf content signedData)
    (ctx : VerifyContext env.toExternals) (hTarget : ctx.target = .econtent content)
    (hCerts : ctx.certs = extractCertificates signedData) {signerInfo : SignerInfo}
    (hSigner : signedData.signerInfos = [signerInfo]) (idx : Nat)
    (result : SmimeValidationResult) :
    let validation := validateChain env.toExternals leaf ctx.certs ctx.verifier ctx.staples idx
    ∃ entry : SignerValidation,
      verifySigner ctx idx signerInfo result = (result.extend validation.failures, some entry) ∧
        JudgedBy env leaf validation entry := by
  obtain ⟨attrsSetDer, attrs, hSetOf, hAttrs, hInfo⟩ := hReads.signer
  rw [hSigner, List.singleton_inj] at hInfo
  obtain ⟨pk, hKey, hSign⟩ := hOwns.key
  have hSome : signerInfo.authenticatedAttributes = some attrs := by rw [hInfo]; rfl
  have hDigest : signerInfo.digestAlgorithm = sha256Algorithm := by rw [hInfo]; rfl
  have hSignature : signerInfo.digestEncryptionAlgorithm = rsaSha256Alg := by rw [hInfo]; rfl
  have hSid : signerInfo.issuerAndSerialNumber =
      .issuerAndSerialNumber ⟨leaf.issuer, leaf.serial⟩ := by rw [hInfo]; rfl
  obtain ⟨hCandidates, hLeafMem⟩ := candidates_built hOwns hReads.embeds hSid
  rw [← hCerts] at hCandidates hLeafMem
  have hPrepare := prepareSigner_built laws idx hInfo hAttrs hLeafMem
  have hGuard : ctx.target.precheckSigner env.toExternals
      signerInfo.authenticatedAttributes.isSome = none := by
    rw [hTarget, hSome]
    rfl
  have hExtend : result.extend [] = result := by
    rw [SmimeValidationResult.extend, List.append_nil]
  obtain ⟨checks, hLeaf⟩ := findLeaf_signed ctx signerInfo hCandidates
    (List.ne_nil_of_mem hLeafMem) hKey idx result (by
      rw [hTarget]
      apply verifyCandidate_signed laws hDigest hSignature hSome hAttrs hSetOf
      rw [hInfo]
      exact hSign attrsSetDer)
  -- The entry is judged by the chain of the leaf.
  have hEntry : ∃ before : SignerValidation, verifySigner ctx idx signerInfo result =
      (result.extend (validateChain env.toExternals leaf ctx.certs ctx.verifier ctx.staples
        idx).failures, some (judge before (validateChain env.toExternals leaf ctx.certs ctx.verifier
          ctx.staples idx) true)) := by
    simp only [verifySigner, hPrepare, hGuard]
    simp only [hSome, Option.isSome_some, hExtend, hLeaf]
    exact ⟨_, rfl⟩
  obtain ⟨before, hEntry⟩ := hEntry
  refine ⟨_, hEntry, ?_⟩
  rcases (verifySigner_cases ctx idx signerInfo result).2 with
    ⟨hNone, -⟩ | ⟨cert, entry, hSomeEntry, hFinds, hOf, hValid⟩
  · rw [hEntry] at hNone
    cases hNone
  · rw [hEntry, Option.some.injEq] at hSomeEntry
    obtain ⟨earlier, behind, hSplit, -, -⟩ := hFinds.first
    have hCert : cert = leaf := hCandidates cert (by rw [hSplit]; simp)
    subst hCert hSomeEntry
    refine ⟨hOf, ?_, rfl⟩
    rw [Bool.eq_iff_iff, hValid, validateChain_trusted_iff]

/-- What is built is verified up to the chain of the leaf. -/
theorem verifySignedData_built (laws : SigningLaws env) (hOwns : signer.Owns env leaf)
    (hInner : (env.parseMessage content).isSome) {caCerts : List Certificate}
    {builder : env.Builder} {verifier : env.Verifier}
    (hAnchors : loadCaCerts env.toExternals trust.stores trust.caFilePem = .ok caCerts)
    (hBuilder : buildPolicyBuilder env.toExternals caCerts = .ok builder)
    (hVerifier : env.buildEmailVerifier builder = .ok verifier) {signedData : SignedData}
    (hReads : ReadsAs env signer leaf content signedData) (sender : Addr) (date : Option Instant)
    (before : SmimeValidationResult) (hFailures : before.failures = [])
    (hNoSigners : before.signers = []) :
    let validation := validateChain env.toExternals leaf (extractCertificates signedData) verifier
      (extractStapledOcsp env.toExternals signedData) 0
    let result := verifySignedData env.toExternals signedData (.econtent content) trust.stores
      trust.caFilePem (some sender) date before
    result.failures = validation.failures ∧ result.signedContent = some content ∧
      ∃ entry : SignerValidation, result.signers = [entry] ∧ JudgedBy env leaf validation entry := by
  obtain ⟨innerMessage, hMessage⟩ := Option.isSome_iff_exists.mp hInner
  obtain ⟨signerInfo, hSigners⟩ : ∃ signerInfo, signedData.signerInfos = [signerInfo] := by
    obtain ⟨attrsSetDer, attrs, -, -, hSigners⟩ := hReads.signer
    exact ⟨_, hSigners⟩
  have hContent : signedData.content ≠ .other := by
    rw [hReads.target]
    simp
  obtain ⟨ctx, hDef⟩ : ∃ ctx : VerifyContext env.toExternals, ctx =
      { target := .econtent content
        certs := extractCertificates signedData
        signers := signedData.signerInfos
        innerMessage
        verifier
        staples := extractStapledOcsp env.toExternals signedData
        trustStoreLabel := TrustStore.debugList trust.stores
        outerDate := date } := ⟨_, rfl⟩
  have hReaches : Reaches signedData (.econtent content) trust.stores trust.caFilePem date ctx :=
    ⟨hContent, caCerts, innerMessage, builder, verifier, hAnchors, hMessage, hBuilder, hVerifier,
      hDef⟩
  have hSigner := verifySigner_built laws hOwns hReads ctx (by rw [hDef]) (by rw [hDef]) hSigners 0
  rw [show ctx.certs = extractCertificates signedData by rw [hDef],
    show ctx.verifier = verifier by rw [hDef],
    show ctx.staples = extractStapledOcsp env.toExternals signedData by rw [hDef]] at hSigner
  -- Nothing is amiss before the signer.
  have hClean := (startVerification_silent_iff env.toExternals signedData (.econtent content) trust
    (some sender) date before).1.mpr ⟨hReads.version, rfl, ctx, hReaches⟩
  have hStart := (startVerification_cases env.toExternals signedData (.econtent content)
    trust.stores trust.caFilePem (some sender) date before).1
  have hShown : (startVerification env.toExternals signedData (.econtent content) trust.stores
      trust.caFilePem (some sender) date before).1.signedContent = some content :=
    startVerification_signedContent env.toExternals signedData _ trust.stores trust.caFilePem _ date
      before hContent
  have hRun := verifySignedData_run env.toExternals signedData (.econtent content) trust.stores
    trust.caFilePem (some sender) date before
  rw [hFailures] at hClean
  rw [hNoSigners] at hStart
  generalize (startVerification env.toExternals signedData (.econtent content) trust.stores
    trust.caFilePem (some sender) date before).1 = start at hClean hStart hShown hRun
  dsimp only
  generalize verifySignedData env.toExternals signedData (.econtent content) trust.stores
    trust.caFilePem (some sender) date before = after at hRun ⊢
  cases hRun with
  | stopped hNone => exact absurd hReaches (hNone ctx)
  | @looped other hOther =>
      cases reaches_unique hReaches hOther
      have hIndexed : ctx.signers = signedData.signerInfos := reaches_signers hReaches
      rw [hIndexed, hSigners]
      obtain ⟨entry, hEntry, hJudged⟩ := hSigner start
      obtain ⟨notes, address, comment, date', hResult⟩ :=
        signerStep_result ctx { result := start } (0, signerInfo)
      dsimp only at hResult
      rw [hEntry] at hResult
      have hNoFailures : start.failures = [] := List.length_eq_zero_iff.mp (Nat.le_zero.mp hClean)
      have hOne : (indexed [signerInfo]).foldl (signerStep ctx) { result := start } =
          signerStep ctx { result := start } (0, signerInfo) := rfl
      rw [hOne, hResult]
      refine ⟨?_, hShown, pushNotes entry notes, ?_,
        ⟨⟨hJudged.entryOf.emails, hJudged.entryOf.names⟩, hJudged.valid, hJudged.status⟩⟩
      · show start.failures ++ _ = _
        rw [hNoFailures, List.nil_append]
      · show start.signers ++ [pushNotes entry notes] = _
        rw [hStart, List.nil_append]

/-- For a trusted signer nothing is left to fail. -/
theorem verifySignedData_verified (laws : SigningLaws env) (hOwns : signer.Owns env leaf)
    (hTrusted : signer.TrustedBy env leaf trust) (hInner : (env.parseMessage content).isSome)
    {signedData : SignedData} (hReads : ReadsAs env signer leaf content signedData) (sender : Addr)
    (date : Option Instant) (before : SmimeValidationResult) (hFailures : before.failures = [])
    (hNoSigners : before.signers = []) :
    VerifiedAs env leaf content (verifySignedData env.toExternals signedData (.econtent content)
      trust.stores trust.caFilePem (some sender) date before) := by
  obtain ⟨caCerts, builder, verifier, hAnchors, hBuilder, hVerifier, hChains⟩ := hTrusted
  obtain ⟨chain, hVerify, hChain⟩ := hChains signedData hReads.embeds
  obtain ⟨hRecorded, hShown, entry, hEntry, hJudged⟩ := verifySignedData_built laws hOwns hInner
    hAnchors hBuilder hVerifier hReads sender date before hFailures hNoSigners
  refine ⟨?_, hShown, entry, hEntry, ?_, hJudged.entryOf⟩
  · rw [hRecorded]
    exact validateChain_failures_nil _ 0 hVerify hChain
  · rw [hJudged.valid, validateChain, hVerify]
    exact bne_iff_ne.mpr (applyStapledOcsp_revoked_iff.mpr hChain)

end RoundTrip

section Samples

/-! `leafCert` signs a content, and the entity of what it signed. The outside answers
as it does for these two. -/

section Values

def primitive (octet : UInt8) (low : octet &&& 0x1f ≠ 0x1f)
    (primitive : (X690.Tag.ofOctet octet low).constructed = false) (content : Octets) :
    X690.Value :=
  .prim (X690.Tag.ofOctet octet low) primitive content

theorem integer_low : (0x02 : UInt8) &&& 0x1f ≠ 0x1f := by decide

theorem integer_primitive : (X690.Tag.ofOctet 0x02 integer_low).constructed = false := by decide

def integer (content : Octets) : X690.Value := primitive 0x02 integer_low integer_primitive content

theorem null_low : (0x05 : UInt8) &&& 0x1f ≠ 0x1f := by decide

theorem null_primitive : (X690.Tag.ofOctet 0x05 null_low).constructed = false := by decide

def algorithm (oid : Octets) : X690.Value :=
  Cms.sequence [Cms.oid oid, primitive 0x05 null_low null_primitive []]

/-- The name of `rootCert`. -/
def rootNameValue : X690.Value :=
  Cms.sequence [Cms.setOf [Cms.sequence
    [Cms.oid [0x55, 0x04, 0x03], primitive 0x13 (by decide) (by decide) (ascii "Root")]]]

/-- Of a certificate only its serial number. -/
def certValue (serial : UInt8) : X690.Value := Cms.sequence [integer [serial]]

def contentTypeValue : X690.Value :=
  Cms.sequence [Cms.oid [0x2A, 0x86, 0x48, 0x86, 0xF7, 0x0D, 0x01, 0x09, 0x03],
    Cms.setOf [Cms.oid [0x2A, 0x86, 0x48, 0x86, 0xF7, 0x0D, 0x01, 0x07, 0x01]]]

def messageDigestValue (digest : Octets) : X690.Value :=
  Cms.sequence [Cms.oid [0x2A, 0x86, 0x48, 0x86, 0xF7, 0x0D, 0x01, 0x09, 0x04],
    Cms.setOf [Cms.octetString digest]]

def signerInfoValue (digest : Octets) : X690.Value :=
  Cms.sequence [integer [1], Cms.sequence [rootNameValue, integer [2]],
    algorithm [0x60, 0x86, 0x48, 0x01, 0x65, 0x03, 0x04, 0x02, 0x01],
    Cms.context0 [contentTypeValue, messageDigestValue digest],
    algorithm [0x2A, 0x86, 0x48, 0x86, 0xF7, 0x0D, 0x01, 0x01, 0x0B], Cms.octetString [0x5A]]

/-- The certificates stand in the order of their encodings. -/
def signedDataFields (digest content : Octets) : List X690.Value :=
  [integer [1], Cms.setOf [algorithm [0x60, 0x86, 0x48, 0x01, 0x65, 0x03, 0x04, 0x02, 0x01]],
    Cms.sequence [Cms.oid [0x2A, 0x86, 0x48, 0x86, 0xF7, 0x0D, 0x01, 0x07, 0x01],
      Cms.context0 [Cms.octetString content]],
    Cms.context0 [certValue 1, certValue 2], Cms.setOf [signerInfoValue digest]]

end Values

structure SignedSample where
  content : Octets
  digest : Octets

namespace SignedSample

def value (sample : SignedSample) : X690.Value :=
  Cms.sequence [Cms.oid idSignedData,
    Cms.context0 [Cms.sequence (signedDataFields sample.digest sample.content)]]

def der (sample : SignedSample) : Octets := sample.value.encode

def attrs (sample : SignedSample) : List Attribute :=
  [contentTypeAttr, messageDigestAttr sample.digest]

def attrsSetDer (sample : SignedSample) : Octets :=
  tlv [0x31] (contentTypeValue.encode ++ (messageDigestValue sample.digest).encode)

def sent (sample : SignedSample) : SignedData :=
  signedDataOf [leafCert, rootCert] [] (signerInfoOf leafCert.issuer leafCert.serial sha256Algorithm
    rsaSha256Alg sample.attrs [0x5A]) sample.content

/-- In the order in which the certificates stand. -/
def read (sample : SignedSample) : SignedData :=
  { sample.sent with certificates := some [.certificate rootCert, .certificate leafCert] }

end SignedSample

def innerSample : SignedSample := ⟨essContent, essDigest⟩

def outerSample : SignedSample where
  content := mimePkcs7Entity innerSample.der "signed-data"
  digest := octets 32 0x76a33a1bf5b41bd71edeaecfd45fbaf578cfc01303608b9f9e4ca5c8be80b6f9

/-- What is answered for each of the two. -/
def answerFor {α β : Type} [DecidableEq α] (key : SignedSample → α) (value : SignedSample → β)
    (asked : α) : Except String β :=
  if asked = key innerSample then .ok (value innerSample)
  else if asked = key outerSample then .ok (value outerSample)
  else unanswered

/-- As `essExternals`, for the two SignedData. -/
def signedExternals (parseMessage : Octets → Option Message) : CreateExternals where
  toCmsExternals :=
    { roundTripExternals with
      toExternals :=
        { essExternals with
          parseMessage
          parseContentInfo := answerFor SignedSample.der fun sample => .signedData sample.read
          parseAttributes := answerFor SignedSample.attrsSetDer SignedSample.attrs
          parseObjectIdentifier := fun der =>
            if der = pkcs7DataOidDer then .ok pkcs7DataOid else unanswered
          parseOctetString := fun der =>
            if der = tlv [0x04] [] then .ok []
            else answerFor (fun sample => tlv [0x04] sample.digest) SignedSample.digest der
          parseCertificate := fun der =>
            if der = (certValue 1).encode then .ok rootCert
            else if der = (certValue 2).encode then .ok leafCert
            else unanswered
          parsePemMany := fun _ => .ok [("CERTIFICATE", (certValue 1).encode)]
          writeAttribute := fun attr =>
            if attr = contentTypeAttr then .ok contentTypeValue.encode
            else answerFor (fun sample => messageDigestAttr sample.digest)
              (fun sample => (messageDigestValue sample.digest).encode) attr
          digest := fun _ data =>
            ((answerFor SignedSample.content SignedSample.digest data).toOption).getD [] }
      parseTlv := fun _ => unanswered
      writeAlgorithmIdentifier := fun _ => unanswered
      writeRecipientInfo := fun _ => unanswered
      writeContentInfo := fun _ => unanswered }
  parseName der := if der = rootNameValue.encode then .ok rootCert.subject else unanswered
  writeSignedData digestAlgorithms signedData :=
    if digestAlgorithms = [sha256Algorithm] then
      answerFor SignedSample.sent SignedSample.der signedData
    else unanswered
  nowHeader := "Thu, 28 May 2026 20:26:40 +0000"

variable {parseMessage : Octets → Option Message}

theorem signedExternals_parseContentInfo (der : Octets) :
    (signedExternals parseMessage).parseContentInfo der =
      answerFor SignedSample.der (fun sample => .signedData sample.read) der := rfl

theorem signedExternals_parseAttributes (der : Octets) :
    (signedExternals parseMessage).parseAttributes der =
      answerFor SignedSample.attrsSetDer SignedSample.attrs der := rfl

theorem signedExternals_parseCertificate (der : Octets) :
    (signedExternals parseMessage).parseCertificate der =
      if der = (certValue 1).encode then .ok rootCert
      else if der = (certValue 2).encode then .ok leafCert
      else unanswered := rfl

theorem answerFor_ok {α β : Type} [DecidableEq α] {key : SignedSample → α}
    {value : SignedSample → β} {asked : α} {answer : β} (h : answerFor key value asked = .ok answer) :
    asked = key innerSample ∧ answer = value innerSample ∨
      asked = key outerSample ∧ answer = value outerSample := by
  unfold answerFor at h
  split_ifs at h with hInner hOuter
  · cases h
    exact .inl ⟨hInner, rfl⟩
  · cases h
    exact .inr ⟨hOuter, rfl⟩
  · cases h

theorem answerFor_key {α β : Type} [DecidableEq α] {key : SignedSample → α}
    {value : SignedSample → β} (h : key outerSample ≠ key innerSample) {sample : SignedSample}
    (hSample : sample = innerSample ∨ sample = outerSample) :
    answerFor key value (key sample) = .ok (value sample) := by
  rcases hSample with rfl | rfl
  · exact if_pos rfl
  · rw [answerFor, if_neg h, if_pos rfl]

theorem reordered_sample (sample : SignedSample) : Reordered sample.sent sample.read where
  certificates := .some (List.Perm.swap _ _ _)
  crls := .none
  rest := rfl

theorem outerSample_ne :
    outerSample.der ≠ innerSample.der ∧ outerSample.attrsSetDer ≠ innerSample.attrsSetDer ∧
      outerSample.digest ≠ innerSample.digest ∧ outerSample.content ≠ innerSample.content := by
  decide +kernel

theorem messageDigestAttr_ne (digest : Octets) : messageDigestAttr digest ≠ contentTypeAttr := by
  intro h
  cases congrArg Attribute.typeId h

theorem messageDigestAttr_outer :
    messageDigestAttr outerSample.digest ≠ messageDigestAttr innerSample.digest := by
  decide +kernel

/-- The attributes are written in the order in which they are listed. -/
theorem isSetOf_sample {sample : SignedSample}
    (hSample : sample = innerSample ∨ sample = outerSample) :
    IsSetOf (signedExternals parseMessage).toExternals sample.attrs sample.attrsSetDer := by
  refine ⟨[contentTypeValue.encode, (messageDigestValue sample.digest).encode],
    .cons ?_ (.cons ?_ .nil), ?_⟩
  · simp only [signedExternals, if_true]
  · simp only [signedExternals, if_neg (messageDigestAttr_ne sample.digest)]
    exact @answerFor_key _ _ _ (fun sample => messageDigestAttr sample.digest) _
      messageDigestAttr_outer _ hSample
  · rcases hSample with rfl | rfl
    all_goals decide +kernel

theorem sampleSigning : SigningLaws (signedExternals parseMessage) where
  attributes contentHash data parsed hSetOf hParsed := by
    have hSample : ∃ sample : SignedSample, (sample = innerSample ∨ sample = outerSample) ∧
        messageDigestAttr contentHash = messageDigestAttr sample.digest := by
      obtain ⟨ders, hDers, -⟩ := hSetOf
      obtain ⟨der, -, hDer⟩ := hDers.exists_right
        (List.mem_cons_of_mem contentTypeAttr (List.mem_singleton_self _))
      simp only [signedExternals, if_neg (messageDigestAttr_ne contentHash)] at hDer
      rcases answerFor_ok hDer with ⟨hAttr, -⟩ | ⟨hAttr, -⟩
      · exact ⟨innerSample, .inl rfl, hAttr⟩
      · exact ⟨outerSample, .inr rfl, hAttr⟩
    obtain ⟨sample, hSample, hAttr⟩ := hSample
    rw [hAttr] at hSetOf ⊢
    have hWritten := (isSetOf_iff_writeSetOf.mpr hSetOf).symm.trans
      (isSetOf_iff_writeSetOf.mpr (isSetOf_sample hSample))
    rw [Except.ok.injEq] at hWritten
    rw [hWritten, signedExternals_parseAttributes, answerFor_key outerSample_ne.2.1 hSample,
      Except.ok.injEq] at hParsed
    rw [← hParsed]
    exact List.Perm.refl _
  dataOid := by
    simp only [signedExternals, if_true]
  digest content := by
    have hOctets : tlv [0x04] innerSample.digest ≠ tlv [0x04] [] ∧
        tlv [0x04] outerSample.digest ≠ tlv [0x04] [] ∧
          tlv [0x04] outerSample.digest ≠ tlv [0x04] innerSample.digest := by
      decide +kernel
    simp only [signedExternals]
    cases hAnswer : answerFor SignedSample.content SignedSample.digest content with
    | error e => exact if_pos rfl
    | ok digest =>
        have hKey := @answerFor_key _ _ _ (fun sample => tlv [0x04] sample.digest)
          SignedSample.digest hOctets.2.2
        rcases answerFor_ok hAnswer with ⟨-, rfl⟩ | ⟨-, rfl⟩
        · exact (if_neg hOctets.1).trans (hKey (.inl rfl))
        · exact (if_neg hOctets.2.1).trans (hKey (.inr rfl))
  signedData signer content sent der _ h := by
    simp only [signedExternals, if_true] at h
    have hSample : ∃ sample : SignedSample, (sample = innerSample ∨ sample = outerSample) ∧
        sent = sample.sent ∧ der = sample.der := by
      rcases answerFor_ok h with ⟨hSent, hDer⟩ | ⟨hSent, hDer⟩
      · exact ⟨innerSample, .inl rfl, hSent, hDer⟩
      · exact ⟨outerSample, .inr rfl, hSent, hDer⟩
    obtain ⟨sample, hSample, rfl, rfl⟩ := hSample
    refine ⟨_, reordered_sample sample, ?_⟩
    rw [signedExternals_parseContentInfo, answerFor_key outerSample_ne.1 hSample]
  sha256 := rfl
  permitted := List.mem_singleton_self _
  rsaSha256 := rfl

/-- The arguments for `leafCert`. -/
def sampleSigner : StapledSigner where
  leafDer := (certValue 2).encode
  rootDer := (certValue 1).encode
  extraCertDers := []
  leafSerial := [2]
  signerIssuerNameDer := rootNameValue.encode
  ocspRespDers := []
  leafSign _ := [0x5A]

theorem sampleSigner_root :
    (signedExternals parseMessage).parseCertificate (certValue 1).encode = .ok rootCert := by
  rw [signedExternals_parseCertificate, if_pos rfl]

theorem sampleSigner_owns : sampleSigner.Owns (signedExternals parseMessage) leafCert where
  read := by
    have hOther : (certValue 2).encode ≠ (certValue 1).encode := by decide +kernel
    rw [sampleSigner, signedExternals_parseCertificate, if_neg hOther, if_pos rfl]
  issuer := by
    simp only [signedExternals, sampleSigner, if_true]
    rfl
  serial := rfl
  alone der hDer cert hCert hMatches := by
    rw [sampleSigner, List.mem_singleton] at hDer
    rw [hDer, signedExternals_parseCertificate, if_pos rfl, Except.ok.injEq] at hCert
    subst hCert
    exact absurd hMatches (by decide +kernel)
  key := ⟨⟨.rsa, rsaOid, [2]⟩, rfl, fun data => rfl⟩

theorem sampleSigner_trusted {store : TrustStore} :
    sampleSigner.TrustedBy (signedExternals parseMessage) leafCert ⟨[store], none⟩ := by
  refine ⟨[rootCert], [rootCert], [rootCert], ?_, rfl, rfl, ?_⟩
  · rfl
  · rintro signedData ⟨certs, choices, -, hChoices, -, hPerm⟩
    cases hChoices
    have hNone : extractStapledOcsp (signedExternals parseMessage).toExternals signedData = [] := by
      rw [extractStapledOcsp, hPerm.eq_nil]
      rfl
    refine ⟨[leafCert, rootCert], rfl, ?_⟩
    rw [hNone]
    intro link hLink hRevoked
    cases hRevoked

/-- What is built for the two contents. -/
theorem buildStapledCms_sample {sample : SignedSample}
    (hSample : sample = innerSample ∨ sample = outerSample) :
    buildStapledCms (signedExternals parseMessage) sampleSigner sample.content =
      some sample.der := by
  have hDigest : (signedExternals parseMessage).digest .sha256 sample.content = sample.digest := by
    simp only [signedExternals]
    rw [answerFor_key outerSample_ne.2.2.2 hSample]
    rfl
  have hSigned : signAttrs (signedExternals parseMessage) sampleSigner.leafSign sample.digest =
      some (sample.attrs, [0x5A]) := by
    have hWritten : writeSetOf (signedExternals parseMessage).toExternals
        [contentTypeAttr, messageDigestAttr sample.digest] = .ok sample.attrsSetDer :=
      isSetOf_iff_writeSetOf.mpr (isSetOf_sample hSample)
    have hParsed : (signedExternals parseMessage).parseAttributes sample.attrsSetDer =
        .ok sample.attrs := by
      rw [signedExternals_parseAttributes, answerFor_key outerSample_ne.2.1 hSample]
    simp only [signAttrs, hWritten, hParsed, toOption_ok, Option.bind_eq_bind, Option.bind_some,
      Option.pure_def, sampleSigner]
  have hOther : outerSample.sent ≠ innerSample.sent := by
    intro h
    have hContent := congrArg SignedData.content h
    simp only [SignedSample.sent, signedDataOf, EncapContent.data.injEq, Option.some.injEq]
      at hContent
    exact outerSample_ne.2.2.2 hContent
  have hWrite : (signedExternals parseMessage).writeSignedData [sha256Algorithm] sample.sent =
      .ok sample.der := by
    simp only [signedExternals, if_true]
    exact answerFor_key hOther hSample
  have hRoot : (signedExternals parseMessage).parseCertificate sampleSigner.rootDer =
      .ok rootCert := sampleSigner_root
  have hSent : signedDataOf [leafCert, rootCert] [] (signerInfoOf leafCert.issuer [2]
      sha256Algorithm rsaSha256Alg sample.attrs [0x5A]) sample.content = sample.sent := rfl
  have hSerial : bigInt sampleSigner.leafSerial = some [2] := rfl
  have hExtra : (sampleSigner.extraCertDers.mapM fun der =>
      ((signedExternals parseMessage).parseCertificate der).toOption) = some [] := rfl
  have hStaples : sampleSigner.ocspRespDers.mapM (ocspChoice (signedExternals parseMessage)) =
      some [] := rfl
  simp only [buildStapledCms, hDigest, hSigned, sampleSigner_owns.read, hRoot,
    sampleSigner_owns.issuer, toOption_ok, hSerial, hExtra, hStaples, hSent, hWrite,
    Option.bind_eq_bind, Option.bind_some]

end Samples

end Smime.CreateCms
