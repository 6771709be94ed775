import Smime.VerifySignedData

/-! What it means that a key verifies a signer, in terms of the attributes, the
digest and the encoding that the signature covers; and that this is what
`verify_candidate` decides. -/
namespace Smime

open X690 (Octets tlv)
open X509 Mail Utils

variable (env : Externals)

section Meaning

/-- One message digest, with one value, and it is `digest`. -/
def CarriesDigest (attrs : List Attribute) (digest : Octets) : Prop :=
  ∃ (attr : Attribute) (value : Octets),
    attrs.filter (·.typeId == messageDigestOid) = [attr] ∧ attr.values = [value] ∧
      env.parseOctetString value = .ok digest

/-- The digest of `content` under a permitted hash. -/
def IsDigest (alg : AlgorithmIdentifier) (content digest : Octets) : Prop :=
  ∃ hash : HashType, env.hashOidToHashType alg.oid = .ok hash ∧ isPermittedHash hash ∧
    env.digest hash content = digest

def DigestCovers (signer : SignerInfo) (content : Octets) : Prop :=
  ∃ (attrs : List Attribute) (digest : Octets),
    signer.authenticatedAttributes = some attrs ∧ CarriesDigest env attrs digest ∧
      IsDigest env signer.digestAlgorithm content digest

/-- The DER of the attributes as a SET OF. -/
def IsSetOf (attrs : List Attribute) (data : Octets) : Prop :=
  ∃ ders : List Octets,
    List.Forall₂ (fun attr der => env.writeAttribute attr = .ok der) attrs ders ∧
      data = tlv [0x31] (ders.insertionSort (· ≤ ·)).flatten

/-- What a signature covers: the attributes if there are any, else the content. -/
def SignedOctets (signer : SignerInfo) (content data : Octets) : Prop :=
  match signer.authenticatedAttributes with
  | some attrs => IsSetOf env attrs data
  | none => data = content

def SignatureVerifies (pk : AnyPublicKey) (signer : SignerInfo) (content : Octets) : Prop :=
  ∃ data : Octets, SignedOctets env signer content data ∧
    doVerifySignature env pk signer.digestAlgorithm signer.digestEncryptionAlgorithm
      signer.encryptedDigest data = .ok ()

/-- The content, or for external content its normalization. -/
inductive Covered (innerMessage : Message) : SignedTarget → Octets → Prop where
  | content (target : SignedTarget) : Covered innerMessage target target.content
  | normalized (content : Octets) :
      Covered innerMessage (.detached content) (normalizeWildduckContent content innerMessage)

structure KeyVerifies (target : SignedTarget) (innerMessage : Message) (pk : AnyPublicKey)
    (signer : SignerInfo) : Prop where
  signature : SignatureVerifies env pk signer target.content
  digest : signer.authenticatedAttributes.isSome →
    ∃ covered : Octets, Covered innerMessage target covered ∧ DigestCovers env signer covered

end Meaning

section Digest

variable {env}

theorem computeHash_ok_iff {hash : HashType} {data digest : Octets} :
    computeHash env hash data = .ok digest ↔ isPermittedHash hash ∧ env.digest hash data = digest := by
  unfold computeHash
  split
  next hPermitted => simp [hPermitted]
  next hPermitted => simp [hPermitted]

theorem verifyMessageDigest_ok_iff {alg : AlgorithmIdentifier} {attrs : Option (List Attribute)}
    {content : Octets} :
    verifyMessageDigest env alg attrs content = .ok () ↔
      ∃ (present : List Attribute) (digest : Octets),
        attrs = some present ∧ CarriesDigest env present digest ∧ IsDigest env alg content digest := by
  simp only [verifyMessageDigest, Except.bind_eq_ok_iff, orError_eq_ok_iff,
    Except.mapError_eq_ok_iff, computeHash_ok_iff]
  constructor
  · rintro ⟨present, hPresent, hash, hHash, computed, ⟨hPermitted, hComputed⟩, h⟩
    split at h
    · cases h
    · cases h
    next attr hFilter =>
      split at h
      next value hValues =>
        simp only [Except.bind_eq_ok_iff, Except.mapError_eq_ok_iff] at h
        obtain ⟨expected, hExpected, h⟩ := h
        split at h
        next hEq =>
          exact ⟨present, expected, hPresent, ⟨attr, value, hFilter, hValues, hExpected⟩,
            hash, hHash, hPermitted, hComputed.trans hEq.symm⟩
        next => cases h
      next => cases h
  · rintro ⟨present, digest, hPresent, ⟨attr, value, hFilter, hValues, hExpected⟩,
      hash, hHash, hPermitted, hDigest⟩
    refine ⟨present, hPresent, hash, hHash, digest, ⟨hPermitted, hDigest⟩, ?_⟩
    simp only [hFilter, hValues, Except.bind_eq_ok_iff, Except.mapError_eq_ok_iff]
    exact ⟨digest, hExpected, if_pos rfl⟩

theorem digestCovers_iff {signer : SignerInfo} {content : Octets} :
    DigestCovers env signer content ↔
      verifyMessageDigest env signer.digestAlgorithm signer.authenticatedAttributes content =
        .ok () :=
  verifyMessageDigest_ok_iff.symm

end Digest

section Encoding

variable {env}

/-- The writer's own order replaces the one in which it is given attributes. -/
theorem writeSetOf_pairs {pairs : List (Octets × Attribute)}
    (hPairs : ∀ pair ∈ pairs, env.writeAttribute pair.2 = .ok pair.1) :
    writeSetOf env (pairs.map Prod.snd) =
      .ok (tlv [0x31] ((pairs.map Prod.fst).insertionSort (· ≤ ·)).flatten) := by
  have hDers : (pairs.map Prod.snd).mapM env.writeAttribute = .ok (pairs.map Prod.fst) := by
    rw [Except.mapM_eq_ok_iff, Except.forall₂_ok_iff_pairs]
    exact ⟨pairs, rfl, rfl, hPairs⟩
  rw [writeSetOf, hDers]
  rfl

theorem encodePairs_ok_iff {attrs : List Attribute} {pairs : List (Octets × Attribute)} :
    attrs.mapM (fun attr => do
        let der ← (env.writeAttribute attr).mapError fun e =>
          SmimeError.sigVerify ("failed to encode signed attribute: " ++ e)
        return (der, attr)) = .ok pairs ↔
      attrs = pairs.map Prod.snd ∧ ∀ pair ∈ pairs, env.writeAttribute pair.2 = .ok pair.1 := by
  simp only [Except.mapM_eq_ok_iff, Except.bind_eq_ok_iff, Except.mapError_eq_ok_iff,
    Except.pure_eq_ok', Except.ok.injEq]
  constructor
  · intro h
    induction h with
    | nil => exact ⟨rfl, by simp⟩
    | cons hPair _ ih =>
        obtain ⟨der, hDer, rfl⟩ := hPair
        exact ⟨congrArg _ ih.1, List.forall_mem_cons.mpr ⟨hDer, ih.2⟩⟩
  · rintro ⟨rfl, hPairs⟩
    rw [List.forall₂_map_left_iff, List.forall₂_same]
    exact fun pair hMem => ⟨pair.1, hPairs pair hMem, rfl⟩

/-- However the attributes are ordered, what is signed is their DER SET OF. -/
theorem encodeSignedAttrs_ok_iff {attrs : List Attribute} {data : Octets} :
    encodeSignedAttrs env attrs = .ok data ↔ IsSetOf env attrs data := by
  have hSorted : ∀ pairs : List (Octets × Attribute),
      (∀ pair ∈ pairs, env.writeAttribute pair.2 = .ok pair.1) →
        writeSetOf env ((pairs.insertionSort fun a b => a.1 ≤ b.1).map Prod.snd) =
          .ok (tlv [0x31] ((pairs.map Prod.fst).insertionSort (· ≤ ·)).flatten) := by
    intro pairs hPairs
    have hPerm := List.perm_insertionSort (fun a b : Octets × Attribute => a.1 ≤ b.1) pairs
    rw [writeSetOf_pairs fun pair hMem => hPairs pair (hPerm.mem_iff.mp hMem),
      X690.insertionSort_congr (hPerm.map Prod.fst)]
  simp only [encodeSignedAttrs, Except.bind_eq_ok_iff, Except.mapError_eq_ok_iff,
    encodePairs_ok_iff, IsSetOf, Except.forall₂_ok_iff_pairs]
  constructor
  · rintro ⟨pairs, ⟨rfl, hPairs⟩, hData⟩
    rw [hSorted pairs hPairs, Except.ok.injEq] at hData
    exact ⟨_, ⟨pairs, rfl, rfl, hPairs⟩, hData.symm⟩
  · rintro ⟨ders, ⟨pairs, rfl, rfl, hPairs⟩, rfl⟩
    exact ⟨pairs, ⟨rfl, hPairs⟩, hSorted pairs hPairs⟩

theorem verifyEcontentSignature_ok_iff {pk : AnyPublicKey} {signer : SignerInfo}
    {content : Octets} :
    verifyEcontentSignature env pk signer.digestAlgorithm signer.digestEncryptionAlgorithm
        signer.authenticatedAttributes signer.encryptedDigest content = .ok () ↔
      SignatureVerifies env pk signer content := by
  unfold verifyEcontentSignature SignatureVerifies SignedOctets
  cases signer.authenticatedAttributes with
  | none => simp [eq_comm]
  | some attrs => simp only [Except.bind_eq_ok_iff, encodeSignedAttrs_ok_iff]

/-- With signed attributes the content is not what the signature covers. -/
theorem verifyDetachedSignature_ok_iff {pk : AnyPublicKey} {signer : SignerInfo}
    {content : Octets} (hAttrs : signer.authenticatedAttributes.isSome) :
    verifyDetachedSignature env pk signer.digestAlgorithm signer.digestEncryptionAlgorithm
        (signer.authenticatedAttributes.getD []) signer.encryptedDigest = .ok () ↔
      SignatureVerifies env pk signer content := by
  obtain ⟨attrs, hSome⟩ := Option.isSome_iff_exists.mp hAttrs
  simp only [verifyDetachedSignature, SignatureVerifies, SignedOctets, hSome, Option.getD_some,
    Except.bind_eq_ok_iff, encodeSignedAttrs_ok_iff]

end Encoding

section Decision

variable {env} {innerMessage : Message} {pk : AnyPublicKey} {signer : SignerInfo}
  {checks : SignatureChecks} {result : SmimeValidationResult}

open SignedTarget

theorem passed_iff {outcome : Except SmimeError Unit} :
    passed outcome = true ↔ outcome = .ok () := by
  cases outcome with
  | ok => simp [passed]
  | error => simp [passed]

theorem exists_covered_detached {p : Octets → Prop} {content : Octets} :
    (∃ covered, Covered innerMessage (.detached content) covered ∧ p covered) ↔
      p content ∨ p (normalizeWildduckContent content innerMessage) := by
  constructor
  · rintro ⟨covered, hCovered, h⟩
    cases hCovered with
    | content => exact .inl h
    | normalized => exact .inr h
  · rintro (h | h)
    · exact ⟨content, .content (.detached content), h⟩
    · exact ⟨_, .normalized content, h⟩

theorem exists_covered_econtent {p : Octets → Prop} {content : Octets} :
    (∃ covered, Covered innerMessage (.econtent content) covered ∧ p covered) ↔ p content := by
  constructor
  · rintro ⟨covered, hCovered, h⟩
    cases hCovered with
    | content => exact h
  · exact fun h => ⟨content, .content (.econtent content), h⟩

/-- External content: the signature verifies, and the digest covers the content
or its normalization. -/
theorem verifyDetachedCandidate_verifies_iff {content : Octets}
    (hAttrs : signer.authenticatedAttributes.isSome) :
    (verifyDetachedCandidate env content pk signer innerMessage {} result).verifies = true ↔
      SignatureVerifies env pk signer content ∧
        (DigestCovers env signer content ∨
          DigestCovers env signer (normalizeWildduckContent content innerMessage)) := by
  have hSignature := @verifyDetachedSignature_ok_iff env pk signer content hAttrs
  rw [← hSignature, digestCovers_iff, digestCovers_iff, ← passed_iff, ← passed_iff, ← passed_iff]
  unfold verifyDetachedCandidate
  simp only [Bool.false_or]
  generalize passed (verifyDetachedSignature _ _ _ _ _ _) = signature
  generalize passed (verifyMessageDigest _ _ _ content) = digest
  generalize passed (verifyMessageDigest _ _ _ _) = again
  cases signature <;> cases digest <;> cases again <;> simp

/-- Encapsulated content: the signature verifies, and the digest of signed
attributes covers the content. -/
theorem verifyEcontentCandidate_verifies_iff {content : Octets} :
    (verifyEcontentCandidate env content pk signer signer.authenticatedAttributes.isSome {}
        result).verifies = true ↔
      SignatureVerifies env pk signer content ∧
        (signer.authenticatedAttributes.isSome → DigestCovers env signer content) := by
  rw [← verifyEcontentSignature_ok_iff, digestCovers_iff, ← passed_iff, ← passed_iff]
  unfold verifyEcontentCandidate
  simp only [Bool.false_or]
  generalize passed (verifyEcontentSignature _ _ _ _ _ _ _) = signature
  cases signer.authenticatedAttributes with
  | none => simp
  | some attrs => simp

theorem precheckSigner_detached {content : Octets} {hasSignedAttrs : Bool}
    (hPre : (detached content).precheckSigner env hasSignedAttrs = none) :
    hasSignedAttrs = true := by
  cases hasSignedAttrs with
  | true => rfl
  | false => cases hPre

/-- For a signer that passed the guard, a candidate key is accepted exactly when
it verifies the signer. -/
theorem verifyCandidate_verifies_iff {target : SignedTarget}
    (hPre : target.precheckSigner env signer.authenticatedAttributes.isSome = none) :
    (target.verifyCandidate env pk signer signer.authenticatedAttributes.isSome innerMessage {}
        result).verifies = true ↔
      KeyVerifies env target innerMessage pk signer := by
  cases target with
  | detached content =>
      have hAttrs := precheckSigner_detached hPre
      apply (verifyDetachedCandidate_verifies_iff hAttrs).trans
      constructor
      · rintro ⟨hSignature, hDigest⟩
        exact ⟨hSignature, fun _ => exists_covered_detached.mpr hDigest⟩
      · rintro ⟨hSignature, hDigest⟩
        exact ⟨hSignature, exists_covered_detached.mp (hDigest hAttrs)⟩
  | econtent content =>
      apply verifyEcontentCandidate_verifies_iff.trans
      constructor
      · rintro ⟨hSignature, hDigest⟩
        exact ⟨hSignature, fun hAttrs => exists_covered_econtent.mpr (hDigest hAttrs)⟩
      · rintro ⟨hSignature, hDigest⟩
        exact ⟨hSignature, fun hAttrs => exists_covered_econtent.mp (hDigest hAttrs)⟩

/-- Only the two flags of the checks are written. -/
theorem verifyCandidate_checks (target : SignedTarget) (hasSignedAttrs : Bool) :
    ∃ signature digest : Bool,
      (target.verifyCandidate env pk signer hasSignedAttrs innerMessage checks result).checks =
        { checks with
          signatureMatchesSignedData := signature
          messageDigestMatchesContent := digest } := by
  cases target with
  | detached content =>
      unfold verifyCandidate verifyDetachedCandidate
      dsimp only
      split
      · exact ⟨_, _, rfl⟩
      · split
        · exact ⟨_, _, rfl⟩
        · exact ⟨_, _, rfl⟩
  | econtent content => exact ⟨_, _, rfl⟩

/-- An accepted candidate has the flags that make the signature valid. -/
theorem verifyCandidate_flags {target : SignedTarget} {hasSignedAttrs : Bool}
    (h : (target.verifyCandidate env pk signer hasSignedAttrs innerMessage checks
      result).verifies = true) :
    let run := target.verifyCandidate env pk signer hasSignedAttrs innerMessage checks result
    (run.checks.signatureMatchesSignedData &&
      (run.checks.messageDigestMatchesContent || !hasSignedAttrs)) = true := by
  cases target with
  | detached content =>
      unfold verifyCandidate verifyDetachedCandidate at h ⊢
      dsimp only at h ⊢
      split at h
      next hBoth =>
        rw [if_pos hBoth]
        simp only [Bool.and_eq_true] at hBoth
        simp [hBoth]
      next hNotBoth =>
        rw [if_neg hNotBoth]
        split at h
        next hBoth =>
          rw [if_pos hBoth]
          simp only [Bool.and_eq_true] at hBoth
          simp [hBoth]
        next => cases h
  | econtent content =>
      change (_ && (!hasSignedAttrs || _)) = true at h
      change (_ && (_ || !hasSignedAttrs)) = true
      rw [Bool.or_comm]
      exact h

/-- Failures are added, and the signed content may be replaced. -/
def OnlyRecords (result after : SmimeValidationResult) : Prop :=
  ∃ (failures : List SmimeError) (signedContent : Option Octets),
    after = { result with failures := result.failures ++ failures, signedContent }

namespace OnlyRecords

theorem refl (result : SmimeValidationResult) : OnlyRecords result result :=
  ⟨[], result.signedContent, by rw [List.append_nil]⟩

theorem trans {first second third : SmimeValidationResult} (h : OnlyRecords first second)
    (h' : OnlyRecords second third) : OnlyRecords first third := by
  obtain ⟨failures, content, rfl⟩ := h
  obtain ⟨more, content', rfl⟩ := h'
  exact ⟨failures ++ more, content', by simp⟩

theorem extend (result : SmimeValidationResult) (errs : List SmimeError) :
    OnlyRecords result (result.extend errs) := ⟨errs, result.signedContent, rfl⟩

theorem push (result : SmimeValidationResult) (err : SmimeError) :
    OnlyRecords result (result.push err) := ⟨[err], result.signedContent, rfl⟩

theorem replace (result : SmimeValidationResult) (signedContent : Option Octets) :
    OnlyRecords result { result with signedContent } :=
  ⟨[], signedContent, by rw [List.append_nil]⟩

end OnlyRecords

theorem verifyCandidate_onlyRecords (target : SignedTarget) (hasSignedAttrs : Bool) :
    OnlyRecords result (target.verifyCandidate env pk signer hasSignedAttrs innerMessage checks
      result).result := by
  cases target with
  | detached content =>
      unfold verifyCandidate verifyDetachedCandidate
      dsimp only
      split
      · exact .extend _ _
      · split
        · exact (OnlyRecords.extend _ _).trans ((OnlyRecords.replace _ _).trans (.push _ _))
        · exact (OnlyRecords.extend _ _).trans (.extend _ _)
  | econtent content => exact (OnlyRecords.extend _ _).trans (.extend _ _)

end Decision

section Search

variable {env} (ctx : VerifyContext env) (signer : SignerInfo)

/-- The certificate's key verifies the signer. -/
def CertVerifies (cert : Certificate) : Prop :=
  ∃ pk : AnyPublicKey, publicKey env cert = .ok pk ∧
    KeyVerifies env ctx.target ctx.innerMessage pk signer

/-- The first of the candidates whose key verifies the signer. -/
def FirstVerifying (candidates : List Certificate) (cert : Certificate) : Prop :=
  ∃ before behind : List Certificate, candidates = before ++ cert :: behind ∧
    (∀ other ∈ before, ¬ CertVerifies ctx signer other) ∧ CertVerifies ctx signer cert

variable {ctx signer}

theorem certVerifies_of_key {cert : Certificate} {pk : AnyPublicKey}
    (hKey : publicKey env cert = .ok pk) :
    CertVerifies ctx signer cert ↔ KeyVerifies env ctx.target ctx.innerMessage pk signer := by
  constructor
  · rintro ⟨other, hOther, h⟩
    rw [hKey, Except.ok.injEq] at hOther
    exact hOther ▸ h
  · exact fun h => ⟨pk, hKey, h⟩

theorem firstVerifying_cons_of_not {candidate cert : Certificate} {rest : List Certificate}
    (hNot : ¬ CertVerifies ctx signer candidate) :
    FirstVerifying ctx signer (candidate :: rest) cert ↔ FirstVerifying ctx signer rest cert := by
  constructor
  · rintro ⟨before, behind, hSplit, hBefore, hCert⟩
    cases before with
    | nil =>
        rw [List.nil_append, List.cons.injEq] at hSplit
        exact absurd (hSplit.1 ▸ hCert) hNot
    | cons other before =>
        rw [List.cons_append, List.cons.injEq] at hSplit
        exact ⟨before, behind, hSplit.2, fun c hc => hBefore c (List.mem_cons_of_mem _ hc), hCert⟩
  · rintro ⟨before, behind, rfl, hBefore, hCert⟩
    exact ⟨candidate :: before, behind, rfl, List.forall_mem_cons.mpr ⟨hNot, hBefore⟩, hCert⟩

theorem firstVerifying_cons_of {candidate cert : Certificate} {rest : List Certificate}
    (hCandidate : CertVerifies ctx signer candidate) :
    FirstVerifying ctx signer (candidate :: rest) cert ↔ candidate = cert := by
  constructor
  · rintro ⟨before, behind, hSplit, hBefore, -⟩
    cases before with
    | nil => exact (List.cons.inj hSplit).1
    | cons other before =>
        rw [List.cons_append, List.cons.injEq] at hSplit
        exact absurd (hSplit.1 ▸ hCandidate) (hBefore other List.mem_cons_self)
  · rintro rfl
    exact ⟨[], rest, rfl, by simp, hCandidate⟩

theorem firstVerifying_unique {candidates : List Certificate} {cert other : Certificate}
    (h : FirstVerifying ctx signer candidates cert)
    (h' : FirstVerifying ctx signer candidates other) : cert = other := by
  induction candidates with
  | nil =>
      obtain ⟨before, behind, hSplit, -⟩ := h
      simp at hSplit
  | cons candidate rest ih =>
      by_cases hCandidate : CertVerifies ctx signer candidate
      · rw [firstVerifying_cons_of hCandidate] at h h'
        exact h.symm.trans h'
      · rw [firstVerifying_cons_of_not hCandidate] at h h'
        exact ih h h'

/-- The search finds the first candidate whose key verifies the signer. -/
theorem findLeaf_some_iff {idx : Nat} {candidates : List Certificate}
    {result : SmimeValidationResult} {cert : Certificate}
    (hPre : ctx.target.precheckSigner env signer.authenticatedAttributes.isSome = none) :
    ((findLeaf ctx signer signer.authenticatedAttributes.isSome idx candidates result).2.map
        Prod.fst = some cert) ↔ FirstVerifying ctx signer candidates cert := by
  induction candidates generalizing result with
  | nil => simp [findLeaf, FirstVerifying]
  | cons candidate rest ih =>
      unfold findLeaf
      cases hKey : publicKey env candidate with
      | error e =>
          have hNot : ¬ CertVerifies ctx signer candidate := by
            rintro ⟨pk, hPk, -⟩
            rw [hKey] at hPk
            cases hPk
          rw [firstVerifying_cons_of_not hNot]
          exact ih
      | ok pk =>
          have hIff := @verifyCandidate_verifies_iff env ctx.innerMessage pk signer result
            ctx.target hPre
          rw [← certVerifies_of_key hKey] at hIff
          dsimp only
          split
          next hVerifies =>
            rw [firstVerifying_cons_of (hIff.mp hVerifies)]
            simp
          next hVerifies =>
            rw [firstVerifying_cons_of_not fun h => hVerifies (hIff.mpr h)]
            exact ih

/-- The checks that the search returns make the signature valid. -/
theorem findLeaf_checks {hasSignedAttrs : Bool} {idx : Nat} {candidates : List Certificate}
    {result after : SmimeValidationResult} {cert : Certificate} {checks : SignatureChecks}
    (h : findLeaf ctx signer hasSignedAttrs idx candidates result = (after, some (cert, checks))) :
    (∃ signature digest : Bool,
        checks = {
          signatureMatchesSignedData := signature
          messageDigestMatchesContent := digest }) ∧
      (checks.signatureMatchesSignedData &&
        (checks.messageDigestMatchesContent || !hasSignedAttrs)) = true := by
  induction candidates generalizing result with
  | nil => cases h
  | cons candidate rest ih =>
      unfold findLeaf at h
      split at h
      · exact ih h
      next pk hKey =>
        dsimp only at h
        split at h
        next hVerifies =>
          rw [Prod.mk.injEq, Option.some.injEq, Prod.mk.injEq] at h
          obtain ⟨-, -, rfl⟩ := h
          exact ⟨verifyCandidate_checks _ _, verifyCandidate_flags hVerifies⟩
        next => exact ih h

theorem findLeaf_onlyRecords {hasSignedAttrs : Bool} {idx : Nat} {candidates : List Certificate}
    {result : SmimeValidationResult} :
    OnlyRecords result (findLeaf ctx signer hasSignedAttrs idx candidates result).1 := by
  induction candidates generalizing result with
  | nil => exact .refl _
  | cons candidate rest ih =>
      unfold findLeaf
      split
      · exact (OnlyRecords.push _ _).trans ih
      · dsimp only
        split
        · exact verifyCandidate_onlyRecords _ _
        · exact (verifyCandidate_onlyRecords _ _).trans ih

end Search

end Smime
