import Smime.ChainVerdict
import Smime.SignatureSoundness

/-! Signers that several certificates match: what each candidate records, and
which of them the entry is built from. -/
namespace Smime

open X690 (Octets tlv)
open X509 Mail Utils SignedTarget

variable {env : Externals}

section Statement

/-- A certificate that verifies the signer and has a trusted chain. -/
structure GoodCandidate (ctx : VerifyContext env) (idx : Nat) (signer : SignerInfo)
    (cert : Certificate) : Prop where
  algorithms : ∃ warnings : List SmimeError, checkAlgorithms env signer idx = .ok warnings
  guard : ctx.target.precheckSigner env signer.authenticatedAttributes.isSome = none
  mem : cert ∈ ctx.certs
  named : SidNames env signer.issuerAndSerialNumber cert
  verifies : CertVerifies ctx signer cert
  trusted : ChainTrusted ctx cert

/-- The certificates that match the signer, in order. -/
def candidatesOf (ctx : VerifyContext env) (signer : SignerInfo) : List Certificate :=
  ctx.certs.filter (sidMatchesCert env signer.issuerAndSerialNumber)

/-- What the search records of one candidate. -/
def candidateFailures (ctx : VerifyContext env) (idx : Nat) (signer : SignerInfo)
    (cert : Certificate) : List SmimeError :=
  (findLeaf ctx signer signer.authenticatedAttributes.isSome idx [cert] {}).1.failures

/-- The entry is made of the certificate that the search found. -/
structure BuiltFrom (ctx : VerifyContext env) (idx : Nat) (signer : SignerInfo)
    (cert : Certificate) (entry : SignerValidation) : Prop where
  found : Finds ctx idx signer cert
  identities : EntryOf env cert entry
  built : ∃ (signingTime : Option Instant) (checks : SignatureChecks),
    entry = judge (buildSignerEntry ctx cert signingTime checks)
      (validateChain env cert ctx.certs ctx.verifier ctx.staples idx)
      signer.authenticatedAttributes.isSome

/-- With a good candidate the entry is valid and built from one, and of the
candidates only this one is on record. -/
def GivesChance (ctx : VerifyContext env) (idx : Nat) (signer : SignerInfo)
    (result : SmimeValidationResult) : Prop :=
  (∃ good : Certificate, GoodCandidate ctx idx signer good) →
    ∃ (cert : Certificate) (entry : SignerValidation),
      (verifySigner ctx idx signer result).2 = some entry ∧ entry.signatureValid = true ∧
        BuiltFrom ctx idx signer cert entry ∧ GoodCandidate ctx idx signer cert ∧
          (verifySigner ctx idx signer result).1.failures =
            result.failures ++ (prepareSigner env signer ctx.certs idx).1 ++
              candidateFailures ctx idx signer cert

/-- The first certificate that matches is a good one. -/
def FirstIsGood (ctx : VerifyContext env) (idx : Nat) (signer : SignerInfo) : Prop :=
  ∃ cert : Certificate, (candidatesOf ctx signer).head? = some cert ∧
    GoodCandidate ctx idx signer cert

def SignerValid (ctx : VerifyContext env) (idx : Nat) (signer : SignerInfo)
    (result : SmimeValidationResult) : Prop :=
  ∃ entry : SignerValidation, (verifySigner ctx idx signer result).2 = some entry ∧
    entry.signatureValid = true

/-- The same verification with the certificates in another order. -/
def VerifyContext.withCerts (ctx : VerifyContext env) (certs : List Certificate) :
    VerifyContext env :=
  { ctx with certs }

/-- The verifier of chains does not go by the order of the intermediaries. -/
def TrustIgnoresOrder (ctx : VerifyContext env) : Prop :=
  ∀ certs : List Certificate, certs.Perm ctx.certs → ∀ cert : Certificate,
    ChainTrusted (ctx.withCerts certs) cert ↔ ChainTrusted ctx cert

/-- The verdict is the same in every order. -/
def VerdictIgnoresOrder (ctx : VerifyContext env) (idx : Nat) (signer : SignerInfo)
    (result : SmimeValidationResult) : Prop :=
  ∀ certs : List Certificate, certs.Perm ctx.certs →
    (SignerValid (ctx.withCerts certs) idx signer result ↔ SignerValid ctx idx signer result)

end Statement

section Records

variable {ctx : VerifyContext env} {idx : Nat} {signer : SignerInfo}

/-- A candidate is judged without a look at what is on record, and adds to it. -/
theorem verifyCandidate_frame (target : SignedTarget) (pk : AnyPublicKey) (hasSignedAttrs : Bool)
    (innerMessage : Message) (result : SmimeValidationResult) :
    let run := target.verifyCandidate env pk signer hasSignedAttrs innerMessage {} result
    let alone := target.verifyCandidate env pk signer hasSignedAttrs innerMessage {} {}
    run.verifies = alone.verifies ∧ run.checks = alone.checks ∧
      run.result.failures = result.failures ++ alone.result.failures := by
  cases target with
  | econtent content =>
      refine ⟨rfl, rfl, ?_⟩
      simp [verifyCandidate, verifyEcontentCandidate, SmimeValidationResult.extend]
  | detached content =>
      unfold verifyCandidate verifyDetachedCandidate
      dsimp only
      split
      · exact ⟨rfl, rfl, by simp [SmimeValidationResult.extend]⟩
      · split
        · exact ⟨rfl, rfl, by simp [SmimeValidationResult.extend, SmimeValidationResult.push]⟩
        · exact ⟨rfl, rfl, by simp [SmimeValidationResult.extend]⟩

/-- A candidate that does not verify leaves at least one failure. -/
theorem verifyCandidate_failures_ne_nil {target : SignedTarget} {pk : AnyPublicKey}
    {hasSignedAttrs : Bool} {innerMessage : Message}
    (h : (target.verifyCandidate env pk signer hasSignedAttrs innerMessage {} {}).verifies = false) :
    (target.verifyCandidate env pk signer hasSignedAttrs innerMessage {} {}).result.failures ≠ [] := by
  have hFailure : ∀ outcome : Except SmimeError Unit, passed outcome = false → failureOf outcome ≠ [] := by
    intro outcome hNot
    cases outcome with
    | ok => cases hNot
    | error err => exact List.cons_ne_nil _ _
  cases target with
  | econtent content =>
      unfold verifyCandidate verifyEcontentCandidate at h ⊢
      simp only [SmimeValidationResult.extend, List.nil_append, ne_eq, List.append_eq_nil_iff,
        not_and_or]
      simp only [Bool.false_or, Bool.and_eq_false_iff, Bool.or_eq_false_iff,
        Bool.not_eq_false'] at h
      rcases h with hSignature | ⟨hAttrs, hDigest⟩
      · exact .inr (hFailure _ hSignature)
      · left
        rw [hAttrs] at hDigest ⊢
        exact hFailure _ (by simpa using hDigest)
  | detached content =>
      unfold verifyCandidate verifyDetachedCandidate at h ⊢
      dsimp only at h ⊢
      split at h
      · cases h
      next hNot =>
        rw [if_neg hNot]
        split at h
        · cases h
        next hNotAgain =>
          rw [if_neg hNotAgain]
          simp only [SmimeValidationResult.extend, List.nil_append, ne_eq, List.append_eq_nil_iff,
            not_and_or]
          simp only [Bool.false_or, Bool.and_eq_true, not_and_or, Bool.not_eq_true] at hNot
          exact hNot.imp (hFailure _) (hFailure _)

theorem findLeaf_of_error {candidate : Certificate} {rest : List Certificate} {e : String}
    (hKey : publicKey env candidate = .error e) (result : SmimeValidationResult) :
    findLeaf ctx signer signer.authenticatedAttributes.isSome idx (candidate :: rest) result =
      findLeaf ctx signer signer.authenticatedAttributes.isSome idx rest
        (result.push (.chainValidation (fingerprintOrError env candidate) idx e)) := by
  rw [findLeaf, hKey]

theorem findLeaf_of_key {candidate : Certificate} {rest : List Certificate} {pk : AnyPublicKey}
    (hKey : publicKey env candidate = .ok pk) (result : SmimeValidationResult) :
    findLeaf ctx signer signer.authenticatedAttributes.isSome idx (candidate :: rest) result =
      let run := ctx.target.verifyCandidate env pk signer signer.authenticatedAttributes.isSome
        ctx.innerMessage {} result
      if run.verifies then (run.result, some (candidate, run.checks))
      else findLeaf ctx signer signer.authenticatedAttributes.isSome idx rest run.result := by
  rw [findLeaf, hKey]

/-- A candidate that does not verify is passed over, with what it records. -/
theorem findLeaf_cons_of_not {candidate : Certificate} {rest : List Certificate}
    {result : SmimeValidationResult}
    (hGuard : ctx.target.precheckSigner env signer.authenticatedAttributes.isSome = none)
    (h : ¬ CertVerifies ctx signer candidate) :
    candidateFailures ctx idx signer candidate ≠ [] ∧
      ∃ after : SmimeValidationResult,
        after.failures = result.failures ++ candidateFailures ctx idx signer candidate ∧
          findLeaf ctx signer signer.authenticatedAttributes.isSome idx (candidate :: rest) result =
            findLeaf ctx signer signer.authenticatedAttributes.isSome idx rest after := by
  unfold candidateFailures
  cases hKey : publicKey env candidate with
  | error e =>
      rw [findLeaf_of_error hKey]
      exact ⟨List.cons_ne_nil _ _, _, rfl, findLeaf_of_error hKey result⟩
  | ok pk =>
      have hNot : ∀ result : SmimeValidationResult,
          (ctx.target.verifyCandidate env pk signer signer.authenticatedAttributes.isSome
            ctx.innerMessage {} result).verifies = false := by
        intro result
        rw [Bool.eq_false_iff]
        exact fun hVerifies => h ⟨pk, hKey, (verifyCandidate_verifies_iff hGuard).mp hVerifies⟩
      rw [findLeaf_of_key hKey, findLeaf_of_key hKey]
      dsimp only
      rw [hNot, hNot, if_neg Bool.false_ne_true, if_neg Bool.false_ne_true]
      exact ⟨verifyCandidate_failures_ne_nil (hNot {}), _,
        (verifyCandidate_frame ctx.target pk _ ctx.innerMessage result).2.2, rfl⟩

/-- The search ends with the first candidate that verifies. -/
theorem findLeaf_of_verifies {candidate : Certificate} {rest : List Certificate}
    {result : SmimeValidationResult}
    (hGuard : ctx.target.precheckSigner env signer.authenticatedAttributes.isSome = none)
    (h : CertVerifies ctx signer candidate) :
    (findLeaf ctx signer signer.authenticatedAttributes.isSome idx (candidate :: rest)
      result).1.failures = result.failures ++ candidateFailures ctx idx signer candidate := by
  obtain ⟨pk, hKey, hVerifies⟩ := h
  have hRun : ∀ result : SmimeValidationResult,
      (ctx.target.verifyCandidate env pk signer signer.authenticatedAttributes.isSome
        ctx.innerMessage {} result).verifies = true :=
    fun result => (verifyCandidate_verifies_iff hGuard).mpr hVerifies
  unfold candidateFailures
  rw [findLeaf_of_key hKey, findLeaf_of_key hKey]
  dsimp only
  rw [hRun, hRun, if_pos rfl, if_pos rfl]
  exact (verifyCandidate_frame ctx.target pk _ ctx.innerMessage result).2.2

/-- The record of a search: each candidate up to the one found, in order. -/
theorem findLeaf_failures {before behind : List Certificate} {cert : Certificate}
    (hGuard : ctx.target.precheckSigner env signer.authenticatedAttributes.isSome = none)
    (hBefore : ∀ other ∈ before, ¬ CertVerifies ctx signer other)
    (hCert : CertVerifies ctx signer cert) (result : SmimeValidationResult) :
    (findLeaf ctx signer signer.authenticatedAttributes.isSome idx (before ++ cert :: behind)
      result).1.failures =
        result.failures ++ before.flatMap (candidateFailures ctx idx signer) ++
          candidateFailures ctx idx signer cert := by
  induction before generalizing result with
  | nil =>
      rw [List.nil_append, List.flatMap_nil, List.append_nil]
      exact findLeaf_of_verifies hGuard hCert
  | cons candidate rest ih =>
      obtain ⟨-, after, hAfter, hStep⟩ := @findLeaf_cons_of_not env ctx idx signer candidate
        (rest ++ cert :: behind) result hGuard (hBefore candidate List.mem_cons_self)
      rw [List.cons_append, hStep, ih (fun other hOther => hBefore other (List.mem_cons_of_mem _ hOther)),
        hAfter, List.flatMap_cons]
      simp only [List.append_assoc]

/-- The entry of a signer is of the certificate found. -/
theorem exists_entry_of_finds {cert : Certificate} (hFinds : Finds ctx idx signer cert)
    (result : SmimeValidationResult) :
    ∃ entry : SignerValidation, (verifySigner ctx idx signer result).2 = some entry ∧
      EntryOf env cert entry ∧ (entry.signatureValid = true ↔ ChainTrusted ctx cert) := by
  rcases (verifySigner_cases ctx idx signer result).2 with
    ⟨-, hNone⟩ | ⟨other, entry, hSome, hOther, hEntry, hValid⟩
  · exact absurd hFinds (hNone cert)
  · have hSame := firstVerifying_unique hFinds.first hOther.first
    subst hSame
    exact ⟨entry, hSome, hEntry, hValid⟩

/-- The entry of a signer, and the record of its verification. -/
theorem verifySigner_of_finds {before behind : List Certificate} {cert : Certificate}
    (hFinds : Finds ctx idx signer cert) (hSplit : candidatesOf ctx signer = before ++ cert :: behind)
    (hBefore : ∀ other ∈ before, ¬ CertVerifies ctx signer other)
    (hCert : CertVerifies ctx signer cert) (result : SmimeValidationResult) :
    ∃ entry : SignerValidation, (verifySigner ctx idx signer result).2 = some entry ∧
      BuiltFrom ctx idx signer cert entry ∧ (entry.signatureValid = true ↔ ChainTrusted ctx cert) ∧
        (verifySigner ctx idx signer result).1.failures =
          result.failures ++ (prepareSigner env signer ctx.certs idx).1 ++
            before.flatMap (candidateFailures ctx idx signer) ++
              candidateFailures ctx idx signer cert ++
                (validateChain env cert ctx.certs ctx.verifier ctx.staples idx).failures := by
  obtain ⟨entry, hSome, hEntry, hValid⟩ := exists_entry_of_finds hFinds result
  have hPrepared := (@prepareSigner_some_iff env signer ctx.certs idx _).mpr
    ⟨hFinds.algorithms, firstVerifying_nonempty hFinds.first, rfl⟩
  rcases hPrepare : prepareSigner env signer ctx.certs idx with ⟨failures, prepared⟩
  rw [hPrepare] at hPrepared
  obtain ⟨signingTime, rfl⟩ := hPrepared
  have hFound := (@findLeaf_some_iff env ctx signer idx (candidatesOf ctx signer)
    (result.extend failures) cert hFinds.guard).mpr hFinds.first
  have hFailures := @findLeaf_failures env ctx idx signer before behind cert hFinds.guard hBefore
    hCert (result.extend failures)
  rw [← hSplit] at hFailures
  rcases hFind : findLeaf ctx signer signer.authenticatedAttributes.isSome idx
    (candidatesOf ctx signer) (result.extend failures) with ⟨after, found⟩
  rw [hFind] at hFailures
  rw [show ctx.certs.filter (sidMatchesCert env signer.issuerAndSerialNumber) =
    candidatesOf ctx signer from rfl] at hPrepare
  rw [hFind, Option.map_eq_some_iff] at hFound
  obtain ⟨⟨_, checks⟩, rfl, rfl⟩ := hFound
  unfold verifySigner at hSome ⊢
  simp only [hPrepare, hFinds.guard, hFind, Option.some.injEq] at hSome ⊢
  refine ⟨entry, hSome, ⟨hFinds, hEntry, signingTime, _, hSome.symm⟩, hValid, ?_⟩
  rw [SmimeValidationResult.failures_extend, hFailures, SmimeValidationResult.failures_extend]

end Records

section Choice

variable {ctx : VerifyContext env} {idx : Nat} {signer : SignerInfo}
  {result : SmimeValidationResult}

theorem mem_candidatesOf {cert : Certificate} :
    cert ∈ candidatesOf ctx signer ↔
      cert ∈ ctx.certs ∧ SidNames env signer.issuerAndSerialNumber cert := by
  rw [candidatesOf, List.mem_filter, sidMatchesCert_iff]

/-- Where some candidate verifies, there is a first. -/
theorem exists_firstVerifying {candidates : List Certificate}
    (h : ∃ cert ∈ candidates, CertVerifies ctx signer cert) :
    ∃ cert : Certificate, FirstVerifying ctx signer candidates cert := by
  induction candidates with
  | nil => simp at h
  | cons candidate rest ih =>
      by_cases hCandidate : CertVerifies ctx signer candidate
      · exact ⟨candidate, (firstVerifying_cons_of hCandidate).mpr rfl⟩
      · rw [List.exists_mem_cons_iff] at h
        obtain ⟨cert, hFirst⟩ := ih (h.resolve_left hCandidate)
        exact ⟨cert, (firstVerifying_cons_of_not hCandidate).mpr hFirst⟩

/-- A trusted chain leaves nothing on record. -/
theorem validateChain_failures_eq_nil {cert : Certificate} (h : ChainTrusted ctx cert) :
    (validateChain env cert ctx.certs ctx.verifier ctx.staples idx).failures = [] := by
  obtain ⟨chain, hVerify, hNotRevoked⟩ := h
  unfold validateChain
  rw [hVerify]
  exact applyStapledOcsp_errors_eq_nil (applyStapledOcsp_revoked_iff.mpr hNotRevoked)

/-- The certificate found is good when its chain is trusted. -/
theorem Finds.good {cert : Certificate} (h : Finds ctx idx signer cert)
    (hTrusted : ChainTrusted ctx cert) : GoodCandidate ctx idx signer cert := by
  obtain ⟨before, behind, hSplit, -, hCert⟩ := h.first
  have hMem : cert ∈ candidatesOf ctx signer := by
    rw [candidatesOf, hSplit]
    exact List.mem_append_right _ List.mem_cons_self
  obtain ⟨hCerts, hNamed⟩ := mem_candidatesOf.mp hMem
  exact ⟨h.algorithms, h.guard, hCerts, hNamed, hCert, hTrusted⟩

theorem signerValid_iff :
    SignerValid ctx idx signer result ↔
      ∃ cert : Certificate, Finds ctx idx signer cert ∧ ChainTrusted ctx cert := by
  unfold SignerValid
  rcases (verifySigner_cases ctx idx signer result).2 with
    ⟨hSome, hNone⟩ | ⟨cert, entry, hSome, hFinds, -, hValid⟩
  · rw [hSome]
    simp [hNone]
  · rw [hSome]
    simp only [Option.some.injEq, exists_eq_left', hValid]
    constructor
    · exact fun hTrusted => ⟨cert, hFinds, hTrusted⟩
    · rintro ⟨other, hOther, hTrusted⟩
      rwa [firstVerifying_unique hFinds.first hOther.first]

/-- A good first candidate is the one found. -/
theorem FirstIsGood.finds (h : FirstIsGood ctx idx signer) :
    ∃ (cert : Certificate) (behind : List Certificate),
      candidatesOf ctx signer = cert :: behind ∧ Finds ctx idx signer cert ∧
        GoodCandidate ctx idx signer cert := by
  obtain ⟨cert, hHead, hGood⟩ := h
  obtain ⟨behind, hSplit⟩ := List.head?_eq_some_iff.mp hHead
  refine ⟨cert, behind, hSplit, ⟨hGood.algorithms, hGood.guard, ?_⟩, hGood⟩
  exact ⟨[], behind, hSplit, by simp, hGood.verifies⟩

theorem givesChance_iff_firstIsGood :
    GivesChance ctx idx signer result ↔
      ((∃ good : Certificate, GoodCandidate ctx idx signer good) → FirstIsGood ctx idx signer) := by
  refine imp_congr_right fun _ => ?_
  constructor
  · rintro ⟨cert, entry, -, -, hBuilt, hGood, hFailures⟩
    obtain ⟨before, behind, hSplit, hBefore, hCert⟩ := hBuilt.found.first
    obtain ⟨-, -, -, -, hRecord⟩ := verifySigner_of_finds hBuilt.found hSplit hBefore hCert result
    rw [validateChain_failures_eq_nil hGood.trusted, List.append_nil, hFailures,
      List.append_left_inj, List.self_eq_append_right, List.flatMap_eq_nil_iff] at hRecord
    refine ⟨cert, ?_, hGood⟩
    cases before with
    | nil => rw [candidatesOf, hSplit]; rfl
    | cons other rest =>
        -- whatever was looked at before the certificate is on record
        have hOther := (@findLeaf_cons_of_not env ctx idx signer other [] {} hBuilt.found.guard
          (hBefore other List.mem_cons_self)).1
        exact absurd (hRecord other List.mem_cons_self) hOther
  · intro hFirst
    obtain ⟨cert, behind, hSplit, hFinds, hGood⟩ := hFirst.finds
    obtain ⟨entry, hSome, hBuilt, hValid, hFailures⟩ :=
      @verifySigner_of_finds env ctx idx signer [] behind cert hFinds hSplit (by simp) hGood.verifies
        result
    refine ⟨cert, entry, hSome, hValid.mpr hGood.trusted, hBuilt, hGood, ?_⟩
    rw [hFailures, validateChain_failures_eq_nil hGood.trusted, List.flatMap_nil, List.append_nil,
      List.append_nil]

/-- When what verifies is trusted, a signer with a good candidate is valid. -/
theorem signerValid_iff_good
    (h : (∃ good : Certificate, GoodCandidate ctx idx signer good) →
      ∀ cert ∈ candidatesOf ctx signer, CertVerifies ctx signer cert → ChainTrusted ctx cert) :
    SignerValid ctx idx signer result ↔ ∃ good : Certificate, GoodCandidate ctx idx signer good := by
  rw [signerValid_iff]
  constructor
  · rintro ⟨cert, hFinds, hTrusted⟩
    exact ⟨cert, hFinds.good hTrusted⟩
  · rintro ⟨good, hGood⟩
    obtain ⟨cert, hFirst⟩ := @exists_firstVerifying env ctx signer (candidatesOf ctx signer)
      ⟨good, mem_candidatesOf.mpr ⟨hGood.mem, hGood.named⟩, hGood.verifies⟩
    refine ⟨cert, ⟨hGood.algorithms, hGood.guard, hFirst⟩, ?_⟩
    obtain ⟨before, behind, hSplit, -, hCert⟩ := hFirst
    refine h ⟨good, hGood⟩ cert ?_ hCert
    rw [hSplit]
    exact List.mem_append_right _ List.mem_cons_self

end Choice

section Order

variable {ctx : VerifyContext env} {idx : Nat} {signer : SignerInfo}
  {result : SmimeValidationResult}

theorem goodCandidate_withCerts (hTrust : TrustIgnoresOrder ctx) {certs : List Certificate}
    (hPerm : certs.Perm ctx.certs) {cert : Certificate} :
    GoodCandidate (ctx.withCerts certs) idx signer cert ↔ GoodCandidate ctx idx signer cert := by
  constructor
  · intro h
    exact ⟨h.algorithms, h.guard, hPerm.mem_iff.mp h.mem, h.named, h.verifies,
      (hTrust certs hPerm cert).mp h.trusted⟩
  · intro h
    exact ⟨h.algorithms, h.guard, hPerm.mem_iff.mpr h.mem, h.named, h.verifies,
      (hTrust certs hPerm cert).mpr h.trusted⟩

/-- A good certificate shows that the signer gets to its candidates, so one that
verifies is found when it is the first. -/
theorem GoodCandidate.finds_first {good cert : Certificate} (h : GoodCandidate ctx idx signer good)
    (hNamed : SidNames env signer.issuerAndSerialNumber cert) (hVerifies : CertVerifies ctx signer cert)
    (rest : List Certificate) : Finds (ctx.withCerts (cert :: rest)) idx signer cert := by
  refine ⟨h.algorithms, h.guard,
    [], rest.filter (sidMatchesCert env signer.issuerAndSerialNumber), ?_, by simp, hVerifies⟩
  exact List.filter_cons_of_pos (sidMatchesCert_iff.mpr hNamed)

theorem verdictIgnoresOrder_iff (hTrust : TrustIgnoresOrder ctx) :
    VerdictIgnoresOrder ctx idx signer result ↔
      ((∃ good : Certificate, GoodCandidate ctx idx signer good) →
        ∀ cert ∈ candidatesOf ctx signer, CertVerifies ctx signer cert → ChainTrusted ctx cert) := by
  constructor
  · rintro h ⟨good, hGood⟩ cert hMem hVerifies
    obtain ⟨hCert, hNamed⟩ := mem_candidatesOf.mp hMem
    have hGoodFirst := (List.perm_cons_erase hGood.mem).symm
    have hCertFirst := (List.perm_cons_erase hCert).symm
    have hValid : SignerValid ctx idx signer result := by
      rw [← h _ hGoodFirst, signerValid_iff]
      exact ⟨good, hGood.finds_first hGood.named hGood.verifies _,
        (hTrust _ hGoodFirst good).mpr hGood.trusted⟩
    rw [← h _ hCertFirst, signerValid_iff] at hValid
    obtain ⟨other, hOther, hTrusted⟩ := hValid
    have hSame := firstVerifying_unique hOther.first
      (hGood.finds_first hNamed hVerifies (ctx.certs.erase cert)).first
    subst hSame
    exact (hTrust _ hCertFirst other).mp hTrusted
  · intro h certs hPerm
    have hCerts : (∃ good : Certificate, GoodCandidate (ctx.withCerts certs) idx signer good) →
        ∀ cert ∈ candidatesOf (ctx.withCerts certs) signer,
          CertVerifies (ctx.withCerts certs) signer cert →
            ChainTrusted (ctx.withCerts certs) cert := by
      rintro ⟨good, hGood⟩ cert hMem hVerifies
      rw [mem_candidatesOf] at hMem
      rw [hTrust certs hPerm]
      exact h ⟨good, (goodCandidate_withCerts hTrust hPerm).mp hGood⟩ cert
        (mem_candidatesOf.mpr ⟨hPerm.mem_iff.mp hMem.1, hMem.2⟩) hVerifies
    rw [signerValid_iff_good hCerts, signerValid_iff_good h]
    exact exists_congr fun _ => goodCandidate_withCerts hTrust hPerm

/-- A good candidate gets its chance exactly when the first candidate is good; and
with a verifier of chains that does not go by the order, the verdict is the same
in every order exactly when next to a good candidate all that verify are trusted. -/
theorem givesChance_iff (ctx : VerifyContext env) (idx : Nat) (signer : SignerInfo)
    (result : SmimeValidationResult) :
    (GivesChance ctx idx signer result ↔
        ((∃ good : Certificate, GoodCandidate ctx idx signer good) → FirstIsGood ctx idx signer)) ∧
      (TrustIgnoresOrder ctx →
        (VerdictIgnoresOrder ctx idx signer result ↔
          ((∃ good : Certificate, GoodCandidate ctx idx signer good) →
            ∀ cert ∈ candidatesOf ctx signer,
              CertVerifies ctx signer cert → ChainTrusted ctx cert))) :=
  ⟨givesChance_iff_firstIsGood, verdictIgnoresOrder_iff⟩

/-- `leafCert` with a subject key identifier. -/
def renewedCert : Certificate :=
  { leafCert with extensions := some [⟨subjectKeyIdentifierOid, tlv [0x04] essDigest⟩] }

/-- An older certificate for the same key, from an issuer that is not trusted. -/
def formerCert : Certificate := { renewedCert with issuer := nameOf "Former Root", serial := [1] }

def renewedSigner : SignerInfo :=
  { essSigner with version := 3, issuerAndSerialNumber := .subjectKeyIdentifier essDigest }

def renewedContext : VerifyContext essExternals where
  target := .econtent essContent
  certs := [formerCert, renewedCert]
  signers := [renewedSigner]
  innerMessage := essMessage
  verifier := [rootCert]
  staples := []
  trustStoreLabel := "[Debug]"
  outerDate := none

/-- The certificate that is not trusted comes first, and the signature is not valid. -/
theorem not_givesChance : ¬ GivesChance renewedContext 0 renewedSigner {} := by
  rw [givesChance_iff_firstIsGood]
  intro h
  have hGuard : renewedContext.target.precheckSigner essExternals
      renewedSigner.authenticatedAttributes.isSome = none := by decide +kernel
  have hCandidates : candidatesOf renewedContext renewedSigner = [formerCert, renewedCert] := by
    decide +kernel
  have hAlgorithms : checkAlgorithms essExternals renewedSigner 0 = .ok [] := by decide +kernel
  have hFound : (findLeaf renewedContext renewedSigner renewedSigner.authenticatedAttributes.isSome 0
      [renewedCert] {}).2.map Prod.fst = some renewedCert := by decide +kernel
  obtain ⟨before, behind, -, -, hVerifies⟩ := (findLeaf_some_iff hGuard).mp hFound
  have hTrusted : ChainTrusted renewedContext renewedCert := by
    rw [← @validateChain_trusted_iff essExternals renewedContext renewedCert 0]
    decide +kernel
  have hMem : renewedCert ∈ candidatesOf renewedContext renewedSigner := by
    rw [hCandidates]
    exact List.mem_cons_of_mem _ List.mem_cons_self
  obtain ⟨hCerts, hNamed⟩ := mem_candidatesOf.mp hMem
  obtain ⟨cert, hHead, hGood⟩ :=
    h ⟨renewedCert, ⟨[], hAlgorithms⟩, hGuard, hCerts, hNamed, hVerifies, hTrusted⟩
  rw [hCandidates, List.head?_cons, Option.some.injEq] at hHead
  subst hHead
  have hFormer := (@validateChain_trusted_iff essExternals renewedContext formerCert 0).mpr
    hGood.trusted
  exact absurd hFormer (by decide +kernel)

end Order

end Smime
