import Smime.SignerVerdict

/-! Soundness of `verify_signed_data`: every valid entry that it reports comes
of a SignerInfo and an embedded certificate that vouch for the content. -/
namespace Smime

open X690 (Octets)
open X509 Mail Utils

variable {env : Externals}

/-- `cert` vouches for the content of `target` as the signer `signer`, under the
trust anchors of the stores and of the bundle. -/
structure Vouches (env : Externals) (signedData : SignedData) (target : SignedTarget)
    (trustStores : List TrustStore) (caFilePem : Option Octets) (idx : Nat) (signer : SignerInfo)
    (cert : Certificate) : Prop where
  embedded : cert ∈ extractCertificates signedData
  sid : SidNames env signer.issuerAndSerialNumber cert
  algorithms : ∃ warnings : List SmimeError, checkAlgorithms env signer idx = .ok warnings
  signature : ∃ (pk : AnyPublicKey) (data : Octets), publicKey env cert = .ok pk ∧
    SignedOctets env signer target.content data ∧
      doVerifySignature env pk signer.digestAlgorithm signer.digestEncryptionAlgorithm
        signer.encryptedDigest data = .ok ()
  digest : ∀ attrs : List Attribute, signer.authenticatedAttributes = some attrs →
    ∃ (innerMessage : Message) (covered digest : Octets),
      env.parseMessage target.content = some innerMessage ∧ Covered innerMessage target covered ∧
        CarriesDigest env attrs digest ∧ IsDigest env signer.digestAlgorithm covered digest
  detached : ∀ content : Octets, target = .detached content →
    signer.authenticatedAttributes.isSome
  notForged : ∀ content : Octets, target = .econtent content →
    signer.authenticatedAttributes = none → ¬ CarriesSignedAttrs env content
  chain : ∃ (caCerts : List Certificate) (builder : env.Builder) (verifier : env.Verifier)
      (chain : List Certificate),
    loadCaCerts env trustStores caFilePem = .ok caCerts ∧
      buildPolicyBuilder env caCerts = .ok builder ∧
        env.buildEmailVerifier builder = .ok verifier ∧
          env.verify verifier cert (intermediariesOf cert (extractCertificates signedData)) =
            .ok chain ∧
              NotRevoked env (extractStapledOcsp env signedData) chain

section Preparation

/-- The verification gets to its signers, with `ctx`. -/
def Reaches (signedData : SignedData) (target : SignedTarget) (trustStores : List TrustStore)
    (caFilePem : Option Octets) (outerDate : Option Instant) (ctx : VerifyContext env) : Prop :=
  signedData.content ≠ .other ∧
    ∃ (caCerts : List Certificate) (innerMessage : Message) (builder : env.Builder)
        (verifier : env.Verifier),
      loadCaCerts env trustStores caFilePem = .ok caCerts ∧
        env.parseMessage target.content = some innerMessage ∧
          buildPolicyBuilder env caCerts = .ok builder ∧
            env.buildEmailVerifier builder = .ok verifier ∧
              ctx =
                { target
                  certs := extractCertificates signedData
                  signers := signedData.signerInfos
                  innerMessage
                  verifier
                  staples := extractStapledOcsp env signedData
                  trustStoreLabel := TrustStore.debugList trustStores
                  outerDate }

/-- The result when the content is shown. -/
def shownResult (signedData : SignedData) (content : Octets) (result : SmimeValidationResult) :
    SmimeValidationResult :=
  { result.extend (validateSignedDataVersion signedData signedData.signerInfos).toList with
    signedContent := some content }

/-- The result when the sender has been looked for. -/
def askedResult (env : Externals) (sender : Option Addr) (date : Option Instant)
    (shown : SmimeValidationResult) : SmimeValidationResult :=
  let asked :=
    match sender with
    | some address =>
        { shown with
          fromAddress := address.address.map (emailDomainToALabel env)
          fromComment := address.name }
    | none => shown.push .missingFrom
  { asked with date }

def preparedWith (signedData : SignedData) (caCerts : List Certificate) (innerMessage : Message) :
    Prepared :=
  ⟨extractCertificates signedData, signedData.signerInfos, caCerts, innerMessage⟩

/-- How far a verification gets before its signers, with what it leaves there. -/
inductive StartOutcome (env : Externals) (signedData : SignedData) (target : SignedTarget)
    (trustStores : List TrustStore) (caFilePem : Option Octets) (sender : Option Addr)
    (date : Option Instant) (before : SmimeValidationResult) :
    SmimeValidationResult × Option (VerifyContext env) → Prop where
  | unexpected (hContent : signedData.content = .other) :
      StartOutcome env signedData target trustStores caFilePem sender date before
        (before.push .unexpectedEContentType, none)
  | noAnchors {e : SmimeError} (hContent : signedData.content ≠ .other)
      (hCerts : loadCaCerts env trustStores caFilePem = .error e) :
      StartOutcome env signedData target trustStores caFilePem sender date before
        ((shownResult signedData target.content before).push e, none)
  | noInner {caCerts : List Certificate} (hContent : signedData.content ≠ .other)
      (hCerts : loadCaCerts env trustStores caFilePem = .ok caCerts)
      (hInner : env.parseMessage target.content = none) :
      StartOutcome env signedData target trustStores caFilePem sender date before
        ((askedResult env sender date (shownResult signedData target.content before)).push
          .parseInner, none)
  | noVerifier {caCerts : List Certificate} {innerMessage : Message} {e : SmimeError}
      (hContent : signedData.content ≠ .other)
      (hCerts : loadCaCerts env trustStores caFilePem = .ok caCerts)
      (hInner : env.parseMessage target.content = some innerMessage)
      (hVerifier : verifyContext env signedData target trustStores date
        (preparedWith signedData caCerts innerMessage) = .error e) :
      StartOutcome env signedData target trustStores caFilePem sender date before
        ((askedResult env sender date (shownResult signedData target.content before)).push e, none)
  | started {caCerts : List Certificate} {innerMessage : Message} {ctx : VerifyContext env}
      (hContent : signedData.content ≠ .other)
      (hCerts : loadCaCerts env trustStores caFilePem = .ok caCerts)
      (hInner : env.parseMessage target.content = some innerMessage)
      (hVerifier : verifyContext env signedData target trustStores date
        (preparedWith signedData caCerts innerMessage) = .ok ctx) :
      StartOutcome env signedData target trustStores caFilePem sender date before
        (askedResult env sender date (shownResult signedData target.content before), some ctx)

theorem startVerification_outcome (env : Externals) (signedData : SignedData)
    (target : SignedTarget) (trustStores : List TrustStore) (caFilePem : Option Octets)
    (sender : Option Addr) (date : Option Instant) (before : SmimeValidationResult) :
    StartOutcome env signedData target trustStores caFilePem sender date before
      (startVerification env signedData target trustStores caFilePem sender date before) := by
  unfold startVerification prepareSignedDataVerification
  cases hData : signedData.content with
  | other => exact .unexpected hData
  | data content =>
      have hContent : signedData.content ≠ .other := by
        rw [hData]
        exact nofun
      dsimp only
      cases hCerts : loadCaCerts env trustStores caFilePem with
      | error e => exact .noAnchors hContent hCerts
      | ok caCerts =>
          dsimp only
          cases hInner : env.parseMessage target.content with
          | none => exact .noInner hContent hCerts hInner
          | some innerMessage =>
              dsimp only
              cases hVerifier : verifyContext env signedData target trustStores date
                (preparedWith signedData caCerts innerMessage) with
              | error e =>
                  rw [preparedWith] at hVerifier
                  rw [hVerifier]
                  exact .noVerifier hContent hCerts hInner hVerifier
              | ok ctx =>
                  rw [preparedWith] at hVerifier
                  rw [hVerifier]
                  exact .started hContent hCerts hInner hVerifier

theorem verifyContext_ok_iff {signedData : SignedData} {target : SignedTarget}
    {trustStores : List TrustStore} {outerDate : Option Instant} {prepared : Prepared}
    {ctx : VerifyContext env} :
    verifyContext env signedData target trustStores outerDate prepared = .ok ctx ↔
      ∃ (builder : env.Builder) (verifier : env.Verifier),
        buildPolicyBuilder env prepared.caCerts = .ok builder ∧
          env.buildEmailVerifier builder = .ok verifier ∧
            ctx =
              { target
                certs := prepared.certs
                signers := prepared.signers
                innerMessage := prepared.innerMessage
                verifier
                staples := extractStapledOcsp env signedData
                trustStoreLabel := TrustStore.debugList trustStores
                outerDate } := by
  simp only [verifyContext, Except.bind_eq_ok_iff, Except.mapError_eq_ok_iff, Except.pure_eq_ok',
    Except.ok.injEq]
  constructor
  · rintro ⟨builder, hBuilder, verifier, hVerifier, rfl⟩
    exact ⟨builder, verifier, hBuilder, hVerifier, rfl⟩
  · rintro ⟨builder, verifier, hBuilder, hVerifier, rfl⟩
    exact ⟨builder, hBuilder, verifier, hVerifier, rfl⟩

theorem reaches_iff_verifyContext {signedData : SignedData} {target : SignedTarget}
    {trustStores : List TrustStore} {caFilePem : Option Octets} {date : Option Instant}
    {caCerts : List Certificate} {innerMessage : Message}
    (hContent : signedData.content ≠ .other)
    (hCerts : loadCaCerts env trustStores caFilePem = .ok caCerts)
    (hInner : env.parseMessage target.content = some innerMessage) (ctx : VerifyContext env) :
    Reaches signedData target trustStores caFilePem date ctx ↔
      verifyContext env signedData target trustStores date
        (preparedWith signedData caCerts innerMessage) = .ok ctx := by
  rw [verifyContext_ok_iff]
  constructor
  · rintro ⟨-, others, inner, builder, verifier, hOthers, hParsed, hBuilder, hVerifier, rfl⟩
    cases hCerts.symm.trans hOthers
    cases hInner.symm.trans hParsed
    exact ⟨builder, verifier, hBuilder, hVerifier, rfl⟩
  · rintro ⟨builder, verifier, hBuilder, hVerifier, rfl⟩
    exact ⟨hContent, caCerts, innerMessage, builder, verifier, hCerts, hInner, hBuilder,
      hVerifier, rfl⟩

/-- Before the loop no signer is added, and the loop is reached with the data
of the message. -/
theorem startVerification_cases (env : Externals) (signedData : SignedData) (target : SignedTarget)
    (trustStores : List TrustStore) (caFilePem : Option Octets) (outerFrom : Option Addr)
    (outerDate : Option Instant) (result : SmimeValidationResult) :
    let start := startVerification env signedData target trustStores caFilePem outerFrom outerDate
      result
    start.1.signers = result.signers ∧
      ∀ ctx : VerifyContext env, start.2 = some ctx ↔
        Reaches signedData target trustStores caFilePem outerDate ctx := by
  have hOutcome := startVerification_outcome env signedData target trustStores caFilePem outerFrom
    outerDate result
  have hAsked : ∀ shown : SmimeValidationResult,
      (askedResult env outerFrom outerDate shown).signers = shown.signers := by
    intro shown
    cases outerFrom <;> rfl
  dsimp only
  generalize startVerification env signedData target trustStores caFilePem outerFrom outerDate
    result = start at hOutcome
  cases hOutcome with
  | unexpected hContent => exact ⟨rfl, by simp [Reaches, hContent]⟩
  | noAnchors hContent hCerts => exact ⟨rfl, by simp [Reaches, hCerts]⟩
  | noInner hContent hCerts hInner => exact ⟨hAsked _, by simp [Reaches, hInner]⟩
  | noVerifier hContent hCerts hInner hVerifier =>
      refine ⟨hAsked _, fun ctx => ?_⟩
      rw [reaches_iff_verifyContext hContent hCerts hInner, hVerifier]
      simp
  | started hContent hCerts hInner hVerifier =>
      refine ⟨hAsked _, fun ctx => ?_⟩
      rw [reaches_iff_verifyContext hContent hCerts hInner, hVerifier]
      simp

theorem reaches_signers {signedData : SignedData} {target : SignedTarget}
    {trustStores : List TrustStore} {caFilePem : Option Octets} {outerDate : Option Instant}
    {ctx : VerifyContext env}
    (h : Reaches signedData target trustStores caFilePem outerDate ctx) :
    ctx.signers = signedData.signerInfos := by
  obtain ⟨-, caCerts, innerMessage, builder, verifier, -, -, -, -, rfl⟩ := h
  rfl

theorem reaches_target {signedData : SignedData} {target : SignedTarget}
    {trustStores : List TrustStore} {caFilePem : Option Octets} {outerDate : Option Instant}
    {ctx : VerifyContext env}
    (h : Reaches signedData target trustStores caFilePem outerDate ctx) : ctx.target = target := by
  obtain ⟨-, caCerts, innerMessage, builder, verifier, -, -, -, -, rfl⟩ := h
  rfl

theorem reaches_unique {signedData : SignedData} {target : SignedTarget}
    {trustStores : List TrustStore} {caFilePem : Option Octets} {outerDate : Option Instant}
    {ctx other : VerifyContext env}
    (h : Reaches signedData target trustStores caFilePem outerDate ctx)
    (hOther : Reaches signedData target trustStores caFilePem outerDate other) : ctx = other := by
  have hReaches := (startVerification_cases env signedData target trustStores caFilePem none
    outerDate {}).2
  exact Option.some.inj (((hReaches ctx).mpr h).symm.trans ((hReaches other).mpr hOther))

/-- A verification from what it leaves before its signers: it ends there, or it
goes over all of them. -/
inductive VerifyRun (env : Externals) (signedData : SignedData) (target : SignedTarget)
    (trustStores : List TrustStore) (caFilePem : Option Octets) (outerDate : Option Instant)
    (start : SmimeValidationResult) : SmimeValidationResult → Prop where
  | stopped
      (hNone : ∀ ctx : VerifyContext env,
        ¬ Reaches signedData target trustStores caFilePem outerDate ctx) :
      VerifyRun env signedData target trustStores caFilePem outerDate start start
  | looped {ctx : VerifyContext env}
      (hCtx : Reaches signedData target trustStores caFilePem outerDate ctx) :
      VerifyRun env signedData target trustStores caFilePem outerDate start
        ((indexed ctx.signers).foldl (signerStep ctx) { result := start }).result

theorem verifySignedData_run (env : Externals) (signedData : SignedData) (target : SignedTarget)
    (trustStores : List TrustStore) (caFilePem : Option Octets) (outerFrom : Option Addr)
    (outerDate : Option Instant) (result : SmimeValidationResult) :
    VerifyRun env signedData target trustStores caFilePem outerDate
      (startVerification env signedData target trustStores caFilePem outerFrom outerDate result).1
      (verifySignedData env signedData target trustStores caFilePem outerFrom outerDate
        result) := by
  have hReaches := (startVerification_cases env signedData target trustStores caFilePem outerFrom
    outerDate result).2
  unfold verifySignedData
  rcases hRun : startVerification env signedData target trustStores caFilePem outerFrom outerDate
    result with ⟨start, reached⟩
  rw [hRun] at hReaches
  cases reached with
  | none =>
      refine .stopped fun ctx hCtx => ?_
      cases (hReaches ctx).mpr hCtx
  | some ctx => exact .looped ((hReaches ctx).mp rfl)

end Preparation

section Loop

variable {ctx : VerifyContext env}

/-- The signer at `idx` is accepted with `cert`. -/
def Accepts (ctx : VerifyContext env) (idx : Nat) (signer : SignerInfo) (cert : Certificate) :
    Prop :=
  Finds ctx idx signer cert ∧ ChainTrusted ctx cert

/-- One iteration pushes at most one entry. It is valid when the signer is
accepted, and it reports the certificate with which it is. -/
theorem signerStep_signers (ctx : VerifyContext env) (loop : SignerLoop) (idx : Nat)
    (signer : SignerInfo) :
    ∃ pushed : List SignerValidation,
      (signerStep ctx loop (idx, signer)).result.signers = loop.result.signers ++ pushed ∧
        (∀ entry ∈ pushed, entry.signatureValid = true →
          ∃ cert : Certificate, Accepts ctx idx signer cert ∧ EntryOf env cert entry) ∧
          ∀ cert : Certificate, Accepts ctx idx signer cert →
            ∃ entry ∈ pushed, entry.signatureValid = true := by
  obtain ⟨⟨failures, content, hRecords⟩, hCases⟩ :=
    verifySigner_cases ctx idx signer loop.result
  obtain ⟨notes, address, comment, date, hResult⟩ := signerStep_result ctx loop (idx, signer)
  rw [hResult]
  dsimp only
  have hSigners : (verifySigner ctx idx signer loop.result).1.signers = loop.result.signers := by
    rw [hRecords]
  rw [hSigners]
  rcases hCases with ⟨hFound, hNone⟩ | ⟨cert, entry, hFound, hFinds, hEntry, hValid⟩
  · rw [hFound]
    refine ⟨[], rfl, by simp, fun cert hAccepts => ?_⟩
    exact absurd hAccepts.1 (hNone cert)
  · rw [hFound]
    refine ⟨[pushNotes entry notes], rfl, ?_, fun other hOther => ?_⟩
    · intro pushed hPushed hPushedValid
      rw [List.mem_singleton] at hPushed
      subst hPushed
      exact ⟨cert, ⟨hFinds, hValid.mp hPushedValid⟩, ⟨hEntry.emails, hEntry.names⟩⟩
    · have hSame := firstVerifying_unique hFinds.first hOther.1.first
      exact ⟨_, List.mem_singleton_self _, hValid.mpr (hSame ▸ hOther.2)⟩

/-- The loop pushes entries of the signers it runs over. -/
theorem foldl_signerStep_signers (ctx : VerifyContext env) (signers : List (Nat × SignerInfo))
    (loop : SignerLoop) :
    ∃ pushed : List SignerValidation,
      (signers.foldl (signerStep ctx) loop).result.signers = loop.result.signers ++ pushed ∧
        ∀ entry ∈ pushed, entry.signatureValid = true →
          ∃ signer ∈ signers, ∃ cert : Certificate,
            Accepts ctx signer.1 signer.2 cert ∧ EntryOf env cert entry := by
  induction signers generalizing loop with
  | nil => exact ⟨[], by simp, by simp⟩
  | cons signer rest ih =>
      obtain ⟨first, hFirst, hValid, -⟩ := signerStep_signers ctx loop signer.1 signer.2
      obtain ⟨pushed, hPushed, hRest⟩ := ih (signerStep ctx loop signer)
      refine ⟨first ++ pushed, by rw [List.foldl_cons, hPushed, hFirst, List.append_assoc], ?_⟩
      intro entry hEntry hEntryValid
      rcases List.mem_append.mp hEntry with hMem | hMem
      · obtain ⟨cert, hCert⟩ := hValid entry hMem hEntryValid
        exact ⟨signer, List.mem_cons_self, cert, hCert⟩
      · obtain ⟨other, hOther, cert, hCert⟩ := hRest entry hMem hEntryValid
        exact ⟨other, List.mem_cons_of_mem _ hOther, cert, hCert⟩

end Loop

theorem mem_indexed {signers : List SignerInfo} {idx : Nat} {signer : SignerInfo} :
    (idx, signer) ∈ indexed signers ↔ signers[idx]? = some signer := by
  simp only [indexed, List.mem_mapIdx, Prod.mk.injEq, List.getElem?_eq_some_iff]
  constructor
  · rintro ⟨i, hi, rfl, hSigner⟩
    exact ⟨hi, hSigner⟩
  · rintro ⟨hi, hSigner⟩
    exact ⟨idx, hi, rfl, hSigner⟩

/-- A signer that the loop accepts is vouched for. -/
theorem vouches_of_accepts {signedData : SignedData} {target : SignedTarget}
    {trustStores : List TrustStore} {caFilePem : Option Octets} {outerDate : Option Instant}
    {ctx : VerifyContext env} {idx : Nat} {signer : SignerInfo} {cert : Certificate}
    (hReaches : Reaches signedData target trustStores caFilePem outerDate ctx)
    (hAccepts : Accepts ctx idx signer cert) :
    Vouches env signedData target trustStores caFilePem idx signer cert := by
  obtain ⟨-, caCerts, innerMessage, builder, verifier, hCaCerts, hInner, hBuilder, hVerifier,
    rfl⟩ := hReaches
  obtain ⟨⟨hAlgorithms, hGuard, before, behind, hSplit, -, pk, hKey, hVerifies⟩,
    chain, hChain, hNotRevoked⟩ := hAccepts
  have hMem : cert ∈ (extractCertificates signedData).filter
      (sidMatchesCert env signer.issuerAndSerialNumber) := by
    rw [hSplit]
    simp
  rw [List.mem_filter, sidMatchesCert_iff] at hMem
  rw [precheckSigner_none_iff] at hGuard
  obtain ⟨data, hData, hSignature⟩ := hVerifies.signature
  refine ⟨hMem.1, hMem.2, hAlgorithms, ⟨pk, data, hKey, hData, hSignature⟩, ?_, hGuard.1, ?_,
    caCerts, builder, verifier, chain, hCaCerts, hBuilder, hVerifier, hChain, hNotRevoked⟩
  · intro attrs hAttrs
    obtain ⟨covered, hCovered, present, digest, hPresent, hCarries, hDigest⟩ :=
      hVerifies.digest (by rw [hAttrs]; rfl)
    rw [hAttrs, Option.some.injEq] at hPresent
    subst hPresent
    exact ⟨innerMessage, covered, digest, hInner, hCovered, hCarries, hDigest⟩
  · intro content hTarget hAttrs
    exact hGuard.2 content hTarget (by rw [hAttrs]; rfl)

/-- Whatever the certificates, the keys and the verifiers outside say, an entry
with a valid signature has a signer and an embedded certificate that vouch for
the content. -/
theorem verifySignedData_sound (env : Externals) (signedData : SignedData) (target : SignedTarget)
    (trustStores : List TrustStore) (caFilePem : Option Octets) (outerFrom : Option Addr)
    (outerDate : Option Instant) (result : SmimeValidationResult) :
    ∃ pushed : List SignerValidation,
      (verifySignedData env signedData target trustStores caFilePem outerFrom outerDate
          result).signers = result.signers ++ pushed ∧
        ∀ entry ∈ pushed, entry.signatureValid = true →
          ∃ (idx : Nat) (signer : SignerInfo) (cert : Certificate),
            signedData.signerInfos[idx]? = some signer ∧
              Vouches env signedData target trustStores caFilePem idx signer cert ∧
                EntryOf env cert entry := by
  have hRun := verifySignedData_run env signedData target trustStores caFilePem outerFrom outerDate
    result
  have hSigners := (startVerification_cases env signedData target trustStores caFilePem outerFrom
    outerDate result).1
  generalize verifySignedData env signedData target trustStores caFilePem outerFrom outerDate
    result = after at hRun ⊢
  cases hRun with
  | stopped hNone => exact ⟨[], by simpa using hSigners, by simp⟩
  | @looped ctx hCtx =>
      obtain ⟨pushed, hPushed, hValid⟩ :=
        foldl_signerStep_signers ctx (indexed ctx.signers) _
      refine ⟨pushed, by rw [hPushed]; exact congrArg (· ++ pushed) hSigners, ?_⟩
      intro entry hEntry hEntryValid
      obtain ⟨⟨idx, signer⟩, hMem, cert, hAccepts, hOf⟩ := hValid entry hEntry hEntryValid
      refine ⟨idx, signer, cert, ?_, vouches_of_accepts hCtx hAccepts, hOf⟩
      rw [← mem_indexed, ← reaches_signers hCtx]
      exact hMem

end Smime
