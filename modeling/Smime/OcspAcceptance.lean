import Smime.SignerViolations

/-! When the signature of a stapled OCSP response is accepted, in terms of who
may sign it, and what an accepted response has to say for a status. -/
namespace Smime

open X690 (Octets tlv)
open X509 Utils

section Meaning

variable (env : Externals)

/-- Every name that was read can be written again. -/
def NamesEncode : Prop := ∀ name : Name, ∃ der : Octets, env.writeName name = .ok der

def SameName (a b : Name) : Prop :=
  ∃ der : Octets, env.writeName a = .ok der ∧ env.writeName b = .ok der

def Identifies (responderId : ResponderId) (cert : Certificate) : Prop :=
  match responderId with
  | .byName name => SameName env name cert.subject
  | .byKey hash => hash = env.sha1Of cert.spki.subjectPublicKey

def ValidAt (cert : Certificate) (now : Instant) : Prop :=
  ∃ window : Window, certValidity env cert = some window ∧ window.1 ≤ now ∧ now ≤ window.2

def SignedUnder (cert : Certificate) (alg : AlgorithmIdentifier) (signature data : Octets) : Prop :=
  ∃ key : AnyPublicKey, publicKey env cert = .ok key ∧
    env.verifySignatureWithSignatureAlgorithm key alg signature data = .ok ()

/-- The authority key identifier, if any, is that of the issuer's key. -/
def AkiMatches (cert issuer : Certificate) : Prop :=
  ∀ akiKeyId : Octets, getAkiKeyIdentifier env cert = some akiKeyId →
    akiKeyId = (getSki env issuer).getD (env.sha1Of issuer.spki.subjectPublicKey)

/-- The extended key usage is OCSP signing, and the certificate itself needs no check. -/
def SignsOcsp (cert : Certificate) : Prop :=
  ∃ extensions : List Extension, cert.extensions = some extensions ∧
    (∃ ekus : List ObjectIdentifier,
      extensionValue extensions extendedKeyUsageOid env.parseObjectIdentifiers = some ekus ∧
        ekuOcspSigningOid ∈ ekus) ∧
      (getExtension extensions ocspNoCheckOid).isSome

/-- The issuer itself signed the response. -/
structure SignsDirectly (resp : BasicOcspResponse) (tbsDer : Octets) (issuer : Certificate)
    (now : Instant) : Prop where
  identified : Identifies env resp.tbsResponseData.responderId issuer
  valid : ValidAt env issuer now
  signature : SignedUnder env issuer resp.signatureAlgorithm resp.signature tbsDer

/-- A responder that the issuer authorized signed the response. -/
structure SignsDelegated (resp : BasicOcspResponse) (tbsDer : Octets) (issuer : Certificate)
    (now : Instant) (responder : Certificate) : Prop where
  identified : Identifies env resp.tbsResponseData.responderId responder
  issuerName : SameName env responder.issuer issuer.subject
  issuerKey : AkiMatches env responder issuer
  algorithm : responder.signatureAlg ∈ env.permittedSignatureAlgorithms
  issued : ∃ certDer : Octets, env.writeTbsCertificate responder = .ok certDer ∧
    SignedUnder env issuer responder.signatureAlg responder.signature certDer
  usage : SignsOcsp env responder
  valid : ValidAt env responder now
  signature : SignedUnder env responder resp.signatureAlgorithm resp.signature tbsDer

/-- The signature of the response is one of the issuer, or of a responder that it
authorized and whose certificate is embedded. -/
def Accepted (resp : BasicOcspResponse) (issuer : Certificate) (now : Instant) : Prop :=
  resp.signatureAlgorithm ∈ env.permittedSignatureAlgorithms ∧
    ∃ tbsDer : Octets, env.writeResponseData resp.tbsResponseData = .ok tbsDer ∧
      (SignsDirectly env resp tbsDer issuer now ∨
        ∃ responder ∈ resp.certs.getD [], SignsDelegated env resp tbsDer issuer now responder)

/-- `now` is between the update and the next one, or within the days allowed for
a response that does not say when that is. -/
def Current (single : SingleResponse) (now : Instant) : Prop :=
  ∃ thisUpdate : Instant, asn1ToChrono env single.thisUpdate = some thisUpdate ∧
    thisUpdate ≤ now ∧
      match single.nextUpdate with
      | some next => ∃ nextUpdate : Instant,
          asn1ToChrono env next = some nextUpdate ∧ now ≤ nextUpdate
      | none => now ≤ thisUpdate + maxAgeWithoutNextUpdateDays * 86400

/-- The status that a response asserts. -/
def assertedStatus : CertStatus → StapledStatus
  | .good => .good
  | .revoked => .revoked
  | .unknown => .unknown

end Meaning

section Signature

variable {env : Externals}

theorem verifiesUnder_iff {key : AnyPublicKey} {alg : AlgorithmIdentifier}
    {signature data : Octets} :
    verifiesUnder env key alg signature data = true ↔
      env.verifySignatureWithSignatureAlgorithm key alg signature data = .ok () := by
  unfold verifiesUnder
  cases env.verifySignatureWithSignatureAlgorithm key alg signature data with
  | error e => simp [Except.toOption]
  | ok => simp [Except.toOption]

theorem checkAlgorithmPermitted_ok_iff {alg : AlgorithmIdentifier} :
    checkAlgorithmPermitted env alg = .ok () ↔ alg ∈ env.permittedSignatureAlgorithms := by
  unfold checkAlgorithmPermitted
  split
  next hMem => simpa using hMem
  next hNot => simpa using hNot

theorem checkAkiMatchesIssuer_ok_iff {child issuer : Certificate} :
    checkAkiMatchesIssuer env child issuer = .ok () ↔ AkiMatches env child issuer := by
  unfold checkAkiMatchesIssuer AkiMatches
  cases getAkiKeyIdentifier env child with
  | none => simp
  | some akiKeyId => simp

/-- Once names encode, a comparison of names never fails. -/
theorem namesMatch_ok (hNames : NamesEncode env) (a b : Name) :
    ∃ same : Bool, namesMatch env a b = .ok same ∧ (same = true ↔ SameName env a b) := by
  obtain ⟨aDer, ha⟩ := hNames a
  obtain ⟨bDer, hb⟩ := hNames b
  refine ⟨aDer == bDer, ?_, ?_⟩
  · rw [namesMatch, ha, hb]
    rfl
  · rw [beq_iff_eq]
    constructor
    · rintro rfl
      exact ⟨aDer, ha, hb⟩
    · rintro ⟨der, ha', hb'⟩
      rw [ha, Except.ok.injEq] at ha'
      rw [hb, Except.ok.injEq] at hb'
      exact ha'.trans hb'.symm

theorem matchesResponderId_ok (hNames : NamesEncode env) (responderId : ResponderId)
    (cert : Certificate) :
    ∃ same : Bool, matchesResponderId env responderId cert = .ok same ∧
      (same = true ↔ Identifies env responderId cert) := by
  cases responderId with
  | byName name => exact namesMatch_ok hNames name cert.subject
  | byKey hash => exact ⟨_, rfl, by simp [Identifies]⟩

theorem mayDelegate_iff {cert : Certificate} {extensions : List Extension}
    (h : cert.extensions = some extensions) :
    mayDelegate env extensions = true ↔ SignsOcsp env cert := by
  unfold mayDelegate SignsOcsp
  rw [h]
  simp [Option.any_eq_true]

/-- A window is handed on when the certificate is valid and its key verifies. -/
theorem signedBy_some_iff {resp : BasicOcspResponse} {tbsDer : Octets} {cert : Certificate}
    {key : AnyPublicKey} {now : Instant} (hKey : publicKey env cert = .ok key) :
    (signedBy env resp tbsDer cert key now).isSome ↔
      ValidAt env cert now ∧
        SignedUnder env cert resp.signatureAlgorithm resp.signature tbsDer := by
  unfold signedBy ValidAt SignedUnder
  rw [hKey]
  cases certValidity env cert with
  | none => simp
  | some window =>
      simp only [verifiesUnder_iff]
      split
      next hAll => simpa [and_assoc] using hAll
      next hNot => simpa [and_assoc] using hNot

variable {resp : BasicOcspResponse} {tbsDer : Octets} {issuer : Certificate}
  {issuerPubkey : AnyPublicKey} {now : Instant}

/-- One embedded certificate never fails the search, and ends it exactly when it
is that of an authorized responder. -/
theorem delegatedWindow_ok (hNames : NamesEncode env) (hIssuer : publicKey env issuer = .ok issuerPubkey)
    (cert : Certificate) :
    ∃ window : Option Window,
      delegatedWindow env resp tbsDer issuer issuerPubkey now cert = .ok window ∧
        (window.isSome ↔ SignsDelegated env resp tbsDer issuer now cert) := by
  obtain ⟨candidateMatches, hMatches, hIdentified⟩ :=
    matchesResponderId_ok hNames resp.tbsResponseData.responderId cert
  obtain ⟨issued, hIssued, hIssuerName⟩ := namesMatch_ok hNames cert.issuer issuer.subject
  rw [delegatedWindow, hMatches, Except.ok_bind']
  cases candidateMatches with
  | false =>
      refine ⟨none, rfl, ?_⟩
      simp only [Option.isSome_none, Bool.false_eq_true, false_iff]
      intro h
      cases hIdentified.mpr h.identified
  | true =>
      rw [Bool.not_true, if_neg Bool.false_ne_true, hIssued, Except.ok_bind']
      cases issued with
      | false =>
          refine ⟨none, rfl, ?_⟩
          simp only [Option.isSome_none, Bool.false_eq_true, false_iff]
          intro h
          cases hIssuerName.mpr h.issuerName
      | true =>
          rw [Bool.not_true, if_neg Bool.false_ne_true]
          split
          next certDer extensions responderPubkey hAki hAlgorithm hCertDer hExtensions hKey =>
            have hSigned := @signedBy_some_iff env resp tbsDer cert responderPubkey now hKey
            have hUsage := @mayDelegate_iff env cert extensions hExtensions
            refine ⟨_, (apply_ite Except.ok _ _ _).symm, ?_⟩
            split
            next hBoth =>
              rw [Bool.and_eq_true, verifiesUnder_iff, hUsage] at hBoth
              rw [hSigned]
              constructor
              · rintro ⟨hValid, hSignature⟩
                exact ⟨hIdentified.mp rfl, hIssuerName.mp rfl, checkAkiMatchesIssuer_ok_iff.mp hAki,
                  checkAlgorithmPermitted_ok_iff.mp hAlgorithm,
                  ⟨certDer, hCertDer, issuerPubkey, hIssuer, hBoth.1⟩, hBoth.2, hValid, hSignature⟩
              · exact fun h => ⟨h.valid, h.signature⟩
            next hNot =>
              simp only [Option.isSome_none, Bool.false_eq_true, false_iff]
              intro h
              apply hNot
              obtain ⟨der, hDer, key, hIssuerKey, hVerifies⟩ := h.issued
              rw [hCertDer, Except.ok.injEq] at hDer
              rw [hIssuer, Except.ok.injEq] at hIssuerKey
              rw [Bool.and_eq_true, verifiesUnder_iff, hUsage, hDer, hIssuerKey]
              exact ⟨hVerifies, h.usage⟩
          next hOther =>
            refine ⟨none, rfl, ?_⟩
            simp only [Option.isSome_none, Bool.false_eq_true, false_iff]
            intro h
            obtain ⟨certDer, hCertDer, -⟩ := h.issued
            obtain ⟨extensions, hExtensions, -⟩ := h.usage
            obtain ⟨key, hKey, -⟩ := h.signature
            exact hOther certDer extensions key (checkAkiMatchesIssuer_ok_iff.mpr h.issuerKey)
              (checkAlgorithmPermitted_ok_iff.mpr h.algorithm) hCertDer hExtensions hKey

theorem findDelegated_ok_iff (hNames : NamesEncode env)
    (hIssuer : publicKey env issuer = .ok issuerPubkey) (certs : List Certificate) :
    (∃ window : Window, findDelegated env resp tbsDer issuer issuerPubkey now certs = .ok window) ↔
      ∃ cert ∈ certs, SignsDelegated env resp tbsDer issuer now cert := by
  induction certs with
  | nil => simp [findDelegated]
  | cons cert rest ih =>
      obtain ⟨window, hWindow, hSigns⟩ :=
        @delegatedWindow_ok env resp tbsDer issuer issuerPubkey now hNames hIssuer cert
      rw [findDelegated, hWindow, Except.ok_bind', List.exists_mem_cons_iff, ← hSigns]
      cases window with
      | none => simpa using ih
      | some window => simp

/-- With the issuer's key at hand, the response is signed directly or by a delegate. -/
theorem signer_found_iff (hNames : NamesEncode env)
    (hIssuer : publicKey env issuer = .ok issuerPubkey) {issuerMatches : Bool}
    (hIdentified : issuerMatches = true ↔
      Identifies env resp.tbsResponseData.responderId issuer) :
    (∃ window : Window,
        (match if issuerMatches then signedBy env resp tbsDer issuer issuerPubkey now else none with
          | some window => (.ok window : Except OcspError Window)
          | none => findDelegated env resp tbsDer issuer issuerPubkey now (resp.certs.getD [])) =
            .ok window) ↔
      SignsDirectly env resp tbsDer issuer now ∨
        ∃ responder ∈ resp.certs.getD [], SignsDelegated env resp tbsDer issuer now responder := by
  have hDirect : SignsDirectly env resp tbsDer issuer now ↔
      (if issuerMatches then signedBy env resp tbsDer issuer issuerPubkey now else none).isSome := by
    have hSigned := @signedBy_some_iff env resp tbsDer issuer issuerPubkey now hIssuer
    cases issuerMatches with
    | true =>
        rw [if_pos rfl, hSigned]
        exact ⟨fun h => ⟨h.valid, h.signature⟩, fun h => ⟨hIdentified.mp rfl, h.1, h.2⟩⟩
    | false =>
        rw [if_neg Bool.false_ne_true]
        simp only [Option.isSome_none, Bool.false_eq_true, iff_false]
        intro h
        cases hIdentified.mpr h.identified
  rw [hDirect]
  cases if issuerMatches then signedBy env resp tbsDer issuer issuerPubkey now else none with
  | some window => simp
  | none => simpa using findDelegated_ok_iff hNames hIssuer (resp.certs.getD [])

/-- The signature of a response is accepted exactly when it is one of the issuer
or of an authorized responder. -/
theorem verifyOcspSignature_ok_iff (hNames : NamesEncode env) (resp : BasicOcspResponse)
    (issuer : Certificate) (now : Instant) :
    (∃ window : Window, verifyOcspSignature env resp issuer now = .ok window) ↔
      Accepted env resp issuer now := by
  obtain ⟨issuerMatches, hMatches, hIdentified⟩ :=
    matchesResponderId_ok hNames resp.tbsResponseData.responderId issuer
  simp only [verifyOcspSignature, Except.bind_eq_ok_iff, Except.mapError_eq_ok_iff,
    Except.pure_eq_ok', hMatches, Except.ok.injEq]
  constructor
  · rintro ⟨window, tbsDer, hTbs, ⟨⟩, hAlgorithm, same, rfl, issuerPubkey, hIssuer, hFound⟩
    exact ⟨checkAlgorithmPermitted_ok_iff.mp hAlgorithm, tbsDer, hTbs,
      (signer_found_iff hNames hIssuer hIdentified).mp ⟨window, hFound⟩⟩
  · rintro ⟨hAlgorithm, tbsDer, hTbs, hSigns⟩
    -- Both ways to sign take the issuer's key.
    have hIssuer : ∃ issuerPubkey : AnyPublicKey, publicKey env issuer = .ok issuerPubkey := by
      rcases hSigns with hDirect | ⟨responder, -, hDelegated⟩
      · obtain ⟨key, hKey, -⟩ := hDirect.signature
        exact ⟨key, hKey⟩
      · obtain ⟨certDer, -, key, hKey, -⟩ := hDelegated.issued
        exact ⟨key, hKey⟩
    obtain ⟨issuerPubkey, hIssuer⟩ := hIssuer
    obtain ⟨window, hFound⟩ := (signer_found_iff hNames hIssuer hIdentified).mpr hSigns
    exact ⟨window, tbsDer, hTbs, (), checkAlgorithmPermitted_ok_iff.mpr hAlgorithm, issuerMatches,
      rfl, issuerPubkey, hIssuer, hFound⟩

/-- Of the embedded certificates only counts which there are. -/
theorem accepted_mono {certs : List Certificate} (hCerts : resp.certs.getD [] ⊆ certs)
    (h : Accepted env resp issuer now) :
    Accepted env { resp with certs := some certs } issuer now := by
  obtain ⟨hAlgorithm, tbsDer, hTbs, hSigns⟩ := h
  refine ⟨hAlgorithm, tbsDer, hTbs, ?_⟩
  rcases hSigns with hDirect | ⟨responder, hMem, hDelegated⟩
  · exact .inl ⟨hDirect.identified, hDirect.valid, hDirect.signature⟩
  · refine .inr ⟨responder, hCerts hMem, ?_⟩
    exact ⟨hDelegated.identified, hDelegated.issuerName, hDelegated.issuerKey,
      hDelegated.algorithm, hDelegated.issued, hDelegated.usage, hDelegated.valid,
      hDelegated.signature⟩

end Signature

section Status

variable {env : Externals} {leaf issuer : Certificate} {now : Instant}

theorem singleResponseFresh_iff {single : SingleResponse} {window : Window} :
    singleResponseFresh env single now window = true ↔
      Current env single now ∧ window.1 ≤ now ∧ now ≤ window.2 := by
  unfold singleResponseFresh Current
  cases asn1ToChrono env single.thisUpdate with
  | none => simp
  | some thisUpdate =>
      dsimp only
      by_cases hFuture : now < thisUpdate
      · rw [if_pos hFuture]
        simp [hFuture]
      · rw [if_neg hFuture]
        rw [not_lt] at hFuture
        cases single.nextUpdate with
        | none => simp [hFuture, and_assoc]
        | some next =>
            dsimp only
            cases asn1ToChrono env next with
            | none => simp
            | some nextUpdate => simp [hFuture, and_assoc]

/-- What one staple asserts is said by its first response about the certificate. -/
theorem stapleStatus_some_iff {stapled : BasicOcspResponse} {status : CertStatus} :
    stapleStatus env leaf issuer now stapled = some status ↔
      ∃ (single : SingleResponse) (window : Window),
        stapled.tbsResponseData.responses.find?
            (fun single => certIdMatches env single.certId leaf issuer) = some single ∧
          verifyOcspSignature env stapled issuer now = .ok window ∧
            singleResponseFresh env single now window = true ∧ single.certStatus = status := by
  unfold stapleStatus
  cases stapled.tbsResponseData.responses.find?
      (fun single => certIdMatches env single.certId leaf issuer) with
  | none => simp
  | some single =>
      cases verifyOcspSignature env stapled issuer now with
      | error e => simp
      | ok window =>
          dsimp only
          split
          next hFresh => simp [hFresh]
          next hStale => simp [hStale]

/-- A status that is found is that of a staple, or was found before. -/
theorem searchStaples_some {found : Option StapledStatus} {staples : List BasicOcspResponse}
    {status : StapledStatus} (h : searchStaples env leaf issuer now found staples = some status) :
    found = some status ∨ ∃ stapled ∈ staples, ∃ said : CertStatus,
      stapleStatus env leaf issuer now stapled = some said ∧ assertedStatus said = status := by
  induction staples generalizing found with
  | nil => exact .inl h
  | cons stapled rest ih =>
      have hLater : ∀ {found' : Option StapledStatus},
          searchStaples env leaf issuer now found' rest = some status →
            (found' = some status → found = some status ∨
              ∃ said : CertStatus, stapleStatus env leaf issuer now stapled = some said ∧
                assertedStatus said = status) →
              found = some status ∨ ∃ other ∈ stapled :: rest, ∃ said : CertStatus,
                stapleStatus env leaf issuer now other = some said ∧
                  assertedStatus said = status := by
        intro found' hRest hNow
        rcases ih hRest with hFound | ⟨other, hOther, said, hSaid⟩
        · rcases hNow hFound with hBefore | ⟨said, hSaid⟩
          · exact .inl hBefore
          · exact .inr ⟨stapled, List.mem_cons_self, said, hSaid⟩
        · exact .inr ⟨other, List.mem_cons_of_mem _ hOther, said, hSaid⟩
      unfold searchStaples at h
      split at h
      next hStatus =>
        rw [Option.some.injEq] at h
        exact .inr ⟨stapled, List.mem_cons_self, .revoked, hStatus, h⟩
      next hStatus =>
        refine hLater h fun hFound => ?_
        cases found with
        | none => exact .inr ⟨.good, hStatus, Option.some.inj hFound⟩
        | some before => exact .inl hFound
      next hStatus =>
        refine hLater h fun hFound => ?_
        cases found with
        | none => exact .inr ⟨.unknown, hStatus, Option.some.inj hFound⟩
        | some before => exact .inl hFound
      next => exact hLater h .inl

/-- The signature of a response is accepted exactly when the issuer or a
responder that it authorized signed it, in whatever order the certificates are
embedded and whichever others are; and a status is only asserted by a current
statement about the certificate in an accepted response. -/
theorem stapled_acceptance_exact (env : Externals) (hNames : NamesEncode env) :
    (∀ (resp : BasicOcspResponse) (issuer : Certificate) (now : Instant),
        (∃ window : Window, verifyOcspSignature env resp issuer now = .ok window) ↔
          Accepted env resp issuer now) ∧
      (∀ (resp : BasicOcspResponse) (certs : List Certificate) (issuer : Certificate)
          (now : Instant), resp.certs.getD [] ⊆ certs →
        (∃ window : Window, verifyOcspSignature env resp issuer now = .ok window) →
          ∃ window : Window,
            verifyOcspSignature env { resp with certs := some certs } issuer now = .ok window) ∧
        ∀ (staples : List BasicOcspResponse) (leaf issuer : Certificate) (now : Instant)
            (status : StapledStatus),
          stapledStatusFor env staples leaf issuer now = some status →
            ∃ stapled ∈ staples, Accepted env stapled issuer now ∧
              ∃ single ∈ stapled.tbsResponseData.responses,
                certIdMatches env single.certId leaf issuer = true ∧
                  assertedStatus single.certStatus = status ∧ Current env single now := by
  have hExact := verifyOcspSignature_ok_iff hNames
  refine ⟨hExact, ?_, ?_⟩
  · intro resp certs issuer now hCerts hOk
    rw [hExact] at hOk ⊢
    exact accepted_mono hCerts hOk
  · intro staples leaf issuer now status hStatus
    rcases searchStaples_some hStatus with hNone | ⟨stapled, hMem, said, hSaid, hAsserted⟩
    · cases hNone
    · obtain ⟨single, window, hFind, hSignature, hFresh, rfl⟩ := stapleStatus_some_iff.mp hSaid
      have hCertId := List.find?_some hFind
      exact ⟨stapled, hMem, (hExact stapled issuer now).mp ⟨window, hSignature⟩, single,
        List.mem_of_find?_eq_some hFind, hCertId, hAsserted, (singleResponseFresh_iff.mp hFresh).1⟩

end Status

section Samples

/-! Responses of the issuer of `leafCert`, and the outside as it answers for them. -/

def nameDer (name : Name) : Octets :=
  tlv [0x30] (name.flatMap fun rdn =>
    tlv [0x31] (rdn.flatMap fun attr =>
      match attr.value with
      | .printableString text =>
          tlv [0x30] ([0x06, 0x03, 0x55, 0x04, 0x03] ++ tlv [0x13] (ascii text))
      | _ => []))

/-- The SHA-1 digest of the name of `rootCert`. -/
def rootNameHash : Octets :=
  [187, 20, 250, 150, 131, 8, 33, 25, 220, 28, 31, 190, 13, 109, 49, 42, 217, 90, 125, 101]

/-- The SHA-1 digest of the public key of `rootCert`. -/
def rootKeyHash : Octets :=
  [191, 139, 69, 48, 216, 210, 70, 221, 116, 172, 83, 161, 52, 113, 187, 161, 121, 65, 223, 247]

def responseTime : DateTime := ⟨2026, 5, 28, 0, 0, 0⟩

def responseTimeDer : Octets := tlv [0x18] (ascii "20260528000000Z")

def leafCertId : CertId :=
  ⟨⟨sha1Oid, .other sha1Oid none⟩, rootNameHash, rootKeyHash, leafCert.serial⟩

def leafResponse (status : CertStatus) : SingleResponse :=
  ⟨leafCertId, status, responseTime, none⟩

def leafResponseDer (single : SingleResponse) : Octets :=
  let certIdDer := tlv [0x30] (tlv [0x30] [0x06, 0x05, 0x2B, 0x0E, 0x03, 0x02, 0x1A] ++
    tlv [0x04] single.certId.issuerNameHash ++ tlv [0x04] single.certId.issuerKeyHash ++
      tlv [0x02] single.certId.serialNumber)
  let statusDer :=
    match single.certStatus with
    | .good => tlv [0x80] []
    | .revoked => tlv [0xA1] responseTimeDer
    | .unknown => tlv [0x82] []
  tlv [0x30] (certIdDer ++ statusDer ++ responseTimeDer)

/-- A response of `rootCert` about `leafCert`. -/
def leafStaple (statuses : List CertStatus) : BasicOcspResponse where
  tbsResponseData := ⟨.byKey rootKeyHash, statuses.map leafResponse, responseTimeDer⟩
  signatureAlgorithm := sha256WithRsaAlg
  signature := [0x0C]
  certs := none

/-- `essExternals`, where the key of `rootCert` also accepts the signature of the responses. -/
def ocspExternals : Externals :=
  { essExternals with
    writeName := fun name => .ok (nameDer name)
    writeResponseData := fun data =>
      .ok (tlv [0x30] (tlv [0xA2] (tlv [0x04] rootKeyHash) ++ data.unread ++
        tlv [0x30] (data.responses.flatMap leafResponseDer)))
    sha1Of := fun data =>
      if data = nameDer rootCert.subject then rootNameHash
      else if data = rootCert.spki.subjectPublicKey then rootKeyHash
      else []
    withYmdAndHms := fun time =>
      if time = rootCert.notBefore then some 1775054313
      else if time = rootCert.notAfter then some 2248094313
      else if time = responseTime then some 1779926400
      else none
    verifySignatureWithSignatureAlgorithm := fun key alg signature data =>
      if key.spkiDer = rootCert.spki.subjectPublicKey ∧ signature = [0x0C] then .ok ()
      else essExternals.verifySignatureWithSignatureAlgorithm key alg signature data }

theorem namesEncode_ocsp : NamesEncode ocspExternals := fun name => ⟨nameDer name, rfl⟩

theorem stapled_acceptance_exact_sample :
    ∃ window : Window,
      verifyOcspSignature ocspExternals (leafStaple [.good]) rootCert ocspExternals.now =
        .ok window := by
  apply ((stapled_acceptance_exact ocspExternals namesEncode_ocsp).1 _ _ _).mpr
  refine ⟨by decide, _, rfl, .inl ⟨?_, ?_, ?_⟩⟩
  · show rootKeyHash = ocspExternals.sha1Of rootCert.spki.subjectPublicKey
    decide +kernel
  · exact ⟨(1775054313, 2248094313), by decide +kernel, by decide, by decide⟩
  · exact ⟨⟨.rsa, rsaOid, rootCert.spki.subjectPublicKey⟩, by decide +kernel, by decide +kernel⟩

end Samples

end Smime
