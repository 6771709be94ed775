import Smime.OcspAcceptance
import Smime.ValidationProxy

/-! What the answers of the validation proxy rest on: which CRLs and OCSP
responses it uses, and where its rules differ from those of the library. -/
namespace Smime.ValidationProxy

open X690 (Octets tlv)
open X509 Utils

section Intervals

variable {env : ProxyExternals} {cert : Certificate}

/-- A request gets past the first check with a CA certificate only. -/
theorem isSubscriberCert_of_requireCaCert (h : requireCaCert env cert = .ok ()) :
    isSubscriberCert env cert = some false := by
  unfold requireCaCert at h
  unfold isSubscriberCert
  cases hExtensions : cert.extensions with
  | none => simp [hExtensions] at h
  | some extensions =>
      cases hCa : basicConstraintsCa env extensions with
      | none => simp [hExtensions, hCa] at h
      | some ca => simpa [hExtensions, hCa] using h

theorem checkOcspInterval_ca (duration : Int) :
    checkOcspInterval false duration = .ok () ↔ duration ≤ days 256 := by
  simp [checkOcspInterval]

theorem checkCrlInterval_ca (duration : Int) :
    checkCrlInterval false duration = .ok () ↔ duration ≤ days 366 := by
  simp [checkCrlInterval]

/-- Both dates can be read, are at most `limit` apart, and `now` is between them. -/
def WithinDates (env : ProxyExternals) (limit : Int) (thisUpdate nextUpdate : DateTime) : Prop :=
  ∃ this next : Instant, asn1ToChrono env.toExternals thisUpdate = some this ∧
    asn1ToChrono env.toExternals nextUpdate = some next ∧ next - this ≤ limit ∧
      this ≤ env.now ∧ env.now ≤ next

/-- Dates pass when there is no nextUpdate, or when they are within the limit
that the interval check sets for a CA certificate. -/
theorem checkDates_ok_iff (hCa : requireCaCert env cert = .ok ()) {errors : DateErrors}
    {checkInterval : Bool → Int → ProxyResult Unit} {limit : Int}
    (hInterval : ∀ duration : Int, checkInterval false duration = .ok () ↔ duration ≤ limit)
    (thisUpdate : DateTime) (nextUpdate : Option DateTime) :
    checkDates env errors checkInterval cert thisUpdate nextUpdate = .ok () ↔
      ∀ next : DateTime, nextUpdate = some next → WithinDates env limit thisUpdate next := by
  unfold WithinDates
  cases nextUpdate with
  | none => simp [checkDates]
  | some nextUpdate =>
      simp only [checkDates, Except.bind_eq_ok_iff, orError_eq_ok_iff,
        isSubscriberCert_of_requireCaCert hCa, Option.some.injEq, forall_eq']
      constructor
      · rintro ⟨this, hThis, next, hNext, _, rfl, _, hDuration, hNow⟩
        rw [hInterval] at hDuration
        split at hNow
        next => cases hNow
        next hStarted =>
          split at hNow
          next => cases hNow
          next hLasts =>
            exact ⟨this, next, hThis, hNext, hDuration, not_lt.mp hStarted, not_lt.mp hLasts⟩
      · rintro ⟨this, next, hThis, hNext, hDuration, hStarted, hLasts⟩
        refine ⟨this, hThis, next, hNext, false, rfl, (), (hInterval _).mpr hDuration, ?_⟩
        rw [if_neg (not_lt.mpr hStarted), if_neg (not_lt.mpr hLasts)]

theorem checkOcspDates_ok_iff (hCa : requireCaCert env cert = .ok ()) (single : SingleResponse) :
    checkOcspDates env cert single = .ok () ↔
      ∀ next : DateTime, single.nextUpdate = some next →
        WithinDates env (days 256) single.thisUpdate next :=
  checkDates_ok_iff hCa checkOcspInterval_ca _ _

theorem checkCrlDates_ok_iff (hCa : requireCaCert env cert = .ok ()) (list : TbsCertList) :
    checkCrlDates env cert list = .ok () ↔
      ∀ next : DateTime, list.nextUpdate = some next →
        WithinDates env (days 366) list.thisUpdate next :=
  checkDates_ok_iff hCa checkCrlInterval_ca _ _

end Intervals

section Agreement

variable {env : ProxyExternals} {cert : Certificate}

/-- Both services take an interval of at most twelve months, and refuse a longer one. -/
def SameTwelveMonths (env : ProxyExternals) (cert : Certificate) (single : SingleResponse)
    (list : TbsCertList) (duration : Int) : Prop :=
  (duration ≤ days 366 →
      checkOcspDates env cert single = .ok () ∧ checkCrlDates env cert list = .ok ()) ∧
    (days 366 < duration →
      checkOcspDates env cert single ≠ .ok () ∧ checkCrlDates env cert list ≠ .ok ())

theorem checkDates_between (hCa : requireCaCert env cert = .ok ()) {errors : DateErrors}
    {checkInterval : Bool → Int → ProxyResult Unit} {limit : Int}
    (hInterval : ∀ duration : Int, checkInterval false duration = .ok () ↔ duration ≤ limit)
    {thisUpdate nextUpdate : DateTime} {this next : Instant}
    (hThis : asn1ToChrono env.toExternals thisUpdate = some this)
    (hNext : asn1ToChrono env.toExternals nextUpdate = some next)
    (hStarted : this ≤ env.now) (hLasts : env.now ≤ next) :
    checkDates env errors checkInterval cert thisUpdate (some nextUpdate) = .ok () ↔
      next - this ≤ limit := by
  rw [checkDates_ok_iff hCa hInterval]
  constructor
  · intro h
    obtain ⟨this', next', hThis', hNext', hDuration, -⟩ := h nextUpdate rfl
    rw [hThis, Option.some.injEq] at hThis'
    rw [hNext, Option.some.injEq] at hNext'
    rwa [hThis', hNext']
  · rintro hDuration _ ⟨⟩
    exact ⟨this, next, hThis, hNext, hDuration, hStarted, hLasts⟩

/-- For a CA certificate and a current interval, the two services follow the same
rule of twelve months exactly when the interval is not one of those above 256 days
that the OCSP check takes for longer than twelve months. -/
theorem sameTwelveMonths_iff (env : ProxyExternals) {cert : Certificate}
    (hCa : requireCaCert env cert = .ok ()) {single : SingleResponse} {list : TbsCertList}
    {thisUpdate nextUpdate : DateTime} (hSingle : single.thisUpdate = thisUpdate)
    (hSingleNext : single.nextUpdate = some nextUpdate) (hList : list.thisUpdate = thisUpdate)
    (hListNext : list.nextUpdate = some nextUpdate) {this next : Instant}
    (hThis : asn1ToChrono env.toExternals thisUpdate = some this)
    (hNext : asn1ToChrono env.toExternals nextUpdate = some next)
    (hStarted : this ≤ env.now) (hLasts : env.now ≤ next) :
    SameTwelveMonths env cert single list (next - this) ↔
      ¬ (days 256 < next - this ∧ next - this ≤ days 366) := by
  have hOcsp : checkOcspDates env cert single = .ok () ↔ next - this ≤ days 256 := by
    rw [checkOcspDates, hSingle, hSingleNext]
    exact checkDates_between hCa checkOcspInterval_ca hThis hNext hStarted hLasts
  have hCrl : checkCrlDates env cert list = .ok () ↔ next - this ≤ days 366 := by
    rw [checkCrlDates, hList, hListNext]
    exact checkDates_between hCa checkCrlInterval_ca hThis hNext hStarted hLasts
  have hLimits : days 256 ≤ days 366 := by decide
  rw [SameTwelveMonths, ne_eq, ne_eq, hOcsp, hCrl]
  constructor
  · rintro ⟨hAccept, -⟩ ⟨hOver, hWithin⟩
    exact absurd (hAccept hWithin).1 (not_le.mpr hOver)
  · intro hGap
    refine ⟨fun hWithin => ⟨?_, hWithin⟩, fun hOver => ⟨?_, not_le.mpr hOver⟩⟩
    · rw [← not_lt]
      exact fun hOver => hGap ⟨hOver, hWithin⟩
    · exact not_le.mpr (lt_of_le_of_lt hLimits hOver)

end Agreement

section Crls

variable {env : ProxyExternals} {cert issuer : Certificate}

/-- The first CRL behind the URLs that can be read. -/
def firstCrl (env : ProxyExternals) : Nat → List String → Option CertificateRevocationList
  | _, [] => none
  | attempt, url :: rest => (fetchCrl env attempt url).or (firstCrl env (attempt + 1) rest)

theorem searchCrls_eq (attempt : Nat) (urls : List String) :
    searchCrls env cert issuer attempt urls =
      match firstCrl env attempt urls with
      | none => .error (.responseError "Failed to fetch or parse any CRL")
      | some crl => answerFromCrl env cert issuer crl := by
  induction urls generalizing attempt with
  | nil => rfl
  | cons url rest ih =>
      rw [searchCrls, firstCrl]
      cases fetchCrl env attempt url with
      | none => simpa using ih (attempt + 1)
      | some crl => rfl

/-- The CRL that decides a request about `cert`. -/
def DecidedBy (env : ProxyExternals) (payload : CrlRequestPayload) (cert issuer : Certificate)
    (crl : CertificateRevocationList) : Prop :=
  ∃ urls : List String, crlRequest env payload = .ok (cert, issuer, urls) ∧
    firstCrl env 0 urls = some crl

theorem DecidedBy.unique {payload : CrlRequestPayload} {crl : CertificateRevocationList}
    (h : DecidedBy env payload cert issuer crl) {cert' issuer' : Certificate}
    {crl' : CertificateRevocationList} (h' : DecidedBy env payload cert' issuer' crl') :
    cert' = cert ∧ issuer' = issuer ∧ crl' = crl := by
  obtain ⟨urls, hRequest, hFirst⟩ := h
  obtain ⟨urls', hRequest', hFirst'⟩ := h'
  rw [hRequest, Except.ok.injEq, Prod.mk.injEq, Prod.mk.injEq] at hRequest'
  obtain ⟨rfl, rfl, rfl⟩ := hRequest'
  rw [hFirst, Option.some.injEq] at hFirst'
  exact ⟨rfl, rfl, hFirst'.symm⟩

theorem DecidedBy.requireCaCert {payload : CrlRequestPayload} {crl : CertificateRevocationList}
    (h : DecidedBy env payload cert issuer crl) :
    ValidationProxy.requireCaCert env cert = .ok () := by
  obtain ⟨urls, hRequest, -⟩ := h
  simp only [crlRequest, Except.bind_eq_ok_iff] at hRequest
  obtain ⟨_, -, cert', -, _, -, _, -, issuer', -, _, hCa, _, -, hUrls⟩ := hRequest
  split at hUrls
  next => cases hUrls
  next =>
    cases hUrls
    exact hCa

/-- An answer comes from the CRL that decides, once it passes the checks. -/
theorem checkCrl_ok_iff {payload : CrlRequestPayload} {answer : CrlResponsePayload} :
    checkCrl env payload = .ok answer ↔
      ∃ (cert issuer : Certificate) (crl : CertificateRevocationList),
        DecidedBy env payload cert issuer crl ∧ verifyCrlSignature env crl issuer = .ok () ∧
          checkCrlDates env cert crl.tbsCertList = .ok () ∧
            scanRevoked env cert.serial (crl.tbsCertList.revokedCertificates.getD []) = answer := by
  simp only [checkCrl, Except.bind_eq_ok_iff, searchCrls_eq]
  constructor
  · rintro ⟨⟨cert, issuer, urls⟩, hRequest, hAnswer⟩
    split at hAnswer
    next => cases hAnswer
    next crl hFirst =>
      simp only [answerFromCrl, Except.bind_eq_ok_iff, Except.pure_eq_ok', Except.ok.injEq] at hAnswer
      obtain ⟨_, hSignature, _, hDates, hScan⟩ := hAnswer
      exact ⟨cert, issuer, crl, ⟨urls, hRequest, hFirst⟩, hSignature, hDates, hScan⟩
  · rintro ⟨cert, issuer, crl, ⟨urls, hRequest, hFirst⟩, hSignature, hDates, hScan⟩
    refine ⟨(cert, issuer, urls), hRequest, ?_⟩
    rw [hFirst]
    simp only [answerFromCrl, hSignature, hDates, Except.ok_bind', Except.pure_eq_ok', hScan]

/-- The scan finds the certificate wherever its entry stands. -/
theorem scanRevoked_revoked (serial : Octets) (entries : List RevokedCertificate) :
    (scanRevoked env serial entries).revoked = true ↔
      ∃ entry ∈ entries, entry.userCertificate = serial := by
  induction entries with
  | nil => simp [scanRevoked]
  | cons entry rest ih =>
      rw [scanRevoked, List.exists_mem_cons_iff]
      split
      next hSame => simp [hSame]
      next hOther => simpa [hOther] using ih

/-- The CRL has begun to hold. -/
def Started (env : ProxyExternals) (list : TbsCertList) : Prop :=
  ∃ thisUpdate : Instant,
    asn1ToChrono env.toExternals list.thisUpdate = some thisUpdate ∧ thisUpdate ≤ env.now

/-- The proxy reads the authority key identifier of a CRL, and no other extension. -/
def CriticalProcessed (list : TbsCertList) : Prop :=
  ∀ ext ∈ list.rawCrlExtensions.getD [], ext.critical = true →
    ext.extnId = authorityKeyIdentifierOid

/-- What makes a CRL of the issuer one that can answer. -/
structure CanAnswer (env : ProxyExternals) (issuer : Certificate)
    (crl : CertificateRevocationList) : Prop where
  signature : verifyCrlSignature env crl issuer = .ok ()
  started : Started env crl.tbsCertList
  lasts : ∀ next : DateTime, crl.tbsCertList.nextUpdate = some next →
    ∃ nextUpdate : Instant, asn1ToChrono env.toExternals next = some nextUpdate ∧
      env.now ≤ nextUpdate
  processed : CriticalProcessed crl.tbsCertList

/-- The answers to a request rest on a CRL that can answer, and `revoked: false` on
one without the certificate. -/
def AnswersSoundly (env : ProxyExternals) (payload : CrlRequestPayload) : Prop :=
  ∀ answer : CrlResponsePayload, checkCrl env payload = .ok answer →
    ∃ (cert issuer : Certificate) (crl : CertificateRevocationList),
      DecidedBy env payload cert issuer crl ∧ CanAnswer env issuer crl ∧
        (answer.revoked = false →
          ∀ entry ∈ crl.tbsCertList.revokedCertificates.getD [], entry.userCertificate ≠ cert.serial)

/-- The dates of a CRL that the proxy looks at: none without a nextUpdate. -/
def CrlDatesPass (env : ProxyExternals) (list : TbsCertList) : Prop :=
  ∀ next : DateTime, list.nextUpdate = some next →
    WithinDates env (days 366) list.thisUpdate next

/-- A request is answered soundly exactly when the CRL that decides it, where its
signature and dates pass, has begun to hold if it has no nextUpdate, and has no
critical extension that the proxy does not process. -/
theorem answersSoundly_iff (env : ProxyExternals) (payload : CrlRequestPayload) :
    AnswersSoundly env payload ↔
      ∀ (cert issuer : Certificate) (crl : CertificateRevocationList),
        DecidedBy env payload cert issuer crl → verifyCrlSignature env crl issuer = .ok () →
          CrlDatesPass env crl.tbsCertList →
            (crl.tbsCertList.nextUpdate = none → Started env crl.tbsCertList) ∧
              CriticalProcessed crl.tbsCertList := by
  constructor
  · intro hSound cert issuer crl hDecided hSignature hDates
    have hPass := (checkCrlDates_ok_iff hDecided.requireCaCert crl.tbsCertList).mpr hDates
    have hAnswer := checkCrl_ok_iff.mpr ⟨cert, issuer, crl, hDecided, hSignature, hPass, rfl⟩
    obtain ⟨cert', issuer', crl', hDecided', hCan, -⟩ := hSound _ hAnswer
    obtain ⟨rfl, rfl, rfl⟩ := hDecided.unique hDecided'
    exact ⟨fun _ => hCan.started, hCan.processed⟩
  · intro hCondition answer hAnswer
    obtain ⟨cert, issuer, crl, hDecided, hSignature, hPass, rfl⟩ := checkCrl_ok_iff.mp hAnswer
    have hDates := (checkCrlDates_ok_iff hDecided.requireCaCert crl.tbsCertList).mp hPass
    obtain ⟨hStarted, hProcessed⟩ := hCondition cert issuer crl hDecided hSignature hDates
    refine ⟨cert, issuer, crl, hDecided, ⟨hSignature, ?_, ?_, hProcessed⟩, ?_⟩
    · cases hNext : crl.tbsCertList.nextUpdate with
      | none => exact hStarted hNext
      | some next =>
          obtain ⟨this, _, hThis, -, -, hNow, -⟩ := hDates next hNext
          exact ⟨this, hThis, hNow⟩
    · intro next hNext
      obtain ⟨_, nextUpdate, -, hNextUpdate, -, -, hNow⟩ := hDates next hNext
      exact ⟨nextUpdate, hNextUpdate, hNow⟩
    · intro hNotRevoked entry hMem hSame
      have hRevoked := (@scanRevoked_revoked env cert.serial _).mpr ⟨entry, hMem, hSame⟩
      rw [hNotRevoked] at hRevoked
      cases hRevoked

end Crls

section Ocsp

variable {env : ProxyExternals} {cert issuer : Certificate}

theorem signedBy_window {externals : Externals} {resp : BasicOcspResponse} {tbsDer : Octets}
    {key : AnyPublicKey} {now : Instant} {window : Window}
    (h : signedBy externals resp tbsDer cert key now = some window) :
    window.1 ≤ now ∧ now ≤ window.2 := by
  unfold signedBy at h
  split at h
  next => cases h
  next =>
    split at h
    next hAll =>
      cases h
      exact ⟨hAll.1, hAll.2.1⟩
    next => cases h

theorem findDelegated_window {externals : Externals} {resp : BasicOcspResponse} {tbsDer : Octets}
    {key : AnyPublicKey} {now : Instant} {certs : List Certificate} {window : Window}
    (h : findDelegated externals resp tbsDer issuer key now certs = .ok window) :
    window.1 ≤ now ∧ now ≤ window.2 := by
  induction certs with
  | nil => cases h
  | cons cert rest ih =>
      rw [findDelegated, Except.bind_eq_ok_iff] at h
      obtain ⟨found, hFound, hRest⟩ := h
      cases found with
      | none => exact ih hRest
      | some found =>
          cases hRest
          rw [delegatedWindow, Except.bind_eq_ok_iff] at hFound
          obtain ⟨candidateMatches, -, hFound⟩ := hFound
          cases candidateMatches with
          | false => cases hFound
          | true =>
              rw [Bool.not_true, if_neg Bool.false_ne_true, Except.bind_eq_ok_iff] at hFound
              obtain ⟨issued, -, hFound⟩ := hFound
              cases issued with
              | false => cases hFound
              | true =>
                  rw [Bool.not_true, if_neg Bool.false_ne_true] at hFound
                  split at hFound
                  next =>
                    split at hFound
                    next => exact signedBy_window (Except.ok.inj hFound)
                    next => cases hFound
                  next => cases hFound

/-- The window of an accepted response always contains the instant it was checked at. -/
theorem verifyOcspSignature_window {externals : Externals} {resp : BasicOcspResponse}
    {now : Instant} {window : Window}
    (h : verifyOcspSignature externals resp issuer now = .ok window) :
    window.1 ≤ now ∧ now ≤ window.2 := by
  simp only [verifyOcspSignature, Except.bind_eq_ok_iff, Except.pure_eq_ok'] at h
  obtain ⟨tbsDer, -, _, -, issuerMatches, -, issuerPubkey, -, h⟩ := h
  split at h
  next found hDirect =>
    cases h
    split at hDirect
    next => exact signedBy_window hDirect
    next => cases hDirect
  next => exact findDelegated_window h

/-- A request gets to its response with a CA certificate only; and no nonce is sent. -/
theorem ocspExchange_ok {payload : OcspRequestPayload} {reqNonce : Octets}
    {basicResp : BasicOcspResponse}
    (h : ocspExchange env payload = .ok (cert, issuer, reqNonce, basicResp)) :
    requireCaCert env cert = .ok () ∧ reqNonce = [] := by
  simp only [ocspExchange, Except.bind_eq_ok_iff, Except.pure_eq_ok'] at h
  obtain ⟨_, -, _, -, cert', -, issuer', -, _, hCa, _, -, url, -, _, -, ⟨reqDer, nonce⟩, hRequest,
    _, -, _, -, ocspResp, -, h⟩ := h
  simp only [createOcspRequest, Except.bind_eq_ok_iff, Except.pure_eq_ok', Bool.false_eq_true,
    if_false] at hRequest
  obtain ⟨_, -, _, -, hRequest⟩ := hRequest
  cases hRequest
  split at h
  next => cases h
  next =>
    rw [Except.bind_eq_ok_iff] at h
    obtain ⟨_, -, h⟩ := h
    cases h
    exact ⟨hCa, rfl⟩

/-- The response of a request, and the statement of it that an answer is taken from. -/
def TakenFrom (env : ProxyExternals) (payload : OcspRequestPayload) (cert issuer : Certificate)
    (basicResp : BasicOcspResponse) (single : SingleResponse) : Prop :=
  ∃ reqNonce : Octets, ocspExchange env payload = .ok (cert, issuer, reqNonce, basicResp) ∧
    basicResp.tbsResponseData.responses.head? = some single

theorem TakenFrom.unique {payload : OcspRequestPayload} {basicResp : BasicOcspResponse}
    {single : SingleResponse} (h : TakenFrom env payload cert issuer basicResp single)
    {cert' issuer' : Certificate} {basicResp' : BasicOcspResponse} {single' : SingleResponse}
    (h' : TakenFrom env payload cert' issuer' basicResp' single') :
    issuer' = issuer ∧ basicResp' = basicResp ∧ single' = single := by
  obtain ⟨nonce, hExchange, hHead⟩ := h
  obtain ⟨nonce', hExchange', hHead'⟩ := h'
  rw [hExchange, Except.ok.injEq] at hExchange'
  cases hExchange'
  rw [hHead, Option.some.injEq] at hHead'
  exact ⟨rfl, rfl, hHead'.symm⟩

/-- An answer is taken from the first statement of an accepted response, once its
certificate and its dates pass. -/
theorem checkOcsp_ok_iff {payload : OcspRequestPayload} {answer : OcspResponsePayload} :
    checkOcsp env payload = .ok answer ↔
      ∃ (cert issuer : Certificate) (basicResp : BasicOcspResponse) (single : SingleResponse)
          (window : Window), TakenFrom env payload cert issuer basicResp single ∧
        verifyOcspSignature env.toExternals basicResp issuer env.now = .ok window ∧
          certIdMatches env.toExternals single.certId cert issuer = true ∧
            checkOcspDates env cert single = .ok () ∧
              ocspPayload env basicResp.tbsResponseData single = answer := by
  simp only [checkOcsp, Except.bind_eq_ok_iff]
  constructor
  · rintro ⟨⟨cert, issuer, reqNonce, basicResp⟩, hExchange, hAnswer⟩
    simp only [answerFromOcsp, Except.bind_eq_ok_iff, Except.mapError_eq_ok_iff,
      Except.pure_eq_ok'] at hAnswer
    obtain ⟨window, hSignature, _, -, hAnswer⟩ := hAnswer
    split at hAnswer
    next => cases hAnswer
    next single rest hResponses =>
      split at hAnswer
      next => cases hAnswer
      next hCertId =>
        rw [Except.bind_eq_ok_iff] at hAnswer
        obtain ⟨_, hDates, hAnswer⟩ := hAnswer
        refine ⟨cert, issuer, basicResp, single, window, ⟨reqNonce, hExchange, ?_⟩, hSignature,
          by simpa using hCertId, hDates, Except.ok.inj hAnswer⟩
        rw [hResponses]
        rfl
  · rintro ⟨cert, issuer, basicResp, single, window, ⟨reqNonce, hExchange, hHead⟩, hSignature,
      hCertId, hDates, rfl⟩
    refine ⟨(cert, issuer, reqNonce, basicResp), hExchange, ?_⟩
    obtain ⟨rest, hResponses⟩ := List.head?_eq_some_iff.mp hHead
    rw [(ocspExchange_ok hExchange).2, answerFromOcsp, hSignature]
    simp only [Except.mapError, Except.ok_bind', checkNonce, List.isEmpty_nil, if_true, hResponses,
      hCertId, hDates, Bool.not_true, Bool.false_eq_true, if_false, Except.pure_eq_ok']

/-- Whatever answers a request is fresh as the library asks of a stapled response. -/
def HonoursFresh (env : ProxyExternals) (payload : OcspRequestPayload) : Prop :=
  ∀ answer : OcspResponsePayload, checkOcsp env payload = .ok answer →
    ∃ (cert issuer : Certificate) (basicResp : BasicOcspResponse) (single : SingleResponse)
        (window : Window), TakenFrom env payload cert issuer basicResp single ∧
      ocspPayload env basicResp.tbsResponseData single = answer ∧
        verifyOcspSignature env.toExternals basicResp issuer env.now = .ok window ∧
          singleResponseFresh env.toExternals single env.now window = true

/-- A request is answered freshly exactly when the statement that it is taken from,
in a response that is accepted and about the certificate, has a nextUpdate or is
of at most seven days ago. -/
theorem honoursFresh_iff (env : ProxyExternals) (payload : OcspRequestPayload) :
    HonoursFresh env payload ↔
      ∀ (cert issuer : Certificate) (basicResp : BasicOcspResponse) (single : SingleResponse)
          (window : Window), TakenFrom env payload cert issuer basicResp single →
        verifyOcspSignature env.toExternals basicResp issuer env.now = .ok window →
          certIdMatches env.toExternals single.certId cert issuer = true →
            single.nextUpdate = none → ∃ thisUpdate : Instant,
              asn1ToChrono env.toExternals single.thisUpdate = some thisUpdate ∧
                thisUpdate ≤ env.now ∧ env.now ≤ thisUpdate + days 7 := by
  constructor
  · intro hFresh cert issuer basicResp single window hTaken hSignature hCertId hNext
    have hDates : checkOcspDates env cert single = .ok () := by
      rw [checkOcspDates, hNext]
      rfl
    obtain ⟨cert', issuer', basicResp', single', window', hTaken', -, -, hSingle⟩ :=
      hFresh _ (checkOcsp_ok_iff.mpr
        ⟨cert, issuer, basicResp, single, window, hTaken, hSignature, hCertId, hDates, rfl⟩)
    obtain ⟨rfl, rfl, rfl⟩ := hTaken.unique hTaken'
    obtain ⟨thisUpdate, hThis, hStarted, hLasts⟩ := (singleResponseFresh_iff.mp hSingle).1
    rw [hNext] at hLasts
    exact ⟨thisUpdate, hThis, hStarted, hLasts⟩
  · intro hCondition answer hAnswer
    obtain ⟨cert, issuer, basicResp, single, window, hTaken, hSignature, hCertId, hDates, rfl⟩ :=
      checkOcsp_ok_iff.mp hAnswer
    refine ⟨cert, issuer, basicResp, single, window, hTaken, rfl, hSignature, ?_⟩
    rw [singleResponseFresh_iff]
    refine ⟨?_, verifyOcspSignature_window hSignature⟩
    cases hNext : single.nextUpdate with
    | none =>
        obtain ⟨thisUpdate, hThis, hStarted, hLasts⟩ :=
          hCondition cert issuer basicResp single window hTaken hSignature hCertId hNext
        refine ⟨thisUpdate, hThis, hStarted, ?_⟩
        rw [hNext]
        exact hLasts
    | some next =>
        obtain ⟨reqNonce, hExchange, -⟩ := hTaken
        obtain ⟨this, nextUpdate, hThis, hNextUpdate, -, hStarted, hLasts⟩ :=
          (checkOcspDates_ok_iff (ocspExchange_ok hExchange).1 single).mp hDates next hNext
        refine ⟨this, hThis, hStarted, ?_⟩
        rw [hNext]
        exact ⟨nextUpdate, hNextUpdate, hLasts⟩

end Ocsp

section Samples

/-! A CA certificate under `rootCert`, and the outside as it answers for it. -/

def caConstraintsDer : Octets := tlv [0x30] (tlv [0x01] [0xFF])

def subCaCert : Certificate :=
  { certOf "Root" "Sub CA" 3 with
    extensions := some
      [⟨basicConstraintsOid, caConstraintsDer⟩,
        ⟨authorityInformationAccessOid, ascii "http://ocsp.example"⟩,
        ⟨crlDistributionPointsOid, ascii "http://crl.example"⟩]
    signature := [0x0C] }

def subCaRequest : OcspRequestPayload := ⟨"Aw==", "AQ=="⟩

def subCaCrlRequest : CrlRequestPayload := ⟨"Aw==", some "AQ=="⟩

/-- A response of `rootCert` about `subCaCert`. -/
def subCaStaple (thisUpdate : DateTime) (nextUpdate : Option DateTime) : BasicOcspResponse :=
  { leafStaple [] with
    tbsResponseData := ⟨.byKey rootKeyHash,
      [⟨{ leafCertId with serialNumber := subCaCert.serial }, .good, thisUpdate, nextUpdate⟩], []⟩ }

/-- A CRL of `rootCert` without entries. -/
def rootCrl (thisUpdate : DateTime) (nextUpdate : Option DateTime)
    (extensions : List CrlExtension) : CertificateRevocationList where
  tbsCertList := ⟨rootCert.subject, thisUpdate, nextUpdate, none, some extensions⟩
  signatureAlgorithm := sha256WithRsaAlg
  signatureValue := [0x0C]

def lastYear : DateTime := ⟨2025, 5, 28, 0, 0, 0⟩

def inThreeHundredDays : DateTime := ⟨2027, 3, 24, 0, 0, 0⟩

def nextMonth : DateTime := ⟨2026, 6, 28, 0, 0, 0⟩

def deltaCrlIndicator : CrlExtension := ⟨⟨[2, 5, 29, 27], tlv [0x02] [0x01]⟩, true⟩

/-- `ocspExternals`, with one response and one CRL behind the URLs of `subCaCert`. -/
def proxyExternals (resp : BasicOcspResponse) (crl : CertificateRevocationList) :
    ProxyExternals where
  toExternals :=
    { ocspExternals with
      parseCertificate := fun der =>
        if der = [1] then .ok rootCert else if der = [3] then .ok subCaCert else .error ""
      parseOcspResponse := fun _ => .ok ⟨0, some resp⟩
      withYmdAndHms := fun time =>
        if time = lastYear then some 1748390400
        else if time = inThreeHundredDays then some 1805846400
        else if time = nextMonth then some 1782604800
        else ocspExternals.withYmdAndHms time }
  parsePem _ := none
  decodeBase64 text := if text = "AQ==" then some [1] else if text = "Aw==" then some [3] else none
  parseBasicConstraints der := if der = caConstraintsDer then .ok true else .error ""
  parseKeyUsage _ := .error ""
  parseAccessDescriptions der :=
    if der = ascii "http://ocsp.example" then
      .ok [⟨ocspOid, .uniformResourceIdentifier "http://ocsp.example"⟩]
    else .error ""
  parseDistributionPoints der :=
    if der = ascii "http://crl.example" then
      .ok [⟨some (.fullName [.uniformResourceIdentifier "http://crl.example"])⟩]
    else .error ""
  parseCrl _ := .ok crl
  writeTbsCertList list := .ok (nameDer list.issuer)
  writeOctetString octets := .ok (tlv [0x04] octets)
  writeOcspRequest request := .ok (tlv [0x30] request.reqCert.serialNumber)
  urlScheme _ := .ok "http"
  fillRandom := .ok (List.replicate 16 0)
  httpPost _ _ := .ok (.ok [])
  httpGet _ _ := .ok (.ok [])
  producedAt _ := responseTime
  rawResponseExtensions _ := none
  debugDateTime _ := ""

/-- A current delta CRL of `rootCert`. -/
def deltaCrl : CertificateRevocationList :=
  rootCrl responseTime (some nextMonth) [deltaCrlIndicator]

/-- A CRL that `rootCert` issues a month from now. -/
def futureCrl : CertificateRevocationList := rootCrl nextMonth none []

def deltaExternals : ProxyExternals := proxyExternals (subCaStaple responseTime none) deltaCrl

def futureExternals : ProxyExternals := proxyExternals (subCaStaple responseTime none) futureCrl

theorem decidedBy_delta : DecidedBy deltaExternals subCaCrlRequest subCaCert rootCert deltaCrl :=
  ⟨["http://crl.example"], by decide +kernel, by decide +kernel⟩

theorem decidedBy_future :
    DecidedBy futureExternals subCaCrlRequest subCaCert rootCert futureCrl :=
  ⟨["http://crl.example"], by decide +kernel, by decide +kernel⟩

/-- A delta CRL is taken for a complete one, and a CRL of the future for a current one. -/
theorem answersSoundly_fails :
    ¬ AnswersSoundly deltaExternals subCaCrlRequest ∧
      ¬ AnswersSoundly futureExternals subCaCrlRequest := by
  constructor
  · intro hSound
    have hAnswer : checkCrl deltaExternals subCaCrlRequest = .ok ⟨false, none, none⟩ := by
      decide +kernel
    obtain ⟨cert, issuer, crl, hDecided, hCan, -⟩ := hSound _ hAnswer
    obtain ⟨rfl, rfl, rfl⟩ := decidedBy_delta.unique hDecided
    have hProcessed := hCan.processed deltaCrlIndicator (by decide) rfl
    revert hProcessed
    decide
  · intro hSound
    have hAnswer : checkCrl futureExternals subCaCrlRequest = .ok ⟨false, none, none⟩ := by
      decide +kernel
    obtain ⟨cert, issuer, crl, hDecided, hCan, -⟩ := hSound _ hAnswer
    obtain ⟨rfl, rfl, rfl⟩ := decidedBy_future.unique hDecided
    obtain ⟨thisUpdate, hThis, hStarted⟩ := hCan.started
    have hRead : asn1ToChrono futureExternals.toExternals futureCrl.tbsCertList.thisUpdate =
        some 1782604800 := by decide +kernel
    rw [hRead, Option.some.injEq] at hThis
    subst hThis
    revert hStarted
    decide +kernel

/-- A response of a year ago that names no next update. -/
def replayedStaple : BasicOcspResponse := subCaStaple lastYear none

def replayExternals : ProxyExternals := proxyExternals replayedStaple deltaCrl

/-- A response of last year is honored as if it were fresh. -/
theorem honoursFresh_fails : ¬ HonoursFresh replayExternals subCaRequest := by
  intro hFresh
  have hAnswer : checkOcsp replayExternals subCaRequest =
      .ok ⟨"good", some "", some "", none⟩ := by
    decide +kernel
  obtain ⟨cert, issuer, basicResp, single, window, hTaken, -, -, hSingle⟩ := hFresh _ hAnswer
  have hSample : TakenFrom replayExternals subCaRequest subCaCert rootCert replayedStaple
      ⟨{ leafCertId with serialNumber := subCaCert.serial }, .good, lastYear, none⟩ :=
    ⟨[], by decide +kernel, rfl⟩
  obtain ⟨rfl, rfl, rfl⟩ := hSample.unique hTaken
  obtain ⟨thisUpdate, hThis, -, hLasts⟩ := (singleResponseFresh_iff.mp hSingle).1
  have hRead : asn1ToChrono replayExternals.toExternals lastYear = some 1748390400 := by
    decide +kernel
  rw [hRead, Option.some.injEq] at hThis
  subst hThis
  revert hLasts
  decide +kernel

/-- What the two services read at an interval of three hundred days. -/
def longSingle : SingleResponse :=
  ⟨{ leafCertId with serialNumber := subCaCert.serial }, .good, responseTime,
    some inThreeHundredDays⟩

def longCrl : CertificateRevocationList := rootCrl responseTime (some inThreeHundredDays) []

/-- Of a current interval of 300 days the OCSP check says that it is longer than
twelve months. -/
theorem sameTwelveMonths_fails :
    requireCaCert deltaExternals subCaCert = .ok () ∧
      asn1ToChrono deltaExternals.toExternals responseTime = some 1779926400 ∧
        asn1ToChrono deltaExternals.toExternals inThreeHundredDays = some 1805846400 ∧
          1779926400 ≤ deltaExternals.now ∧ deltaExternals.now ≤ 1805846400 ∧
            ¬ SameTwelveMonths deltaExternals subCaCert longSingle longCrl.tbsCertList
              (1805846400 - 1779926400) := by
  refine ⟨by decide +kernel, by decide +kernel, by decide +kernel, by decide +kernel,
    by decide +kernel, ?_⟩
  intro h
  have hOcsp := (h.1 (by decide)).1
  revert hOcsp
  decide +kernel

theorem sameTwelveMonths_iff_month :
    SameTwelveMonths deltaExternals subCaCert
        { longSingle with nextUpdate := some nextMonth } deltaCrl.tbsCertList
        (1782604800 - 1779926400) ↔
      ¬ (days 256 < (1782604800 : Int) - 1779926400 ∧
        (1782604800 : Int) - 1779926400 ≤ days 366) :=
  sameTwelveMonths_iff deltaExternals (by decide +kernel) rfl rfl rfl rfl (by decide +kernel)
    (by decide +kernel) (by decide +kernel) (by decide +kernel)

end Samples

end Smime.ValidationProxy
