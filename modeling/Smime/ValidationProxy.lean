import Smime.Ocsp

/-! `src/validation-proxy/main.rs`: the proxy that answers for the revocation of
a CA certificate, from an OCSP response or a CRL that it fetches. -/
namespace Smime.ValidationProxy

open X690 (Octets)
open X509 Utils

def basicConstraintsOid : ObjectIdentifier := [2, 5, 29, 19]
def keyUsageOid : ObjectIdentifier := [2, 5, 29, 15]
def crlDistributionPointsOid : ObjectIdentifier := [2, 5, 29, 31]
def authorityInformationAccessOid : ObjectIdentifier := [1, 3, 6, 1, 5, 5, 7, 1, 1]
def ocspOid : ObjectIdentifier := [1, 3, 6, 1, 5, 5, 7, 48, 1]
def nonceOid : ObjectIdentifier := [1, 3, 6, 1, 5, 5, 7, 48, 1, 2]

inductive ProxyError where
  | badRequest (text : String)
  | responseError (text : String)
  | responseViolation (text : String)
  deriving DecidableEq

/-- `impl From<OcspError> for ProxyError`. -/
def ProxyError.ofOcspError : OcspError → ProxyError
  | .encoding what => .responseError ("Failed to encode " ++ what)
  | .malformed what => .responseError ("Malformed OCSP response: " ++ what)
  | .disallowedAlgorithm => .responseViolation "Disallowed signature algorithm"
  | .signatureInvalid =>
      .responseViolation
        "OCSP signature verification failed (neither issuer nor authorized responder)"

abbrev ProxyResult := Except ProxyError

structure OcspRequestPayload where
  certificate : String
  issuer : String
  deriving DecidableEq

structure OcspResponsePayload where
  status : String
  producedAt : Option String
  thisUpdate : Option String
  nextUpdate : Option String
  deriving DecidableEq

structure CrlRequestPayload where
  certificate : String
  issuer : Option String
  deriving DecidableEq

structure CrlResponsePayload where
  revoked : Bool
  reason : Option String
  revocationDate : Option String
  deriving DecidableEq

/-- An extension of a CRL. -/
structure CrlExtension extends Extension where
  critical : Bool
  deriving DecidableEq

structure RevokedCertificate where
  userCertificate : Octets
  revocationDate : DateTime
  deriving DecidableEq

structure TbsCertList where
  issuer : Name
  thisUpdate : DateTime
  nextUpdate : Option DateTime
  revokedCertificates : Option (List RevokedCertificate)
  rawCrlExtensions : Option (List CrlExtension)
  deriving DecidableEq

structure CertificateRevocationList where
  tbsCertList : TbsCertList
  signatureAlgorithm : AlgorithmIdentifier
  signatureValue : Octets
  deriving DecidableEq

structure AccessDescription where
  accessMethod : ObjectIdentifier
  accessLocation : GeneralName
  deriving DecidableEq

inductive DistributionPointName where
  | fullName (names : List GeneralName)
  | nameRelativeToCrlIssuer
  deriving DecidableEq

structure DistributionPoint where
  distributionPoint : Option DistributionPointName
  deriving DecidableEq

/-- `OCSPRequest` with a single request. -/
structure OcspRequest where
  reqCert : CertId
  rawRequestExtensions : Option (List Extension)
  deriving DecidableEq

/-- What the proxy calls outside `src/` beyond the verification. A fetch fails on
sending or on reading the body; `httpGet` is told which attempt of the request it
is. `producedAt` and `rawResponseExtensions` read what a `ResponseData` keeps unread. -/
structure ProxyExternals extends Externals where
  parsePem : String → Option Octets
  decodeBase64 : String → Option Octets
  parseBasicConstraints : Octets → Except String Bool
  parseKeyUsage : Octets → Except String Bool
  parseAccessDescriptions : Octets → Except String (List AccessDescription)
  parseDistributionPoints : Octets → Except String (List DistributionPoint)
  parseCrl : Octets → Except String CertificateRevocationList
  writeTbsCertList : TbsCertList → Except String Octets
  writeOctetString : Octets → Except String Octets
  writeOcspRequest : OcspRequest → Except String Octets
  urlScheme : String → Except String String
  fillRandom : Except String Octets
  httpPost : String → Octets → Except String (Except String Octets)
  httpGet : Nat → String → Except String (Except String Octets)
  producedAt : ResponseData → DateTime
  rawResponseExtensions : ResponseData → Option (List Extension)
  debugDateTime : DateTime → String

variable (env : ProxyExternals)

section Requests

/-- `char::is_whitespace`. -/
def isWhitespace (c : Char) : Bool :=
  (0x09 ≤ c.toNat && c.toNat ≤ 0x0D) || (0x2000 ≤ c.toNat && c.toNat ≤ 0x200A) ||
    [0x20, 0x85, 0xA0, 0x1680, 0x2028, 0x2029, 0x202F, 0x205F, 0x3000].contains c.toNat

/-- `str::trim`. -/
def trim (text : String) : String :=
  let trimmedStart := text.toList.dropWhile isWhitespace
  String.ofList (trimmedStart.reverse.dropWhile isWhitespace).reverse

def decodeCert (data : String) : ProxyResult Octets :=
  match env.parsePem data with
  | some contents => .ok contents
  | none =>
      orError (.badRequest "Failed to decode certificate: not valid PEM or base64")
        (env.decodeBase64 (trim data))

/-- The CA flag of the basic constraints, where the extensions can be read. -/
def basicConstraintsCa (extensions : List Extension) : Option Bool :=
  extensionValue extensions basicConstraintsOid env.parseBasicConstraints

def requireCaCert (cert : Certificate) : ProxyResult Unit :=
  let isCa := (cert.extensions.bind (basicConstraintsCa env)).any id
  if !isCa then
    .error (.badRequest "Certificate must be a CA certificate (basicConstraints CA:TRUE)")
  else .ok ()

/-- `KeyCryptoOps::verify_signed_by`. -/
def verifySignedBy (cert : Certificate) (issuerKey : AnyPublicKey) : Except String Unit := do
  let tbsDer ← env.writeTbsCertificate cert
  env.verifySignatureWithSignatureAlgorithm issuerKey cert.signatureAlg cert.signature tbsDer

def verifyCertIssuedBy (cert issuer : Certificate) : ProxyResult Unit := do
  let same ← (namesMatch env.toExternals cert.issuer issuer.subject).mapError .ofOcspError
  if !same then
    .error (.badRequest "Certificate issuer DN does not match supplied issuer's subject DN")
  else do
    (checkAkiMatchesIssuer env.toExternals cert issuer).mapError .ofOcspError
    let issuerKey ← (publicKey env.toExternals issuer).mapError fun e =>
      .badRequest ("Failed to extract issuer public key: " ++ e)
    (verifySignedBy env cert issuerKey).mapError fun e =>
      .badRequest ("Certificate was not signed by the provided issuer: " ++ e)

def validateFetchUrl (raw : String) : Except String Unit := do
  let scheme ← (env.urlScheme raw).mapError fun e => "Invalid URL '" ++ raw ++ "': " ++ e
  if scheme = "http" ∨ scheme = "https" then .ok ()
  else .error ("Disallowed URL scheme '" ++ scheme ++ "' in '" ++ raw ++ "'")

def getOcspUrl (cert : Certificate) : Option String := do
  let extensions ← cert.extensions
  let aia ← extensionValue extensions authorityInformationAccessOid env.parseAccessDescriptions
  aia.findSome? fun ad =>
    match ad.accessLocation with
    | .uniformResourceIdentifier uri => if ad.accessMethod = ocspOid then some uri else none
    | _ => none

def uriOf : GeneralName → Option String
  | .uniformResourceIdentifier uri => some uri
  | _ => none

def getCrlUrls (cert : Certificate) : List String :=
  match cert.extensions.bind fun extensions =>
      extensionValue extensions crlDistributionPointsOid env.parseDistributionPoints with
  | none => []
  | some dps =>
      dps.flatMap fun dp =>
        match dp.distributionPoint with
        | some (.fullName names) => names.filterMap uriOf
        | _ => []

/-- Whether the certificate is read as one of a subscriber; `none` for
extensions that cannot be read. -/
def isSubscriberCert (cert : Certificate) : Option Bool :=
  cert.extensions.map fun extensions => !(basicConstraintsCa env extensions).getD false

/-- `chrono::Duration::days` and `chrono::Duration::hours`, in seconds. -/
def days (n : Int) : Int := n * 86400

def hours (n : Int) : Int := n * 3600

/-- The errors of the checks on the dates, which the two services word differently. -/
structure DateErrors where
  invalidThisUpdate : ProxyError
  invalidNextUpdate : ProxyError
  invalidExtensions : ProxyError
  future : ProxyError
  expired : ProxyError

/-- The checks on the dates that both services make, under their own errors and
intervals: none at all where there is no nextUpdate. -/
def checkDates (errors : DateErrors) (checkInterval : Bool → Int → ProxyResult Unit)
    (cert : Certificate) (thisUpdate : DateTime) : Option DateTime → ProxyResult Unit
  | none => .ok ()
  | some nextUpdate => do
      let thisChrono ← orError errors.invalidThisUpdate (asn1ToChrono env.toExternals thisUpdate)
      let nextChrono ← orError errors.invalidNextUpdate (asn1ToChrono env.toExternals nextUpdate)
      let isSubscriber ← orError errors.invalidExtensions (isSubscriberCert env cert)
      checkInterval isSubscriber (nextChrono - thisChrono)
      if env.now < thisChrono then .error errors.future
      else if env.now > nextChrono then .error errors.expired
      else .ok ()

end Requests

section Ocsp

/-- `AlgorithmParameters::Sha1(Some(()))`. -/
def sha1Algorithm : AlgorithmIdentifier :=
  ⟨sha1Oid, .other sha1Oid (some ⟨.primitive 0x05, [], [0x05, 0x00]⟩)⟩

/-- The encoded request, and its nonce if any. -/
def createOcspRequest (cert issuer : Certificate) (nonce : Bool) :
    ProxyResult (Octets × Octets) := do
  let issuerNameDer ← (env.writeName cert.issuer).mapError fun _ =>
    .responseError "Failed to encode issuer name"
  let certId : CertId :=
    { hashAlgorithm := sha1Algorithm
      issuerNameHash := env.sha1Of issuerNameDer
      issuerKeyHash := env.sha1Of issuer.spki.subjectPublicKey
      serialNumber := cert.serial }
  if nonce then do
    let nonceBytes ← env.fillRandom.mapError fun _ =>
      .responseError "Failed to generate random nonce"
    let nonceDer ← (env.writeOctetString nonceBytes).mapError fun _ =>
      .responseError "Failed to encode nonce"
    let reqDer ← (env.writeOcspRequest ⟨certId, some [⟨nonceOid, nonceDer⟩]⟩).mapError fun _ =>
      .responseError "Failed to encode OCSP request"
    return (reqDer, nonceBytes)
  else do
    let reqDer ← (env.writeOcspRequest ⟨certId, none⟩).mapError fun _ =>
      .responseError "Failed to encode OCSP request"
    return (reqDer, [])

/-- The text for a response status; `none` is success. -/
def responderError : Nat → Option String
  | 0 => none
  | 1 => some "OCSP responder error: Malformed request"
  | 2 => some "OCSP responder error: Internal error"
  | 3 => some "OCSP responder error: Try again later"
  | 4 => some "OCSP responder error: Unused/Invalid"
  | 5 => some "OCSP responder error: Sig required"
  | 6 => some "OCSP responder error: Unauthorized"
  | status => some ("OCSP responder error: Unknown: " ++ toString status)

def getCertStatusStr (single : SingleResponse) : String :=
  match single.certStatus with
  | .good => "good"
  | .revoked => "revoked"
  | .unknown => "unknown"

/-- A nonce that was sent and comes back has to be the same; a missing one is
only logged. -/
def checkNonce (reqNonce : Octets) (data : ResponseData) : ProxyResult Unit :=
  if reqNonce.isEmpty then .ok ()
  else
    match (env.rawResponseExtensions data).bind fun extensions =>
        extensionValue extensions nonceOid env.parseOctetString with
    | none => .ok ()
    | some respNonce =>
        if reqNonce ≠ respNonce then .error (.responseViolation "OCSP nonce mismatch")
        else .ok ()

/-- The validity intervals of 4.9.10 On-line revocation checking requirements. -/
def checkOcspInterval (isSubscriberCert : Bool) (duration : Int) : ProxyResult Unit :=
  if isSubscriberCert then
    if duration < hours 8 then
      .error (.responseViolation "OCSP validity interval less than 8 hours")
    else if duration > days 10 then
      .error (.responseViolation "OCSP validity interval greater than 10 days")
    else .ok ()
  else if duration > days 256 then
    .error (.responseViolation "OCSP validity interval greater than 12 months")
  else .ok ()

/-- The checks on the dates of a response, all of them for one with a nextUpdate. -/
def checkOcspDates (cert : Certificate) (single : SingleResponse) : ProxyResult Unit :=
  checkDates env
    { invalidThisUpdate := .responseViolation "Invalid thisUpdate date"
      invalidNextUpdate := .responseViolation "Invalid nextUpdate date"
      invalidExtensions := .responseViolation "Invalid certificate extensions"
      future := .responseViolation "OCSP response thisUpdate is in the future"
      expired := .responseViolation "OCSP response has expired (past nextUpdate)" }
    checkOcspInterval cert single.thisUpdate single.nextUpdate

def ocspPayload (data : ResponseData) (single : SingleResponse) : OcspResponsePayload where
  status := getCertStatusStr single
  producedAt := some (env.debugDateTime (env.producedAt data))
  thisUpdate := some (env.debugDateTime single.thisUpdate)
  nextUpdate := single.nextUpdate.map env.debugDateTime

/-- The answer that is taken from a response: from its first `SingleResponse`. -/
def answerFromOcsp (cert issuer : Certificate) (reqNonce : Octets)
    (basicResp : BasicOcspResponse) : ProxyResult OcspResponsePayload := do
  let _ ← (verifyOcspSignature env.toExternals basicResp issuer env.now).mapError .ofOcspError
  checkNonce env reqNonce basicResp.tbsResponseData
  match basicResp.tbsResponseData.responses with
  | [] => .error (.responseError "Empty OCSP response")
  | single :: _ =>
      if !certIdMatches env.toExternals single.certId cert issuer then
        .error (.responseViolation "OCSP response certID does not match request")
      else do
        checkOcspDates env cert single
        return ocspPayload env basicResp.tbsResponseData single

def parseCert (text : String) (der : Octets) : ProxyResult Certificate :=
  (env.parseCertificate der).mapError fun _ => .badRequest text

/-- Everything up to the successful response: the certificate, its issuer, the
nonce and the response. -/
def ocspExchange (payload : OcspRequestPayload) :
    ProxyResult (Certificate × Certificate × Octets × BasicOcspResponse) := do
  let certDer ← decodeCert env payload.certificate
  let issuerDer ← decodeCert env payload.issuer
  let cert ← parseCert env "Invalid certificate" certDer
  let issuer ← parseCert env "Invalid issuer certificate" issuerDer
  requireCaCert env cert
  verifyCertIssuedBy env cert issuer
  let ocspUrl ← orError (.badRequest "No OCSP URL in certificate") (getOcspUrl env cert)
  (validateFetchUrl env ocspUrl).mapError .badRequest
  let (reqDer, reqNonce) ← createOcspRequest env cert issuer false
  let resp ← (env.httpPost ocspUrl reqDer).mapError fun e =>
    .responseError ("OCSP request failed: " ++ e)
  let respBytes ← resp.mapError fun e => .responseError ("Failed to read OCSP response: " ++ e)
  let ocspResp ← (env.parseOcspResponse respBytes).mapError fun e =>
    .responseError ("Failed to parse OCSP ASN.1 response: " ++ e)
  match responderError ocspResp.responseStatus with
  | some text => .error (.responseError text)
  | none => do
      let basicResp ← orError (.responseError "Empty or invalid OCSP response")
        ocspResp.responseBytes
      return (cert, issuer, reqNonce, basicResp)

def checkOcsp (payload : OcspRequestPayload) : ProxyResult OcspResponsePayload := do
  let (cert, issuer, reqNonce, basicResp) ← ocspExchange env payload
  answerFromOcsp env cert issuer reqNonce basicResp

end Ocsp

section Crl

/-- `Extensions::from_raw_extensions`: no extension may occur twice. -/
def extensionsOfRaw (raw : Option (List CrlExtension)) : Option (List Extension) :=
  let extensions := (raw.getD []).map CrlExtension.toExtension
  if (extensions.map Extension.extnId).Nodup then some extensions else none

def checkCrlAki (extensions : List Extension) (issuer : Certificate) : ProxyResult Unit :=
  match getExtension extensions authorityKeyIdentifierOid with
  | none => .ok ()
  | some akiExt => do
      let aki ← (env.parseAuthorityKeyIdentifier akiExt.value).mapError fun e =>
        .responseError ("Failed to parse CRL AuthorityKeyIdentifier: " ++ e)
      match aki with
      | none => .ok ()
      | some crlAki =>
          let issuerId :=
            (getSki env.toExternals issuer).getD (env.sha1Of issuer.spki.subjectPublicKey)
          if crlAki ≠ issuerId then
            .error (.responseViolation
              "CRL Authority Key Identifier does not match issuer's Subject Key Identifier")
          else .ok ()

def checkCrlSignUsage (issuer : Certificate) : ProxyResult Unit :=
  match issuer.extensions.bind fun extensions => getExtension extensions keyUsageOid with
  | none => .ok ()
  | some ext => do
      let crlSign ← (env.parseKeyUsage ext.value).mapError fun e =>
        .responseError ("Failed to parse KeyUsage: " ++ e)
      if !crlSign then
        .error (.responseViolation "Issuer certificate does not have CRL Sign key usage")
      else .ok ()

def verifyCrlSignature (crl : CertificateRevocationList) (issuer : Certificate) :
    ProxyResult Unit := do
  let same ← (namesMatch env.toExternals crl.tbsCertList.issuer issuer.subject).mapError
    .ofOcspError
  if !same then
    .error (.responseViolation "CRL issuer DN does not match supplied issuer's subject DN")
  else do
    let crlExtensions ← orError (.responseError "Duplicate CRL extensions")
      (extensionsOfRaw crl.tbsCertList.rawCrlExtensions)
    checkCrlAki env crlExtensions issuer
    checkCrlSignUsage env issuer
    let issuerPubkey ← (publicKey env.toExternals issuer).mapError fun e =>
      .responseError ("Failed to extract issuer public key: " ++ e)
    let tbsDer ← (env.writeTbsCertList crl.tbsCertList).mapError fun _ =>
      .responseError "Failed to encode CRL TBS cert list"
    (checkAlgorithmPermitted env.toExternals crl.signatureAlgorithm).mapError .ofOcspError
    (env.verifySignatureWithSignatureAlgorithm issuerPubkey crl.signatureAlgorithm
      crl.signatureValue tbsDer).mapError fun e =>
        .responseViolation ("CRL signature verification failed: " ++ e)

/-- The validity intervals of 4.9.7 CRL issuance. -/
def checkCrlInterval (isSubscriberCert : Bool) (duration : Int) : ProxyResult Unit :=
  if isSubscriberCert then
    if duration > days 10 then
      .error (.responseViolation
        "CRL validity interval greater than 10 days for subscriber cert")
    else .ok ()
  else if duration > days 366 then
    .error (.responseViolation "CRL validity interval greater than 12 months for CA cert")
  else .ok ()

/-- The checks on the dates of a CRL, all of them for one with a nextUpdate. -/
def checkCrlDates (cert : Certificate) (list : TbsCertList) : ProxyResult Unit :=
  checkDates env
    { invalidThisUpdate := .responseError "Invalid CRL thisUpdate date"
      invalidNextUpdate := .responseError "Invalid CRL nextUpdate date"
      invalidExtensions := .badRequest "Invalid certificate extensions"
      future := .responseViolation "CRL thisUpdate is in the future"
      expired := .responseViolation "CRL has expired (past nextUpdate)" }
    checkCrlInterval cert list.thisUpdate list.nextUpdate

/-- The entry of the certificate decides. -/
def scanRevoked (serial : Octets) : List RevokedCertificate → CrlResponsePayload
  | [] => ⟨false, none, none⟩
  | revoked :: rest =>
      if revoked.userCertificate = serial then
        ⟨true, none, some (env.debugDateTime revoked.revocationDate)⟩
      else scanRevoked serial rest

def answerFromCrl (cert issuer : Certificate) (crl : CertificateRevocationList) :
    ProxyResult CrlResponsePayload := do
  verifyCrlSignature env crl issuer
  checkCrlDates env cert crl.tbsCertList
  return scanRevoked env cert.serial (crl.tbsCertList.revokedCertificates.getD [])

/-- The CRL behind one URL; `none` goes on to the next. -/
def fetchCrl (attempt : Nat) (url : String) : Option CertificateRevocationList :=
  match validateFetchUrl env url with
  | .error _ => none
  | .ok () =>
      match env.httpGet attempt url with
      | .error _ => none
      | .ok resp =>
          match resp with
          | .error _ => none
          | .ok crlBytes => (env.parseCrl crlBytes).toOption

/-- The first CRL that can be read decides, also when it is refused. -/
def searchCrls (cert issuer : Certificate) : Nat → List String → ProxyResult CrlResponsePayload
  | _, [] => .error (.responseError "Failed to fetch or parse any CRL")
  | attempt, url :: rest =>
      match fetchCrl env attempt url with
      | none => searchCrls cert issuer (attempt + 1) rest
      | some crl => answerFromCrl env cert issuer crl

/-- The certificate of a request with its issuer and its distribution points. -/
def crlRequest (payload : CrlRequestPayload) :
    ProxyResult (Certificate × Certificate × List String) := do
  let certDer ← decodeCert env payload.certificate
  let cert ← parseCert env "Invalid certificate" certDer
  let issuerDer ← payload.issuer.mapM (decodeCert env)
  let issuerCert ← issuerDer.mapM (parseCert env "Invalid issuer certificate")
  let issuer ← orError
    (.badRequest "Issuer certificate is required to verify CRL signature") issuerCert
  requireCaCert env cert
  verifyCertIssuedBy env cert issuer
  let crlUrls := getCrlUrls env cert
  if crlUrls.isEmpty then
    .error (.badRequest "No CRL Distribution Points in certificate")
  else return (cert, issuer, crlUrls)

def checkCrl (payload : CrlRequestPayload) : ProxyResult CrlResponsePayload := do
  let (cert, issuer, crlUrls) ← crlRequest env payload
  searchCrls env cert issuer 0 crlUrls

end Crl

end Smime.ValidationProxy
