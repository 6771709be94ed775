import Smime.CertInfo
import Smime.CmsUtils

/-! `src/ocsp.rs`: OCSP responses stapled to a SignedData (RFC 5940), the check
of their signatures, and the status that they assert of a certificate. -/
namespace Smime

open X690 (Octets)
open X509 Utils

/-- Why an OCSP response could not be accepted. -/
inductive OcspError where
  | encoding (what : String)
  | disallowedAlgorithm
  | signatureInvalid
  | malformed (what : String)
  deriving DecidableEq

/-- The validity window of a certificate. -/
abbrev Window := Instant × Instant

variable (env : Externals)

def sha256Of (data : Octets) : Octets := env.digest .sha256 data

def namesMatch (a b : Name) : Except OcspError Bool := do
  let aDer ← (env.writeName a).mapError fun _ => .encoding "name"
  let bDer ← (env.writeName b).mapError fun _ => .encoding "name"
  return aDer == bDer

def getSki (cert : Certificate) : Option Octets :=
  cert.extensions.bind fun extensions =>
    extensionValue extensions subjectKeyIdentifierOid env.parseOctetString

def getAkiKeyIdentifier (cert : Certificate) : Option Octets :=
  cert.extensions.bind fun extensions =>
    (extensionValue extensions authorityKeyIdentifierOid env.parseAuthorityKeyIdentifier).join

/-- A child that names its issuer's key names that of `issuer`. -/
def checkAkiMatchesIssuer (child issuer : Certificate) : Except OcspError Unit :=
  match getAkiKeyIdentifier env child with
  | none => .ok ()
  | some akiKeyId =>
      let issuerId := (getSki env issuer).getD (env.sha1Of issuer.spki.subjectPublicKey)
      if akiKeyId ≠ issuerId then .error .signatureInvalid else .ok ()

def checkAlgorithmPermitted (alg : AlgorithmIdentifier) : Except OcspError Unit :=
  if env.permittedSignatureAlgorithms.contains alg then .ok () else .error .disallowedAlgorithm

def certValidity (cert : Certificate) : Option Window := do
  let notBefore ← asn1ToChrono env cert.notBefore
  let notAfter ← asn1ToChrono env cert.notAfter
  return (notBefore, notAfter)

def maxAgeWithoutNextUpdateDays : Int := 7

/-- Whether a response may be honored at `now`. -/
def singleResponseFresh (single : SingleResponse) (now : Instant) (responderValidity : Window) :
    Bool :=
  match asn1ToChrono env single.thisUpdate with
  | none => false
  | some thisUpdate =>
      if now < thisUpdate then false
      else
        let windowEnd : Option Instant :=
          match single.nextUpdate with
          | some nextUpdate => asn1ToChrono env nextUpdate
          | none => some (thisUpdate + maxAgeWithoutNextUpdateDays * 86400)
        match windowEnd with
        | none => false
        | some windowEnd =>
            now ≤ windowEnd && responderValidity.1 ≤ now && now ≤ responderValidity.2

def verifiesUnder (key : AnyPublicKey) (alg : AlgorithmIdentifier) (signature data : Octets) :
    Bool :=
  (env.verifySignatureWithSignatureAlgorithm key alg signature data).toOption.isSome

def matchesResponderId (responderId : ResponderId) (cert : Certificate) : Except OcspError Bool :=
  match responderId with
  | .byName name => namesMatch env name cert.subject
  | .byKey hash => .ok (hash == env.sha1Of cert.spki.subjectPublicKey)

/-- The responder's window when `cert` signed the response at `now`. -/
def signedBy (basicResp : BasicOcspResponse) (tbsDer : Octets) (cert : Certificate)
    (key : AnyPublicKey) (now : Instant) : Option Window :=
  match certValidity env cert with
  | none => none
  | some window =>
      if window.1 ≤ now ∧ now ≤ window.2 ∧
          verifiesUnder env key basicResp.signatureAlgorithm basicResp.signature tbsDer then
        some window
      else none

def mayDelegate (extensions : List Extension) : Bool :=
  let ekus := extensionValue extensions extendedKeyUsageOid env.parseObjectIdentifiers
  ekus.any (·.contains ekuOcspSigningOid) && (getExtension extensions ocspNoCheckOid).isSome

/-- One certificate of the response as a delegated responder. An error ends the
search; `none` goes on to the next certificate. -/
def delegatedWindow (basicResp : BasicOcspResponse) (tbsDer : Octets) (issuer : Certificate)
    (issuerPubkey : AnyPublicKey) (now : Instant) (cert : Certificate) :
    Except OcspError (Option Window) := do
  let candidateMatches ← matchesResponderId env basicResp.tbsResponseData.responderId cert
  if !candidateMatches then return none
  else do
    let issued ← namesMatch env cert.issuer issuer.subject
    if !issued then return none
    else
      match checkAkiMatchesIssuer env cert issuer, checkAlgorithmPermitted env cert.signatureAlg,
          env.writeTbsCertificate cert, cert.extensions, publicKey env cert with
      | .ok (), .ok (), .ok certTbsDer, some extensions, .ok responderPubkey =>
          if verifiesUnder env issuerPubkey cert.signatureAlg cert.signature certTbsDer &&
              mayDelegate env extensions then
            return signedBy env basicResp tbsDer cert responderPubkey now
          else return none
      | _, _, _, _, _ => return none

def findDelegated (basicResp : BasicOcspResponse) (tbsDer : Octets) (issuer : Certificate)
    (issuerPubkey : AnyPublicKey) (now : Instant) :
    List Certificate → Except OcspError Window
  | [] => .error .signatureInvalid
  | cert :: rest => do
      match ← delegatedWindow env basicResp tbsDer issuer issuerPubkey now cert with
      | some window => return window
      | none => findDelegated basicResp tbsDer issuer issuerPubkey now rest

/-- The response was signed by `issuer`, or by a responder it authorized. -/
def verifyOcspSignature (basicResp : BasicOcspResponse) (issuer : Certificate) (now : Instant) :
    Except OcspError Window := do
  let tbsDer ← (env.writeResponseData basicResp.tbsResponseData).mapError fun _ =>
    .encoding "OCSP TBS response data"
  checkAlgorithmPermitted env basicResp.signatureAlgorithm
  let issuerMatches ← matchesResponderId env basicResp.tbsResponseData.responderId issuer
  let issuerPubkey ← (publicKey env issuer).mapError fun e => .malformed ("issuer public key: " ++ e)
  let direct := if issuerMatches then signedBy env basicResp tbsDer issuer issuerPubkey now else none
  match direct with
  | some window => return window
  | none => findDelegated env basicResp tbsDer issuer issuerPubkey now (basicResp.certs.getD [])

/-- Whether a CertID identifies `leaf` as issued by `issuer`. -/
def certIdMatches (certId : CertId) (leaf issuer : Certificate) : Bool :=
  match env.writeName leaf.issuer with
  | .error _ => false
  | .ok issuerNameDer =>
      let hashed (hash : Octets → Octets) : Bool :=
        certId.issuerNameHash == hash issuerNameDer &&
          certId.issuerKeyHash == hash issuer.spki.subjectPublicKey &&
            certId.serialNumber == leaf.serial
      if certId.hashAlgorithm.oid = sha1Oid then hashed env.sha1Of
      else if certId.hashAlgorithm.oid = sha256Oid then hashed (sha256Of env)
      else false

/-- The stapled responses, without malformed and unsuccessful ones. -/
def extractStapledOcsp (signedData : SignedData) : List BasicOcspResponse :=
  (signedData.crls.getD []).filterMap fun choice =>
    match choice with
    | .crl => none
    | .other format info =>
        if format ≠ riOcspOid then none
        else
          match env.parseOcspResponse info with
          | .error _ => none
          | .ok resp => if resp.responseStatus ≠ 0 then none else resp.responseBytes

/-- What one stapled response says of `leaf`. -/
def stapleStatus (leaf issuer : Certificate) (now : Instant) (stapled : BasicOcspResponse) :
    Option CertStatus :=
  match stapled.tbsResponseData.responses.find? fun single =>
      certIdMatches env single.certId leaf issuer with
  | none => none
  | some single =>
      match verifyOcspSignature env stapled issuer now with
      | .error _ => none
      | .ok window => if singleResponseFresh env single now window then some single.certStatus else none

/-- `firstNonRevoked` is the status found so far; a revocation ends the search. -/
def searchStaples (leaf issuer : Certificate) (now : Instant) :
    Option StapledStatus → List BasicOcspResponse → Option StapledStatus
  | firstNonRevoked, [] => firstNonRevoked
  | firstNonRevoked, stapled :: rest =>
      match stapleStatus env leaf issuer now stapled with
      | some .revoked => some .revoked
      | some .good => searchStaples leaf issuer now (firstNonRevoked <|> some .good) rest
      | some .unknown => searchStaples leaf issuer now (firstNonRevoked <|> some .unknown) rest
      | none => searchStaples leaf issuer now firstNonRevoked rest

def stapledStatusFor (staples : List BasicOcspResponse) (leaf issuer : Certificate)
    (now : Instant) : Option StapledStatus :=
  searchStaples env leaf issuer now none staples

end Smime
