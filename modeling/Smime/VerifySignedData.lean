import Smime.Chain
import Smime.PrepareSigner
import Smime.Sender

/-! `verify_signed_data` of `src/lib.rs`: the loop over the signers of a
SignedData and, for each of them, over the certificates that match it. The
failures and the signed content go to the one shared result. -/
namespace Smime

open X690 (Octets)
open X509 Mail Utils

def crlf : Octets := [13, 10]

section WildDuck

/-- `before` is what stands in front, last octet first. A CRLF goes before every
boundary that has none. -/
def insertCrlfs (boundary : Option Octets) : Octets → Octets → Octets
  | _, [] => []
  | before, octet :: rest =>
      (if boundary.any (·.isPrefixOf (octet :: rest)) ∧ ¬ crlf.reverse.isPrefixOf before then crlf
      else []) ++ octet :: insertCrlfs boundary (octet :: before) rest

/-- Works around boundaries without a CRLF in front. -/
def normalizeWildduckContent (content : Octets) (innerMessage : Message) : Octets :=
  let boundary := (innerMessage.contentType.bind (·.attribute "boundary")).map fun b =>
    crlf ++ utf8 "--" ++ utf8 b
  insertCrlfs boundary [] content ++ if crlf.isSuffixOf content then [] else crlf

end WildDuck

/-- What the signatures of a SignedData cover. -/
inductive SignedTarget where
  | detached (content : Octets)
  | econtent (content : Octets)
  deriving DecidableEq

variable (env : Externals)

/-- An encoded SET OF Attribute with a content type and a message digest. -/
def econtentLooksLikeSignedAttrs (content : Octets) : Bool :=
  match env.parseAttributes content with
  | .error _ => false
  | .ok attrs =>
      (attrs.any fun attr => attr.typeId == contentTypeOid) &&
        attrs.any fun attr => attr.typeId == messageDigestOid

namespace SignedTarget

def content : SignedTarget → Octets
  | detached content => content
  | econtent content => content

def ofEcontent (signedData : SignedData) : Except SmimeError SignedTarget :=
  match signedData.content with
  | .data (some data) => .ok (econtent data)
  | _ => .error .noPkcs7Content

/-- Key-independent guard; an error rejects the signer. -/
def precheckSigner (target : SignedTarget) (hasSignedAttrs : Bool) : Option SmimeError :=
  match target with
  | detached _ =>
      if hasSignedAttrs then none
      else some (.sigVerify "detached signature requires signedAttrs")
  | econtent content =>
      if !hasSignedAttrs && econtentLooksLikeSignedAttrs env content then
        some (.sigVerify
          "eContent without signedAttrs is a DER-encoded SignedAttributes (possible EUF-CMA forgery)")
      else none

/-- What `verify_candidate` leaves behind. -/
structure CandidateRun where
  verifies : Bool
  checks : SignatureChecks
  result : SmimeValidationResult

def failureOf {α : Type} : Except SmimeError α → List SmimeError
  | .ok _ => []
  | .error err => [err]

def passed {α : Type} : Except SmimeError α → Bool
  | .ok _ => true
  | .error _ => false

/-- One candidate key on external content. The digest is tried on the content
first, then on its normalization; a failure of the first is recorded only when
both fail. -/
def verifyDetachedCandidate (content : Octets) (pk : AnyPublicKey) (signer : SignerInfo)
    (innerMessage : Message) (checks : SignatureChecks) (result : SmimeValidationResult) :
    CandidateRun :=
  let digest :=
    verifyMessageDigest env signer.digestAlgorithm signer.authenticatedAttributes content
  let signature := verifyDetachedSignature env pk signer.digestAlgorithm
    signer.digestEncryptionAlgorithm (signer.authenticatedAttributes.getD []) signer.encryptedDigest
  let checks :=
    { checks with
      messageDigestMatchesContent := checks.messageDigestMatchesContent || passed digest
      signatureMatchesSignedData := checks.signatureMatchesSignedData || passed signature }
  let result := result.extend (failureOf signature)
  if checks.signatureMatchesSignedData && checks.messageDigestMatchesContent then
    ⟨true, checks, result⟩
  else
    let normalized := normalizeWildduckContent content innerMessage
    let again :=
      verifyMessageDigest env signer.digestAlgorithm signer.authenticatedAttributes normalized
    let checks :=
      { checks with
        messageDigestMatchesContent := checks.messageDigestMatchesContent || passed again }
    if checks.messageDigestMatchesContent && checks.signatureMatchesSignedData then
      ⟨true, checks, { result with signedContent := some normalized }.push .wildDuckWorkaround⟩
    else ⟨false, checks, result.extend (failureOf digest)⟩

/-- One candidate key on encapsulated content. -/
def verifyEcontentCandidate (content : Octets) (pk : AnyPublicKey) (signer : SignerInfo)
    (hasSignedAttrs : Bool) (checks : SignatureChecks) (result : SmimeValidationResult) :
    CandidateRun :=
  let digest :=
    if hasSignedAttrs then
      verifyMessageDigest env signer.digestAlgorithm signer.authenticatedAttributes content
    else .ok ()
  let signature := verifyEcontentSignature env pk signer.digestAlgorithm
    signer.digestEncryptionAlgorithm signer.authenticatedAttributes signer.encryptedDigest content
  let checks :=
    { checks with
      messageDigestMatchesContent :=
        checks.messageDigestMatchesContent || (hasSignedAttrs && passed digest)
      signatureMatchesSignedData := checks.signatureMatchesSignedData || passed signature }
  ⟨checks.signatureMatchesSignedData && (!hasSignedAttrs || checks.messageDigestMatchesContent),
    checks, (result.extend (failureOf digest)).extend (failureOf signature)⟩

def verifyCandidate (target : SignedTarget) (pk : AnyPublicKey) (signer : SignerInfo)
    (hasSignedAttrs : Bool) (innerMessage : Message) (checks : SignatureChecks)
    (result : SmimeValidationResult) : CandidateRun :=
  match target with
  | detached content => verifyDetachedCandidate env content pk signer innerMessage checks result
  | econtent content => verifyEcontentCandidate env content pk signer hasSignedAttrs checks result

end SignedTarget

section Preparation

def extractCertificates (signedData : SignedData) : List Certificate :=
  (signedData.certificates.getD []).filterMap fun choice =>
    match choice with
    | .certificate cert => some cert
    | _ => none

/-- RFC 5652, section 5.1. -/
def expectedSignedDataVersion (signedData : SignedData) (signers : List SignerInfo) : UInt8 :=
  let certificates := signedData.certificates.getD []
  let hasOtherCrl := (signedData.crls.getD []).any fun choice =>
    match choice with
    | .other _ _ => true
    | .crl => false
  let hasSkiSigner := signers.any fun signer =>
    match signer.issuerAndSerialNumber with
    | .subjectKeyIdentifier _ => true
    | .issuerAndSerialNumber _ => false
  if certificates.contains .otherCertificate || hasOtherCrl then 5
  else if certificates.contains .v2AttrCert then 4
  else if certificates.contains .v1AttrCert || hasSkiSigner || signedData.content = .other then 3
  else 1

def validateSignedDataVersion (signedData : SignedData) (signers : List SignerInfo) :
    Option SmimeError :=
  let expected := expectedSignedDataVersion signedData signers
  if signedData.version ≠ expected then
    some (.cmsVersionMismatch "SignedData" expected signedData.version none)
  else none

structure Prepared where
  certs : List Certificate
  signers : List SignerInfo
  caCerts : List Certificate
  innerMessage : Message

/-- The result, and `none` when the verification ends here. -/
def prepareSignedDataVerification (signedData : SignedData) (contentForDisplay : Octets)
    (trustStores : List TrustStore) (caFilePem : Option Octets) (outerFrom : Option Addr)
    (outerDate : Option Instant) (result : SmimeValidationResult) :
    SmimeValidationResult × Option Prepared :=
  match signedData.content with
  | .other => (result.push .unexpectedEContentType, none)
  | .data _ =>
      let certs := extractCertificates signedData
      let signers := signedData.signerInfos
      let result := result.extend (validateSignedDataVersion signedData signers).toList
      let result := { result with signedContent := some contentForDisplay }
      match loadCaCerts env trustStores caFilePem with
      | .error e => (result.push e, none)
      | .ok caCerts =>
          let result :=
            match outerFrom with
            | some address =>
                { result with
                  fromAddress := address.address.map (emailDomainToALabel env)
                  fromComment := address.name }
            | none => result.push .missingFrom
          let result := { result with date := outerDate }
          match env.parseMessage contentForDisplay with
          | none => (result.push .parseInner, none)
          | some innerMessage => (result, some { certs, signers, caCerts, innerMessage })

end Preparation

section Signers

/-- What is fixed while the signers of one SignedData are verified. -/
structure VerifyContext where
  target : SignedTarget
  certs : List Certificate
  signers : List SignerInfo
  innerMessage : Message
  verifier : env.Verifier
  staples : List BasicOcspResponse
  trustStoreLabel : String
  outerDate : Option Instant

variable {env} (ctx : VerifyContext env)

/-- The candidates in order, up to the first whose key verifies: that one with
its checks, and the result after the failures of the others. -/
def findLeaf (signer : SignerInfo) (hasSignedAttrs : Bool) (idx : Nat) :
    List Certificate → SmimeValidationResult →
      SmimeValidationResult × Option (Certificate × SignatureChecks)
  | [], result => (result, none)
  | candidate :: rest, result =>
      match publicKey env candidate with
      | .error e =>
          findLeaf signer hasSignedAttrs idx rest
            (result.push (.chainValidation (fingerprintOrError env candidate) idx e))
      | .ok pk =>
          let run := ctx.target.verifyCandidate env pk signer hasSignedAttrs ctx.innerMessage {} result
          if run.verifies then (run.result, some (candidate, run.checks))
          else findLeaf signer hasSignedAttrs idx rest run.result

/-- The entry of a signer whose signature verifies, before its chain does. -/
def buildSignerEntry (signerLeaf : Certificate) (signingTime : Option Instant)
    (checks : SignatureChecks) : SignerValidation :=
  let info := extractCertInfo env signerLeaf
  let note := checkDateMismatch env signingTime ctx.outerDate
    "The time difference between the signing time and outer date header is larger than one hour"
  { signatureValid := false
    chain := []
    validationDetails :=
      { trustStoreUsed := ctx.trustStoreLabel
        certificateTrustedValid := false
        certificate :=
          match env.writeCertificate signerLeaf with
          | .ok der => (env.encodePem "CERTIFICATE" der).replace "\r\n" "\n"
          | .error _ => ""
        revocationStatus := none
        sctsValid := none
        otherNotes := note.toList
        checks :=
          { checks with
            certificateEmails := checks.certificateEmails ++ info.emails
            certificateNames := checks.certificateNames ++ info.names
            otherNotes := checks.otherNotes ++ info.notes } }
    signingTime }

/-- The entry with the verdict on the chain and on the signature as a whole. -/
def judge (entry : SignerValidation) (chain : ChainValidation) (hasSignedAttrs : Bool) :
    SignerValidation :=
  let checks := entry.validationDetails.checks
  let cryptoValid := checks.signatureMatchesSignedData &&
    (checks.messageDigestMatchesContent || !hasSignedAttrs)
  { entry with
    chain := chain.chain
    validationDetails :=
      { entry.validationDetails with
        certificateTrustedValid := chain.trusted
        revocationStatus := chain.revocationStatus }
    signatureValid := cryptoValid && chain.trusted }

/-- The result after one signer, and its entry if it has one. -/
def verifySigner (idx : Nat) (signer : SignerInfo) (result : SmimeValidationResult) :
    SmimeValidationResult × Option SignerValidation :=
  let (failures, prepared) := prepareSigner env signer ctx.certs idx
  let result := result.extend failures
  match prepared with
  | none => (result, none)
  | some (signingTime, candidates) =>
      let hasSignedAttrs := signer.authenticatedAttributes.isSome
      match ctx.target.precheckSigner env hasSignedAttrs with
      | some err => (result.push err, none)
      | none =>
          match findLeaf ctx signer hasSignedAttrs idx candidates result with
          | (result, none) => (result, none)
          | (result, some (signerLeaf, checks)) =>
              let checks :=
                match ctx.innerMessage.contentType with
                | some ct =>
                    { checks with
                      rfc9788 := (extractRfc9788Info ct).1
                      rfc9788Hp := (extractRfc9788Info ct).2 }
                | none => checks
              let chain := validateChain env signerLeaf ctx.certs ctx.verifier ctx.staples idx
              let entry := buildSignerEntry ctx signerLeaf signingTime checks
              (result.extend chain.failures, some (judge entry chain hasSignedAttrs))

def pushNotes (entry : SignerValidation) (notes : List SmimeError) : SignerValidation :=
  { entry with
    validationDetails :=
      { entry.validationDetails with
        otherNotes := entry.validationDetails.otherNotes ++ notes } }

/-- The loop over the signers carries the resolver and the result. -/
structure SignerLoop where
  senderResolver : SenderResolver := {}
  result : SmimeValidationResult

/-- A valid signer may resolve the sender. -/
def resolveSender (entry : SignerValidation) (loop : SignerLoop) : SignerValidation × SignerLoop :=
  if !entry.signatureValid then (entry, loop)
  else
    let innerDate := ctx.innerMessage.date.bind (mailParserDateToChrono env)
    let (entry, loop) :=
      match ctx.innerMessage.fromAddr with
      | none => (entry, loop)
      | some innerFrom =>
          let checks := entry.validationDetails.checks
          let (resolver, updated, warnings) := loop.senderResolver.update env innerFrom.address
            innerFrom.name checks.certificateEmails checks.certificateNames
          (pushNotes entry warnings,
            { senderResolver := resolver
              result :=
                if updated then
                  { loop.result with
                    fromAddress := resolver.fromAddress
                    fromComment := resolver.fromComment
                    date := innerDate }
                else loop.result })
    let note := checkDateMismatch env ctx.outerDate innerDate
      "The time difference between the outer date and the inner date is larger than one hour"
    (pushNotes entry note.toList, loop)

/-- One iteration of the loop over the signers. -/
def signerStep (loop : SignerLoop) (signer : Nat × SignerInfo) : SignerLoop :=
  match verifySigner ctx signer.1 signer.2 loop.result with
  | (result, none) => { loop with result }
  | (result, some entry) =>
      let (entry, loop) := resolveSender ctx entry { loop with result }
      { loop with result := { loop.result with signers := loop.result.signers ++ [entry] } }

end Signers

def indexed (signers : List SignerInfo) : List (Nat × SignerInfo) :=
  signers.mapIdx fun idx signer => (idx, signer)

/-- The context of the loop over the signers, or the failure that prevents it. -/
def verifyContext (signedData : SignedData) (target : SignedTarget)
    (trustStores : List TrustStore) (outerDate : Option Instant) (prepared : Prepared) :
    Except SmimeError (VerifyContext env) := do
  let builder ← buildPolicyBuilder env prepared.caCerts
  let verifier ← (env.buildEmailVerifier builder).mapError .buildVerifier
  return {
    target
    certs := prepared.certs
    signers := prepared.signers
    innerMessage := prepared.innerMessage
    verifier
    staples := extractStapledOcsp env signedData
    trustStoreLabel := TrustStore.debugList trustStores
    outerDate }

/-- What precedes the loop over the signers: the result, and `none` when the
verification ends before it. -/
def startVerification (signedData : SignedData) (target : SignedTarget)
    (trustStores : List TrustStore) (caFilePem : Option Octets) (outerFrom : Option Addr)
    (outerDate : Option Instant) (result : SmimeValidationResult) :
    SmimeValidationResult × Option (VerifyContext env) :=
  match prepareSignedDataVerification env signedData target.content trustStores caFilePem outerFrom
      outerDate result with
  | (result, none) => (result, none)
  | (result, some prepared) =>
      match verifyContext env signedData target trustStores outerDate prepared with
      | .error e => (result.push e, none)
      | .ok ctx => (result, some ctx)

def verifySignedData (signedData : SignedData) (target : SignedTarget)
    (trustStores : List TrustStore) (caFilePem : Option Octets) (outerFrom : Option Addr)
    (outerDate : Option Instant) (result : SmimeValidationResult) : SmimeValidationResult :=
  match startVerification env signedData target trustStores caFilePem outerFrom outerDate
      result with
  | (result, none) => result
  | (result, some ctx) => ((indexed ctx.signers).foldl (signerStep ctx) { result }).result

end Smime
