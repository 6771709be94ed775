import Smime.Decrypt.Content
import Smime.VerifyMessage

/-! `src/decrypt_verify.rs`: a message is decrypted and verified layer by layer,
the content of one layer being the message of the next. -/
namespace Smime

open X690 (Octets)
open X509 Mail Utils

variable (env : CmsExternals)

section Enveloped

def summarizeIssuer (issuerAndSerialNumber : IssuerAndSerialNumber) (keyEnc : String) :
    RecipientInfoSummary :=
  ⟨env.dnToString issuerAndSerialNumber.issuer, hexEncode issuerAndSerialNumber.serialNumber, keyEnc⟩

def keyTransportName (params : AlgorithmParameters) : String :=
  match params with
  | .rsa _ => "RSAES-PKCS#1-v1.5"
  | .rsaesOaep _ => "RSAES-OAEP"
  | .other oid _ => "Unknown (" ++ env.displayOid oid ++ ")"
  | _ => "Unknown"

def summarizeRecipientInfo (ri : RecipientInfo) : List RecipientInfoSummary :=
  match ri with
  | .keyTrans ktri =>
      let keyEnc := keyTransportName env ktri.keyEncryptionAlgorithm.params
      match ktri.rid with
      | .issuerAndSerialNumber ias => [summarizeIssuer env ias keyEnc]
      | .subjectKeyIdentifier ski => [⟨"SubjectKeyIdentifier", hexEncode ski, keyEnc⟩]
  | .keyAgree kari =>
      let keyEnc := ecdhAlgorithmName env kari.keyEncryptionAlgorithm.oid
      kari.recipientEncryptedKeys.map fun rek =>
        match rek.rid with
        | .issuerAndSerialNumber ias => summarizeIssuer env ias keyEnc
        | .rKeyId ski => ⟨"RecipientKeyIdentifier", hexEncode ski, keyEnc⟩
  | _ => []

def summarizeRecipientInfos (recipientInfos : List RecipientInfo) : List RecipientInfoSummary :=
  recipientInfos.flatMap (summarizeRecipientInfo env)

/-- RFC 5652, section 6.1. -/
def expectedEnvelopedDataVersion (envelopedData : EnvelopedData) : UInt8 :=
  let certs := (envelopedData.originatorInfo.bind OriginatorInfo.certs).getD []
  let crls := (envelopedData.originatorInfo.bind OriginatorInfo.crls).getD []
  let hasOtherCrl := crls.any fun choice =>
    match choice with
    | .other _ _ => true
    | .crl => false
  let hasPwriOrOri := envelopedData.recipientInfos.any fun ri =>
    match ri with
    | .password _ | .other => true
    | _ => false
  let allRiV0 := envelopedData.recipientInfos.all fun ri =>
    match ri with
    | .keyTrans ktri => ktri.version == 0
    | _ => false
  if certs.contains .otherCertificate || hasOtherCrl then 4
  else if certs.contains .v2AttrCert || hasPwriOrOri then 3
  else if envelopedData.originatorInfo.isNone && envelopedData.unprotectedAttrs.isNone && allRiV0
  then 0
  else 2

def versionMismatch (structure_ : String) (expected actual : UInt8) : List SmimeError :=
  if actual ≠ expected then [.cmsVersionMismatch structure_ expected actual none] else []

def envelopedCipherName (params : AlgorithmParameters) : String × String :=
  match params with
  | .aes128Cbc _ => ("AES-CBC", "128-bit")
  | .aes192Cbc _ => ("AES-CBC", "192-bit")
  | .aes256Cbc _ => ("AES-CBC", "256-bit")
  | .desEde3Cbc _ => ("3DES-CBC", "168-bit")
  | .rc2Cbc => ("RC2-CBC", "unknown")
  | _ => ("Unknown", "unknown")

def authEnvelopedCipherName (params : AlgorithmParameters) : String × String :=
  match params with
  | .aes128Gcm _ => ("AES-GCM", "128-bit")
  | .aes192Gcm _ => ("AES-GCM", "192-bit")
  | .aes256Gcm _ => ("AES-GCM", "256-bit")
  | .aes128Ccm _ => ("AES-CCM", "128-bit")
  | .aes192Ccm _ => ("AES-CCM", "192-bit")
  | .aes256Ccm _ => ("AES-CCM", "256-bit")
  | _ => ("Unknown", "unknown")

def encryptionInfoOf (cipherName : String × String) (recipientInfos : List RecipientInfo) :
    EncryptionInfo :=
  ⟨cipherName.1, cipherName.2, summarizeRecipientInfos env recipientInfos⟩

/-- What a decryption adds to the result. Warnings count only with a plaintext. -/
def recordDecryption (outcome : Except SmimeError (Option Octets × List SmimeError))
    (result : SmimeValidationResult) : SmimeValidationResult :=
  match outcome with
  | .ok (some plaintext, warnings) => { result.extend warnings with signedContent := some plaintext }
  | .ok (none, _) => result
  | .error e => result.push e

def decryptEnvelopedDataLayer (envelopedData : EnvelopedData) (keys : DecryptionKeys)
    (result : SmimeValidationResult) : SmimeValidationResult :=
  let result := result.extend
    (versionMismatch "EnvelopedData" (expectedEnvelopedDataVersion envelopedData)
      envelopedData.version)
  let cea := envelopedData.encryptedContentInfo.contentEncryptionAlgorithm.params
  let encryptionInfo :=
    encryptionInfoOf env (envelopedCipherName cea) envelopedData.recipientInfos
  recordDecryption (decryptEnvelopedData env envelopedData keys)
    { result with encryptionInfo := some encryptionInfo }

/-- RFC 5083, section 2.1: the version is 0. -/
def decryptAuthEnvelopedDataLayer (authEnveloped : AuthEnvelopedData) (keys : DecryptionKeys)
    (result : SmimeValidationResult) : SmimeValidationResult :=
  let result := result.extend (versionMismatch "AuthEnvelopedData" 0 authEnveloped.version)
  let cea := authEnveloped.authEncryptedContentInfo.contentEncryptionAlgorithm.params
  let encryptionInfo :=
    encryptionInfoOf env (authEnvelopedCipherName cea) authEnveloped.recipientInfos
  recordDecryption (decryptAuthEnvelopedData env authEnveloped keys)
    { result with encryptionInfo := some encryptionInfo }

end Enveloped

section OneLayer

/-- What is fixed over the layers of a message. -/
structure LayerContext where
  target : Target
  trust : TrustConfig
  keys : DecryptionKeys

/-- `Addr::new`. -/
def addrOf (address comment : Option String) : Option Addr :=
  address.map fun address => ⟨comment, some address⟩

/-- The From and Date of the layer itself. -/
def layerHeaders (message : Message) : SmimeValidationResult where
  fromAddress := message.fromAddr.bind Addr.address
  fromComment := message.fromAddr.bind Addr.name
  date := message.date.bind fun date => env.timestampOpt (env.mailTimestamp date)

/-- An opaque SignedData: without a From of its own the layer is verified with
the outermost one. -/
def verifySignedDataLayer (ctx : LayerContext) (signedData : SignedData)
    (outermostFrom : Option Addr) (outermostDate : Option Instant)
    (result : SmimeValidationResult) : SmimeValidationResult :=
  let result := { result with signingSystem := .mimePartSmime }
  let sender := addrOf result.fromAddress result.fromComment <|> outermostFrom
  let date := result.date <|> outermostDate
  match SignedTarget.ofEcontent signedData with
  | .ok signedTarget =>
      verifySignedData env.toExternals signedData signedTarget ctx.trust.stores ctx.trust.caFilePem
        sender date result
  | .error e => result.push e

/-- The CMS of an application/pkcs7-mime message. -/
def pkcs7MimeContent (target : Target) (message : Message) : Except SmimeError Content := do
  let p7Der ← extractSmimeOpaqueP7mDer target message
  (env.parseContentInfo p7Der).mapError .parsePkcs7Msg

def processContent (ctx : LayerContext) (content : Content) (outermostFrom : Option Addr)
    (outermostDate : Option Instant) (result : SmimeValidationResult) : SmimeValidationResult :=
  match content with
  | .envelopedData envelopedData => decryptEnvelopedDataLayer env envelopedData ctx.keys result
  | .authEnvelopedData authEnveloped =>
      decryptAuthEnvelopedDataLayer env authEnveloped ctx.keys result
  | .signedData signedData =>
      verifySignedDataLayer env ctx signedData outermostFrom outermostDate result
  | _ => result.push .noPkcs7Content

def decryptAndVerifyOneLayer (ctx : LayerContext) (eml : Octets) (outermostFrom : Option Addr)
    (outermostDate : Option Instant) : SmimeValidationResult :=
  let result : SmimeValidationResult := {}
  match env.parseMessage eml with
  | none => result.push .parseEml
  | some message =>
      match message.contentType with
      | none => result.push .missingContentType
      | some ct =>
          if smimeContentKind ct ≠ .pkcs7Mime then
            verifySmimeFromEmlDetailed env.toExternals ctx.target eml ctx.trust
          else
            match pkcs7MimeContent env ctx.target message with
            | .error e => result.push e
            | .ok content =>
                processContent env ctx content outermostFrom outermostDate
                  (layerHeaders env message)

end OneLayer

section Layers

def maxDecryptDepth : Nat := 4

def isSmimeMime (message : Message) : Bool :=
  message.contentType.any fun ct =>
    smimeContentKind ct == .pkcs7Mime || smimeContentKind ct == .signedMultipart

/-- The content of a layer, when it is an S/MIME message again. -/
def nestedEml (result : SmimeValidationResult) : Option Octets :=
  result.signedContent.filter fun content =>
    (fromUtf8 env.toExternals content).toOption.isSome && (env.parseMessage content).any isSmimeMime

/-- What the loop over the layers carries. -/
structure LayerState where
  currentEml : Octets
  accumulatedSigners : List SignerValidation := []
  outerEncryptionInfo : Option EncryptionInfo := none
  outerFromAddress : Option String := none
  outerFromComment : Option String := none
  outerDate : Option Instant := none

namespace LayerState

/-- The result of the layer at hand. -/
def process (ctx : LayerContext) (state : LayerState) : SmimeValidationResult :=
  decryptAndVerifyOneLayer env ctx state.currentEml
    (addrOf state.outerFromAddress state.outerFromComment) state.outerDate

/-- The first encryption is remembered, and at depth 0 the headers are. -/
def remember (depth : Nat) (result : SmimeValidationResult) (state : LayerState) : LayerState :=
  let state :=
    { state with
      accumulatedSigners := state.accumulatedSigners ++ result.signers
      outerEncryptionInfo := state.outerEncryptionInfo <|> result.encryptionInfo }
  if depth = 0 then
    { state with
      outerFromAddress := result.fromAddress
      outerFromComment := result.fromComment
      outerDate := result.date }
  else state

/-- The last layer's result, with what it does not have from before. -/
def finish (result : SmimeValidationResult) (state : LayerState) : SmimeValidationResult :=
  { result with
    signers := state.accumulatedSigners
    encryptionInfo := result.encryptionInfo <|> state.outerEncryptionInfo
    fromAddress := result.fromAddress <|> state.outerFromAddress
    fromComment := result.fromComment <|> state.outerFromComment
    date := result.date <|> state.outerDate }

def nestingExceeded (state : LayerState) : SmimeValidationResult where
  signers := state.accumulatedSigners
  failures := [.decryptionFailed ("nesting depth exceeds maximum of " ++ toString maxDecryptDepth)]
  fromAddress := state.outerFromAddress
  fromComment := state.outerFromComment
  date := state.outerDate
  encryptionInfo := state.outerEncryptionInfo

end LayerState

def layerLoop (ctx : LayerContext) : (remaining depth : Nat) → LayerState → SmimeValidationResult
  | 0, _, state => state.nestingExceeded
  | remaining + 1, depth, state =>
      let result := state.process env ctx
      let after := state.remember depth result
      match nestedEml env result with
      | some eml => layerLoop ctx remaining (depth + 1) { after with currentEml := eml }
      | none =>
          -- The encryption of the layer itself was taken if it is the first one.
          let own := if state.outerEncryptionInfo.isNone then none else result.encryptionInfo
          after.finish { result with encryptionInfo := own }

def decryptAndVerifySmimeFromEmlDetailed (ctx : LayerContext) (eml : Octets) :
    SmimeValidationResult :=
  layerLoop env ctx maxDecryptDepth 0 { currentEml := eml }

end Layers

/-- The exit code of `main` after a result. -/
def exitCode (result : SmimeValidationResult) : Nat :=
  if result.failures.isEmpty then 0 else 1

end Smime
