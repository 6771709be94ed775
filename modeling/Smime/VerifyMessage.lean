import Smime.ClearSigned
import Smime.VerifySignedData

/-! `verify_smime_from_eml_detailed` of `src/lib.rs`: the verification of a
clear-signed or opaque message. -/
namespace Smime

open X690 (Octets)
open X509 Mail Utils

variable (env : Externals)

def parseSignedData (der : Octets) (isDetached : Bool) : Except SmimeError SignedData := do
  let content ← (env.parseContentInfo der).mapError fun e =>
    if isDetached then .parsePkcs7Sig e else .parsePkcs7Msg e
  match content with
  | .signedData signedData => .ok signedData
  | _ => .error .noPkcs7Content

/-- The From and Date headers of a message, as the verification takes them. -/
def outerDateOf (message : Message) : Option Instant :=
  message.date.bind (mailParserDateToChrono env)

/-- The content and the signature of a multipart/signed message. -/
def clearSignedInput (target : Target) (message : Message) (emlContent : Octets) :
    Except SmimeError (Octets × SignedData) := do
  let (detachedContent, p7sDer) ← extractSmimeClearSignedContent target message emlContent
  let signedData ← parseSignedData env p7sDer true
  return (detachedContent, signedData)

def opaqueInput (target : Target) (message : Message) : Except SmimeError SignedData := do
  let p7mDer ← extractSmimeOpaqueP7mDer target message
  parseSignedData env p7mDer false

def verifyClearSigned (target : Target) (message : Message) (emlContent : Octets)
    (trust : TrustConfig) (result : SmimeValidationResult) : SmimeValidationResult :=
  let result := { result with signingSystem := .multipartSignedSmime }
  match clearSignedInput env target message emlContent with
  | .error e => result.push e
  | .ok (detachedContent, signedData) =>
      verifySignedData env signedData (.detached detachedContent) trust.stores trust.caFilePem
        message.fromAddr (outerDateOf env message) result

def verifyOpaque (target : Target) (message : Message) (trust : TrustConfig)
    (result : SmimeValidationResult) : SmimeValidationResult :=
  let result := { result with signingSystem := .mimePartSmime }
  match opaqueInput env target message with
  | .error e => result.push e
  | .ok signedData =>
      match SignedTarget.ofEcontent signedData with
      | .ok signedTarget =>
          verifySignedData env signedData signedTarget trust.stores trust.caFilePem
            message.fromAddr (outerDateOf env message) result
      | .error e => result.push e

def lacksBoundary (ct : ContentType) : Bool :=
  eqIgnoreAsciiCase ct.cType "multipart" && (ct.attribute "boundary").isNone

def verifySmimeFromEmlDetailed (target : Target) (emlContent : Octets) (trust : TrustConfig) :
    SmimeValidationResult :=
  let result : SmimeValidationResult := {}
  match env.parseMessage emlContent with
  | none => result.push .parseEml
  | some message =>
      match message.contentType with
      | none => result.push .missingContentType
      | some ct =>
          if lacksBoundary ct then result.push .missingBoundary
          else
            match smimeContentKind ct with
            | .signedMultipart => verifyClearSigned env target message emlContent trust result
            | .pkcs7Mime => verifyOpaque env target message trust result
            | _ => result.push .noSmimeSig

end Smime
