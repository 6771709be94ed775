/-! `SmimeError` of `src/errors.rs`: what a verification or decryption records.
The texts of the locales are not part of the model. -/
namespace Smime

/-- Errors, and from `cmsVersionMismatch` on warnings. -/
inductive SmimeError where
  | readEml (path err : String)
  | parseEml
  | missingContentType
  | missingBoundary
  | missingFrom
  | noSmimeSig
  | buildVerifier (err : String)
  | parseInner
  | msgNotEnoughParts
  | noSigSubpart
  | parsePkcs7Sig (err : String)
  | extractMultipart (err : String)
  | noPkcs7Mime
  | parsePkcs7Msg (err : String)
  | noPkcs7Content
  | loadCaBundle (store err : String)
  | policySetup (step err : String)
  | chainValidation (fp : String) (idx : Nat) (err : String)
  | unsupportedPublicKey (detail : String)
  | digestVerify (err : String)
  | unsupportedDigestAlg (alg : String) (idx : Nat)
  | disallowedDigestAlg (alg : String) (idx : Nat)
  | unsupportedSignatureAlg (alg : String) (idx : Nat)
  | disallowedSignatureAlg (alg : String) (idx : Nat)
  | sigVerify (err : String)
  | signerCertNotFound (id : String)
  | otherNameParseError (err hexData : String)
  | missingContentTypeAttr (idx : Nat)
  | contentTypeMismatch (idx : Nat)
  | malformedContentTypeAttr (idx : Nat)
  | unexpectedEContentType
  | decryptionFailed (err : String)
  | unsupportedKeyEncryptionAlg (alg : String)
  | unsupportedContentEncryptionAlg (alg : String)
  | noMatchingRecipient
  | privateKeyParseFailed (err : String)
  | stapledOcspRevoked (subject : String)
  | pkcs12PasswordRequired
  | pkcs12WrongPassword
  | pkcs12NoCertificate
  | pkcs12NoPrivateKey
  | pkcs12Parse (err : String)
  | raw (text : String)
  | cmsVersionMismatch (structure_ : String) (expected actual : UInt8) (idx : Option Nat)
  | attributeCardinality (attr : String) (idx : Nat)
  | dateMismatch (msg dateA dateB : String)
  | wildDuckWorkaround
  | certPolicyWarning (detail : String)
  | digestAlgorithmWarning (detail : String) (idx : Nat)
  | algorithmProtectionMismatch (field : String) (idx : Nat)
  | localPartCaseMismatch (from_ cert : String)
  | rsaPssParameterWarning (detail : String) (idx : Nat)
  | pbkdf2LowIterationCount (iterations : Nat)
  | weakContentEncryptionAlg (alg : String)
  | weakKeyEncryptionAlg (alg : String)
  deriving DecidableEq

end Smime
