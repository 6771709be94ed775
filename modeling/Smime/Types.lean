import Smime.Errors
import Smime.X690.Length

/-! `src/types.rs`: the result of a verification. Instants are seconds since the
Unix epoch. -/
namespace Smime

open X690 (Octets)

/-- `DateTime<Utc>` of the `chrono` crate. -/
abbrev Instant := Int

/-- Which signing system was used to sign the message. -/
inductive SigningSystem where
  | multipartSignedSmime
  | mimePartSmime
  | multipartSignedPgp
  | mimePartPgp
  | other
  deriving DecidableEq

/-- The status that a verified stapled OCSP response asserts. -/
inductive StapledStatus where
  | good
  | revoked
  | unknown
  deriving DecidableEq

/-- Checks related to the cryptographic signature. -/
structure SignatureChecks where
  signatureMatchesSignedData : Bool := false
  messageDigestMatchesContent : Bool := false
  otherNotes : List SmimeError := []
  rfc9788Hp : Option String := none
  rfc9788 : Bool := false
  certificateEmails : List String := []
  certificateNames : List String := []
  deriving DecidableEq

structure ValidationDetails where
  trustStoreUsed : String
  certificateTrustedValid : Bool
  certificate : String
  revocationStatus : Option StapledStatus
  sctsValid : Option Bool
  otherNotes : List SmimeError
  checks : SignatureChecks
  deriving DecidableEq

/-- Result of one specific signer. -/
structure SignerValidation where
  signatureValid : Bool
  chain : List String
  validationDetails : ValidationDetails
  signingTime : Option Instant
  deriving DecidableEq

structure RecipientInfoSummary where
  issuer : String
  serialNumber : String
  keyEncryptionAlgorithm : String
  deriving DecidableEq

structure EncryptionInfo where
  cipher : String
  keySize : String
  recipients : List RecipientInfoSummary
  deriving DecidableEq

/-- The complete signature result. -/
structure SmimeValidationResult where
  signingSystem : SigningSystem := .other
  signers : List SignerValidation := []
  failures : List SmimeError := []
  signedContent : Option Octets := none
  fromAddress : Option String := none
  fromComment : Option String := none
  date : Option Instant := none
  encryptionInfo : Option EncryptionInfo := none
  deriving DecidableEq

namespace SmimeValidationResult

/-- `result.failures.push`. -/
def push (result : SmimeValidationResult) (err : SmimeError) : SmimeValidationResult :=
  { result with failures := result.failures ++ [err] }

/-- `result.failures.extend`. -/
def extend (result : SmimeValidationResult) (errs : List SmimeError) : SmimeValidationResult :=
  { result with failures := result.failures ++ errs }

@[simp] theorem signers_push (result : SmimeValidationResult) (err : SmimeError) :
    (result.push err).signers = result.signers := rfl

@[simp] theorem signers_extend (result : SmimeValidationResult) (errs : List SmimeError) :
    (result.extend errs).signers = result.signers := rfl

@[simp] theorem fromAddress_push (result : SmimeValidationResult) (err : SmimeError) :
    (result.push err).fromAddress = result.fromAddress := rfl

@[simp] theorem fromAddress_extend (result : SmimeValidationResult) (errs : List SmimeError) :
    (result.extend errs).fromAddress = result.fromAddress := rfl

@[simp] theorem failures_push (result : SmimeValidationResult) (err : SmimeError) :
    (result.push err).failures = result.failures ++ [err] := rfl

@[simp] theorem failures_extend (result : SmimeValidationResult) (errs : List SmimeError) :
    (result.extend errs).failures = result.failures ++ errs := rfl

end SmimeValidationResult

inductive TrustStore where
  | builtin
  | debug
  deriving DecidableEq

namespace TrustStore

/-- The derived `Debug`. -/
def debugName : TrustStore → String
  | builtin => "Builtin"
  | debug => "Debug"

def debugList (stores : List TrustStore) : String :=
  "[" ++ ", ".intercalate (stores.map debugName) ++ "]"

end TrustStore

structure TrustConfig where
  stores : List TrustStore
  caFilePem : Option Octets

/-- The public key families that are accepted, with the SubjectPublicKeyInfo. -/
inductive KeyFamily where
  | rsa
  | p256
  | p384
  | p521
  | ed25519
  | ed448
  | mlDsa44
  | mlDsa65
  | mlDsa87
  deriving DecidableEq

/-- `AnyPublicKey`: one structure for its variants, which all hold the same. -/
structure AnyPublicKey where
  family : KeyFamily
  algorithm : List Nat
  spkiDer : Octets
  deriving DecidableEq

end Smime
