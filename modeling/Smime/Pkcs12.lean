import Smime.Decrypt.Content

/-! `src/pkcs12_utils.rs`: a private key and a leaf certificate out of a PKCS#12
file. -/
namespace Smime.Pkcs12

open X690 (Octets)
open X509 Mail BlockModes

/-- PKCS#12 read failure. -/
inductive P12Error where
  | wrongPassword (msg : String)
  | noLeafCertificate
  | noPrivateKey
  | other (msg : String)
  deriving DecidableEq

/-- Parameters of a password-based encryption. -/
inductive PbeParameters where
  | pbes2 (keyDerivationFunc encryptionScheme : AlgorithmIdentifier)
  | other
  deriving DecidableEq

structure PbeAlgorithm where
  oid : ObjectIdentifier
  params : PbeParameters
  deriving DecidableEq

/-- The content of a ContentInfo, as far as the AuthenticatedSafe uses it. -/
inductive SafeContent where
  | data (content : Option Octets)
  | encryptedData (contentEncryptionAlgorithm : PbeAlgorithm) (encryptedContent : Option Octets)
  | other
  deriving DecidableEq

structure MacData where
  algorithm : NestedAlgorithm
  digest : Octets
  salt : Octets
  iterations : Nat
  deriving DecidableEq

structure Pfx where
  version : Nat
  authSafe : SafeContent
  macData : Option MacData
  deriving DecidableEq

inductive CertType where
  | x509 (certificate : Tlv)
  | other
  deriving DecidableEq

inductive BagValue where
  | keyBag (key : Tlv)
  | shroudedKeyBag (encryptionAlgorithm : PbeAlgorithm) (encryptedData : Octets)
  | certBag (certValue : CertType)
  | other
  deriving DecidableEq

/-- What reading a PKCS#12 file calls outside `src/` beyond decryption.
`duplicateExtension` is what `Certificate::extensions` fails with. -/
structure P12Externals extends CmsExternals where
  parsePfx : Octets → Except String Pfx
  parseAuthenticatedSafe : Octets → Except String (List SafeContent)
  parseSafeContents : Octets → Except String (List BagValue)
  parseBasicConstraints : Octets → Except String Bool
  duplicateExtension : Certificate → ObjectIdentifier
  deriveKeyUtf8 : KdfHash → (password : String) → (salt : Octets) → (rounds keyLen : Nat) →
    Except String Octets
  deriveKey : KdfHash → (password salt : Octets) → (rounds keyLen : Nat) → Octets
  verifyHmac : KdfHash → (key data mac : Octets) → Except String Bool

variable (env : P12Externals)

section Reading

def basicConstraintsOid : ObjectIdentifier := [2, 5, 29, 19]

def pbes2Decrypt (alg : PbeAlgorithm) (password : String) (ciphertext : Octets) :
    Except P12Error Octets :=
  match alg.params with
  | .other => .error (.other
      ("Unsupported PBE scheme: " ++ env.displayOid alg.oid ++ " (only PBES2 supported)"))
  | .pbes2 keyDerivationFunc enc =>
      match keyDerivationFunc.params with
      | .pbkdf2 pbkdf2 => do
          let (cipher, iv) ← orError
            (.other ("Unsupported PBES2 cipher: " ++ env.displayOid enc.oid))
            (cbcCipher env.toCmsExternals enc.params)
          let (key, _) ← (derivePbkdf2Key env.toCmsExternals pbkdf2 password cipher.keySize).mapError
            .other
          if key.length ≠ cipher.keySize ∨ iv.length ≠ cipher.blockSize then
            .error (.other ("cipher init: " ++ env.invalidLength))
          else
            orError (.wrongPassword ("cipher decrypt: " ++ env.unpadError))
              (cbcDecrypt cipher.blockSize (env.decryptBlock cipher key) iv ciphertext)
      | _ => .error (.other ("Unsupported PBES2 KDF: " ++ env.displayOid keyDerivationFunc.oid ++
          " (only PBKDF2 supported)"))

/-- The MAC under the key of `hash`: an empty password may also be no password. -/
def verifyMac (macData : MacData) (authSafeBytes : Octets) (password : String) (hash : KdfHash)
    (macLen : Nat) : Except P12Error Unit := do
  let verify (macKey : Octets) : Except P12Error Unit := do
    let valid ← (env.verifyHmac hash macKey authSafeBytes macData.digest).mapError fun e =>
      .other ("HMAC init: " ++ e)
    if valid then .ok ()
    else .error (.wrongPassword
      "PKCS#12 MAC verification failed (wrong password or corrupted file)")
  let bmpKey ←
    (env.deriveKeyUtf8 hash password macData.salt macData.iterations macLen).mapError fun e =>
      .other ("MAC key derivation: " ++ e)
  match verify bmpKey with
  | .error (.wrongPassword msg) =>
      if password.isEmpty then
        verify (env.deriveKey hash [] macData.salt macData.iterations macLen)
      else .error (.wrongPassword msg)
  | result => result

def verifyPfxMac (macData : MacData) (authSafeBytes : Octets) (password : String) :
    Except P12Error Unit :=
  if macData.salt.length < 8 then
    .error (.other ("PKCS#12 MAC salt length " ++ toString macData.salt.length ++
      " is below minimum of 8 bytes"))
  else if macData.iterations = 0 then .error (.other "PKCS#12 MAC iteration count 0 is invalid")
  else if macData.iterations > 100000000 then
    .error (.other ("PKCS#12 MAC iteration count " ++ toString macData.iterations ++
      " is unreasonably high"))
  else
    match macData.algorithm.params with
    | .sha1 _ => verifyMac env macData authSafeBytes password .sha1 20
    | .sha256 _ => verifyMac env macData authSafeBytes password .sha256 32
    | .sha384 _ => verifyMac env macData authSafeBytes password .sha384 48
    | .sha512 _ => verifyMac env macData authSafeBytes password .sha512 64
    | _ => .error (.other ("Unsupported MAC digest algorithm: " ++
        env.displayOid macData.algorithm.oid))

/-- The entries of the AuthenticatedSafe of a file whose MAC, if present, verifies. -/
def authenticatedSafe (data : Octets) (password : String) :
    Except P12Error (List SafeContent) := do
  let pfx ← (env.parsePfx data).mapError fun e => .other ("PFX parse: " ++ e)
  if pfx.version ≠ 3 then
    .error (.other ("Unsupported PFX version: " ++ toString pfx.version))
  else
    match pfx.authSafe with
    | .data (some authSafeBytes) => do
        match pfx.macData with
        | some macData => verifyPfxMac env macData authSafeBytes password
        | none => .ok ()
        (env.parseAuthenticatedSafe authSafeBytes).mapError fun e =>
          .other ("auth_safe decode: " ++ e)
    | _ => .error (.other "PKCS#12 authSafe is not id-data")

/-- The plaintext SafeContents of one entry; `none` for a type that is skipped. -/
def openEntry (password : String) : SafeContent → Except P12Error (Option Octets)
  | .data (some contents) => .ok (some contents)
  | .encryptedData alg encryptedContent => do
      let ciphertext ← orError (.other "EncryptedData has no content") encryptedContent
      let contents ← pbes2Decrypt env alg password ciphertext
      return some contents
  | .data none => .ok none
  | .other => .ok none

def openSafeContents (data : Octets) (password : String) : Except P12Error (List Octets) := do
  let authSafe ← authenticatedSafe env data password
  let allContents ← authSafe.mapM (openEntry env password)
  return allContents.reduceOption

def parseBags (contents : Octets) : Except P12Error (List BagValue) :=
  (env.parseSafeContents contents).mapError fun e => .other ("SafeContents decode: " ++ e)

end Reading

section Keys

/-- The private key that a bag holds, if it is one for keys. -/
def keyOfBag (password : String) : BagValue → Except P12Error (Option Octets)
  | .shroudedKeyBag encryptionAlgorithm encryptedData => do
      let decrypted ← pbes2Decrypt env encryptionAlgorithm password encryptedData
      return some decrypted
  | .keyBag key => .ok (some key.fullData)
  | .certBag _ => .ok none
  | .other => .ok none

def findKeyInSafeContents (password : String) (der : Octets) :
    Except P12Error (Option Octets) := do
  let bags ← parseBags env der
  bags.findSomeM? (keyOfBag env password)

def extractPrivateKeyFromP12 (data : Octets) (password : String) : Except P12Error Octets := do
  let allContents ← openSafeContents env data password
  let found ← allContents.findSomeM? (findKeyInSafeContents env password)
  orError .noPrivateKey found

end Keys

section Certificates

/-- Whether a certificate asserts that it is one of a CA. -/
def assertsCa (cert : Certificate) : Except P12Error Bool := do
  let extensions ← orError
    (.other ("duplicate certificate extension: " ++ env.displayOid (env.duplicateExtension cert)))
    cert.extensions
  match getExtension extensions basicConstraintsOid with
  | none => .ok false
  | some ext =>
      (env.parseBasicConstraints ext.value).mapError fun e =>
        .other ("BasicConstraints parse: " ++ e)

/-- The certificate that a bag holds, if it is one of an end entity. -/
def leafOfBag : BagValue → Except P12Error (Option Octets)
  | .certBag (.x509 certificate) => do
      let der := certificate.fullData
      let cert ← (env.parseCertificate der).mapError fun e => .other ("certificate parse: " ++ e)
      let isCa ← assertsCa env cert
      if isCa then return none else return some der
  | .certBag .other => .ok none
  | .keyBag _ => .ok none
  | .shroudedKeyBag _ _ => .ok none
  | .other => .ok none

def findLeafInSafeContents (contents : Octets) : Except P12Error (Option Octets) := do
  let bags ← parseBags env contents
  bags.findSomeM? (leafOfBag env)

def extractLeafCertificateFromP12 (data : Octets) (password : String) :
    Except P12Error Octets := do
  let allContents ← openSafeContents env data password
  let found ← allContents.findSomeM? (findLeafInSafeContents env)
  orError .noLeafCertificate found

end Certificates

end Smime.Pkcs12
