import Smime.Externals

/-! What decryption and encryption call outside `src/`: private and public keys,
key agreement and derivation, key wrapping, block ciphers and AEAD ciphers, and
what they write and parse beyond a verification. Nothing is assumed of them
here. -/
namespace Smime

open X690 (Octets)
open X509

/-- Octet strings of a fixed length, as arrays are. -/
abbrev Bytes (n : Nat) := { octets : Octets // octets.length = n }

/-- The cargo features that add or remove decryption code. -/
structure Features where
  decryptPwri : Bool
  decryptKek : Bool
  decrypt3des : Bool
  decryptCcm : Bool
  deriving DecidableEq

def Features.default : Features := ⟨true, true, false, false⟩

inductive BlockCipher where
  | aes128
  | aes192
  | aes256
  | tdesEde3
  deriving DecidableEq

namespace BlockCipher

def keySize : BlockCipher → Nat
  | aes128 => 16
  | aes192 | tdesEde3 => 24
  | aes256 => 32

def blockSize : BlockCipher → Nat
  | aes128 | aes192 | aes256 => 16
  | tdesEde3 => 8

end BlockCipher

inductive KdfHash where
  | sha1
  | sha224
  | sha256
  | sha384
  | sha512
  deriving DecidableEq

inductive NistCurve where
  | p256
  | p384
  | p521
  deriving DecidableEq

inductive OaepHash where
  | sha1
  | sha256
  | sha384
  | sha512
  deriving DecidableEq

/-- `Pkcs1v15Encrypt`, or `Oaep` with its hash and the hash of MGF1. -/
inductive RsaPadding where
  | pkcs1v15
  | oaep (hash mgf1Hash : OaepHash)
  deriving DecidableEq

/-- `PrivateKeyInfoRef` of the `pkcs8` crate. -/
structure PrivateKeyInfo where
  algorithm : ObjectIdentifier
  parametersOid : Except String ObjectIdentifier
  privateKey : Octets

structure EccCmsSharedInfo where
  keyInfo : AlgorithmIdentifier
  entityUInfo : Option Octets
  suppPubInfo : Octets
  deriving DecidableEq

/-- Further uses of `asn1`, and of `pem`. -/
structure Encodings where
  parseTlv : Octets → Except String Tlv
  parseRecipientInfo : Octets → Except String RecipientInfo
  writeAlgorithmIdentifier : AlgorithmIdentifier → Except String Octets
  writeSharedInfo : EccCmsSharedInfo → Except String Octets
  writeAttributes : List Attribute → Except String Octets
  writeRecipientInfo : RecipientInfo → Except String Octets
  writeContentInfo : Content → Except String Octets
  parsePem : String → Except String Octets

structure KeyTransport where
  RsaPrivateKey : Type
  RsaPublicKey : Type
  rsaPrivateKeyFromPkcs8 : Octets → Except String RsaPrivateKey
  rsaPublicKeyFromDer : Octets → Except String RsaPublicKey
  rsaModulusBits : RsaPublicKey → Nat
  rsaDecrypt : RsaPrivateKey → RsaPadding → Octets → Except String Octets
  rsaEncrypt : RsaPublicKey → RsaPadding → (random : Octets) → Octets → Except String Octets

/-- `diffieHellman` returns the octets of the shared secret. -/
structure KeyAgreement where
  EcSecretKey : NistCurve → Type
  EcPublicKey : NistCurve → Type
  parsePrivateKeyInfo : Octets → Except String PrivateKeyInfo
  ecSecretKeyFromPkcs8 : (curve : NistCurve) → Octets → Except String (EcSecretKey curve)
  ecPublicKeyFromSec1 : (curve : NistCurve) → Octets → Except String (EcPublicKey curve)
  ecPublicKeyOf : {curve : NistCurve} → EcSecretKey curve → EcPublicKey curve
  ecToSec1 : {curve : NistCurve} → EcPublicKey curve → Octets
  diffieHellman : {curve : NistCurve} → EcSecretKey curve → EcPublicKey curve → Octets
  x25519 : Bytes 32 → Bytes 32 → Bytes 32
  x25519PublicKeyOf : Bytes 32 → Bytes 32
  x963Kdf : KdfHash → (z sharedInfo : Octets) → (keyLen : Nat) → Option Octets
  hkdf : KdfHash → (salt : Option Octets) → (ikm info : Octets) → (keyLen : Nat) →
    Except String Octets
  pbkdf2Hmac : KdfHash → (password salt : Octets) → (rounds keyLen : Nat) → Octets

/-- A wrapped key is eight octets longer than the key. -/
structure SymmetricCiphers where
  keyWrapInit : (kekLen : Nat) → (kek : Octets) → Except String Unit
  wrapKey : (kek key : Octets) → Except String Octets
  unwrapKey : (kek wrapped : Octets) → Except String Octets
  encryptBlock : BlockCipher → (key block : Octets) → Octets
  decryptBlock : BlockCipher → (key block : Octets) → Octets
  invalidLength : String
  unpadError : String
  gcmEncrypt : (key nonce aad plaintext : Octets) → Except String (Octets × Octets)
  gcmDecrypt : (key nonce aad ciphertext tag : Octets) → Except String Octets
  ccmDecrypt : (key nonce aad ciphertext tag : Octets) → Except String Octets

structure CmsExternals extends
    Externals, Encodings, KeyTransport, KeyAgreement, SymmetricCiphers where
  features : Features
  debugNestedParameters : NestedParameters → String

end Smime
