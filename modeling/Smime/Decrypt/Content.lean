import Smime.Decrypt.Recipients

/-! `decrypt_enveloped_data` and `decrypt_auth_enveloped_data` of
`src/decrypt.rs`. -/
namespace Smime

open X690 (Octets)
open X509 Utils BlockModes

variable (env : CmsExternals)

section ContentKey

/-- RFC 9709: the inner algorithm and its encoding, from which the key is
derived. -/
def resolveCekHkdf (outerCea : AlgorithmParameters) :
    Except SmimeError (AlgorithmParameters × Option Octets) :=
  match outerCea with
  | .cekHkdfSha256 tlv => do
      let inner ← (env.parseAlgorithmIdentifier tlv.fullData).mapError fun e =>
        .decryptionFailed ("CEK-HKDF-SHA256 inner AlgorithmIdentifier: " ++ e)
      return (inner.params, some tlv.fullData)
  | _ => .ok (outerCea, none)

/-- RFC 9709, section 2. -/
def cmsCekHkdfSha256 (ikm info : Octets) : Except SmimeError Octets :=
  if ikm.length > 8160 then
    .error (.decryptionFailed
      ("CEK length " ++ toString ikm.length ++ " exceeds RFC 9709 maximum of 8160"))
  else
    (env.hkdf .sha256 (some (utf8 "The Cryptographic Message Syntax")) ikm info
      ikm.length).mapError fun e => .decryptionFailed ("HKDF-Expand: " ++ e)

def contentKey (cek : Octets) (innerAlgDer : Option Octets) : Except SmimeError Octets :=
  match innerAlgDer with
  | some der => cmsCekHkdfSha256 env cek der
  | none => .ok cek

end ContentKey

section Enveloped

def decryptCbc (cipher : BlockCipher) (key iv ciphertext : Octets) : Except SmimeError Octets := do
  checkCbcLengths env cipher key iv
  orError (.decryptionFailed env.unpadError)
    (cbcDecrypt cipher.blockSize (env.decryptBlock cipher key) iv ciphertext)

def weakCipherWarnings (cipher : BlockCipher) : List SmimeError :=
  if cipher = .tdesEde3 then [.weakContentEncryptionAlg "3DES-CBC"] else []

/-- The plaintext, or `none` if there is no encrypted content; with warnings. -/
def decryptEnvelopedData (envelopedData : EnvelopedData) (keys : DecryptionKeys) :
    Except SmimeError (Option Octets × List SmimeError) :=
  let info := envelopedData.encryptedContentInfo
  match info.encryptedContent with
  | none => .ok (none, [])
  | some ciphertext =>
      if info.contentType ≠ pkcs7DataOid then
        .error (.unsupportedContentEncryptionAlg
          ("unexpected contentType: " ++ env.displayOid info.contentType))
      else do
        let (cea, innerAlgDer) ← resolveCekHkdf env info.contentEncryptionAlgorithm.params
        let (cipher, iv) ← orError
          (.unsupportedContentEncryptionAlg (env.debugAlgorithmParameters cea)) (cbcCipher env cea)
        let (cek, cekWarnings) ←
          recoverCek env keys envelopedData.recipientInfos cipher.keySize
        let key ← contentKey env cek innerAlgDer
        let plaintext ← decryptCbc env cipher key iv ciphertext
        return (some plaintext, weakCipherWarnings cipher ++ cekWarnings)

end Enveloped

section AuthEnveloped

inductive AeadMode where
  | gcm
  | ccm
  deriving DecidableEq

/-- The mode of an AEAD content encryption algorithm, its key length and its
parameters. -/
def aeadCipher (cea : AlgorithmParameters) : Option (AeadMode × Nat × AeadParameters) :=
  match cea with
  | .aes128Gcm p => some (.gcm, 16, p)
  | .aes192Gcm p => some (.gcm, 24, p)
  | .aes256Gcm p => some (.gcm, 32, p)
  | .aes128Ccm p => some (.ccm, 16, p)
  | .aes192Ccm p => some (.ccm, 24, p)
  | .aes256Ccm p => some (.ccm, 32, p)
  | _ => none

def decryptAesGcm (key nonce aad ciphertext tag : Octets) (tagLen : Nat) :
    Except SmimeError Octets :=
  if tag.length ≠ tagLen then
    .error (.decryptionFailed ("GCM tag length " ++ toString tag.length ++
      " does not match icvLen " ++ toString tagLen))
  else if ¬ (12 ≤ tagLen ∧ tagLen ≤ 16) then
    .error (.unsupportedContentEncryptionAlg
      ("AES-GCM ICVlen " ++ toString tagLen ++ " not valid per RFC 5084 (must be 12..16)"))
  else if ¬ (12 ≤ nonce.length ∧ nonce.length ≤ 16) then
    .error (.unsupportedContentEncryptionAlg
      ("AES-GCM nonce length " ++ toString nonce.length ++ " not supported (must be 12..16)"))
  else if ¬ (key.length = 16 ∨ key.length = 24 ∨ key.length = 32) then
    .error (.unsupportedContentEncryptionAlg
      ("AES-GCM with " ++ toString (key.length * 8) ++ "-bit key not supported"))
  else (env.gcmDecrypt key nonce aad ciphertext tag).mapError fun e =>
    .decryptionFailed ("AES-GCM: " ++ e)

def decryptAesCcm (key nonce aad ciphertext tag : Octets) (tagLen : Nat) :
    Except SmimeError Octets :=
  if tag.length ≠ tagLen then
    .error (.decryptionFailed ("CCM tag length " ++ toString tag.length ++
      " does not match icvLen " ++ toString tagLen))
  else if ¬ (tagLen = 12 ∨ tagLen = 14 ∨ tagLen = 16) then
    .error (.unsupportedContentEncryptionAlg
      ("AES-CCM ICVlen " ++ toString tagLen ++ " not supported (must be 12, 14 or 16)"))
  else if ¬ (7 ≤ nonce.length ∧ nonce.length ≤ 13) then
    .error (.unsupportedContentEncryptionAlg
      ("AES-CCM nonce length " ++ toString nonce.length ++
        " not valid per RFC 5084 (must be 7..13)"))
  else if ¬ (key.length = 16 ∨ key.length = 32) then
    .error (.unsupportedContentEncryptionAlg
      ("AES-CCM key length " ++ toString (key.length * 8) ++
        " not supported (must be 128 or 256 bit)"))
  else (env.ccmDecrypt key nonce aad ciphertext tag).mapError fun e =>
    .decryptionFailed ("AES-CCM: " ++ e)

/-- The additional data are the encoded authenticated attributes. -/
def authAttrsDer (authAttrs : Option (List Attribute)) : Except SmimeError Octets :=
  match authAttrs with
  | some attrs => (env.writeAttributes attrs).mapError fun e =>
      .decryptionFailed ("authAttrs DER: " ++ e)
  | none => .ok []

def decryptAead (mode : AeadMode) (cea : AlgorithmParameters) (key aad ciphertext mac : Octets)
    (params : AeadParameters) : Except SmimeError Octets :=
  match mode with
  | .gcm => decryptAesGcm env key params.nonce aad ciphertext mac params.icvLen
  | .ccm =>
      if env.features.decryptCcm then
        decryptAesCcm env key params.nonce aad ciphertext mac params.icvLen
      else .error (.unsupportedContentEncryptionAlg (env.debugAlgorithmParameters cea))

def decryptAuthEnvelopedData (authEnveloped : AuthEnvelopedData) (keys : DecryptionKeys) :
    Except SmimeError (Option Octets × List SmimeError) :=
  let info := authEnveloped.authEncryptedContentInfo
  match info.encryptedContent with
  | none => .ok (none, [])
  | some ciphertext =>
      if info.contentType ≠ pkcs7DataOid then
        .error (.unsupportedContentEncryptionAlg
          ("unexpected contentType: " ++ env.displayOid info.contentType))
      else do
        let (cea, innerAlgDer) ← resolveCekHkdf env info.contentEncryptionAlgorithm.params
        let (mode, expectedKeyLen, params) ← orError
          (.unsupportedContentEncryptionAlg (env.debugAlgorithmParameters cea)) (aeadCipher cea)
        let (cek, warnings) ←
          recoverCek env keys authEnveloped.recipientInfos expectedKeyLen
        let key ← contentKey env cek innerAlgDer
        let aad ← authAttrsDer env authEnveloped.authAttrs
        let plaintext ← decryptAead env mode cea key aad ciphertext authEnveloped.mac params
        return (some plaintext, warnings)

end AuthEnveloped

end Smime
