import Smime.X509.Certificate

/-! Object identifiers that the sources under `src/` compare with. -/
namespace Smime.X509

def commonNameOid : ObjectIdentifier := [2, 5, 4, 3]
def emailAddressOid : ObjectIdentifier := [1, 2, 840, 113549, 1, 9, 1]
def subjectKeyIdentifierOid : ObjectIdentifier := [2, 5, 29, 14]
def subjectAlternativeNameOid : ObjectIdentifier := [2, 5, 29, 17]
def certificatePoliciesOid : ObjectIdentifier := [2, 5, 29, 32]
def authorityKeyIdentifierOid : ObjectIdentifier := [2, 5, 29, 35]
def extendedKeyUsageOid : ObjectIdentifier := [2, 5, 29, 37]
def ekuOcspSigningOid : ObjectIdentifier := [1, 3, 6, 1, 5, 5, 7, 3, 9]
def ocspNoCheckOid : ObjectIdentifier := [1, 3, 6, 1, 5, 5, 7, 48, 1, 5]
def riOcspOid : ObjectIdentifier := [1, 3, 6, 1, 5, 5, 7, 16, 2]
def cpCpsUriOid : ObjectIdentifier := [1, 3, 6, 1, 5, 5, 7, 2, 1]
def cpUserNoticeOid : ObjectIdentifier := [1, 3, 6, 1, 5, 5, 7, 2, 2]
def idOnSmtpUtf8MailboxOid : ObjectIdentifier := [1, 3, 6, 1, 5, 5, 7, 8, 9]

def pkcs7DataOid : ObjectIdentifier := [1, 2, 840, 113549, 1, 7, 1]
def contentTypeOid : ObjectIdentifier := [1, 2, 840, 113549, 1, 9, 3]
def messageDigestOid : ObjectIdentifier := [1, 2, 840, 113549, 1, 9, 4]
def signingTimeOid : ObjectIdentifier := [1, 2, 840, 113549, 1, 9, 5]
def smimeCapabilitiesOid : ObjectIdentifier := [1, 2, 840, 113549, 1, 9, 15]
def cmsAlgorithmProtectionOid : ObjectIdentifier := [1, 2, 840, 113549, 1, 9, 52]
def signingCertificateOid : ObjectIdentifier := [1, 2, 840, 113549, 1, 9, 16, 2, 12]
def signingCertificateV2Oid : ObjectIdentifier := [1, 2, 840, 113549, 1, 9, 16, 2, 47]

def rsaOid : ObjectIdentifier := [1, 2, 840, 113549, 1, 1, 1]
def mgf1Oid : ObjectIdentifier := [1, 2, 840, 113549, 1, 1, 8]
def mlDsa44Oid : ObjectIdentifier := [2, 16, 840, 1, 101, 3, 4, 3, 17]
def mlDsa65Oid : ObjectIdentifier := [2, 16, 840, 1, 101, 3, 4, 3, 18]
def mlDsa87Oid : ObjectIdentifier := [2, 16, 840, 1, 101, 3, 4, 3, 19]
def ecSecp256r1 : ObjectIdentifier := [1, 2, 840, 10045, 3, 1, 7]
def ecSecp384r1 : ObjectIdentifier := [1, 3, 132, 0, 34]
def ecSecp521r1 : ObjectIdentifier := [1, 3, 132, 0, 35]
def sha1Oid : ObjectIdentifier := [1, 3, 14, 3, 2, 26]
def sha256Oid : ObjectIdentifier := [2, 16, 840, 1, 101, 3, 4, 2, 1]

def rsaesOaepOid : ObjectIdentifier := [1, 2, 840, 113549, 1, 1, 7]
def aes256CbcOid : ObjectIdentifier := [2, 16, 840, 1, 101, 3, 4, 1, 42]
def aes256GcmOid : ObjectIdentifier := [2, 16, 840, 1, 101, 3, 4, 1, 46]
def pSpecifiedOid : ObjectIdentifier := [1, 2, 840, 113549, 1, 1, 9]
def ecOid : ObjectIdentifier := [1, 2, 840, 10045, 2, 1]
def x25519Oid : ObjectIdentifier := [1, 3, 101, 110]
def x448Oid : ObjectIdentifier := [1, 3, 101, 111]
def aes128WrapOid : ObjectIdentifier := [2, 16, 840, 1, 101, 3, 4, 1, 5]
def aes192WrapOid : ObjectIdentifier := [2, 16, 840, 1, 101, 3, 4, 1, 25]
def aes256WrapOid : ObjectIdentifier := [2, 16, 840, 1, 101, 3, 4, 1, 45]
def dhStdSha1Oid : ObjectIdentifier := [1, 3, 133, 16, 840, 63, 0, 2]
def dhStdSha224Oid : ObjectIdentifier := [1, 3, 132, 1, 11, 0]
def dhStdSha256Oid : ObjectIdentifier := [1, 3, 132, 1, 11, 1]
def dhStdSha384Oid : ObjectIdentifier := [1, 3, 132, 1, 11, 2]
def dhStdSha512Oid : ObjectIdentifier := [1, 3, 132, 1, 11, 3]
def dhCofSha1Oid : ObjectIdentifier := [1, 3, 133, 16, 840, 63, 0, 3]
def dhCofSha224Oid : ObjectIdentifier := [1, 3, 132, 1, 14, 0]
def dhCofSha256Oid : ObjectIdentifier := [1, 3, 132, 1, 14, 1]
def dhCofSha384Oid : ObjectIdentifier := [1, 3, 132, 1, 14, 2]
def dhCofSha512Oid : ObjectIdentifier := [1, 3, 132, 1, 14, 3]
def dhHkdfSha256Oid : ObjectIdentifier := [1, 2, 840, 113549, 1, 9, 16, 3, 19]
def dhHkdfSha384Oid : ObjectIdentifier := [1, 2, 840, 113549, 1, 9, 16, 3, 20]
def dhHkdfSha512Oid : ObjectIdentifier := [1, 2, 840, 113549, 1, 9, 16, 3, 21]

/-- The reserved policies of the CA/Browser Forum, by validation and generation. -/
def smimeBrOids : List ObjectIdentifier :=
  [1, 2, 3, 4].flatMap fun validation =>
    [1, 2, 3].map fun generation => [2, 23, 140, 1, 5, validation, generation]

end Smime.X509
