import Smime.Utils.Text

/-! `extract_cert_info` of `src/lib.rs`: the identities of a signer certificate. -/
namespace Smime

open X690 (Octets)
open X509 Utils

/-- Identities of a certificate and the notes made while reading them. -/
structure CertInfo where
  emails : List String := []
  names : List String := []
  notes : List SmimeError := []
  deriving DecidableEq

namespace CertInfo

def pushEmail (info : CertInfo) (email : String) : CertInfo :=
  { info with emails := info.emails ++ [email] }

def pushName (info : CertInfo) (name : String) : CertInfo :=
  { info with names := info.names ++ [name] }

def pushNote (info : CertInfo) (note : SmimeError) : CertInfo :=
  { info with notes := info.notes ++ [note] }

end CertInfo

variable (env : Externals)

def commonName (value : AttributeValue) : Option String :=
  match value with
  | .printableString text => some text
  | .anyString tlv =>
      if tlv.tag = .primitive 12 then (fromUtf8 env tlv.data).toOption else none
  | .otherString _ => none

/-- The PKCS #9 emailAddress attribute of the subject, an IA5String. -/
def readEmailAddress (info : CertInfo) (value : AttributeValue) : CertInfo :=
  let wrongTag := info.pushNote
    (.raw ("subject emailAddress attribute must be IA5String, got tag " ++ env.debugTag value.tag))
  match value with
  | .anyString tlv =>
      if tlv.tag = .primitive 0x16 then
        match fromUtf8 env tlv.data with
        | .ok email => info.pushEmail email
        | .error e => info.pushNote
            (.raw ("subject emailAddress attribute is not valid IA5String: " ++ e ++ " (hex: " ++
              hexEncode tlv.data ++ ")"))
      else wrongTag
  | _ => wrongTag

def readSubjectAttribute (info : CertInfo) (attr : AttributeTypeValue) : CertInfo :=
  if attr.typeId = commonNameOid then
    match commonName env attr.value with
    | some name => info.pushName name
    | none => info
  else if attr.typeId = emailAddressOid then readEmailAddress env info attr.value
  else info

def hexU16 (high low : UInt8) : String :=
  let digits := (hexEncode [high, low]).toList.dropWhile (· == '0')
  if digits.isEmpty then "0" else String.ofList digits

def hexSegments : Octets → List String
  | high :: low :: rest => hexU16 high low :: hexSegments rest
  | _ => []

def formatIpAddress (ip : Octets) : String :=
  if ip.length = 4 then ".".intercalate (ip.map fun octet => toString octet.toNat)
  else if ip.length = 16 then ":".intercalate (hexSegments ip)
  else hexEncode ip

/-- `str::trim_start_matches` of the byte order mark. -/
def trimBom (text : String) : String :=
  String.ofList (text.toList.dropWhile (· == Char.ofNat 0xFEFF))

/-- The value of a SmtpUTF8Mailbox (RFC 9598). A byte order mark is noted, and
then dropped. -/
def readSmtpUtf8Mailbox (info : CertInfo) (value : Tlv) : CertInfo :=
  if value.tag ≠ .primitive 0x0C then
    info.pushNote (.otherNameParseError
      ("SmtpUTF8Mailbox must be UTF8String, got tag " ++ env.debugTag value.tag)
      (hexEncode value.data))
  else if value.data = [] then
    info.pushNote (.otherNameParseError "SmtpUTF8Mailbox must not be empty" "")
  else
    let info :=
      if [0xEF, 0xBB, 0xBF].isPrefixOf value.data then
        info.pushNote (.otherNameParseError
          "SmtpUTF8Mailbox contains a UTF-8 BOM (RFC 9598 §3 violation)"
          (hexEncode (value.data.take 3)))
      else info
    match fromUtf8 env value.data with
    | .ok email => info.pushEmail (trimBom email)
    | .error e => info.pushNote (.otherNameParseError e (hexEncode value.data))

def readGeneralName (info : CertInfo) (san : GeneralName) : CertInfo :=
  match san with
  | .rfc822Name email => info.pushEmail email
  | .dnsName dns => info.pushEmail dns
  | .uniformResourceIdentifier uri => info.pushEmail uri
  | .ipAddress ip => info.pushEmail (formatIpAddress ip)
  | .otherName typeId value =>
      if typeId = idOnSmtpUtf8MailboxOid then readSmtpUtf8Mailbox env info value else info
  | .other => info

def readQualifier (info : CertInfo) (qualifier : PolicyQualifierInfo) : CertInfo :=
  if qualifier.policyQualifierId = cpCpsUriOid then
    if qualifier.qualifier = .cpsUri then info
    else info.pushNote (.certPolicyWarning "CPS qualifier must use id-qt-cps format")
  else if qualifier.policyQualifierId = cpUserNoticeOid then
    if qualifier.qualifier = .userNotice then info
    else info.pushNote
      (.certPolicyWarning "User Notice qualifier must use id-qt-unotice format")
  else info

def readPolicies (info : CertInfo) (policies : List PolicyInformation) : CertInfo :=
  let info := (policies.flatMap fun policy => policy.policyQualifiers.getD []).foldl readQualifier info
  if (policies.filter fun policy => smimeBrOids.contains policy.policyIdentifier).length > 1 then
    info.pushNote (.certPolicyWarning
      "certificatePolicies should include exactly one reserved policyIdentifier")
  else info

/-- The value of an extension, when the certificate has it and it parses. -/
def extensionValue {α : Type} (extensions : List Extension) (oid : ObjectIdentifier)
    (parse : Octets → Except String α) : Option α :=
  (getExtension extensions oid).bind fun extension => (parse extension.value).toOption

def extractCertInfo (cert : Certificate) : CertInfo :=
  let info := cert.subject.flatten.foldl (readSubjectAttribute env) {}
  match cert.extensions with
  | none => info
  | some extensions =>
      let sans := extensionValue extensions subjectAlternativeNameOid env.parseSubjectAlternativeName
      let info := (sans.getD []).foldl (readGeneralName env) info
      match extensionValue extensions certificatePoliciesOid env.parsePolicies with
      | some policies => readPolicies info policies
      | none => info

end Smime
