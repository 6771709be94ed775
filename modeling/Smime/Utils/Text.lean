import Smime.Externals

/-! String helpers: `email_domain_to_a_label` of `src/utils.rs` and the parts of
the standard library and of the `hex` crate that the sources use. -/
namespace Smime.Utils

open X690 (Octets)

/-- The octets of a text. -/
def utf8 (text : String) : Octets := text.toUTF8.toList

/-- `str::split_once` at a character. -/
def splitOnce (separator : Char) (text : String) : Option (String × String) :=
  match text.toList.span (· != separator) with
  | (_, []) => none
  | (before, _ :: behind) => some (String.ofList before, String.ofList behind)

def hexDigit (digit : Nat) : Char :=
  if digit < 10 then Char.ofNat (48 + digit) else Char.ofNat (87 + digit)

/-- `hex::encode`. -/
def hexEncode (octets : Octets) : String :=
  String.ofList (octets.flatMap fun octet =>
    [hexDigit (octet.toNat / 16), hexDigit (octet.toNat % 16)])

/-- `str::from_utf8`. -/
def fromUtf8 (env : Externals) (octets : Octets) : Except String String :=
  match String.fromUTF8? ⟨octets.toArray⟩ with
  | some text => .ok text
  | none => .error (env.utf8Error octets)

/-- `asn1_to_chrono`, which is also `asn1_time_to_chrono` of `src/lib.rs`. -/
def asn1ToChrono (env : Externals) (time : X509.DateTime) : Option Instant :=
  env.withYmdAndHms time

def emailDomainToALabel (env : Externals) (email : String) : String :=
  match splitOnce '@' email with
  | some (localPart, domain) =>
      match env.domainToAscii domain with
      | some asciiDomain => localPart ++ "@" ++ asciiDomain
      | none => email
  | none => email

end Smime.Utils
