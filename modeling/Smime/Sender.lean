import Smime.Mail.Message
import Smime.Utils.Text

/-! Whom a message is from, by `src/lib.rs`: the resolver that matches the inner
From header with the signer certificates, and the comparison of dates. -/
namespace Smime

open Mail Utils

variable (env : Externals)

/-- `mail_parser_date_to_chrono`. -/
def mailParserDateToChrono (date : MailDate) : Option Instant :=
  (env.withYmdAndHms ⟨date.year, date.month, date.day, date.hour, date.minute, date.second⟩).map
    fun instant =>
      let offsetSecs : Int := (date.tzHour * 60 + date.tzMinute) * 60
      if date.tzBeforeGmt then instant + offsetSecs else instant - offsetSecs

/-- RFC 9788: whether the content type has an `hp` parameter, and its value. -/
def extractRfc9788Info (contentType : ContentType) : Bool × Option String :=
  match contentType.attribute "hp" with
  | some hp =>
      if eqIgnoreAsciiCase hp "clear" || eqIgnoreAsciiCase hp "cipher" then (true, some hp)
      else (false, none)
  | none => (false, none)

/-- More than one hour apart. -/
def checkDateMismatch (dateA dateB : Option Instant) (msg : String) : Option SmimeError :=
  match dateA, dateB with
  | some a, some b =>
      if a - b > 3600 ∨ a - b < -3600 then
        some (.dateMismatch msg (env.toRfc3339 a) (env.toRfc3339 b))
      else none
  | _, _ => none

/-- The sender identity resolved so far, over the signers of one message. -/
structure SenderResolver where
  fromAddress : Option String := none
  fromComment : Option String := none
  senderMatched : Bool := false
  commentMatched : Bool := false
  deriving DecidableEq

namespace SenderResolver

/-- Whether two addresses are the same up to ASCII case and the form of the
domain; `normalized` is already converted. -/
def sanMatches (normalized san : String) : Bool :=
  eqIgnoreAsciiCase (emailDomainToALabel env san) normalized

/-- RFC 9598, section 5: the local part of the first matching identity differs
from that of the address in its case. -/
def localPartWarnings (innerAddr : String) (certificateEmails : List String) : List SmimeError :=
  let normalized := emailDomainToALabel env innerAddr
  match splitOnce '@' innerAddr, certificateEmails.find? (sanMatches env normalized) with
  | some (fromLocal, _), some san =>
      match splitOnce '@' (emailDomainToALabel env san) with
      | some (certLocal, _) =>
          if fromLocal ≠ certLocal ∧ eqIgnoreAsciiCase fromLocal certLocal then
            [.localPartCaseMismatch innerAddr san]
          else []
      | none => []
  | _, _ => []

/-- The boolean says whether the sender was updated. -/
def update (resolver : SenderResolver) (innerFromAddress innerFromName : Option String)
    (certificateEmails certificateNames : List String) :
    SenderResolver × Bool × List SmimeError :=
  match innerFromAddress with
  | none => (resolver, false, [])
  | some innerAddr =>
      let normalized := emailDomainToALabel env innerAddr
      let addressMatches := certificateEmails.any (sanMatches env normalized)
      if !addressMatches || (resolver.senderMatched && resolver.commentMatched) then
        (resolver, false, [])
      else
        let commentMatches :=
          innerFromName.any fun name => certificateNames.any (eqIgnoreAsciiCase · name)
        ({ fromAddress := some innerAddr
           fromComment := if commentMatches then innerFromName else none
           senderMatched := true
           commentMatched := commentMatches },
          true, localPartWarnings env innerAddr certificateEmails)

end SenderResolver

end Smime
