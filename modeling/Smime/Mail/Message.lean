import Smime.X690.Length

/-! The view of a message that the `mail_parser` crate gives: the body parts in
one flat list, the root first, a multipart naming its children by position. -/
namespace Smime.Mail

open X690 (Octets)

/-- `str::eq_ignore_ascii_case`. -/
def eqIgnoreAsciiCase (a b : String) : Bool :=
  a.toList.map Char.toLower == b.toList.map Char.toLower

structure ContentType where
  cType : String
  cSubtype : Option String
  attributes : List (String × String)
  deriving DecidableEq

def ContentType.attribute (ct : ContentType) (name : String) : Option String :=
  ct.attributes.lookup name

/-- A text, binary or embedded message part is a `leaf`: it has no children in
the flat list. -/
inductive PartType where
  | leaf
  | multipart (children : List Nat)
  deriving DecidableEq

/-- A body part apart from its position: its header, its decoded contents and
where header and body stand in the message. -/
structure PartInfo where
  contentType : Option ContentType
  contents : Octets
  offsetHeader : Nat
  offsetEnd : Nat
  deriving DecidableEq

structure MessagePart extends PartInfo where
  body : PartType
  deriving DecidableEq

structure Addr where
  name : Option String
  address : Option String
  deriving DecidableEq

/-- A Date header. -/
structure MailDate where
  year : Nat
  month : Nat
  day : Nat
  hour : Nat
  minute : Nat
  second : Nat
  tzBeforeGmt : Bool
  tzHour : Nat
  tzMinute : Nat
  deriving DecidableEq

/-- `fromAddr` is the first address of the From header. -/
structure Message where
  parts : List MessagePart
  fromAddr : Option Addr
  date : Option MailDate
  deriving DecidableEq

/-- The content type of the root part. -/
def Message.contentType (message : Message) : Option ContentType :=
  message.parts.head?.bind (·.contentType)

end Smime.Mail
