import Smime.SenderMatching

/-! Which names of a certificate identify a sender: those `extract_cert_info`
collects, by the kind of name they come from. -/
namespace Smime

open X690 (Octets)
open X509 Mail Utils

section Statement

variable (env : Externals)

/-- The entries of the subjectAltName extension, when it can be read. -/
def subjectAlternativeNames (cert : Certificate) : List GeneralName :=
  match cert.extensions with
  | none => []
  | some extensions =>
      (extensionValue extensions subjectAlternativeNameOid env.parseSubjectAlternativeName).getD []

/-- A PKCS #9 emailAddress of the subject. -/
def SubjectMailbox (attr : AttributeTypeValue) (text : String) : Prop :=
  attr.typeId = emailAddressOid ∧ ∃ tlv : Tlv, attr.value = .anyString tlv ∧
    tlv.tag = .primitive 0x16 ∧ fromUtf8 env tlv.data = .ok text

/-- A SmtpUTF8Mailbox, without its byte order mark. -/
def SmtpUtf8Mailbox (san : GeneralName) (text : String) : Prop :=
  ∃ value : Tlv, san = .otherName idOnSmtpUtf8MailboxOid value ∧
    value.tag = .primitive 0x0C ∧ value.data ≠ [] ∧
      ∃ email : String, fromUtf8 env value.data = .ok email ∧ text = trimBom email

/-- A name of the certificate that is the name of a mailbox. -/
inductive MailboxName (cert : Certificate) (text : String) : Prop where
  | subject (attr : AttributeTypeValue) (hAttr : attr ∈ cert.subject.flatten)
      (hText : SubjectMailbox env attr text)
  | rfc822 (hSan : GeneralName.rfc822Name text ∈ subjectAlternativeNames env cert)
  | smtpUtf8 (san : GeneralName) (hSan : san ∈ subjectAlternativeNames env cert)
      (hText : SmtpUtf8Mailbox env san text)

/-- A name of the certificate that is the name of a host or of a resource. -/
inductive HostName (cert : Certificate) : String → Prop where
  | dns (name : String) (hSan : GeneralName.dnsName name ∈ subjectAlternativeNames env cert) :
      HostName cert name
  | uri (uri : String)
      (hSan : GeneralName.uniformResourceIdentifier uri ∈ subjectAlternativeNames env cert) :
      HostName cert uri
  | ip (octets : Octets) (hSan : GeneralName.ipAddress octets ∈ subjectAlternativeNames env cert) :
      HostName cert (formatIpAddress octets)

def MailboxMatches (cert : Certificate) (address : String) : Prop :=
  ∃ text : String, MailboxName env cert text ∧ SameMailbox env text address

def HostMatches (cert : Certificate) (address : String) : Prop :=
  ∃ text : String, HostName env cert text ∧ SameMailbox env text address

/-- The resolver takes the address from this certificate for its mailbox names
only; what else it names does not make the address match. -/
structure IdentifiedByMailbox (cert : Certificate) (address : String) : Prop where
  accepted : ∀ (resolver : SenderResolver) (name : Option String),
    AcceptsSender env resolver address name (extractCertInfo env cert).emails
      (extractCertInfo env cert).names → MailboxMatches env cert address
  refused : HostMatches env cert address → ¬ MailboxMatches env cert address →
    ∀ (resolver : SenderResolver) (name : Option String),
      ¬ AcceptsSender env resolver address name (extractCertInfo env cert).emails
        (extractCertInfo env cert).names

end Statement

section Collection

variable {env : Externals}

theorem foldl_emails {α : Type} {step : CertInfo → α → CertInfo} {emailsOf : α → List String}
    (hStep : ∀ (info : CertInfo) (entry : α), (step info entry).emails = info.emails ++ emailsOf entry)
    (entries : List α) (info : CertInfo) :
    (entries.foldl step info).emails = info.emails ++ entries.flatMap emailsOf := by
  induction entries generalizing info with
  | nil => simp
  | cons entry rest ih => rw [List.foldl_cons, ih, hStep, List.flatMap_cons, List.append_assoc]

/-- What one attribute of the subject adds. -/
theorem readSubjectAttribute_emails (info : CertInfo) (attr : AttributeTypeValue) :
    (readSubjectAttribute env info attr).emails =
      info.emails ++ (readSubjectAttribute env {} attr).emails := by
  unfold readSubjectAttribute readEmailAddress
  split_ifs with hName hEmail
  · cases commonName env attr.value <;> simp [CertInfo.pushName]
  · cases attr.value with
    | printableString text => simp [CertInfo.pushNote]
    | otherString tag => simp [CertInfo.pushNote]
    | anyString tlv =>
        dsimp only
        split_ifs with hTag
        · cases fromUtf8 env tlv.data <;> simp [CertInfo.pushNote, CertInfo.pushEmail]
        · simp [CertInfo.pushNote]
  · simp

theorem mem_readSubjectAttribute_iff {attr : AttributeTypeValue} {text : String} :
    text ∈ (readSubjectAttribute env {} attr).emails ↔ SubjectMailbox env attr text := by
  unfold readSubjectAttribute readEmailAddress SubjectMailbox
  split_ifs with hName hEmail
  · have hOther : attr.typeId ≠ emailAddressOid := by rw [hName]; decide
    cases commonName env attr.value <;> simp [CertInfo.pushName, hOther]
  · cases attr.value with
    | printableString text => simp [CertInfo.pushNote]
    | otherString tag => simp [CertInfo.pushNote]
    | anyString tlv =>
        dsimp only
        split_ifs with hTag
        · cases hUtf8 : fromUtf8 env tlv.data with
          | error e => simp [CertInfo.pushNote, hTag, hUtf8]
          | ok email => simpa [CertInfo.pushEmail, hTag, hEmail, hUtf8] using eq_comm
        · simp [CertInfo.pushNote, hTag]
  · simp [hEmail]

/-- What one entry of the subjectAltName adds. -/
theorem readGeneralName_emails (info : CertInfo) (san : GeneralName) :
    (readGeneralName env info san).emails =
      info.emails ++ (readGeneralName env {} san).emails := by
  cases san with
  | otherName typeId value =>
      unfold readGeneralName readSmtpUtf8Mailbox
      dsimp only
      split_ifs <;> cases fromUtf8 env value.data <;> simp [CertInfo.pushNote, CertInfo.pushEmail]
  | _ => simp [readGeneralName, CertInfo.pushEmail]

theorem mem_readGeneralName_iff {san : GeneralName} {text : String} :
    text ∈ (readGeneralName env {} san).emails ↔
      (san = .rfc822Name text ∨ SmtpUtf8Mailbox env san text) ∨
        san = .dnsName text ∨ san = .uniformResourceIdentifier text ∨
          ∃ octets : Octets, san = .ipAddress octets ∧ formatIpAddress octets = text := by
  unfold SmtpUtf8Mailbox
  cases san with
  | otherName typeId value =>
      unfold readGeneralName readSmtpUtf8Mailbox
      dsimp only
      split_ifs with hType hTag hEmpty hMark
      · simp [CertInfo.pushNote, hTag]
      · simp [CertInfo.pushNote, hEmpty]
      · cases hUtf8 : fromUtf8 env value.data with
        | error e => simp [CertInfo.pushNote, hUtf8]
        | ok email => simp_all [CertInfo.pushNote, CertInfo.pushEmail]
      · cases hUtf8 : fromUtf8 env value.data with
        | error e => simp [CertInfo.pushNote, hUtf8]
        | ok email => simp_all [CertInfo.pushEmail]
      · simp [hType]
  | _ => simp [readGeneralName, CertInfo.pushEmail, eq_comm]

theorem readPolicies_emails (info : CertInfo) (policies : List PolicyInformation) :
    (readPolicies info policies).emails = info.emails := by
  have hQualifier : ∀ (info : CertInfo) (qualifier : PolicyQualifierInfo),
      (readQualifier info qualifier).emails = info.emails ++ [] := by
    intro info qualifier
    unfold readQualifier
    split_ifs <;> simp [CertInfo.pushNote]
  have hQualifiers := foldl_emails hQualifier
    (policies.flatMap fun policy => policy.policyQualifiers.getD []) info
  have hNothing : ∀ qualifiers : List PolicyQualifierInfo,
      (qualifiers.flatMap fun _ => ([] : List String)) = [] := by simp
  rw [hNothing, List.append_nil] at hQualifiers
  unfold readPolicies
  dsimp only
  split_ifs
  · exact hQualifiers
  · exact hQualifiers

theorem extractCertInfo_emails (cert : Certificate) :
    (extractCertInfo env cert).emails =
      (cert.subject.flatten.flatMap fun attr => (readSubjectAttribute env {} attr).emails) ++
        (subjectAlternativeNames env cert).flatMap fun san =>
          (readGeneralName env {} san).emails := by
  have hSubject := foldl_emails (@readSubjectAttribute_emails env) cert.subject.flatten {}
  unfold extractCertInfo subjectAlternativeNames
  cases cert.extensions with
  | none => simpa using hSubject
  | some extensions =>
      have hSans := foldl_emails (@readGeneralName_emails env)
        ((extensionValue extensions subjectAlternativeNameOid
          env.parseSubjectAlternativeName).getD [])
        (cert.subject.flatten.foldl (readSubjectAttribute env) {})
      rw [hSubject] at hSans
      dsimp only
      cases extensionValue extensions certificatePoliciesOid env.parsePolicies with
      | none => simpa using hSans
      | some policies =>
          dsimp only
          rw [readPolicies_emails]
          simpa using hSans

/-- The addresses of a certificate are its mailbox names, and the other names of
its subjectAltName. -/
theorem mem_emails_iff {cert : Certificate} {text : String} :
    text ∈ (extractCertInfo env cert).emails ↔
      MailboxName env cert text ∨ HostName env cert text := by
  rw [extractCertInfo_emails, List.mem_append, List.mem_flatMap, List.mem_flatMap]
  simp only [mem_readSubjectAttribute_iff, mem_readGeneralName_iff]
  constructor
  · rintro (⟨attr, hAttr, hText⟩ | ⟨san, hSan, (rfl | hText) | rfl | rfl | ⟨octets, rfl, rfl⟩⟩)
    · exact .inl (.subject attr hAttr hText)
    · exact .inl (.rfc822 hSan)
    · exact .inl (.smtpUtf8 san hSan hText)
    · exact .inr (.dns _ hSan)
    · exact .inr (.uri _ hSan)
    · exact .inr (.ip octets hSan)
  · rintro (hMailbox | hHost)
    · cases hMailbox with
      | subject attr hAttr hText => exact .inl ⟨attr, hAttr, hText⟩
      | rfc822 hSan => exact .inr ⟨_, hSan, .inl (.inl rfl)⟩
      | smtpUtf8 san hSan hText => exact .inr ⟨san, hSan, .inl (.inr hText)⟩
    · cases hHost with
      | dns name hSan => exact .inr ⟨_, hSan, .inr (.inl rfl)⟩
      | uri uri hSan => exact .inr ⟨_, hSan, .inr (.inr (.inl rfl))⟩
      | ip octets hSan => exact .inr ⟨_, hSan, .inr (.inr (.inr ⟨octets, rfl, rfl⟩))⟩

end Collection

section Identification

variable {env : Externals}

theorem certified_extractCertInfo_iff {cert : Certificate} {address : String} :
    SenderResolver.Certified env address (extractCertInfo env cert).emails ↔
      MailboxMatches env cert address ∨ HostMatches env cert address := by
  unfold SenderResolver.Certified MailboxMatches HostMatches
  simp only [sanMatches_iff, mem_emails_iff, or_and_right, exists_or]

/-- Only the mailbox names identify a sender exactly when no other name of the
certificate matches, unless a mailbox name does as well. -/
theorem identifiedByMailbox_iff (env : Externals) (cert : Certificate) (address : String) :
    IdentifiedByMailbox env cert address ↔
      (HostMatches env cert address → MailboxMatches env cert address) := by
  constructor
  · intro h hHost
    have hAccepts : AcceptsSender env {} address none (extractCertInfo env cert).emails
        (extractCertInfo env cert).names :=
      acceptsSender_iff.mpr ⟨certified_extractCertInfo_iff.mpr (.inr hHost), by simp⟩
    exact h.accepted {} none hAccepts
  · intro h
    refine ⟨fun resolver name hAccepts => ?_, fun hHost hNone => absurd (h hHost) hNone⟩
    rcases certified_extractCertInfo_iff.mp (acceptsSender_iff.mp hAccepts).1 with hMailbox | hHost
    · exact hMailbox
    · exact h hHost

/-- The certificate of `leafCert` for the resource `anu@naide.ee`. -/
def resourceCert : Certificate :=
  { leafCert with extensions := some [⟨subjectAlternativeNameOid, []⟩] }

def resourceExternals : Externals :=
  { essExternals with
    parseSubjectAlternativeName := fun _ => .ok [.uniformResourceIdentifier "anu@naide.ee"] }

/-- A resource of the name of a mailbox is taken for the sender. -/
theorem not_identifiedByMailbox :
    ¬ IdentifiedByMailbox resourceExternals resourceCert "anu@naide.ee" := by
  intro h
  have hNames : subjectAlternativeNames resourceExternals resourceCert =
      [.uniformResourceIdentifier "anu@naide.ee"] := by decide +kernel
  have hHost : HostMatches resourceExternals resourceCert "anu@naide.ee" :=
    ⟨"anu@naide.ee", .uri _ (by rw [hNames]; exact List.mem_singleton_self _),
      eqIgnoreAsciiCase_refl _⟩
  have hAccepts : AcceptsSender resourceExternals {} "anu@naide.ee" none
      (extractCertInfo resourceExternals resourceCert).emails
      (extractCertInfo resourceExternals resourceCert).names :=
    acceptsSender_iff.mpr ⟨certified_extractCertInfo_iff.mpr (.inr hHost), by simp⟩
  obtain ⟨text, hMailbox, -⟩ := h.accepted {} none hAccepts
  have hSubject : ∀ attr ∈ resourceCert.subject.flatten, attr.typeId ≠ emailAddressOid := by
    decide +kernel
  cases hMailbox with
  | subject attr hAttr hText => exact hSubject attr hAttr hText.1
  | rfc822 hSan =>
      rw [hNames] at hSan
      simp at hSan
  | smtpUtf8 san hSan hText =>
      obtain ⟨value, rfl, -⟩ := hText
      rw [hNames] at hSan
      simp at hSan

end Identification

end Smime
