import Smime.Data.Except
import Smime.Errors
import Smime.Mail.Entity
import Smime.Utils.BerToDerCms

/-! `smime_content_kind` and the two functions of `src/lib.rs` that take the CMS
out of a message, and which part of a clear-signed message is taken as what. -/
namespace Smime

open X690 (Octets)
open Mail Utils

/-- S/MIME shape of a MIME part. -/
inductive SmimeContentKind where
  | pkcs7Mime
  | pkcs7Signature
  | signedMultipart
  | other
  deriving DecidableEq

def smimeContentKind (ct : ContentType) : SmimeContentKind :=
  let subtypeIs (name : String) : Bool := ct.cSubtype.any (eqIgnoreAsciiCase · name)
  let isApplication := eqIgnoreAsciiCase ct.cType "application"
  let isPkcs7Protocol := (ct.attribute "protocol").any fun protocol =>
    eqIgnoreAsciiCase protocol "application/pkcs7-signature" ||
      eqIgnoreAsciiCase protocol "application/x-pkcs7-signature"
  if isApplication && (subtypeIs "pkcs7-mime" || subtypeIs "x-pkcs7-mime") then .pkcs7Mime
  else if isApplication && (subtypeIs "pkcs7-signature" || subtypeIs "x-pkcs7-signature") then
    .pkcs7Signature
  else if eqIgnoreAsciiCase ct.cType "multipart" && subtypeIs "signed" && isPkcs7Protocol then
    .signedMultipart
  else .other

def hasKind (kind : SmimeContentKind) (info : PartInfo) : Bool :=
  info.contentType.any fun ct => smimeContentKind ct == kind

/-- `sig_id`: the first pkcs7-signature part of the flat list. -/
def signatureId (message : Message) : Option (Fin message.parts.length) :=
  message.parts.findFinIdx? fun part => hasKind .pkcs7Signature part.toPartInfo

def extractSmimeClearSignedContent (target : Target) (message : Message) (emlContent : Octets) :
    Except SmimeError (Octets × Octets) :=
  if message.parts.length < 2 then .error .msgNotEnoughParts
  else do
    let sigId ← orError .noSigSubpart (signatureId message)
    let p7sDer ← (berToDerCms target message.parts[sigId].contents).mapError fun err =>
      .parsePkcs7Sig ("BER-to-DER: " ++ err)
    match message.parts.head?.map MessagePart.body with
    | some (.multipart children) => do
        let contentId ← orError .msgNotEnoughParts (children.find? (· ≠ sigId.val))
        let contentPart ← orError .msgNotEnoughParts message.parts[contentId]?
        let content ← orError (.extractMultipart "signed part offsets out of range")
          (getRange emlContent contentPart.offsetHeader contentPart.offsetEnd)
        return (content, p7sDer)
    | _ => .error .msgNotEnoughParts

def extractSmimeOpaqueP7mDer (target : Target) (message : Message) : Except SmimeError Octets := do
  let part ← orError .noPkcs7Mime
    (message.parts.find? fun part => hasKind .pkcs7Mime part.toPartInfo)
  (berToDerCms target part.contents).mapError fun err => .parsePkcs7Msg ("BER-to-DER: " ++ err)

section ClearSigned

variable {target : Target} {message : Message} {eml content p7s : Octets}
  {info : PartInfo} {source : Octets} {children : List Entity}

/-- RFC 1847: the first body part is the signed entity, the second one the
signature, and these two are what the extraction takes. -/
def TakesFirstTwo (target : Target) (message : Message) (children : List Entity)
    (content p7s : Octets) : Prop :=
  ∃ (signed signature : Entity) (rest : List Entity),
    children = signed :: signature :: rest ∧
      hasKind .pkcs7Signature signature.info ∧
        (signatureId message).map Fin.val = some (signed.size + 1) ∧
          content = signed.source ∧ berToDerCms target signature.info.contents = .ok p7s

/-- In document order the first pkcs7-signature is the second body part. -/
def SecondIsFirstSignature (children : List Entity) : Prop :=
  ∃ (signed signature : Entity) (rest : List Entity),
    children = signed :: signature :: rest ∧
      (∀ entity ∈ signed.entities, hasKind .pkcs7Signature entity.info = false) ∧
        hasKind .pkcs7Signature signature.info

theorem extractSmimeClearSignedContent_ok
    (h : extractSmimeClearSignedContent target message eml = .ok (content, p7s)) :
    ∃ (sigId : Fin message.parts.length) (positions : List Nat) (contentId : Nat)
        (contentPart : MessagePart),
      signatureId message = some sigId ∧
        berToDerCms target (message.parts.get sigId).contents = .ok p7s ∧
        message.parts.head?.map MessagePart.body = some (.multipart positions) ∧
        positions.find? (· ≠ sigId.val) = some contentId ∧
        message.parts[contentId]? = some contentPart ∧
        getRange eml contentPart.offsetHeader contentPart.offsetEnd = some content := by
  unfold extractSmimeClearSignedContent at h
  split at h
  · cases h
  rw [Except.bind_eq_ok_iff] at h
  obtain ⟨sigId, hSigId, h⟩ := h
  rw [Except.bind_eq_ok_iff] at h
  obtain ⟨der, hDer, h⟩ := h
  rw [orError_eq_ok_iff] at hSigId
  rw [Except.mapError_eq_ok_iff] at hDer
  split at h
  next positions hBody =>
    simp only [Except.bind_eq_ok_iff, orError_eq_ok_iff, Except.pure_eq_ok', Except.ok.injEq,
      Prod.mk.injEq] at h
    obtain ⟨contentId, hContentId, contentPart, hPart, range, hRange, rfl, rfl⟩ := h
    exact ⟨sigId, positions, contentId, contentPart, hSigId, hDer, hBody, hContentId, hPart, hRange⟩
  next => cases h

/-- The first element that satisfies `p` stands behind `before`. -/
theorem findIdx?_eq_some_length_iff {α : Type} {p : α → Bool} {before behind : List α} {a : α} :
    (before ++ a :: behind).findIdx? p = some before.length ↔
      (∀ b ∈ before, p b = false) ∧ p a = true := by
  rw [List.findIdx?_append]
  cases hBefore : before.findIdx? p with
  | none =>
      rw [List.findIdx?_eq_none_iff] at hBefore
      simp only [Option.none_or, List.findIdx?_cons]
      constructor
      · intro h
        split at h
        next ha => exact ⟨hBefore, ha⟩
        next =>
          simp only [Option.map_map, Option.map_eq_some_iff, Function.comp_apply] at h
          obtain ⟨i, -, hi⟩ := h
          omega
      · rintro ⟨-, ha⟩
        simp [ha]
  | some i =>
      rw [List.findIdx?_eq_some_iff_getElem] at hBefore
      obtain ⟨hi, hp, -⟩ := hBefore
      constructor
      · intro h
        simp only [Option.some_or, Option.some.injEq] at h
        omega
      · rintro ⟨hNone, -⟩
        rw [hNone _ (List.getElem_mem hi)] at hp
        cases hp

theorem signatureId_eq {root : Entity} (hParsed : ParsedAs message eml root) :
    (signatureId message).map Fin.val =
      root.entities.findIdx? fun entity => hasKind .pkcs7Signature entity.info := by
  calc (signatureId message).map Fin.val
      = message.parts.findIdx? (hasKind .pkcs7Signature ∘ MessagePart.toPartInfo) :=
        List.findIdx?_eq_map_findFinIdx?_val.symm
    _ = (root.entities.map Entity.info).findIdx? (hasKind .pkcs7Signature) := by
        rw [← List.findIdx?_map, hParsed.parts_info]
    _ = _ := List.findIdx?_map

/-- In document order, the root and the entities of the first body part stand
before the second body part. -/
theorem exists_entities_split (info : PartInfo) (source : Octets) (signed signature : Entity)
    (rest : List Entity) :
    ∃ before behind : List Entity,
      (Entity.multipart info source (signed :: signature :: rest)).entities =
          before ++ signature :: behind ∧
        before = .multipart info source (signed :: signature :: rest) :: signed.entities ∧
          before.length = signed.size + 1 := by
  obtain ⟨behind, hSignature⟩ := signature.exists_entities_eq
  refine ⟨_, behind ++ Entity.entitiesAll rest, ?_, rfl, ?_⟩
  · simp [Entity.entities, Entity.entitiesAll, hSignature]
  · rw [List.length_cons, Entity.length_entities]

/-- In a container whose root is not a signature itself, the second body part
is taken as the signature when it is the first one in document order. -/
theorem signatureId_eq_second_iff {signed signature : Entity} {rest : List Entity}
    (hParsed : ParsedAs message eml (.multipart info source (signed :: signature :: rest)))
    (hRoot : hasKind .pkcs7Signature info = false) :
    (signatureId message).map Fin.val = some (signed.size + 1) ↔
      (∀ entity ∈ signed.entities, hasKind .pkcs7Signature entity.info = false) ∧
        hasKind .pkcs7Signature signature.info := by
  obtain ⟨before, behind, hEntities, hBefore, hLength⟩ :=
    exists_entities_split info source signed signature rest
  rw [signatureId_eq hParsed, hEntities, ← hLength, findIdx?_eq_some_length_iff, hBefore]
  simp only [List.mem_cons, forall_eq_or_imp, Entity.info, hRoot, true_and]

theorem body_root (hParsed : ParsedAs message eml (.multipart info source children)) :
    message.parts.head?.map MessagePart.body = some (.multipart (Entity.positions 1 children)) := by
  rw [hParsed.parts, Entity.flatten]
  rfl

/-- Behind the second body part as the signature, the content is the first. -/
theorem content_eq_first {signed : Entity} {rest : List Entity} {positions : List Nat}
    {sigId contentId : Nat} {contentPart : MessagePart}
    (hParsed : ParsedAs message eml (.multipart info source (signed :: rest)))
    (hSigId : sigId = signed.size + 1)
    (hBody : message.parts.head?.map MessagePart.body = some (.multipart positions))
    (hFind : positions.find? (· ≠ sigId) = some contentId)
    (hPart : message.parts[contentId]? = some contentPart)
    (hRange : getRange eml contentPart.offsetHeader contentPart.offsetEnd = some content) :
    content = signed.source := by
  rw [body_root hParsed, Option.some.injEq, PartType.multipart.injEq] at hBody
  have hFirst : 1 ≠ sigId := by
    have hPos := signed.size_pos
    omega
  have hContentId : contentId = 1 := by
    rw [← hBody, Entity.positions, List.find?_cons_of_pos (by simpa using hFirst)] at hFind
    exact (Option.some.inj hFind).symm
  obtain ⟨behind, hSigned⟩ := signed.exists_entities_eq
  have hEntities : (Entity.multipart info source (signed :: rest)).entities =
      [.multipart info source (signed :: rest)] ++
        signed :: (behind ++ Entity.entitiesAll rest) := by
    simp [Entity.entities, Entity.entitiesAll, hSigned]
  have hInfo : contentPart.toPartInfo = signed.info := by
    apply hParsed.info_of_getElem hEntities
    rw [← hPart, hContentId]
    rfl
  have hSource := hParsed.offsets signed (by rw [hEntities]; simp)
  rw [hInfo, hSource] at hRange
  exact (Option.some.inj hRange).symm

theorem smimeContentKind_root (hKind : hasKind .signedMultipart info) :
    hasKind .pkcs7Signature info = false := by
  cases hType : info.contentType with
  | none => simp [hasKind, hType]
  | some ct =>
      simp only [hasKind, hType, Option.any_some, beq_iff_eq] at hKind ⊢
      simp [hKind]

end ClearSigned

section Messages

def ascii (text : String) : Octets := text.toList.map fun c => UInt8.ofNat c.toNat

/-- A ContentInfo of PKCS #7 type `type` that leaves its content out. -/
def bareContentInfo (type : UInt8) : Octets :=
  [0x30, 0x0B, 0x06, 0x09, 0x2A, 0x86, 0x48, 0x86, 0xF7, 0x0D, 0x01, 0x07, type]

def entityAt (offset : Nat) (ct : ContentType) (contents source : Octets) : PartInfo :=
  { contentType := some ct, contents, offsetHeader := offset, offsetEnd := offset + source.length }

def textAt (offset : Nat) : Entity :=
  let contents := ascii "Hello"
  let source := ascii "Content-Type: text/plain\r\n\r\n" ++ contents
  .leaf (entityAt offset ⟨"text", some "plain", []⟩ contents source) source

def signatureAt (der : Octets) (offset : Nat) : Entity :=
  let source := ascii "Content-Type: application/pkcs7-signature\r\n\r\n" ++ der
  .leaf (entityAt offset ⟨"application", some "pkcs7-signature", []⟩ der source) source

/-- A multipart/signed entity of two body parts with boundary `boundary`. -/
def signedAt (boundary : String) (first second : Nat → Entity) (offset : Nat) : Entity :=
  let opening := ascii "Content-Type: multipart/signed; protocol=\"application/pkcs7-signature\";"
    ++ ascii " boundary=\"" ++ ascii boundary ++ ascii "\"\r\n\r\n--" ++ ascii boundary ++ ascii "\r\n"
  let separator := ascii "\r\n--" ++ ascii boundary ++ ascii "\r\n"
  let signed := first (offset + opening.length)
  let signature := second (offset + opening.length + signed.source.length + separator.length)
  let source := opening ++ signed.source ++ separator ++ signature.source ++
    ascii "\r\n--" ++ ascii boundary ++ ascii "--\r\n"
  let ct : ContentType := ⟨"multipart", some "signed",
    [("protocol", "application/pkcs7-signature"), ("boundary", boundary)]⟩
  .multipart (entityAt offset ct [] source) source [signed, signature]

/-- A message of one entity. -/
def messageOf (root : Entity) : Message :=
  { parts := root.flatten 0, fromAddr := none, date := none }

/-- Text and its signature. -/
def clearSigned : Entity := signedAt "SEP" textAt (signatureAt (bareContentInfo 1)) 0

/-- A clear-signed message signed again: the first body part is itself a
multipart/signed entity, with its own signature. -/
def signedTwice : Entity :=
  signedAt "SEP" (signedAt "IN" textAt (signatureAt (bareContentInfo 1)))
    (signatureAt (bareContentInfo 2)) 0

theorem parsedAs_messageOf {root : Entity}
    (hOffsets : ∀ entity ∈ root.entities,
      getRange root.source entity.info.offsetHeader entity.info.offsetEnd = some entity.source) :
    ParsedAs (messageOf root) root.source root :=
  ⟨rfl, hOffsets⟩

end Messages

section Rfc1847

variable {target : Target} {message : Message} {eml content p7s : Octets}
  {info : PartInfo} {source : Octets} {children : List Entity}

/-- What the extraction takes from a multipart/signed message is the first body
part and the second one exactly when no pkcs7-signature stands before it. -/
theorem extractSmimeClearSignedContent_takes_first_two_iff
    (hParsed : ParsedAs message eml (.multipart info source children))
    (hKind : hasKind .signedMultipart info)
    (hOk : extractSmimeClearSignedContent target message eml = .ok (content, p7s)) :
    TakesFirstTwo target message children content p7s ↔ SecondIsFirstSignature children := by
  have hRoot := smimeContentKind_root hKind
  constructor
  · rintro ⟨signed, signature, rest, rfl, hSignature, hTaken, -, -⟩
    rw [signatureId_eq_second_iff hParsed hRoot] at hTaken
    exact ⟨signed, signature, rest, rfl, hTaken.1, hSignature⟩
  · rintro ⟨signed, signature, rest, rfl, hNone, hSignature⟩
    have hTaken := (signatureId_eq_second_iff hParsed hRoot).mpr ⟨hNone, hSignature⟩
    obtain ⟨sigId, positions, contentId, contentPart, hSigId, hDer, hBody, hFind, hPart, hRange⟩ :=
      extractSmimeClearSignedContent_ok hOk
    have hIndex : sigId.val = signed.size + 1 := by
      rw [hSigId] at hTaken
      exact Option.some.inj hTaken
    have hContent : content = signed.source :=
      content_eq_first hParsed hIndex hBody hFind hPart hRange
    obtain ⟨before, behind, hEntities, -, hLength⟩ :=
      exists_entities_split info source signed signature rest
    have hInfo : (message.parts.get sigId).toPartInfo = signature.info := by
      apply hParsed.info_of_getElem hEntities
      rw [hLength, ← hIndex]
      exact List.getElem?_eq_getElem sigId.isLt
    rw [hInfo] at hDer
    exact ⟨signed, signature, rest, rfl, hSignature, hTaken, hContent, hDer⟩

theorem extractSmimeClearSignedContent_takes_first_two_clearSigned :
    TakesFirstTwo .native64 (messageOf clearSigned) clearSigned.children
      (textAt 97).source (bareContentInfo 1) := by
  have hParsed : ParsedAs (messageOf clearSigned) clearSigned.source
      (.multipart clearSigned.info clearSigned.source clearSigned.children) :=
    parsedAs_messageOf (by decide +kernel)
  apply (extractSmimeClearSignedContent_takes_first_two_iff hParsed (by decide +kernel)
    (by decide +kernel)).mpr
  exact ⟨_, _, [], rfl, by decide +kernel, by decide +kernel⟩

/-- From the message signed twice the extraction takes the inner signature for
the outer container. -/
theorem not_extractSmimeClearSignedContent_takes_first_two :
    ¬ ∀ (target : Target) (message : Message) (eml content p7s : Octets) (info : PartInfo)
        (source : Octets) (children : List Entity),
      ParsedAs message eml (.multipart info source children) →
        hasKind .signedMultipart info →
          extractSmimeClearSignedContent target message eml = .ok (content, p7s) →
            TakesFirstTwo target message children content p7s := by
  intro h
  have hParsed : ParsedAs (messageOf signedTwice) signedTwice.source
      (.multipart signedTwice.info signedTwice.source signedTwice.children) :=
    parsedAs_messageOf (by decide +kernel)
  have hInner : extractSmimeClearSignedContent .native64 (messageOf signedTwice)
      signedTwice.source =
        .ok ((signedTwice.children.map Entity.source).headD [], bareContentInfo 1) := by
    decide +kernel
  rcases h .native64 _ _ _ _ _ _ _ hParsed (by decide +kernel) hInner with
    ⟨signed, signature, rest, hChildren, -, hTaken, -⟩
  have hSize : signed.size = 3 := by
    rw [← (List.cons.inj hChildren).1]
    rfl
  have hThird : (signatureId (messageOf signedTwice)).map Fin.val = some 3 := by
    decide +kernel
  rw [hThird, hSize] at hTaken
  cases hTaken

end Rfc1847

end Smime
