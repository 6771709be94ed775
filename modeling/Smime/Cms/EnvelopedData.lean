import Smime.Cms.ImplicitSets

/-! EnvelopedData (RFC 5652, section 6.1) and AuthEnvelopedData (RFC 5083,
section 2.1) as they are sent: implicit tags leave the sender a choice that is
invisible to a decoder which does not know these types. -/
namespace Smime.Cms

open X690 X690.Value

def context2Tag : Tag := Tag.ofOctet 0xA2 (by decide)
def implicit0Tag : Tag := Tag.ofOctet 0x80 (by decide)

def context2 (children : List Value) : Value :=
  .cons context2Tag (by decide) (by decide) children

def octetString (content : Octets) : Value :=
  .prim StringType.octetString.primitiveTag StringType.octetString.primitiveTag_constructed content

/-- An OCTET STRING under IMPLICIT `[0]`, in one piece or in segments. -/
inductive ImplicitOctets where
  | whole (content : Octets)
  | segments (pieces : List Octets)
  deriving DecidableEq

namespace ImplicitOctets

def octets : ImplicitOctets → Octets
  | whole content => content
  | segments pieces => pieces.flatten

def toValue : ImplicitOctets → Value
  | whole content => .prim implicit0Tag (by decide) content
  | segments pieces => context0 (pieces.map octetString)

end ImplicitOctets

structure EncryptedContentInfo where
  contentType : Octets
  contentEncryptionAlgorithm : Value
  encryptedContent : Option ImplicitOctets

def EncryptedContentInfo.toValue (info : EncryptedContentInfo) : Value :=
  sequence ([oid info.contentType, info.contentEncryptionAlgorithm] ++
    (info.encryptedContent.map ImplicitOctets.toValue).toList)

structure EnvelopedData where
  version : Value
  originatorInfo : Option (List Value)
  recipientInfos : List Value
  encryptedContentInfo : EncryptedContentInfo
  unprotectedAttrs : Option (List Value)

structure AuthEnvelopedData where
  version : Value
  originatorInfo : Option (List Value)
  recipientInfos : List Value
  authEncryptedContentInfo : EncryptedContentInfo
  authAttrs : Option (List Value)
  mac : Octets
  unauthAttrs : Option (List Value)

inductive EncryptedData where
  | enveloped (data : EnvelopedData)
  | authEnveloped (data : AuthEnvelopedData)

def EnvelopedData.fields (data : EnvelopedData) : List Value :=
  data.version :: ((data.originatorInfo.map context0).toList ++
    (setOf data.recipientInfos :: data.encryptedContentInfo.toValue ::
      (data.unprotectedAttrs.map context1).toList))

def AuthEnvelopedData.fields (data : AuthEnvelopedData) : List Value :=
  data.version :: ((data.originatorInfo.map context0).toList ++
    (setOf data.recipientInfos :: data.authEncryptedContentInfo.toValue ::
      ((data.authAttrs.map context1).toList ++
        (octetString data.mac :: (data.unauthAttrs.map context2).toList))))

/-- id-envelopedData, 1.2.840.113549.1.7.3. -/
def idEnvelopedData : Octets := [0x2A, 0x86, 0x48, 0x86, 0xF7, 0x0D, 0x01, 0x07, 0x03]

/-- id-ct-authEnvelopedData, 1.2.840.113549.1.9.16.1.23. -/
def idAuthEnvelopedData : Octets :=
  [0x2A, 0x86, 0x48, 0x86, 0xF7, 0x0D, 0x01, 0x09, 0x10, 0x01, 0x17]

namespace EncryptedData

def contentType : EncryptedData → Octets
  | enveloped _ => idEnvelopedData
  | authEnveloped _ => idAuthEnvelopedData

def fields : EncryptedData → List Value
  | enveloped data => data.fields
  | authEnveloped data => data.fields

def contentInfo (message : EncryptedData) : Value :=
  sequence [oid message.contentType, context0 [sequence message.fields]]

end EncryptedData

section SameValue

/-- Two ways to send one encrypted content. -/
structure EncryptedContentInfo.SameValue (info other : EncryptedContentInfo) : Prop where
  contentType : info.contentType = other.contentType
  contentEncryptionAlgorithm : info.contentEncryptionAlgorithm = other.contentEncryptionAlgorithm
  encryptedContent : info.encryptedContent.map ImplicitOctets.octets =
    other.encryptedContent.map ImplicitOctets.octets

/-- Two ways to send one EnvelopedData. -/
structure EnvelopedData.SameValue (data other : EnvelopedData) : Prop where
  version : data.version = other.version
  originatorInfo : data.originatorInfo = other.originatorInfo
  recipientInfos : data.recipientInfos.Perm other.recipientInfos
  encryptedContentInfo : data.encryptedContentInfo.SameValue other.encryptedContentInfo
  unprotectedAttrs : Option.Rel List.Perm data.unprotectedAttrs other.unprotectedAttrs

/-- Two ways to send one AuthEnvelopedData. -/
structure AuthEnvelopedData.SameValue (data other : AuthEnvelopedData) : Prop where
  version : data.version = other.version
  originatorInfo : data.originatorInfo = other.originatorInfo
  recipientInfos : data.recipientInfos.Perm other.recipientInfos
  authEncryptedContentInfo :
    data.authEncryptedContentInfo.SameValue other.authEncryptedContentInfo
  authAttrs : Option.Rel List.Perm data.authAttrs other.authAttrs
  mac : data.mac = other.mac
  unauthAttrs : Option.Rel List.Perm data.unauthAttrs other.unauthAttrs

/-- Two ways to send one encrypted message, as its ASN.1 types read it. -/
inductive EncryptedData.SameValue : EncryptedData → EncryptedData → Prop
  | enveloped {data other : EnvelopedData} (same : data.SameValue other) :
      SameValue (.enveloped data) (.enveloped other)
  | authEnveloped {data other : AuthEnvelopedData} (same : data.SameValue other) :
      SameValue (.authEnveloped data) (.authEnveloped other)

end SameValue

section AsSent

/-- Components in the order of the sender, each in DER. -/
def canonicalEach (components : Option (List Value)) : Option (List Value) :=
  components.map (List.map canonical)

def EncryptedContentInfo.canonical (info : EncryptedContentInfo) : EncryptedContentInfo :=
  { info with contentEncryptionAlgorithm := info.contentEncryptionAlgorithm.canonical }

/-- DER of what universal tags show: recipients in order, everything under an
implicit tag as it was sent. -/
def EnvelopedData.canonical (data : EnvelopedData) : EnvelopedData where
  version := data.version.canonical
  originatorInfo := canonicalEach data.originatorInfo
  recipientInfos := ascending (data.recipientInfos.map Value.canonical)
  encryptedContentInfo := data.encryptedContentInfo.canonical
  unprotectedAttrs := canonicalEach data.unprotectedAttrs

def AuthEnvelopedData.canonical (data : AuthEnvelopedData) : AuthEnvelopedData where
  version := data.version.canonical
  originatorInfo := canonicalEach data.originatorInfo
  recipientInfos := ascending (data.recipientInfos.map Value.canonical)
  authEncryptedContentInfo := data.authEncryptedContentInfo.canonical
  authAttrs := canonicalEach data.authAttrs
  mac := data.mac
  unauthAttrs := canonicalEach data.unauthAttrs

def EncryptedData.canonical : EncryptedData → EncryptedData
  | enveloped data => enveloped data.canonical
  | authEnveloped data => authEnveloped data.canonical

theorem canonical_sequence (children : List Value) :
    (sequence children).canonical = sequence (children.map Value.canonical) := by
  rw [sequence, canonical_cons, orderChildren, if_neg (by decide)]
  rfl

theorem canonical_context0 (children : List Value) :
    (context0 children).canonical = context0 (children.map Value.canonical) := by
  rw [context0, canonical_cons, orderChildren, if_neg (by decide)]
  rfl

theorem canonical_context1 (children : List Value) :
    (context1 children).canonical = context1 (children.map Value.canonical) := by
  rw [context1, canonical_cons, orderChildren, if_neg (by decide)]
  rfl

theorem canonical_context2 (children : List Value) :
    (context2 children).canonical = context2 (children.map Value.canonical) := by
  rw [context2, canonical_cons, orderChildren, if_neg (by decide)]
  rfl

theorem canonical_setOf (children : List Value) :
    (setOf children).canonical = setOf (ascending (children.map Value.canonical)) := by
  rw [setOf, canonical_cons, orderChildren, if_pos (by decide)]
  rfl

theorem map_canonical_optional {wrap : List Value → Value}
    (hWrap : ∀ children, (wrap children).canonical = wrap (children.map Value.canonical))
    (components : Option (List Value)) :
    (components.map wrap).toList.map Value.canonical =
      ((canonicalEach components).map wrap).toList := by
  cases components with
  | none => rfl
  | some children => exact congrArg (fun value => [value]) (hWrap children)

theorem ImplicitOctets.canonical_toValue (octets : ImplicitOctets) :
    octets.toValue.canonical = octets.toValue := by
  cases octets with
  | whole content => exact canonical_prim _ _ _
  | segments pieces =>
      have hPieces : Value.canonical ∘ octetString = octetString := by
        funext content
        exact canonical_prim _ _ content
      rw [ImplicitOctets.toValue, canonical_context0, List.map_map, hPieces]

theorem EncryptedContentInfo.canonical_toValue (info : EncryptedContentInfo) :
    info.toValue.canonical = info.canonical.toValue := by
  rw [toValue, canonical_sequence, List.map_append]
  congr 2
  cases hContent : info.encryptedContent with
  | none => simp [canonical, hContent]
  | some octets => simp [canonical, hContent, octets.canonical_toValue]

theorem EncryptedData.canonical_contentInfo (message : EncryptedData) :
    message.contentInfo.canonical = message.canonical.contentInfo := by
  have hFields : message.fields.map Value.canonical = message.canonical.fields := by
    cases message with
    | enveloped data =>
        simp only [fields, EnvelopedData.fields, List.map_cons, List.map_append,
          map_canonical_optional canonical_context0, map_canonical_optional canonical_context1,
          canonical_setOf, EncryptedContentInfo.canonical_toValue]
        rfl
    | authEnveloped data =>
        simp only [fields, AuthEnvelopedData.fields, List.map_cons, List.map_append,
          map_canonical_optional canonical_context0, map_canonical_optional canonical_context1,
          map_canonical_optional canonical_context2, canonical_setOf,
          EncryptedContentInfo.canonical_toValue]
        rw [octetString, canonical_prim]
        rfl
  have hType : message.canonical.contentType = message.contentType := by
    cases message <;> rfl
  rw [contentInfo, canonical_sequence, contentInfo, hType]
  simp only [List.map_cons, List.map_nil, canonical_context0, canonical_sequence, hFields]
  rw [oid, canonical_prim]

end AsSent

section Distinguished

/-- An encrypted content under IMPLICIT `[0]` in one piece, where there is one. -/
def InOnePiece (content : Option ImplicitOctets) : Prop :=
  ∀ octets ∈ content, ∃ whole, octets = .whole whole

/-- The members of an optional SET OF in ascending order. -/
def MembersAscending (members : Option (List Value)) : Prop :=
  ∀ children ∈ members, Ascending children

/-- What DER asks of the fields that an implicit tag hides. -/
def EncryptedData.Distinguished : EncryptedData → Prop
  | enveloped data =>
      InOnePiece data.encryptedContentInfo.encryptedContent ∧
        MembersAscending data.unprotectedAttrs
  | authEnveloped data =>
      InOnePiece data.authEncryptedContentInfo.encryptedContent ∧
        MembersAscending data.authAttrs ∧ MembersAscending data.unauthAttrs

theorem InOnePiece.eq {content other : Option ImplicitOctets} (h : InOnePiece content)
    (hOther : InOnePiece other)
    (hSame : content.map ImplicitOctets.octets = other.map ImplicitOctets.octets) :
    content = other := by
  cases content with
  | none =>
      cases other with
      | none => rfl
      | some => cases hSame
  | some octets =>
      cases other with
      | none => cases hSame
      | some otherOctets =>
          obtain ⟨whole, rfl⟩ := h octets rfl
          obtain ⟨otherWhole, rfl⟩ := hOther otherOctets rfl
          rw [show whole = otherWhole from Option.some.inj hSame]

theorem EncryptedContentInfo.SameValue.canonical_eq {info other : EncryptedContentInfo}
    (hSame : info.SameValue other) (h : InOnePiece info.encryptedContent)
    (hOther : InOnePiece other.encryptedContent) : info.canonical = other.canonical := by
  have hContent := h.eq hOther hSame.encryptedContent
  obtain ⟨contentType, algorithm, content⟩ := info
  obtain ⟨otherType, otherAlgorithm, otherContent⟩ := other
  obtain rfl : contentType = otherType := hSame.contentType
  obtain rfl : algorithm = otherAlgorithm := hSame.contentEncryptionAlgorithm
  obtain rfl : content = otherContent := hContent
  rfl

/-- The order in which the members were sent does not show in ascending ones. -/
theorem map_encode_of_ascending {children others : List Value} (hPerm : children.Perm others)
    (h : Ascending (children.map canonical)) (hOther : Ascending (others.map canonical)) :
    (children.map canonical).map encode = (others.map canonical).map encode := by
  have hOctets := (hPerm.map canonical).map encode
  exact hOctets.eq_of_pairwise' (List.pairwise_map.mpr h) (List.pairwise_map.mpr hOther)

theorem map_encode_optional (wrap : List Value → Value)
    (hWrap : ∀ children others, children.map encode = others.map encode →
      (wrap children).encode = (wrap others).encode)
    {members others : Option (List Value)} (hSame : Option.Rel List.Perm members others)
    (h : MembersAscending (canonicalEach members))
    (hOther : MembersAscending (canonicalEach others)) :
    ((canonicalEach members).map wrap).toList.map encode =
      ((canonicalEach others).map wrap).toList.map encode := by
  cases hSame with
  | none => rfl
  | some hPerm =>
      exact congrArg (fun octets => [octets])
        (hWrap _ _ (map_encode_of_ascending hPerm (h _ rfl) (hOther _ rfl)))

theorem encode_cons_congr {tag : Tag} {hc hw} {children others : List Value}
    (h : children.map encode = others.map encode) :
    (cons tag hc hw children).encode = (cons tag hc hw others).encode := by
  rw [encode_cons, encode_cons, h]

theorem encode_setOf_ascending {children others : List Value} (hPerm : children.Perm others) :
    (setOf (ascending (children.map canonical))).encode =
      (setOf (ascending (others.map canonical))).encode := by
  apply encode_cons_congr
  rw [map_encode_ascending, map_encode_ascending]
  exact insertionSort_congr ((hPerm.map canonical).map encode)

theorem EncryptedData.SameValue.encode_canonical {message other : EncryptedData}
    (hSame : message.SameValue other) (h : message.canonical.Distinguished)
    (hOther : other.canonical.Distinguished) :
    message.canonical.contentInfo.encode = other.canonical.contentInfo.encode := by
  have hFields : message.canonical.contentType = other.canonical.contentType ∧
      message.canonical.fields.map encode = other.canonical.fields.map encode := by
    cases hSame with
    | @enveloped data otherData same =>
        refine ⟨rfl, ?_⟩
        have hInfo := same.encryptedContentInfo.canonical_eq h.1 hOther.1
        simp only [EncryptedData.canonical, EncryptedData.fields, EnvelopedData.fields,
          EnvelopedData.canonical, List.map_cons, List.map_append, same.version,
          same.originatorInfo, hInfo, encode_setOf_ascending same.recipientInfos,
          map_encode_optional context1 (fun _ _ => encode_cons_congr)
            same.unprotectedAttrs h.2 hOther.2]
    | @authEnveloped data otherData same =>
        refine ⟨rfl, ?_⟩
        have hInfo := same.authEncryptedContentInfo.canonical_eq h.1 hOther.1
        simp only [EncryptedData.canonical, EncryptedData.fields, AuthEnvelopedData.fields,
          AuthEnvelopedData.canonical, List.map_cons, List.map_append, same.version,
          same.originatorInfo, same.mac, hInfo, encode_setOf_ascending same.recipientInfos,
          map_encode_optional context1 (fun _ _ => encode_cons_congr)
            same.authAttrs h.2.1 hOther.2.1,
          map_encode_optional context2 (fun _ _ => encode_cons_congr)
            same.unauthAttrs h.2.2 hOther.2.2]
  have hWhole : (sequence message.canonical.fields).encode =
      (sequence other.canonical.fields).encode :=
    encode_cons_congr hFields.2
  have hExplicit : (context0 [sequence message.canonical.fields]).encode =
      (context0 [sequence other.canonical.fields]).encode :=
    encode_cons_congr (by simp only [List.map_cons, hWhole])
  rw [contentInfo, contentInfo, hFields.1]
  exact encode_cons_congr (by simp only [List.map_cons, hExplicit])

end Distinguished

section Injective

theorem context0_inj {children others : List Value} (h : context0 children = context0 others) :
    children = others :=
  (cons.inj h).2

theorem context1_inj {children others : List Value} (h : context1 children = context1 others) :
    children = others :=
  (cons.inj h).2

theorem context2_inj {children others : List Value} (h : context2 children = context2 others) :
    children = others :=
  (cons.inj h).2

theorem octetString_inj {content other : Octets} (h : octetString content = octetString other) :
    content = other :=
  (prim.inj h).2

theorem ImplicitOctets.toValue_inj {octets other : ImplicitOctets}
    (h : octets.toValue = other.toValue) : octets = other := by
  cases octets with
  | whole content =>
      cases other with
      | whole otherContent => rw [(prim.inj h).2]
      | segments pieces => cases h
  | segments pieces =>
      cases other with
      | whole content => cases h
      | segments others =>
          have hPieces := context0_inj h
          rw [List.map_inj_right fun _ _ => octetString_inj] at hPieces
          rw [hPieces]

/-- An optional field is told from the one that follows it by its tag. -/
theorem optional_append_inj {γ : Type} {wrap : List Value → Value} (next : γ → Value)
    {components others : Option (List Value)} {first second : γ} {rest more : List Value}
    (hWrap : ∀ a b, wrap a = wrap b → a = b) (hNext : ∀ a b, wrap a ≠ next b)
    (h : (components.map wrap).toList ++ (next first :: rest) =
      (others.map wrap).toList ++ (next second :: more)) :
    components = others ∧ next first = next second ∧ rest = more := by
  cases components with
  | none =>
      cases others with
      | none => exact ⟨rfl, List.cons.inj h⟩
      | some b => exact absurd (List.cons.inj h).1.symm (hNext _ _)
  | some a =>
      cases others with
      | none => exact absurd (List.cons.inj h).1 (hNext _ _)
      | some b =>
          obtain ⟨hHead, hTail⟩ := List.cons.inj h
          rw [hWrap a b hHead]
          exact ⟨rfl, List.cons.inj hTail⟩

theorem optional_inj {γ : Type} {wrap : γ → Value} {components others : Option γ}
    (hWrap : ∀ a b, wrap a = wrap b → a = b)
    (h : (components.map wrap).toList = (others.map wrap).toList) : components = others := by
  cases components with
  | none =>
      cases others with
      | none => rfl
      | some b => cases h
  | some a =>
      cases others with
      | none => cases h
      | some b => rw [hWrap a b (List.cons.inj h).1]

theorem EncryptedContentInfo.toValue_inj {info other : EncryptedContentInfo}
    (h : info.toValue = other.toValue) : info = other := by
  obtain ⟨hType, hRest⟩ := List.cons.inj (cons.inj h).2
  obtain ⟨hAlgorithm, hContent⟩ := List.cons.inj hRest
  obtain ⟨contentType, contentEncryptionAlgorithm, encryptedContent⟩ := info
  obtain ⟨otherType, otherAlgorithm, otherContent⟩ := other
  obtain rfl : contentType = otherType := (prim.inj hType).2
  obtain rfl : contentEncryptionAlgorithm = otherAlgorithm := hAlgorithm
  obtain rfl : encryptedContent = otherContent :=
    optional_inj (fun _ _ => ImplicitOctets.toValue_inj) hContent
  rfl

theorem context0_ne_setOf (children others : List Value) : context0 children ≠ setOf others := by
  intro h
  exact absurd (cons.inj h).1 (by decide)

theorem context1_ne_octetString (children : List Value) (content : Octets) :
    context1 children ≠ octetString content := by
  intro h
  cases h

theorem EnvelopedData.fields_inj {data other : EnvelopedData} (h : data.fields = other.fields) :
    data = other := by
  obtain ⟨hVersion, hRest⟩ := List.cons.inj h
  obtain ⟨hOriginator, hRecipients, hRest⟩ :=
    optional_append_inj setOf (fun _ _ => context0_inj) context0_ne_setOf hRest
  obtain ⟨hInfo, hAttrs⟩ := List.cons.inj hRest
  obtain ⟨version, originatorInfo, recipientInfos, info, unprotectedAttrs⟩ := data
  obtain ⟨otherVersion, otherOriginator, otherRecipients, otherInfo, otherAttrs⟩ := other
  obtain rfl : version = otherVersion := hVersion
  obtain rfl : originatorInfo = otherOriginator := hOriginator
  obtain rfl : recipientInfos = otherRecipients := (cons.inj hRecipients).2
  obtain rfl : info = otherInfo := EncryptedContentInfo.toValue_inj hInfo
  obtain rfl : unprotectedAttrs = otherAttrs := optional_inj (fun _ _ => context1_inj) hAttrs
  rfl

theorem AuthEnvelopedData.fields_inj {data other : AuthEnvelopedData}
    (h : data.fields = other.fields) : data = other := by
  obtain ⟨hVersion, hRest⟩ := List.cons.inj h
  obtain ⟨hOriginator, hRecipients, hRest⟩ :=
    optional_append_inj setOf (fun _ _ => context0_inj) context0_ne_setOf hRest
  obtain ⟨hInfo, hRest⟩ := List.cons.inj hRest
  obtain ⟨hAuthAttrs, hMac, hAttrs⟩ := optional_append_inj octetString
    (fun _ _ => context1_inj) context1_ne_octetString hRest
  obtain ⟨version, originatorInfo, recipientInfos, info, authAttrs, mac, unauthAttrs⟩ := data
  obtain ⟨otherVersion, otherOriginator, otherRecipients, otherInfo, otherAuth, otherMac,
    otherUnauth⟩ := other
  obtain rfl : version = otherVersion := hVersion
  obtain rfl : originatorInfo = otherOriginator := hOriginator
  obtain rfl : recipientInfos = otherRecipients := (cons.inj hRecipients).2
  obtain rfl : info = otherInfo := EncryptedContentInfo.toValue_inj hInfo
  obtain rfl : authAttrs = otherAuth := hAuthAttrs
  obtain rfl : mac = otherMac := octetString_inj hMac
  obtain rfl : unauthAttrs = otherUnauth := optional_inj (fun _ _ => context2_inj) hAttrs
  rfl

theorem EncryptedData.contentInfo_inj {message other : EncryptedData}
    (h : message.contentInfo = other.contentInfo) : message = other := by
  obtain ⟨hType, hRest⟩ := List.cons.inj (cons.inj h).2
  have hFields : message.fields = other.fields :=
    (cons.inj (List.cons.inj (context0_inj (List.cons.inj hRest).1)).1).2
  cases message with
  | enveloped data =>
      cases other with
      | enveloped otherData => rw [EnvelopedData.fields_inj hFields]
      | authEnveloped otherData =>
          exact absurd (prim.inj hType).2 (by decide : idEnvelopedData ≠ idAuthEnvelopedData)
  | authEnveloped data =>
      cases other with
      | enveloped otherData =>
          exact absurd (prim.inj hType).2 (by decide : idAuthEnvelopedData ≠ idEnvelopedData)
      | authEnveloped otherData => rw [AuthEnvelopedData.fields_inj hFields]

end Injective
end Smime.Cms
