import Smime.Utils.CmsCanonical
import Smime.Cms.EnvelopedData

/-! `ber_to_der_cms` on encrypted messages. Only a SignedData is looked into, so
what an implicit tag hides from `ber_to_der` stays as the sender wrote it. -/
namespace Smime.Utils

open X690 Cms

/-- A BER encoding of an encrypted message that `ber_to_der` can take: no
element looks like end-of-contents and none lies too deep, and the input and
the rewritten vector have lengths that are a `usize`. -/
structure EncodesMessage (target : Target) (input : Octets) (message : EncryptedData) : Prop where
  encodes : ∃ ber, ber.encode = input ∧ ber.height ≤ maxBerDepth ∧
    Encodes ber message.contentInfo
  tags : message.contentInfo.NoTagZero
  slice : input.length < target.usizeSize
  vector : message.contentInfo.der.length < target.usizeSize

theorem contentType_ne_idSignedData (message : EncryptedData) :
    oid message.contentType ≠ oid idSignedData := by
  intro h
  have hContent := (Value.prim.inj h).2
  cases message with
  | enveloped data => exact absurd hContent (by decide : idEnvelopedData ≠ idSignedData)
  | authEnveloped data => exact absurd hContent (by decide : idAuthEnvelopedData ≠ idSignedData)

/-- An encrypted message is rewritten as far as its universal tags show. -/
theorem berToDerCms_encrypted {target : Target} {input : Octets} {message : EncryptedData}
    (h : EncodesMessage target input message) :
    berToDerCms target input = .ok message.canonical.contentInfo.encode := by
  obtain ⟨⟨ber, hOctets, hHeight, hEncodes⟩, hTags, hSlice, hVector⟩ := h
  have hDer : berToDer target input = .ok message.contentInfo.der :=
    (berToDer_ok_iff_element target input _ hSlice).mpr
      ⟨ber, _, hOctets, hEncodes.eocFree hTags, Nat.lt_succ_of_le hHeight, hEncodes, rfl⟩
  have hContentInfo : message.contentInfo.der = message.canonical.contentInfo.encode := by
    rw [Value.der, EncryptedData.canonical_contentInfo]
  rw [hContentInfo] at hVector hDer
  rw [berToDerCms, hDer, Except.ok_bind']
  exact sortCmsImplicitSets_other _ (contentType_ne_idSignedData message.canonical) hVector

theorem EncodesMessage.length_lt {target : Target} {input : Octets} {message : EncryptedData}
    (h : EncodesMessage target input message) :
    message.canonical.contentInfo.encode.length < 256 ^ 127 := by
  rw [← EncryptedData.canonical_contentInfo]
  exact h.vector.trans (usizeSize_lt target)

theorem EncodesMessage.canonical_eq {target : Target} {input : Octets}
    {message other : EncryptedData} (h : EncodesMessage target input message)
    (hSame : message.canonical.contentInfo.encode = other.contentInfo.encode) :
    message.canonical = other :=
  EncryptedData.contentInfo_inj (Value.encode_inj h.length_lt hSame)

/-- Both inputs get one DER, with the encrypted content in one piece and every
implicitly tagged SET OF in ascending order. -/
def GetSameDer (target : Target) (input input' : Octets) : Prop :=
  ∃ out, berToDerCms target input = .ok out ∧ berToDerCms target input' = .ok out ∧
    ∃ message : EncryptedData, out = message.contentInfo.encode ∧ message.Distinguished

section Streamed

/-- The DER of a message is one of its BER encodings. -/
theorem encodesMessage_der {target : Target} {message : EncryptedData}
    (hTags : message.contentInfo.NoTagZero) (hHeight : message.contentInfo.height ≤ maxBerDepth)
    (hVector : message.contentInfo.der.length < target.usizeSize) :
    EncodesMessage target message.contentInfo.der message := by
  obtain ⟨ber, hDer, hEncodes, hOctets⟩ :=
    exists_isDer message.contentInfo (hVector.trans (usizeSize_lt target))
  exact ⟨⟨ber, hOctets, (hDer.height_le hEncodes).trans hHeight, hEncodes⟩, hTags, hVector,
    hVector⟩

/-- An EnvelopedData without recipients. -/
def envelopedWith (content : ImplicitOctets) (attrs : List Value) : EncryptedData :=
  .enveloped {
    version := integer 0
    originatorInfo := none
    recipientInfos := []
    encryptedContentInfo := {
      contentType := [0x2A, 0x86, 0x48, 0x86, 0xF7, 0x0D, 0x01, 0x07, 0x01]
      contentEncryptionAlgorithm := null
      encryptedContent := some content }
    unprotectedAttrs := some attrs }

theorem noTagZero_list {children : List Value} {tag : Tag} {hc hw}
    (h : children.Forall Value.NoTagZero) : (Value.cons tag hc hw children).NoTagZero :=
  .cons (List.forall_iff_forall_mem.mp h)

theorem encodesMessage_envelopedWith {content : ImplicitOctets} {attrs : List Value}
    (hContent : content.toValue.NoTagZero) (hAttrs : attrs.Forall Value.NoTagZero)
    (hHeight : (envelopedWith content attrs).contentInfo.height ≤ maxBerDepth)
    (hVector : (envelopedWith content attrs).contentInfo.der.length <
      Target.native64.usizeSize) :
    EncodesMessage .native64 (envelopedWith content attrs).contentInfo.der
      (envelopedWith content attrs) := by
  have hPrim : ∀ (tag : Tag) (h : tag.constructed = false) (octets : Octets),
      tag.first ≠ 0x00 → (Value.prim tag h octets).NoTagZero := fun _ _ _ hFirst => .prim hFirst
  refine encodesMessage_der ?_ hHeight hVector
  refine noTagZero_list ⟨hPrim _ _ _ (by decide), noTagZero_list (noTagZero_list ⟨?_, ?_, ?_, ?_⟩)⟩
  · exact hPrim _ _ _ (by decide)
  · exact noTagZero_list trivial
  · exact noTagZero_list ⟨hPrim _ _ _ (by decide), hPrim _ _ _ (by decide), hContent⟩
  · exact noTagZero_list hAttrs

/-- A content in one piece, the attributes in ascending order. -/
def wholeMessage : EncryptedData := envelopedWith (.whole [0xAA, 0xBB]) [integer 1, integer 2]

/-- The same message from a sender that streams the content. -/
def streamedMessage : EncryptedData :=
  envelopedWith (.segments [[0xAA], [0xBB]]) [integer 2, integer 1]

theorem sameValue_streamedMessage : wholeMessage.SameValue streamedMessage :=
  .enveloped ⟨rfl, rfl, List.Perm.refl _, ⟨rfl, rfl, rfl⟩, .some (.swap _ _ _)⟩

theorem encodesMessage_wholeMessage :
    EncodesMessage .native64 wholeMessage.contentInfo.der wholeMessage :=
  encodesMessage_envelopedWith (.prim (by decide)) ⟨.prim (by decide), .prim (by decide)⟩
    (by decide +kernel) (by decide +kernel)

theorem encodesMessage_streamedMessage :
    EncodesMessage .native64 streamedMessage.contentInfo.der streamedMessage :=
  encodesMessage_envelopedWith (noTagZero_list ⟨.prim (by decide), .prim (by decide)⟩)
    ⟨.prim (by decide), .prim (by decide)⟩ (by decide +kernel) (by decide +kernel)

/-- The elements of a ContentInfo one after the other, without their header. -/
def contentInfoBody (message : EncryptedData) : Octets :=
  (([oid message.contentType, context0 [Cms.sequence message.fields]] : List Value).map
    Value.der).flatten

/-- A message in the indefinite length, as a sender writes it that does not know how
long it will get. -/
theorem encodesMessage_indefinite {target : Target} {message : EncryptedData}
    (hTags : message.contentInfo.NoTagZero) (hHeight : message.contentInfo.height ≤ maxBerDepth)
    (hSlice : (contentInfoBody message).length + 4 < target.usizeSize)
    (hVector : message.contentInfo.der.length < target.usizeSize) :
    EncodesMessage target (0x30 :: 0x80 :: (contentInfoBody message ++ [0x00, 0x00])) message := by
  obtain ⟨ber, hDer, hEncodes, -⟩ :=
    exists_isDer message.contentInfo (hVector.trans (usizeSize_lt target))
  have hBerHeight := (hDer.height_le hEncodes).trans hHeight
  rw [EncryptedData.contentInfo, Cms.sequence] at hEncodes
  cases hEncodes with
  | @cons _ hConstructed _ form children sent _ exact inner order =>
      cases hDer with
      | cons _ _ _ innerDer =>
          have hSent : sent = [oid message.contentType, context0 [Cms.sequence message.fields]] := by
            rw [SentAs, if_neg (by decide)] at order
            exact order
          have hOctets : List.Forall₂ Eq (children.map Ber.encode) (sent.map Value.der) := by
            apply List.forall₂_map_left_iff.mpr
            apply List.forall₂_map_right_iff.mpr
            exact inner.imp_mem fun child hMem value h => (innerDer child hMem).encode_eq_der h
          refine ⟨⟨.cons sequenceTag hConstructed .indefinite children, ?_, hBerHeight,
            .cons trivial inner order⟩, hTags, ?_, hVector⟩
          · rw [List.forall₂_eq_eq_eq] at hOctets
            rw [Ber.encode_cons, Ber.encodeList_eq, hOctets, hSent]
            rfl
          · simpa using hSlice

theorem encodesMessage_wholeMessage_indefinite :
    EncodesMessage .native64
      (0x30 :: 0x80 :: (contentInfoBody wholeMessage ++ [0x00, 0x00])) wholeMessage :=
  encodesMessage_indefinite encodesMessage_wholeMessage.tags (by decide +kernel)
    (by decide +kernel) (by decide +kernel)

end Streamed
end Smime.Utils
