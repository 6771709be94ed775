import Smime.Data.Base64
import Smime.Data.Lists
import Smime.Layers
import Smime.Utils.SameValue

/-! A message whose CMS is encoded in another way: with other length forms, other
segments of its universal BIT STRINGs and OCTET STRINGs or its universal SETs in
another order. It gets the same report. -/
namespace Smime

open X690 (Octets Value)
open X509 Mail Utils

section Meaning

/-- Both are the encoding of one value. -/
def SameValue (target : Target) (contents other : Octets) : Prop :=
  ∃ (sent resent : Slice target) (value : Value),
    sent.octets = contents ∧ resent.octets = other ∧ ReadsAs sent.octets value ∧
      ReadsAs resent.octets value

/-- Both are normalised to one DER, or fail with one error. -/
def SameDer (target : Target) (contents other : Octets) : Prop :=
  berToDerCms target other = berToDerCms target contents

variable (same : Octets → Octets → Prop)

/-- The same part, but for the encoding of its CMS. -/
structure SamePart (part other : MessagePart) : Prop where
  contentType : other.contentType = part.contentType
  body : other.body = part.body
  contents : hasKind .pkcs7Mime part.toPartInfo ∨ hasKind .pkcs7Signature part.toPartInfo →
    same part.contents other.contents

/-- A child of the root other than the signature: what may be signed in the clear. -/
def MaySign (message : Message) (id : Nat) : Prop :=
  ∃ children : List Nat, message.parts.head?.map MessagePart.body = some (.multipart children) ∧
    id ∈ children ∧ (signatureId message).map Fin.val ≠ some id

/-- A message with its CMS in another encoding. What is signed in the clear stands
unchanged, wherever it stands. -/
structure Resent (eml other : Octets) (message otherMessage : Message) : Prop where
  fromAddr : otherMessage.fromAddr = message.fromAddr
  date : otherMessage.date = message.date
  parts : List.Forall₂ (SamePart same) message.parts otherMessage.parts
  signed : ∀ (id : Nat) (part otherPart : MessagePart), MaySign message id →
    message.parts[id]? = some part → otherMessage.parts[id]? = some otherPart →
      getRange other otherPart.offsetHeader otherPart.offsetEnd =
        getRange eml part.offsetHeader part.offsetEnd

/-- The CMS is unchanged, or another encoding of the same value. -/
def Reencoded (target : Target) : (eml other : Octets) → (message otherMessage : Message) → Prop :=
  Resent fun contents other => contents = other ∨ SameValue target contents other

end Meaning

section Extraction

variable {target : Target} {eml other : Octets} {message otherMessage : Message}
  {part otherPart : MessagePart}

theorem SameValue.sameDer {contents resent : Octets} (h : SameValue target contents resent) :
    SameDer target contents resent := by
  obtain ⟨sent, again, value, rfl, rfl, hSent, hAgain⟩ := h
  have hDer := (berToDer_ok_iff_readsAs sent value.der).mpr ⟨value, hSent, rfl⟩
  have hOtherDer := (berToDer_ok_iff_readsAs again value.der).mpr ⟨value, hAgain, rfl⟩
  rw [SameDer, berToDerCms, berToDerCms, hDer, hOtherDer]

theorem Reencoded.resent (h : Reencoded target eml other message otherMessage) :
    Resent (SameDer target) eml other message otherMessage where
  fromAddr := h.fromAddr
  date := h.date
  parts := h.parts.imp fun part otherPart hPart =>
    { contentType := hPart.contentType
      body := hPart.body
      contents := fun hKind => by
        rcases hPart.contents hKind with hSame | hValue
        · rw [SameDer, hSame]
        · exact hValue.sameDer }
  signed := h.signed

theorem SamePart.hasKind {same : Octets → Octets → Prop} (h : SamePart same part otherPart)
    (kind : SmimeContentKind) :
    hasKind kind otherPart.toPartInfo = hasKind kind part.toPartInfo := by
  rw [Smime.hasKind, Smime.hasKind, h.contentType]

variable (h : Resent (SameDer target) eml other message otherMessage)

include h

theorem Resent.head :
    Option.Rel (SamePart (SameDer target)) message.parts.head? otherMessage.parts.head? := by
  rw [List.head?_eq_getElem?, List.head?_eq_getElem?]
  exact h.parts.rel_getElem? 0

theorem Resent.contentType :
    otherMessage.contentType = message.contentType := by
  rw [Message.contentType, Message.contentType]
  cases hRoot : message.parts.head? with
  | none => rw [Option.eq_none_of_rel h.head hRoot]
  | some part =>
      obtain ⟨found, hFound, hSame⟩ := Option.exists_some_of_rel h.head hRoot
      rw [hFound]
      exact hSame.contentType

theorem Resent.signatureId :
    (signatureId otherMessage).map Fin.val = (signatureId message).map Fin.val := by
  rw [Smime.signatureId, Smime.signatureId, List.findFinIdx?_eq_pmap_findIdx?,
    List.findFinIdx?_eq_pmap_findIdx?, Option.map_pmap, Option.map_pmap, Option.pmap_eq_map,
    Option.pmap_eq_map, Option.map_id', Option.map_id']
  exact (h.parts.findIdx?_eq fun part other hPart => (hPart.hasKind _).symm).symm

theorem Resent.root :
    otherMessage.parts.head?.map MessagePart.body = message.parts.head?.map MessagePart.body :=
  (Option.map_eq_of_rel h.head fun _ _ hPart => hPart.body.symm).symm

/-- An opaque message is taken for the same CMS. -/
theorem Resent.opaqueDer :
    extractSmimeOpaqueP7mDer target otherMessage = extractSmimeOpaqueP7mDer target message := by
  have hFind := h.parts.rel_find? fun part other hPart => (hPart.hasKind .pkcs7Mime).symm
  rw [extractSmimeOpaqueP7mDer, extractSmimeOpaqueP7mDer]
  cases hPart : message.parts.find? fun part => hasKind .pkcs7Mime part.toPartInfo with
  | none => rw [Option.eq_none_of_rel hFind hPart]
  | some part =>
      obtain ⟨found, hFound, hSame⟩ := Option.exists_some_of_rel hFind hPart
      have hKind := List.find?_some hPart
      have hDer : berToDerCms target found.contents = berToDerCms target part.contents :=
        hSame.contents (.inl hKind)
      simp only [hFound, orError, Except.ok_bind', hDer]

/-- A clear-signed message is taken for the same content and the same CMS. -/
theorem Resent.clearSigned :
    extractSmimeClearSignedContent target otherMessage other =
      extractSmimeClearSignedContent target message eml := by
  have hLength := h.parts.length_eq
  have hIds := h.signatureId
  unfold extractSmimeClearSignedContent
  by_cases hFew : message.parts.length < 2
  · rw [if_pos hFew, if_pos (hLength ▸ hFew)]
  rw [if_neg hFew, if_neg (hLength ▸ hFew)]
  cases hId : Smime.signatureId message with
  | none =>
      rw [hId, Option.map_none, Option.map_eq_none_iff] at hIds
      rw [hIds]
      rfl
  | some id =>
      rw [hId, Option.map_some, Option.map_eq_some_iff] at hIds
      obtain ⟨otherId, hOtherId, hVal⟩ := hIds
      have hSame : SamePart (SameDer target) message.parts[id] otherMessage.parts[otherId] := by
        obtain ⟨part, hPart, hBoth⟩ :=
          Option.exists_some_of_rel (h.parts.rel_getElem? id.val)
            (List.getElem?_eq_getElem id.isLt)
        rw [← hVal, List.getElem?_eq_getElem otherId.isLt, Option.some.injEq] at hPart
        rw [← hPart] at hBoth
        exact hBoth
      have hKind : hasKind .pkcs7Signature message.parts[id].toPartInfo = true :=
        (List.findFinIdx?_eq_some_iff.mp hId).1
      have hDer : berToDerCms target otherMessage.parts[otherId].contents =
          berToDerCms target message.parts[id].contents := hSame.contents (.inr hKind)
      simp only [hOtherId, orError, Except.ok_bind', hDer, h.root, hVal]
      cases hRoot : message.parts.head?.map MessagePart.body with
      | none => rfl
      | some body =>
          cases body with
          | leaf => rfl
          | multipart children =>
              dsimp only
              cases hContent : children.find? (· ≠ id.val) with
              | none => rfl
              | some contentId =>
                  have hMay : MaySign message contentId := by
                    refine ⟨children, hRoot, List.mem_of_find?_eq_some hContent, ?_⟩
                    have hNot := List.find?_some hContent
                    rw [hId, Option.map_some, ne_eq, Option.some.injEq]
                    exact fun hEq => of_decide_eq_true hNot hEq.symm
                  have hRel := h.parts.rel_getElem? contentId
                  simp only [Except.ok_bind']
                  cases hPart : message.parts[contentId]? with
                  | none => simp only [Option.eq_none_of_rel hRel hPart, Except.error_bind']
                  | some part =>
                      obtain ⟨found, hFound, -⟩ := Option.exists_some_of_rel hRel hPart
                      simp only [hFound, Except.ok_bind',
                        h.signed contentId part found hMay hPart hFound]

end Extraction

section Report

variable {env : CmsExternals} {ctx : LayerContext} {eml other : Octets}
  {message otherMessage : Message} (hParse : env.parseMessage eml = some message)
  (hOther : env.parseMessage other = some otherMessage)
  (h : Resent (SameDer ctx.target) eml other message otherMessage)

include hParse hOther h

theorem verify_resent :
    verifySmimeFromEmlDetailed env.toExternals ctx.target other ctx.trust =
      verifySmimeFromEmlDetailed env.toExternals ctx.target eml ctx.trust := by
  simp only [verifySmimeFromEmlDetailed, hParse, hOther, h.contentType, verifyClearSigned,
    verifyOpaque, clearSignedInput, opaqueInput, h.clearSigned, h.opaqueDer, h.fromAddr,
    outerDateOf, h.date]

/-- The loop only sees the message in its first layer. -/
theorem process_resent (state : LayerState) :
    LayerState.process env ctx { state with currentEml := other } =
      LayerState.process env ctx { state with currentEml := eml } := by
  simp only [LayerState.process, decryptAndVerifyOneLayer, hParse, hOther, h.contentType,
    verify_resent hParse hOther h, pkcs7MimeContent, h.opaqueDer, layerHeaders, h.fromAddr, h.date]

theorem report_resent :
    verifySmimeFromEmlDetailed env.toExternals ctx.target other ctx.trust =
        verifySmimeFromEmlDetailed env.toExternals ctx.target eml ctx.trust ∧
      decryptAndVerifySmimeFromEmlDetailed env ctx other =
        decryptAndVerifySmimeFromEmlDetailed env ctx eml := by
  refine ⟨verify_resent hParse hOther h, ?_⟩
  have hProcess := process_resent hParse hOther h { currentEml := eml }
  unfold decryptAndVerifySmimeFromEmlDetailed maxDecryptDepth layerLoop
  simp only [hProcess]
  rfl

end Report

section Samples

/-! `innerEml`, and the message with its ContentInfo in the indefinite form. -/

def streamedCms : Octets := 0x30 :: 0x80 :: (unsignedDer 1 helloContent).drop 2 ++ [0x00, 0x00]

def streamedEml : Octets := pkcs7MimeHeader ++ base64 streamedCms ++ crlf

def streamedParse (eml : Octets) : Option Message :=
  if eml = streamedEml then some (singlePart pkcs7MimeType none streamedCms eml)
  else nestedMessage eml

def streamedExternals : CmsExternals := cmsExternals streamedParse nestedContentInfo

end Samples

end Smime
