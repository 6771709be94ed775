import Smime.ModifyCms
import Smime.Reencoding
import Smime.Utils.CmsCanonical

/-! What a message says after `ber_to_der` of `src/modify_cms.rs` has rewritten it:
the same as before, to the verification and to the decryption. -/
namespace Smime.ModifyCms

open X690 (Octets)
open Mail Utils

section Parser

/-- A part as the extraction and as the tool see it. -/
structure Views (part : MessagePart) (view : BodyPart) : Prop where
  contentType : view.contentType = part.contentType
  contents : view.contents = part.contents

/-- None of the bodies stands in the part. -/
def HoldsNoBody (bodies : List BodyPart) (part : MessagePart) : Prop :=
  ∀ body ∈ bodies, body.offsetEnd < part.offsetHeader ∨ part.offsetEnd < body.offsetBody

variable {env : CmsExternals} {target : Target} {decode : TransferEncoding → Octets → Octets}
  {parse : Octets → Option (List BodyPart)} {eml out : Octets} {parts reparsed : List BodyPart}
  {message otherMessage : Message} {first : Octets} {pieces : List (Piece UInt8 BodyPart)}

/-- What the parser reads in a message whose PKCS#7 bodies have given way to others. -/
structure Reparsed (decode : TransferEncoding → Octets → Octets) (eml : Octets)
    (first : Octets) (pieces : List (Piece UInt8 BodyPart)) (newBody : BodyPart → Octets)
    (parts reparsed : List BodyPart) (message otherMessage : Message) : Prop where
  fromAddr : otherMessage.fromAddr = message.fromAddr
  date : otherMessage.date = message.date
  shape : List.Forall₂ (fun part other => other.contentType = part.contentType ∧
    other.body = part.body) message.parts otherMessage.parts
  bodies : List.Forall₂ (fun part new => new.contentType = part.contentType ∧
    new.encoding = part.encoding ∧
      (isPkcs7ContentType part → new.contents = decode part.encoding (newBody part))) parts reparsed
  layout : Piece.Layout BodyPart.offsetBody BodyPart.offsetEnd (Piece.replaced newBody first pieces)
    (pkcs7Parts reparsed) first (Piece.refilled newBody pieces (pkcs7Parts reparsed))
  untouched : ∀ (id : Nat) (part other : MessagePart), message.parts[id]? = some part →
    otherMessage.parts[id]? = some other → HoldsNoBody (pkcs7Parts parts) part →
      getRange (Piece.replaced newBody first pieces) other.offsetHeader other.offsetEnd =
        getRange eml part.offsetHeader part.offsetEnd

/-- One MIME parser gives both views of a message. Text that holds no boundary takes
the place of bodies without a change to what is around them. -/
structure ParsesAlike (env : CmsExternals) (decode : TransferEncoding → Octets → Octets)
    (parse : Octets → Option (List BodyPart)) : Prop where
  mime : ∀ eml, ParsesMime decode parse eml
  views : ∀ eml message parts, env.parseMessage eml = some message → parse eml = some parts →
    List.Forall₂ Views message.parts parts
  reparses : ∀ eml message parts first pieces newBody, env.parseMessage eml = some message →
    parse eml = some parts →
      Piece.Layout BodyPart.offsetBody BodyPart.offsetEnd eml (pkcs7Parts parts) first pieces →
        (∀ part ∈ pkcs7Parts parts, IsBase64Text (newBody part)) →
          ∃ otherMessage reparsed,
            env.parseMessage (Piece.replaced newBody first pieces) = some otherMessage ∧
              parse (Piece.replaced newBody first pieces) = some reparsed ∧
                Reparsed decode eml first pieces newBody parts reparsed message otherMessage

/-- The PKCS#7 parts are in Base64, their octets in memory and none of them stands in
what is signed in the clear. -/
structure Rewritable (target : Target) (message : Message) (parts : List BodyPart) : Prop where
  base64 : ∀ part ∈ pkcs7Parts parts, part.encoding = .base64
  held : ∀ part ∈ pkcs7Parts parts, part.contents.length < target.usizeSize
  apart : ∀ (id : Nat) (part : MessagePart), MaySign message id →
    message.parts[id]? = some part → HoldsNoBody (pkcs7Parts parts) part

theorem isPkcs7ContentType_of_hasKind {part : MessagePart} {view : BodyPart} (h : Views part view)
    (hKind : hasKind .pkcs7Mime part.toPartInfo ∨ hasKind .pkcs7Signature part.toPartInfo) :
    isPkcs7ContentType view = true := by
  rw [isPkcs7ContentType, h.contentType]
  unfold hasKind at hKind
  cases hType : part.contentType with
  | none => simp [hType] at hKind
  | some ct =>
      simp only [hType, Option.any_some, smimeContentKind] at hKind
      cases hSubtype : ct.cSubtype with
      | none => simp [hSubtype] at hKind
      | some subtype =>
          simp only [hSubtype, Option.any_some] at hKind
          grind

theorem length_le_wrapBase64 (der : Octets) : der.length ≤ (wrapBase64 der).length := by
  by_cases hEmpty : der = []
  · rw [hEmpty]
    exact Nat.zero_le _
  obtain ⟨text, rest, hWrapped, -, hLonger⟩ := exists_wrapBase64_eq hEmpty
  have hDigits := List.length_filter_le Base64.isDigit text
  rw [hWrapped, List.length_append]
  omega

/-- A part that was rewritten holds the DER, which is its own normal form. -/
def Settled (target : Target) (part new : BodyPart) : Prop :=
  new.contentType = part.contentType ∧ new.encoding = part.encoding ∧
    (isPkcs7ContentType part → ∃ der : Octets, berToDerCms target part.contents = .ok der ∧
      new.contents = der ∧ berToDerCms target der = .ok der)

/-- The tool settles the parts that it rewrites. -/
theorem Reparsed.settled (hMime : ParsesMime decode parse eml)
    (hRewritable : Rewritable target message parts)
    (hOut : (Piece.replaced (newBody target) first pieces).length < target.usizeSize)
    (hLayout : Piece.Layout BodyPart.offsetBody BodyPart.offsetEnd eml (pkcs7Parts parts) first
      pieces)
    (hConverts : ∀ part ∈ pkcs7Parts parts, Converts target part)
    (h : Reparsed decode eml first pieces (newBody target) parts reparsed message otherMessage) :
    List.Forall₂ (Settled target) parts reparsed := by
  refine h.bodies.imp_mem fun part hMem new hNew => ?_
  obtain ⟨hType, hEncoding, hContents⟩ := hNew
  refine ⟨hType, hEncoding, fun hPkcs7 => ?_⟩
  have hBody : part ∈ pkcs7Parts parts := List.mem_filter.mpr ⟨hMem, hPkcs7⟩
  obtain ⟨der, hDer⟩ := hConverts part hBody
  have hNewBody : newBody target part = wrapBase64 der := by
    rw [newBody, hDer]
  have hSize : der.length < target.usizeSize := by
    obtain ⟨piece, hPiece, rfl⟩ : ∃ piece ∈ pieces, piece.range = part := by
      rw [← hLayout.ranges, List.mem_map] at hBody
      exact hBody
    have hReplaced := @Piece.length_newBody_le _ _ (newBody target) first pieces piece hPiece
    rw [hNewBody] at hReplaced
    exact ((length_le_wrapBase64 der).trans hReplaced).trans_lt hOut
  refine ⟨der, hDer, ?_, berToDerCms_fixed (hRewritable.held part hBody) hSize hDer⟩
  rw [hContents hPkcs7, hRewritable.base64 part hBody, hNewBody,
    hMime.base64 _ der (isBase64Text_wrapBase64 der) (filter_wrapBase64 der)]

/-- To the extraction it is the message in another encoding. -/
theorem Reparsed.resent (hRewritable : Rewritable target message parts)
    (hViews : List.Forall₂ Views message.parts parts)
    (hOtherViews : List.Forall₂ Views otherMessage.parts reparsed)
    (hSettled : List.Forall₂ (Settled target) parts reparsed)
    (h : Reparsed decode eml first pieces (newBody target) parts reparsed message otherMessage) :
    Resent (SameDer target) eml (Piece.replaced (newBody target) first pieces) message
      otherMessage where
  fromAddr := h.fromAddr
  date := h.date
  parts := by
    have hThrough := (hViews.comp hSettled).comp hOtherViews.flip
    refine List.Forall₂.mp (fun part other hShape hFound => ?_) h.shape hThrough
    obtain ⟨hType, hBody⟩ := hShape
    obtain ⟨new, ⟨view, hView, -, -, hDer⟩, hOther⟩ := hFound
    refine ⟨hType, hBody, fun hKind => ?_⟩
    obtain ⟨der, hConverted, hNew, hFixed⟩ := hDer (isPkcs7ContentType_of_hasKind hView hKind)
    rw [hView.contents] at hConverted
    rw [SameDer, ← hOther.contents, hNew, hFixed, hConverted]
  signed id part other hMay hPart hOther :=
    h.untouched id part other hPart hOther (hRewritable.apart id part hMay hPart)

/-- A second pass finds the DER and writes the same file. -/
theorem Reparsed.fixed
    (hMime : ParsesMime decode parse (Piece.replaced (newBody target) first pieces))
    (hReparse : parse (Piece.replaced (newBody target) first pieces) = some reparsed)
    (hLayout : Piece.Layout BodyPart.offsetBody BodyPart.offsetEnd eml (pkcs7Parts parts) first
      pieces)
    (hSome : pkcs7Parts parts ≠ [])
    (hSettled : List.Forall₂ (Settled target) parts reparsed)
    (h : Reparsed decode eml first pieces (newBody target) parts reparsed message otherMessage) :
    berToDer target parse (Piece.replaced (newBody target) first pieces) =
      Call.ok (Piece.replaced (newBody target) first pieces) := by
  have hParts : List.Forall₂ (Settled target) (pkcs7Parts parts) (pkcs7Parts reparsed) := by
    refine List.rel_filter (fun part new hNew => ?_) hSettled
    simp only [isPkcs7ContentType, hNew.1]
  have hBodies : List.Forall₂ (fun part new => newBody target new = newBody target part)
      (pkcs7Parts parts) (pkcs7Parts reparsed) := by
    refine hParts.imp_mem fun part hMem new hNew => ?_
    obtain ⟨der, hDer, hContents, hFixed⟩ := hNew.2.2 (List.mem_filter.mp hMem).2
    rw [newBody, newBody, hContents, hFixed, hDer]
  rw [berToDer_ok_iff hMime.inOrder]
  refine ⟨reparsed, hReparse, ?_, ?_, first, _, h.layout, ?_⟩
  · intro hNone
    rw [hNone] at hParts
    exact hSome (List.forall₂_nil_right_iff.mp hParts)
  · intro new hMem
    obtain ⟨part, hPart, hNew⟩ := hParts.exists_left hMem
    obtain ⟨der, hDer, hContents, hFixed⟩ := hNew.2.2 (List.mem_filter.mp hPart).2
    exact ⟨der, by rw [hContents, hFixed]⟩
  · rw [← hLayout.ranges] at hBodies
    exact (Piece.replaced_refilled hBodies).symm

end Parser

/-- What `ber_to_der` writes is a fixed point of it and says what the message said:
the verification and the decryption report the same, to every receiver. -/
theorem berToDer_keeps_report (env : CmsExternals) (ctx : LayerContext)
    {decode : TransferEncoding → Octets → Octets} {parse : Octets → Option (List BodyPart)}
    (laws : ParsesAlike env decode parse) {eml out : Octets} {message : Message}
    {parts : List BodyPart} (hMessage : env.parseMessage eml = some message)
    (hParts : parse eml = some parts) (hRewritable : Rewritable ctx.target message parts)
    (hWritten : berToDer ctx.target parse eml = Call.ok out)
    (hOut : out.length < ctx.target.usizeSize) :
    berToDer ctx.target parse out = Call.ok out ∧
      verifySmimeFromEmlDetailed env.toExternals ctx.target out ctx.trust =
        verifySmimeFromEmlDetailed env.toExternals ctx.target eml ctx.trust ∧
      decryptAndVerifySmimeFromEmlDetailed env ctx out =
        decryptAndVerifySmimeFromEmlDetailed env ctx eml := by
  obtain ⟨found, hFound, hSome, hConverts, first, pieces, hLayout, rfl⟩ :=
    (berToDer_ok_iff (laws.mime eml).inOrder).mp hWritten
  rw [hParts, Option.some.injEq] at hFound
  subst hFound
  obtain ⟨otherMessage, reparsed, hOtherMessage, hReparse, hReparsed⟩ :=
    laws.reparses eml message parts first pieces (newBody ctx.target) hMessage hParts hLayout
      fun part hMem => isBase64Text_newBody (hConverts part hMem)
  have hSettled := hReparsed.settled (laws.mime eml) hRewritable hOut hLayout hConverts
  refine ⟨hReparsed.fixed (laws.mime _) hReparse hLayout hSome hSettled, ?_⟩
  exact report_resent hMessage hOtherMessage (hReparsed.resent hRewritable
    (laws.views eml message parts hMessage hParts)
    (laws.views _ otherMessage reparsed hOtherMessage hReparse) hSettled)

section Samples

/-! The message of one part in Base64, with its ContentInfo in the indefinite form. -/

def onePartMessage (header eml : Octets) : Option Message :=
  (parseOnePart header .base64 eml).map fun parts =>
    { parts := parts.map fun part => ⟨⟨part.contentType, part.contents, 0, eml.length⟩, .leaf⟩
      fromAddr := none
      date := none }

def onePartExternals : CmsExternals := cmsExternals (onePartMessage base64Header) nestedContentInfo

/-- The body stands behind the header, and behind it nothing. -/
theorem layout_onePart {header eml first : Octets} {encoding : TransferEncoding}
    {pieces : List (Piece UInt8 BodyPart)} (hHeader : header <+: eml)
    (h : Piece.Layout BodyPart.offsetBody BodyPart.offsetEnd eml [onePart header encoding eml] first
      pieces) :
    ∃ body : Octets, first = header ∧ pieces = [⟨onePart header encoding eml, body, []⟩] := by
  obtain ⟨⟨range, body, gap⟩, rfl, rfl⟩ := List.map_eq_singleton_iff.mp h.ranges
  obtain ⟨hStart, hStop⟩ := h.positions [] _ [] rfl
  have hText := h.text
  simp only [onePart, List.flatMap_nil, List.append_nil] at hStart hStop
  simp only [List.flatMap_cons, List.flatMap_nil, List.append_nil, Piece.octets] at hText
  have hFirst : first = header :=
    (List.prefix_of_prefix_length_le (hText ▸ List.prefix_append _ _) hHeader
      hStart.ge).eq_of_length hStart.symm
  have hGap : gap = [] := by
    have hLength := congrArg List.length hText
    simp only [List.length_append] at hLength
    exact List.length_eq_zero_iff.mp (by omega)
  exact ⟨body, hFirst, by rw [hGap]⟩

theorem parsesAlike_onePart :
    ParsesAlike onePartExternals sampleDecode (parseOnePart base64Header .base64) where
  mime eml := parsesMime_onePart base64Header .base64 eml
  views eml message parts hMessage hParts := by
    have hEnv : onePartExternals.parseMessage = onePartMessage base64Header := rfl
    rw [hEnv, onePartMessage, hParts, Option.map_some, Option.some.injEq] at hMessage
    subst hMessage
    exact List.forall₂_map_left_iff.mpr (List.forall₂_same.mpr fun part _ => ⟨rfl, rfl⟩)
  reparses eml message parts first pieces newBody hMessage hParts hLayout _ := by
    have hEnv : onePartExternals.parseMessage = onePartMessage base64Header := rfl
    rw [hEnv, onePartMessage, hParts, Option.map_some, Option.some.injEq] at hMessage
    unfold parseOnePart at hParts
    split at hParts
    next hHeader =>
      cases hParts
      rw [pkcs7Parts_onePart] at hLayout
      obtain ⟨body, rfl, rfl⟩ := layout_onePart hHeader hLayout
      have hReplaced : Piece.replaced newBody base64Header
          [⟨onePart base64Header .base64 eml, body, []⟩] =
            base64Header ++ newBody (onePart base64Header .base64 eml) := by
        simp [Piece.replaced]
      have hAgain := parseOnePart_append base64Header .base64
        (newBody (onePart base64Header .base64 eml))
      rw [hReplaced]
      refine ⟨_, _, by rw [hEnv, onePartMessage, hAgain, Option.map_some], hAgain, ?_⟩
      subst hMessage
      refine ⟨rfl, rfl, .cons ⟨rfl, rfl⟩ .nil, .cons ⟨rfl, rfl, fun _ => ?_⟩ .nil, ?_, ?_⟩
      · rw [onePart, List.drop_left]
        rfl
      · rw [hReplaced, pkcs7Parts_onePart]
        refine ⟨rfl, by simp [Piece.refilled, Piece.octets], ?_⟩
        intro front piece behind hEq
        obtain ⟨rfl, hPiece⟩ : front = [] ∧ piece = _ := by
          cases front with
          | nil => exact ⟨rfl, (List.cons.inj hEq).1.symm⟩
          | cons other front => simp [Piece.refilled] at hEq
        rw [hPiece]
        simp [onePart]
      · intro id part other hPart _ hApart
        obtain rfl : part = ⟨⟨(onePart base64Header .base64 eml).contentType,
            (onePart base64Header .base64 eml).contents, 0, eml.length⟩, .leaf⟩ := by
          simpa using List.mem_of_getElem? hPart
        rw [pkcs7Parts_onePart] at hApart
        have hLength := hHeader.length_le
        rcases hApart _ List.mem_cons_self with hBefore | hBehind
        · exact absurd hBefore (Nat.not_lt_zero _)
        · exact absurd hBehind (not_lt.mpr hLength)
    next => cases hParts

def streamedPartEml : Octets := base64Header ++ wrapBase64 streamedCms

def rewrittenEml : Octets := base64Header ++ wrapBase64 (unsignedDer 1 helloContent)

theorem berToDer_keeps_report_sample :
    berToDer .native64 (parseOnePart base64Header .base64) rewrittenEml = Call.ok rewrittenEml ∧
      verifySmimeFromEmlDetailed onePartExternals.toExternals .native64 rewrittenEml
          debugTrust.trust =
        verifySmimeFromEmlDetailed onePartExternals.toExternals .native64 streamedPartEml
          debugTrust.trust ∧
      decryptAndVerifySmimeFromEmlDetailed onePartExternals debugTrust rewrittenEml =
        decryptAndVerifySmimeFromEmlDetailed onePartExternals debugTrust streamedPartEml := by
  have hParts : parseOnePart base64Header .base64 streamedPartEml =
      some [onePart base64Header .base64 streamedPartEml] :=
    parseOnePart_append base64Header .base64 (wrapBase64 streamedCms)
  have hMessage : onePartExternals.parseMessage streamedPartEml =
      onePartMessage base64Header streamedPartEml := rfl
  rw [onePartMessage, hParts, Option.map_some] at hMessage
  have hWritten : berToDer .native64 (parseOnePart base64Header .base64) streamedPartEml =
      Call.ok rewrittenEml := by
    have hRun : (berToDer .native64 (parseOnePart base64Header .base64) streamedPartEml).run =
        some (.ok rewrittenEml) := by
      decide +kernel
    exact hRun
  have hSize : (onePart base64Header .base64 streamedPartEml).contents.length <
      Target.native64.usizeSize := by
    decide +kernel
  refine berToDer_keeps_report onePartExternals debugTrust parsesAlike_onePart hMessage hParts ?_
    hWritten (by decide +kernel)
  constructor
  · rw [pkcs7Parts_onePart]
    exact List.forall_mem_singleton.mpr rfl
  · rw [pkcs7Parts_onePart]
    exact List.forall_mem_singleton.mpr hSize
  · intro id part hMay
    obtain ⟨children, hRoot, -⟩ := hMay
    cases hRoot

end Samples

end Smime.ModifyCms
