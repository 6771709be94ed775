import Smime.Cms.Distinguished
import Smime.CandidateKey
import Smime.SignerViolations
import Smime.Utils.CmsCanonical
import Smime.X690.Reordered

/-! The octets that a signature over signed attributes covers: one DER form for
every way to send the attributes, found by two sorts that have to agree. -/
namespace Smime

open X690 X690.Value
open X509 Mail Utils
open Cms (context0)

section Reception

/-- `ber_to_der` reads the octets as an encoding of a SignedData. -/
def Receives (input : Octets) (sent : Cms.SignedData) : Prop :=
  ∃ ber : Ber, ber.encode = input ∧ ber.EocFree ∧ ber.height ≤ maxBerDepth ∧
    Encodes ber sent.contentInfo

theorem canonical_contentInfo (sent : Cms.SignedData) :
    sent.contentInfo.canonical = Cms.sequence [Cms.oid idSignedData,
      context0 [Cms.sequence (sent.fields.map canonical)]] := by
  rw [Cms.SignedData.contentInfo, Cms.canonical_sequence]
  simp only [List.map_cons, List.map_nil, Cms.canonical_context0, Cms.canonical_sequence]
  rw [Cms.oid, canonical_prim]

/-- What an accepted SignedData is turned into. -/
theorem berToDerCms_distinguished {target : Target} {input out : Slice target}
    {sent : Cms.SignedData} (hReceives : Receives input.octets sent)
    (hAccepted : berToDerCms target input.octets = .ok out.octets) :
    ∃ message : Cms.SignedData, Cms.DistinguishedForm sent message ∧
      out.octets = message.contentInfo.encode := by
  obtain ⟨value, after, hDer, -, -, hSize, hSorted, hOut⟩ :=
    exists_setsSorted_of_berToDerCms hAccepted
  obtain ⟨ber, hOctets, hFree, hHeight, hEncodes⟩ := hReceives
  have hSlice := input.fits
  rw [← hOctets] at hSlice
  have hSent : berToDer target input.octets = .ok sent.contentInfo.der :=
    (berToDer_ok_iff_element target input.octets _ input.fits).mpr
      ⟨ber, _, hOctets, hFree, Nat.lt_succ_of_le hHeight, hEncodes, rfl⟩
  rw [hDer, Except.ok.injEq] at hSent
  have hValue : value = sent.contentInfo.canonical :=
    encode_inj (hSize.trans (usizeSize_lt target)) hSent
  obtain ⟨message, hForm, hFields⟩ := Cms.exists_distinguished sent
  refine ⟨message, hForm, ?_⟩
  have hPass : Cms.SetsSorted value message.contentInfo := by
    rw [hValue, canonical_contentInfo, Cms.SignedData.contentInfo, ← hFields]
    exact .signedData
  have hRun := @sortCmsImplicitSets_of_setsSorted target _ _ hPass hSize
  rw [sortCmsImplicitSets_of_setsSorted hSorted hSize, Except.ok.injEq] at hRun
  rw [hOut, hRun]

end Reception

section Encoding

variable {env : Externals}

/-- The octets with the identifier of a SET in the place of `[0]`. -/
def asSet (octets : Octets) : Octets := 0x31 :: octets.tail

theorem asSet_context0 (attrs : List Value) : asSet (context0 attrs).encode = (Cms.setOf attrs).encode := by
  rw [context0, Cms.setOf, encode_cons, encode_cons]
  rfl

/-- The sort of `ber_to_der_cms` is that of X.690, 11.6. -/
theorem encode_setOf_ascending (attrs : List Value) :
    (Cms.setOf (ascending (attrs.map canonical))).encode = (Cms.setOf attrs).der := by
  rw [der, Cms.canonical_setOf]

/-- The sort before the signature is verified leaves sorted attributes alone. -/
theorem isSetOf_encode {attrs : List Value} {parsed : List Attribute}
    (hSorted : Ascending attrs)
    (hWrites : List.Forall₂ (fun value attr => env.writeAttribute attr = .ok value.encode) attrs parsed) :
    IsSetOf env parsed (Cms.setOf attrs).encode := by
  refine ⟨attrs.map encode, ?_, ?_⟩
  · rw [List.forall₂_map_right_iff]
    exact hWrites.flip
  · rw [← map_encode_ascending, ascending_of_ascending hSorted, Cms.setOf, encode_cons]
    rfl

/-- Attributes in another order have the same SET OF. -/
theorem isSetOf_perm {attrs others : List Attribute} {data : Octets} (hPerm : others.Perm attrs)
    (h : IsSetOf env attrs data) : IsSetOf env others data := by
  obtain ⟨ders, hDers, rfl⟩ := h
  rw [Except.forall₂_ok_iff_pairs] at hDers
  obtain ⟨pairs, rfl, rfl, hPairs⟩ := hDers
  obtain ⟨shuffled, rfl, hShuffled⟩ := Cms.exists_perm_of_perm_map hPerm
  refine ⟨shuffled.map Prod.fst, ?_, ?_⟩
  · rw [Except.forall₂_ok_iff_pairs]
    exact ⟨shuffled, rfl, rfl, fun pair hMem => hPairs pair (hShuffled.mem_iff.mp hMem)⟩
  · rw [insertionSort_congr (hShuffled.map Prod.fst)]

theorem encodeSignedAttrs_perm {attrs others : List Attribute} (hPerm : others.Perm attrs)
    (data : Octets) :
    encodeSignedAttrs env others = .ok data ↔ encodeSignedAttrs env attrs = .ok data := by
  rw [encodeSignedAttrs_ok_iff, encodeSignedAttrs_ok_iff]
  exact ⟨isSetOf_perm hPerm.symm, isSetOf_perm hPerm⟩

end Encoding

section OneForm

/-- Parsing takes the SignerInfos and their attributes in order, and writing an
attribute gives back the octets that it was parsed from. -/
def ReadsSignedAttrs (env : Externals) : Prop :=
  ∀ (message : Cms.SignedData) (signedData : SignedData),
    env.parseContentInfo message.contentInfo.encode = .ok (.signedData signedData) →
      List.Forall₂ (fun (signer : Cms.SignerInfo) (info : SignerInfo) =>
          Option.Rel
            (List.Forall₂ fun value attr => env.writeAttribute attr = .ok value.encode)
            signer.signedAttrs info.authenticatedAttributes)
        message.signerInfos signedData.signerInfos

/-- What is signed for attributes `sentAttrs`, which `ber_to_der_cms` rewrote as
`attrs`: the octets of these as a SET, which are the DER of `sentAttrs` in any
order and with their values in any order. -/
structure OneForm (env : Externals) (sentAttrs attrs : List Value) (parsed : List Attribute) :
    Prop where
  encoded : encodeSignedAttrs env parsed = .ok (asSet (context0 attrs).encode)
  der : asSet (context0 attrs).encode = (Cms.setOf sentAttrs).der
  anyForm : ∀ others : List Value, SameSets (Cms.setOf sentAttrs) (Cms.setOf others) →
    (Cms.setOf others).der = asSet (context0 attrs).encode

/-- The same for the attributes of a SignerInfo, if it has any: as it was sent,
in the output and parsed. -/
def SignerForm (env : Externals) (sent signer : Cms.SignerInfo) (info : SignerInfo) : Prop :=
  (sent.signedAttrs = none ∧ signer.signedAttrs = none ∧ info.authenticatedAttributes = none) ∨
    ∃ (sentAttrs attrs : List Value) (parsed : List Attribute),
      sent.signedAttrs = some sentAttrs ∧ signer.signedAttrs = some attrs ∧
        info.authenticatedAttributes = some parsed ∧ OneForm env sentAttrs attrs parsed

/-- Every SignerInfo of an output is signed in one form. -/
def SignedInOneForm (env : Externals) (sent : Cms.SignedData) (out : Octets)
    (signedData : SignedData) : Prop :=
  ∃ (message : Cms.SignedData) (order : List Cms.SignerInfo),
    out = message.contentInfo.encode ∧ order.Perm sent.signerInfos ∧
      message.signerInfos.length = signedData.signerInfos.length ∧
        List.Forall₂ (fun signer rewritten => SignerForm env signer rewritten.1 rewritten.2) order
          (message.signerInfos.zip signedData.signerInfos)

variable {env : Externals}

theorem oneForm_distinguished {sentAttrs : List Value} {parsed : List Attribute}
    (hWrites : List.Forall₂ (fun value attr => env.writeAttribute attr = .ok value.encode)
      (ascending (sentAttrs.map canonical)) parsed) :
    OneForm env sentAttrs (ascending (sentAttrs.map canonical)) parsed := by
  have hDer : asSet (context0 (ascending (sentAttrs.map canonical))).encode =
      (Cms.setOf sentAttrs).der := by
    rw [asSet_context0, encode_setOf_ascending]
  refine ⟨?_, hDer, fun others hSame => ?_⟩
  · rw [encodeSignedAttrs_ok_iff, asSet_context0]
    exact isSetOf_encode (ascending_ascending _) hWrites
  · rw [hDer, hSame.der_eq]

theorem signerForm_distinguished {sent : Cms.SignerInfo} {info : SignerInfo}
    (hReads : Option.Rel (List.Forall₂ fun value attr => env.writeAttribute attr = .ok value.encode)
      sent.distinguished.signedAttrs info.authenticatedAttributes) :
    SignerForm env sent sent.distinguished info := by
  have hAttrs : sent.distinguished.signedAttrs = Cms.distinguishedEach sent.signedAttrs := rfl
  unfold SignerForm
  rw [hAttrs] at hReads ⊢
  unfold Cms.distinguishedEach at hReads ⊢
  cases hSent : sent.signedAttrs with
  | none =>
      rw [hSent, Option.map_none] at hReads
      cases hParsed : info.authenticatedAttributes with
      | none => exact .inl ⟨rfl, rfl, rfl⟩
      | some parsed =>
          rw [hParsed] at hReads
          cases hReads
  | some sentAttrs =>
      rw [hSent, Option.map_some] at hReads
      cases hParsed : info.authenticatedAttributes with
      | none =>
          rw [hParsed] at hReads
          cases hReads
      | some parsed =>
          rw [hParsed] at hReads
          cases hReads with
          | some hWrites => exact .inr ⟨_, _, _, rfl, rfl, rfl, oneForm_distinguished hWrites⟩

theorem signerForms_distinguished {order : List Cms.SignerInfo} {infos : List SignerInfo}
    (hReads : List.Forall₂ (fun (signer : Cms.SignerInfo) (info : SignerInfo) =>
      Option.Rel (List.Forall₂ fun value attr => env.writeAttribute attr = .ok value.encode)
        signer.signedAttrs info.authenticatedAttributes)
      (order.map Cms.SignerInfo.distinguished) infos) :
    List.Forall₂ (fun signer rewritten => SignerForm env signer rewritten.1 rewritten.2) order
      ((order.map Cms.SignerInfo.distinguished).zip infos) := by
  induction order generalizing infos with
  | nil => exact .nil
  | cons signer rest ih =>
      cases hReads with
      | cons hSigner hRest => exact .cons (signerForm_distinguished hSigner) (ih hRest)

/-- Signed attributes are verified in their one DER form, in which the message that
`ber_to_der_cms` puts out has them, and in no other for any order of attributes. -/
theorem signedAttrs_oneForm (env : Externals) (target : Target) (input out : Slice target)
    (sent : Cms.SignedData) (signedData : SignedData) (hReads : ReadsSignedAttrs env)
    (hReceives : Receives input.octets sent)
    (hAccepted : berToDerCms target input.octets = .ok out.octets)
    (hParsed : env.parseContentInfo out.octets = .ok (.signedData signedData)) :
    SignedInOneForm env sent out.octets signedData ∧
      ∀ (attrs others : List Attribute) (data : Octets), others.Perm attrs →
        (encodeSignedAttrs env others = .ok data ↔ encodeSignedAttrs env attrs = .ok data) := by
  refine ⟨?_, fun attrs others data hPerm => encodeSignedAttrs_perm hPerm data⟩
  obtain ⟨message, hForm, hOut⟩ := berToDerCms_distinguished hReceives hAccepted
  obtain ⟨order, hPerm, hSigners⟩ := hForm.signerInfos
  rw [hOut] at hParsed
  have hInfos := hReads message signedData hParsed
  refine ⟨message, order, hOut, hPerm, hInfos.length_eq, ?_⟩
  rw [hSigners] at hInfos ⊢
  exact signerForms_distinguished hInfos

/-! A SignerInfo whose message digest is sent before the content type. -/

def contentTypeAttr : Value :=
  Cms.sequence [Cms.oid [0x2A, 0x86, 0x48, 0x86, 0xF7, 0x0D, 0x01, 0x09, 0x03],
    Cms.setOf [Cms.oid [0x2A, 0x86, 0x48, 0x86, 0xF7, 0x0D, 0x01, 0x07, 0x01]]]

def messageDigestAttr : Value :=
  Cms.sequence [Cms.oid [0x2A, 0x86, 0x48, 0x86, 0xF7, 0x0D, 0x01, 0x09, 0x04],
    Cms.setOf [Cms.octetString essDigest]]

/-- The algorithm `sha256Alg`. -/
def sha256Value : Value :=
  Cms.sequence [Cms.oid [0x60, 0x86, 0x48, 0x01, 0x65, 0x03, 0x04, 0x02, 0x01]]

/-- A SignerInfo that names its signer by the serial number of `leafCert`. -/
def signerSending (signedAttrs : List Value) : Cms.SignerInfo where
  version := integer 1
  sid := Cms.sequence [Cms.sequence [], integer 2]
  digestAlgorithm := sha256Value
  signedAttrs := some signedAttrs
  signatureAlgorithm :=
    Cms.sequence [Cms.oid [0x2A, 0x86, 0x48, 0x86, 0xF7, 0x0D, 0x01, 0x01, 0x0B], null]
  signature := Cms.octetString [0x5A]
  unsignedAttrs := none
  plain := by decide

def messageSending (signedAttrs : List Value) : Cms.SignedData where
  version := integer 1
  digestAlgorithms := [sha256Value]
  encapContentInfo :=
    Cms.sequence [Cms.oid [0x2A, 0x86, 0x48, 0x86, 0xF7, 0x0D, 0x01, 0x07, 0x01]]
  certificates := none
  crls := none
  signerInfos := [signerSending signedAttrs]
  plain := by decide
  algorithms := by
    intro algorithm hMem
    rw [List.mem_singleton.mp hMem]
    intro child hChild
    rw [List.mem_singleton.mp hChild]
    decide

def swappedMessage : Cms.SignedData := messageSending [messageDigestAttr, contentTypeAttr]

def orderedMessage : Cms.SignedData := messageSending [contentTypeAttr, messageDigestAttr]

def orderedAttributes : List Attribute :=
  [⟨contentTypeOid, [dataOidDer]⟩, ⟨messageDigestOid, [tlv [0x04] essDigest]⟩]

def orderedSignedData : SignedData where
  version := 1
  content := .data none
  certificates := none
  crls := none
  signerInfos := [{ essSigner with
    issuerAndSerialNumber := .issuerAndSerialNumber ⟨[], [2]⟩
    authenticatedAttributes := some orderedAttributes }]

/-- Parsing answers for `orderedMessage`. -/
def orderedExternals : Externals :=
  { essExternals with
    parseContentInfo := fun octets =>
      if octets = orderedMessage.contentInfo.encode then .ok (.signedData orderedSignedData)
      else unanswered }

theorem parseContentInfo_ordered (octets : Octets) :
    orderedExternals.parseContentInfo octets =
      if octets = orderedMessage.contentInfo.encode then .ok (.signedData orderedSignedData)
      else unanswered := rfl

theorem writeAttribute_ordered :
    List.Forall₂ (fun value attr => orderedExternals.writeAttribute attr = .ok value.encode)
      [contentTypeAttr, messageDigestAttr] orderedAttributes :=
  .cons (by decide +kernel) (.cons (by decide +kernel) .nil)

theorem readsSignedAttrs_ordered : ReadsSignedAttrs orderedExternals := by
  intro message signedData hParsed
  rw [parseContentInfo_ordered] at hParsed
  by_cases hOctets : message.contentInfo.encode = orderedMessage.contentInfo.encode
  · rw [if_pos hOctets, Except.ok.injEq, Content.signedData.injEq] at hParsed
    have hLength : message.contentInfo.encode.length < 256 ^ 127 := by
      rw [hOctets]
      decide +kernel
    rw [← hParsed, Cms.SignedData.contentInfo_inj (encode_inj hLength hOctets)]
    exact .cons (.some writeAttribute_ordered) .nil
  · rw [if_neg hOctets] at hParsed
    cases hParsed

theorem receives_der (sent : Cms.SignedData) (hLength : sent.contentInfo.der.length < 256 ^ 127)
    (hHeight : sent.contentInfo.height ≤ maxBerDepth) : Receives sent.contentInfo.der sent := by
  obtain ⟨ber, hDer, hEncodes, hOctets⟩ := exists_isDer sent.contentInfo hLength
  exact ⟨ber, hOctets, hDer.eocFree, (hDer.height_le hEncodes).trans hHeight, hEncodes⟩

theorem signedAttrs_oneForm_swapped :
    SignedInOneForm orderedExternals swappedMessage orderedMessage.contentInfo.encode
      orderedSignedData := by
  have hAccepted : berToDerCms .native64 swappedMessage.contentInfo.der =
      .ok orderedMessage.contentInfo.encode := by
    decide +kernel
  have hReceives : Receives swappedMessage.contentInfo.der swappedMessage :=
    receives_der swappedMessage (by decide +kernel) (by decide +kernel)
  exact (signedAttrs_oneForm orderedExternals .native64
    ⟨swappedMessage.contentInfo.der, by decide +kernel⟩
    ⟨orderedMessage.contentInfo.encode, by decide +kernel⟩ swappedMessage orderedSignedData
    readsSignedAttrs_ordered hReceives hAccepted
    (by rw [parseContentInfo_ordered, if_pos rfl])).1

end OneForm

end Smime
