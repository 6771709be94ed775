import Smime.Utils.Canonical
import Smime.Utils.CmsRefinement
import Smime.Cms.SignedData
import Smime.X690.Unique

/-! What `ber_to_der_cms` means: a second run changes nothing, and in a
SignedData it has only put the SET OF fields in ascending order. -/
namespace Smime.Utils

open X690 Cms

/-- Gaps and regions of a buffer in turn. -/
def weave : List Octets → List Octets → Octets
  | gap :: gaps, region :: regions => gap ++ (region ++ weave gaps regions)
  | gaps, _ => gaps.flatten

section Layout

/-- The contents of the SET OF fields of the SignedData. -/
def regions (message : SignedData) : List Octets :=
  [(message.digestAlgorithms.map Value.encode).flatten,
    ((message.certificates.getD []).map Value.encode).flatten,
    ((message.crls.getD []).map Value.encode).flatten,
    ((message.signerInfos.map SignerInfo.toValue).map Value.encode).flatten]

/-- The octets before, between and after these regions. -/
def frame (message : SignedData) : List Octets :=
  [headerOctets message.contentInfo ++ ((oid idSignedData).encode ++
      (headerOctets (context0 [Cms.sequence message.fields]) ++
        (headerOctets (Cms.sequence message.fields) ++
          (message.version.encode ++ headerOctets (setOf message.digestAlgorithms))))),
    message.encapContentInfo.encode ++
      (message.certificates.map (headerOctets ∘ context0)).getD [],
    (message.crls.map (headerOctets ∘ context1)).getD [],
    headerOctets (setOf (message.signerInfos.map SignerInfo.toValue))]

theorem encode_optional {wrap : List Value → Value}
    (hWrap : ∀ components, (wrap components).content = (components.map Value.encode).flatten)
    (field : Option (List Value)) :
    ((field.map wrap).toList.map Value.encode).flatten =
      (field.map (headerOctets ∘ wrap)).getD [] ++ ((field.getD []).map Value.encode).flatten := by
  cases field with
  | none => rfl
  | some components =>
      simp only [Option.map_some, Option.toList_some, List.map_cons, List.map_nil,
        List.flatten_cons, List.flatten_nil, List.append_nil, Option.getD_some,
        Function.comp_apply]
      rw [encode_eq_header, hWrap]

theorem encode_contentInfo_weave (message : SignedData) :
    message.contentInfo.encode = weave (frame message) (regions message) := by
  have hFields : (message.fields.map Value.encode).flatten =
      message.version.encode ++ ((setOf message.digestAlgorithms).encode ++
        (message.encapContentInfo.encode ++
          (((message.certificates.map context0).toList.map Value.encode).flatten ++
            (((message.crls.map context1).toList.map Value.encode).flatten ++
              (setOf (message.signerInfos.map SignerInfo.toValue)).encode)))) := by
    simp [SignedData.fields]
  have hSequence : (Cms.sequence message.fields).encode =
      headerOctets (Cms.sequence message.fields) ++ (message.fields.map Value.encode).flatten :=
    encode_eq_header _
  have hExplicit : (context0 [Cms.sequence message.fields]).encode =
      headerOctets (context0 [Cms.sequence message.fields]) ++ (Cms.sequence message.fields).encode := by
    rw [encode_eq_header]
    exact congrArg _ (List.append_nil _)
  have hContentInfo : message.contentInfo.encode =
      headerOctets message.contentInfo ++ ((oid idSignedData).encode ++
        (context0 [Cms.sequence message.fields]).encode) := by
    rw [encode_eq_header]
    show _ ++ ([oid idSignedData, context0 [Cms.sequence message.fields]].map Value.encode).flatten = _
    simp only [List.map_cons, List.map_nil, List.flatten_cons, List.flatten_nil, List.append_nil]
  rw [hContentInfo, hExplicit, hSequence, hFields, encode_optional (fun _ => rfl),
    encode_optional (fun _ => rfl), encode_eq_header (setOf message.digestAlgorithms),
    encode_eq_header (setOf (message.signerInfos.map SignerInfo.toValue)), frame, regions]
  simp only [weave, List.append_assoc, List.flatten_nil, List.append_nil]
  rfl

end Layout

section SameLayout

theorem rearranged_optional {wrap : List Value → Value} {field other : Option (List Value)}
    (hWrap : ∀ components others : List Value, components.Perm others →
      (wrap components).Rearranged (wrap others))
    (h : Option.Rel List.Perm field other) :
    List.Forall₂ Value.Rearranged (field.map wrap).toList (other.map wrap).toList := by
  cases h with
  | none => exact .nil
  | some hPerm => exact .cons (hWrap _ _ hPerm) .nil

theorem rearranged_perm {tag : Tag} {hc hw} {components others : List Value}
    (h : components.Perm others) :
    (Value.cons tag hc hw components).Rearranged (.cons tag hc hw others) :=
  .cons (forall₂_refl components) h

theorem rearranged_signerInfo {signer other : SignerInfo} (h : signer.SameUpToAttrs other) :
    signer.toValue.Rearranged other.toValue := by
  refine .cons ?_ (List.Perm.refl _)
  rw [SignerInfo.fields, SignerInfo.fields, h.version, h.sid, h.digestAlgorithm,
    h.signatureAlgorithm, h.signature]
  exact List.rel_append (forall₂_refl _)
    (List.rel_append (rearranged_optional (fun _ _ => rearranged_perm) h.signedAttrs)
      (List.rel_append (forall₂_refl _)
        (rearranged_optional (fun _ _ => rearranged_perm) h.unsignedAttrs)))

variable {message other : SignedData}

theorem rearranged_signerInfos (h : message.SameUpToSets other) :
    (setOf (message.signerInfos.map SignerInfo.toValue)).Rearranged
      (setOf (other.signerInfos.map SignerInfo.toValue)) := by
  obtain ⟨sorted, hSame, hPerm⟩ := h.signerInfos
  refine .cons ?_ (hPerm.map SignerInfo.toValue)
  apply List.forall₂_map_left_iff.mpr
  apply List.forall₂_map_right_iff.mpr
  exact hSame.imp fun _ _ => rearranged_signerInfo

theorem rearranged_signedData (h : message.SameUpToSets other) :
    (Cms.sequence message.fields).Rearranged (Cms.sequence other.fields) := by
  refine .cons ?_ (List.Perm.refl _)
  rw [SignedData.fields, SignedData.fields, h.version, h.encapContentInfo]
  exact List.rel_append
    (.cons (Value.Rearranged.refl _) (.cons (rearranged_perm h.digestAlgorithms)
      (.cons (Value.Rearranged.refl _) .nil)))
    (List.rel_append (rearranged_optional (fun _ _ => rearranged_perm) h.certificates)
      (List.rel_append (rearranged_optional (fun _ _ => rearranged_perm) h.crls)
        (.cons (rearranged_signerInfos h) .nil)))

theorem rearranged_explicit_signedData (h : message.SameUpToSets other) :
    (context0 [Cms.sequence message.fields]).Rearranged (context0 [Cms.sequence other.fields]) :=
  .cons (.cons (rearranged_signedData h) .nil) (List.Perm.refl _)

theorem rearranged_contentInfo (h : message.SameUpToSets other) :
    message.contentInfo.Rearranged other.contentInfo :=
  .cons (.cons (Value.Rearranged.refl _) (.cons (rearranged_explicit_signedData h) .nil))
    (List.Perm.refl _)

theorem headerOctets_optional (wrap : List Value → Value) {field other : Option (List Value)}
    (hWrap : ∀ components others : List Value, components.Perm others →
      (wrap components).Rearranged (wrap others))
    (h : Option.Rel List.Perm field other) :
    (field.map (headerOctets ∘ wrap)).getD [] = (other.map (headerOctets ∘ wrap)).getD [] := by
  cases h with
  | none => rfl
  | some hPerm => exact headerOctets_rearranged (hWrap _ _ hPerm)

/-- Sorting SET OF fields touches nothing between them. -/
theorem frame_eq (h : message.SameUpToSets other) : frame message = frame other := by
  have hAlgorithms : (setOf message.digestAlgorithms).Rearranged
      (setOf other.digestAlgorithms) := rearranged_perm h.digestAlgorithms
  rw [frame, frame, headerOctets_rearranged (rearranged_contentInfo h),
    headerOctets_rearranged (rearranged_explicit_signedData h),
    headerOctets_rearranged (rearranged_signedData h), h.version, h.encapContentInfo,
    headerOctets_rearranged hAlgorithms,
    headerOctets_rearranged (rearranged_signerInfos h),
    headerOctets_optional context0 (fun _ _ => rearranged_perm) h.certificates,
    headerOctets_optional context1 (fun _ _ => rearranged_perm) h.crls]

theorem length_components_of_perm {components others : List Value} (h : components.Perm others) :
    ((components.map Value.encode).flatten).length = ((others.map Value.encode).flatten).length :=
  (h.map Value.encode).flatten.length_eq

theorem length_optional_of_perm {field other : Option (List Value)}
    (h : Option.Rel List.Perm field other) :
    (((field.getD []).map Value.encode).flatten).length =
      (((other.getD []).map Value.encode).flatten).length := by
  cases h with
  | none => rfl
  | some hPerm => exact length_components_of_perm hPerm

theorem length_regions (h : message.SameUpToSets other) :
    (regions message).map List.length = (regions other).map List.length := by
  have hSigners := (rearranged_signerInfos h).length_content
  simp only [regions, List.map_cons, List.map_nil, length_components_of_perm h.digestAlgorithms,
    length_optional_of_perm h.certificates, length_optional_of_perm h.crls]
  exact congrArg (fun n => [_, _, _, n]) hSigners

end SameLayout

/-- What the two passes did to an accepted input. -/
theorem exists_setsSorted_of_berToDerCms {target : Target} {input out : Slice target}
    (h : berToDerCms target input.octets = .ok out.octets) :
    ∃ value after : Value, berToDer target input.octets = .ok value.encode ∧
      value.SetsAscending ∧ value.height ≤ maxBerDepth ∧
      value.encode.length < target.usizeSize ∧ SetsSorted value after ∧
      out.octets = after.encode := by
  simp only [berToDerCms, Except.bind_eq_ok_iff] at h
  obtain ⟨der, hDer, hSort⟩ := h
  obtain ⟨ber, value, -, -, hHeight, hEncodes, rfl⟩ :=
    (berToDer_ok_iff_element target _ der input.fits).mp hDer
  have hSize : value.canonical.encode.length < target.usizeSize := by
    have hLength := sortCmsImplicitSets_length hSort
    rw [Value.der] at hLength
    rw [← hLength]
    exact out.fits
  obtain ⟨after, hSorted, hOut⟩ := (sortCmsImplicitSets_ok_iff value.canonical _ hSize).mp hSort
  have hCanonicalHeight : value.canonical.height ≤ maxBerDepth :=
    ((Value.Rearranged.canonical value).height_le.trans
      (Value.height_le_of_encodes hEncodes)).trans (Nat.le_of_lt_succ hHeight)
  exact ⟨value.canonical, after, hDer, Value.setsAscending_canonical value, hCanonicalHeight,
    hSize, hSorted, hOut⟩

/-- A SignedData comes out of the pass only where one went in. -/
theorem exists_original {value after : Value} {message : SignedData}
    (hSorted : SetsSorted value after) (hAfter : after = message.contentInfo) :
    ∃ original : SignedData, value = original.contentInfo ∧ original.SameUpToSets message ∧
      message.Sorted := by
  cases hSorted with
  | otherContent other =>
      rw [SignedData.contentInfo, Cms.sequence, Cms.sequence, Value.cons.injEq, List.cons.injEq] at hAfter
      exact absurd hAfter.2.1 other
  | @signedData fields more rest =>
      simp only [SignedData.contentInfo, Cms.sequence, context0, Value.cons.injEq, List.cons.injEq,
        true_and] at hAfter
      obtain ⟨⟨hFields, rfl⟩, rfl⟩ := hAfter
      obtain ⟨original, rfl, hSame, hMessageSorted⟩ := exists_signedData hFields
      exact ⟨original, rfl, hSame, hMessageSorted⟩
  | emptyExplicit =>
      simp [SignedData.contentInfo, Cms.sequence, context0] at hAfter

/-- What was rewritten stays as it is. -/
theorem berToDerCms_fixed {target : Target} {input out : Octets}
    (hInput : input.length < target.usizeSize) (hOut : out.length < target.usizeSize)
    (h : berToDerCms target input = .ok out) : berToDerCms target out = .ok out := by
  obtain ⟨value, after, -, hSets, hHeight, -, hSorted, hAfter⟩ :=
    @exists_setsSorted_of_berToDerCms target ⟨input, hInput⟩ ⟨out, hOut⟩ h
  obtain rfl : out = after.encode := hAfter
  rw [berToDerCms, berToDer_encode target (hSorted.setsAscending hSets)
    (hSorted.rearranged.height_le.trans hHeight) hOut]
  exact sortCmsImplicitSets_of_setsSorted hSorted.idem hOut

/-- `ber_to_der_cms` is idempotent, and in a SignedData it sorts the SET OF
fields, the attributes of each SignerInfo among them, and touches nothing else. -/
theorem berToDerCms_canonical (target : Target) (input out : Slice target)
    (h : berToDerCms target input.octets = .ok out.octets) :
    berToDerCms target out.octets = .ok out.octets ∧
      ∀ message : SignedData, out.octets = message.contentInfo.encode →
        message.Sorted ∧ ∃ original : SignedData, original.SameUpToSets message ∧
          berToDer target input.octets = .ok (weave (frame original) (regions original)) ∧
          out.octets = weave (frame message) (regions message) ∧
          frame message = frame original ∧
          (regions message).map List.length = (regions original).map List.length ∧
          out.octets.length = (weave (frame original) (regions original)).length := by
  obtain ⟨value, after, hDer, hSets, hHeight, hSize, hSorted, hOut⟩ :=
    exists_setsSorted_of_berToDerCms h
  have hFits : after.encode.length < target.usizeSize := by
    rw [← hOut]
    exact out.fits
  constructor
  · have hFixed := berToDer_encode target (hSorted.setsAscending hSets)
      (hSorted.rearranged.height_le.trans hHeight) hFits
    rw [hOut, berToDerCms, hFixed]
    exact sortCmsImplicitSets_of_setsSorted hSorted.idem hFits
  · intro message hMessage
    have hAfter : after = message.contentInfo :=
      Value.encode_inj (hFits.trans (usizeSize_lt target)) (hOut.symm.trans hMessage)
    obtain ⟨original, rfl, hSame, hMessageSorted⟩ := exists_original hSorted hAfter
    refine ⟨hMessageSorted, original, hSame, ?_, ?_, (frame_eq hSame).symm,
      (length_regions hSame).symm, ?_⟩
    · rw [hDer, encode_contentInfo_weave]
    · rw [hMessage, encode_contentInfo_weave]
    · rw [hMessage, ← encode_contentInfo_weave]
      exact (rearranged_contentInfo hSame).length_encode.symm

section TwoSigners

def null : Value := .prim (Tag.ofOctet 0x05 (by decide)) (by decide) []

def integer (octet : UInt8) : Value := .prim (Tag.ofOctet 0x02 (by decide)) (by decide) [octet]

def signerWith (signedAttrs : List Value) : SignerInfo where
  version := null
  sid := null
  digestAlgorithm := null
  signedAttrs := some signedAttrs
  signatureAlgorithm := null
  signature := null
  unsignedAttrs := none
  plain := by decide

def signedDataWith (signerInfos : List SignerInfo) : SignedData where
  version := integer 1
  digestAlgorithms := []
  encapContentInfo := null
  certificates := none
  crls := none
  signerInfos := signerInfos
  plain := by decide
  algorithms := fun _ hMem => absurd hMem List.not_mem_nil

/-- Sorting the attributes swaps the two SignerInfos. -/
theorem berToDerCms_canonical_twoSigners :
    let sent := signedDataWith [signerWith [integer 4, integer 2], signerWith [integer 5, integer 1]]
    let sorted :=
      signedDataWith [signerWith [integer 1, integer 5], signerWith [integer 2, integer 4]]
    berToDerCms .native64 sent.contentInfo.encode = .ok sorted.contentInfo.encode ∧
      berToDerCms .native64 sorted.contentInfo.encode = .ok sorted.contentInfo.encode ∧
      sorted.Sorted := by
  intro sent sorted
  have hRun : berToDerCms .native64 sent.contentInfo.encode = .ok sorted.contentInfo.encode := by
    decide +kernel
  have hCanonical := berToDerCms_canonical .native64 ⟨sent.contentInfo.encode, by decide +kernel⟩
    ⟨sorted.contentInfo.encode, by decide +kernel⟩ hRun
  exact ⟨hRun, hCanonical.1, (hCanonical.2 sorted rfl).1⟩

end TwoSigners
end Smime.Utils
