import Smime.Cms.ImplicitSets

/-! SignedData (RFC 5652, section 5.1) as a value tree with named fields, and
what the pass over its SET OF fields does to each of them. -/
namespace Smime.Cms

open X690 X690.Value

structure SignerInfo where
  version : Value
  sid : Value
  digestAlgorithm : Value
  signedAttrs : Option (List Value)
  signatureAlgorithm : Value
  signature : Value
  unsignedAttrs : Option (List Value)
  plain : ∀ field ∈ [version, sid, digestAlgorithm, signatureAlgorithm, signature],
    ¬ IsImplicit field.tag

namespace SignerInfo

def fields (signer : SignerInfo) : List Value :=
  [signer.version, signer.sid, signer.digestAlgorithm] ++
    ((signer.signedAttrs.map context0).toList ++
      ([signer.signatureAlgorithm, signer.signature] ++
        (signer.unsignedAttrs.map context1).toList))

def toValue (signer : SignerInfo) : Value := sequence signer.fields

/-- Attributes in ascending order. -/
def Sorted (signer : SignerInfo) : Prop :=
  (∀ attrs ∈ signer.signedAttrs, Ascending attrs) ∧
    ∀ attrs ∈ signer.unsignedAttrs, Ascending attrs

/-- The same SignerInfo up to the order of its attributes. -/
structure SameUpToAttrs (signer other : SignerInfo) : Prop where
  version : signer.version = other.version
  sid : signer.sid = other.sid
  digestAlgorithm : signer.digestAlgorithm = other.digestAlgorithm
  signedAttrs : Option.Rel List.Perm signer.signedAttrs other.signedAttrs
  signatureAlgorithm : signer.signatureAlgorithm = other.signatureAlgorithm
  signature : signer.signature = other.signature
  unsignedAttrs : Option.Rel List.Perm signer.unsignedAttrs other.unsignedAttrs

end SignerInfo

/-- A digest algorithm has no component that the pass would take for signed or
unsigned attributes. -/
def NoImplicitChild : Value → Prop
  | .prim _ _ _ => True
  | .cons _ _ _ children => ∀ child ∈ children, ¬ IsImplicit child.tag

structure SignedData where
  version : Value
  digestAlgorithms : List Value
  encapContentInfo : Value
  certificates : Option (List Value)
  crls : Option (List Value)
  signerInfos : List SignerInfo
  plain : ∀ field ∈ [version, encapContentInfo], ¬ IsImplicit field.tag ∧ field.tag.first ≠ 0x31
  algorithms : ∀ algorithm ∈ digestAlgorithms, NoImplicitChild algorithm

namespace SignedData

def fields (message : SignedData) : List Value :=
  [message.version, setOf message.digestAlgorithms, message.encapContentInfo] ++
    ((message.certificates.map context0).toList ++
      ((message.crls.map context1).toList ++
        [setOf (message.signerInfos.map SignerInfo.toValue)]))

/-- The id-signedData ContentInfo. -/
def contentInfo (message : SignedData) : Value :=
  sequence [oid Utils.idSignedData, context0 [sequence message.fields]]

/-- Every SET OF field in ascending order. -/
structure Sorted (message : SignedData) : Prop where
  digestAlgorithms : Ascending message.digestAlgorithms
  certificates : ∀ certificates ∈ message.certificates, Ascending certificates
  crls : ∀ crls ∈ message.crls, Ascending crls
  signerInfos : Ascending (message.signerInfos.map SignerInfo.toValue)
  attributes : ∀ signer ∈ message.signerInfos, signer.Sorted

/-- The same SignedData up to the order of its SET OF fields, each SignerInfo
up to the order of its attributes. -/
structure SameUpToSets (message other : SignedData) : Prop where
  version : message.version = other.version
  digestAlgorithms : message.digestAlgorithms.Perm other.digestAlgorithms
  encapContentInfo : message.encapContentInfo = other.encapContentInfo
  certificates : Option.Rel List.Perm message.certificates other.certificates
  crls : Option.Rel List.Perm message.crls other.crls
  signerInfos : ∃ sorted : List SignerInfo,
    List.Forall₂ SignerInfo.SameUpToAttrs message.signerInfos sorted ∧
      sorted.Perm other.signerInfos

end SignedData

section Inversion

theorem tag_sortSignerInfoField (field : Value) : (sortSignerInfoField field).tag = field.tag :=
  (rearranged_sortSignerInfoField field).tag_eq.symm

theorem tag_sortSignedDataField (field : Value) : (sortSignedDataField field).tag = field.tag :=
  (rearranged_sortSignedDataField field).tag_eq.symm

theorem sortSignerInfoField_plain {field : Value} (h : ¬ IsImplicit field.tag) :
    sortSignerInfoField field = field := by
  cases field with
  | prim => rfl
  | cons tag hc hw children =>
      change ¬ IsImplicit tag at h
      rw [sortSignerInfoField, if_neg h]

theorem sortSignedDataField_plain {field : Value} (h : ¬ IsImplicit field.tag)
    (hSet : field.tag.first ≠ 0x31) : sortSignedDataField field = field := by
  cases field with
  | prim => rfl
  | cons tag hc hw children =>
      change ¬ IsImplicit tag at h
      change tag.first ≠ 0x31 at hSet
      rw [sortSignedDataField, if_neg h, if_neg hSet]

theorem eq_of_sortSignedDataField {field out : Value} (h : sortSignedDataField field = out)
    (hPlain : ¬ IsImplicit out.tag ∧ out.tag.first ≠ 0x31) : field = out := by
  subst h
  rw [tag_sortSignedDataField] at hPlain
  exact (sortSignedDataField_plain hPlain.1 hPlain.2).symm

/-- An attribute field comes from one with the same attributes in some order. -/
theorem exists_of_sortSignerInfoField {tag : Tag} {hc hw} {field : Value} {attrs : List Value}
    (hImplicit : IsImplicit tag) (h : sortSignerInfoField field = .cons tag hc hw attrs) :
    ∃ original, field = .cons tag hc hw original ∧ attrs = ascending original := by
  cases field with
  | prim => cases h
  | cons fieldTag _ _ children =>
      rw [sortSignerInfoField, cons.injEq] at h
      obtain ⟨rfl, hAttrs⟩ := h
      rw [if_pos hImplicit] at hAttrs
      exact ⟨children, rfl, hAttrs.symm⟩

theorem exists_of_sortSignedDataField {tag : Tag} {hc hw} {field : Value} {components : List Value}
    (hImplicit : IsImplicit tag) (h : sortSignedDataField field = .cons tag hc hw components) :
    ∃ original, field = .cons tag hc hw original ∧ components = ascending original := by
  cases field with
  | prim => cases h
  | cons fieldTag _ _ children =>
      rw [sortSignedDataField, cons.injEq] at h
      obtain ⟨rfl, hComponents⟩ := h
      rw [if_pos hImplicit] at hComponents
      exact ⟨children, rfl, hComponents.symm⟩

theorem exists_of_sortSignedDataField_setOf {field : Value} {components : List Value}
    (h : sortSignedDataField field = setOf components) :
    ∃ original, field = setOf original ∧ components = ascending (original.map sortSignerInfo) := by
  cases field with
  | prim => cases h
  | cons fieldTag _ _ children =>
      rw [sortSignedDataField, setOf, cons.injEq] at h
      obtain ⟨rfl, hComponents⟩ := h
      rw [if_neg (by decide), if_pos (by rfl)] at hComponents
      exact ⟨children, rfl, hComponents.symm⟩

theorem sortSignerInfo_of_noImplicitChild {algorithm out : Value}
    (h : sortSignerInfo algorithm = out) (hChildren : NoImplicitChild out) : algorithm = out := by
  subst h
  cases algorithm with
  | prim => rfl
  | cons tag hc hw children =>
      rw [sortSignerInfo] at hChildren ⊢
      split at hChildren
      · rename_i hSequence
        rw [if_pos hSequence]
        congr 1
        refine ((List.map_congr_left ?_).trans (List.map_id _)).symm
        intro child hMem
        have hChild := hChildren _ (List.mem_map_of_mem hMem)
        rw [tag_sortSignerInfoField] at hChild
        exact sortSignerInfoField_plain hChild
      · rename_i hOther
        rw [if_neg hOther]

/-- An optional field is absent or present on both sides. -/
theorem exists_optional {f : Value → Value} {wrap : List Value → Value} {fields : List Value}
    {sorted : Option (List Value)}
    (hInverse : ∀ field components, f field = wrap components →
      ∃ original, field = wrap original ∧ components = ascending original)
    (h : fields.map f = (sorted.map wrap).toList) :
    ∃ original, fields = (original.map wrap).toList ∧ Option.Rel List.Perm original sorted ∧
      ∀ components ∈ sorted, Ascending components := by
  cases sorted with
  | none =>
      rw [Option.map_none, Option.toList_none, List.map_eq_nil_iff] at h
      exact ⟨none, h, .none, fun _ hMem => by cases hMem⟩
  | some components =>
      rw [Option.map_some, Option.toList_some, List.map_eq_singleton_iff] at h
      obtain ⟨field, rfl, hField⟩ := h
      obtain ⟨original, rfl, rfl⟩ := hInverse field components hField
      refine ⟨some original, rfl, .some (ascending_perm original).symm, ?_⟩
      intro attrs hMem
      cases hMem
      exact ascending_ascending original

theorem isImplicit_context0Tag : IsImplicit context0Tag := .inl rfl

theorem isImplicit_context1Tag : IsImplicit context1Tag := .inr rfl

/-- A sorted SignerInfo comes from one with the same attributes in some order. -/
theorem exists_signerInfo {value : Value} {signer : SignerInfo}
    (h : sortSignerInfo value = signer.toValue) :
    ∃ original : SignerInfo, value = original.toValue ∧ original.SameUpToAttrs signer ∧
      signer.Sorted := by
  cases value with
  | prim => cases h
  | cons tag hc hw children =>
      rw [sortSignerInfo, SignerInfo.toValue, sequence, cons.injEq] at h
      obtain ⟨rfl, hFields⟩ := h
      rw [if_pos (by rfl), SignerInfo.fields] at hFields
      obtain ⟨head, rest, rfl, hHead, hRest⟩ := List.map_eq_append_iff.mp hFields
      obtain ⟨signed, rest, rfl, hSigned, hRest⟩ := List.map_eq_append_iff.mp hRest
      obtain ⟨signature, unsigned, rfl, hSignature, hUnsigned⟩ := List.map_eq_append_iff.mp hRest
      have hPlain : ∀ {fields sorted : List Value},
          (∀ field ∈ sorted, ¬ IsImplicit field.tag) → fields.map sortSignerInfoField = sorted →
            fields = sorted := by
        intro fields sorted hSorted hMap
        subst hMap
        refine ((List.map_congr_left ?_).trans (List.map_id _)).symm
        intro field hMem
        have hField := hSorted _ (List.mem_map_of_mem hMem)
        rw [tag_sortSignerInfoField] at hField
        exact sortSignerInfoField_plain hField
      have hAll := signer.plain
      simp only [List.forall_mem_cons] at hAll
      have hHeadEq := hPlain (by simpa using ⟨hAll.1, hAll.2.1, hAll.2.2.1⟩) hHead
      have hSignatureEq := hPlain (by simpa using ⟨hAll.2.2.2.1, hAll.2.2.2.2.1⟩) hSignature
      obtain ⟨signedAttrs, rfl, hSignedRel, hSignedSorted⟩ := exists_optional
        (fun field components => exists_of_sortSignerInfoField isImplicit_context0Tag) hSigned
      obtain ⟨unsignedAttrs, rfl, hUnsignedRel, hUnsignedSorted⟩ := exists_optional
        (fun field components => exists_of_sortSignerInfoField isImplicit_context1Tag) hUnsigned
      subst hHeadEq hSignatureEq
      exact ⟨{ signer with signedAttrs := signedAttrs, unsignedAttrs := unsignedAttrs }, rfl,
        ⟨rfl, rfl, rfl, hSignedRel, rfl, rfl, hUnsignedRel⟩, hSignedSorted, hUnsignedSorted⟩

theorem exists_signerInfos {values : List Value} {signers : List SignerInfo}
    (h : values.map sortSignerInfo = signers.map SignerInfo.toValue) :
    ∃ originals : List SignerInfo, values = originals.map SignerInfo.toValue ∧
      List.Forall₂ SignerInfo.SameUpToAttrs originals signers ∧
      ∀ signer ∈ signers, signer.Sorted := by
  induction signers generalizing values with
  | nil =>
      rw [List.map_nil, List.map_eq_nil_iff] at h
      exact ⟨[], h, .nil, fun _ hMem => absurd hMem List.not_mem_nil⟩
  | cons signer rest ih =>
      rw [List.map_cons, List.map_eq_cons_iff] at h
      obtain ⟨value, others, rfl, hSigner, hRest⟩ := h
      obtain ⟨original, rfl, hSame, hSorted⟩ := exists_signerInfo hSigner
      obtain ⟨originals, rfl, hSames, hAllSorted⟩ := ih hRest
      exact ⟨original :: originals, rfl, .cons hSame hSames,
        List.forall_mem_cons.mpr ⟨hSorted, hAllSorted⟩⟩

/-- A permutation of images is the image of a permutation. -/
theorem exists_perm_of_perm_map {α β : Type} {f : α → β} {images : List β} {elements : List α}
    (h : images.Perm (elements.map f)) :
    ∃ permuted : List α, images = permuted.map f ∧ permuted.Perm elements := by
  obtain ⟨sorted, hSorted⟩ : ∃ sorted, sorted = elements.map f := ⟨_, rfl⟩
  rw [← hSorted] at h
  induction h generalizing elements with
  | nil =>
      rw [eq_comm, List.map_eq_nil_iff] at hSorted
      exact ⟨[], rfl, hSorted ▸ List.Perm.refl _⟩
  | cons image _ ih =>
      rw [eq_comm, List.map_eq_cons_iff] at hSorted
      obtain ⟨element, rest, rfl, rfl, hRest⟩ := hSorted
      obtain ⟨permuted, rfl, hPerm⟩ := ih hRest.symm
      exact ⟨element :: permuted, rfl, hPerm.cons element⟩
  | swap first second tail =>
      rw [eq_comm, List.map_eq_cons_iff] at hSorted
      obtain ⟨a, rest, rfl, rfl, hRest⟩ := hSorted
      obtain ⟨b, rest, rfl, rfl, rfl⟩ := List.map_eq_cons_iff.mp hRest
      exact ⟨b :: a :: rest, rfl, .swap a b rest⟩
  | trans _ _ ih ih' =>
      obtain ⟨middle, hMiddle, hPerm⟩ := ih' hSorted
      obtain ⟨permuted, hPermuted, hPerm'⟩ := ih hMiddle
      exact ⟨permuted, hPermuted, hPerm'.trans hPerm⟩

/-- The fields of a sorted SignedData come from a SignedData that differs from
it only in the order of its SET OF fields. -/
theorem exists_signedData {fields : List Value} {message : SignedData}
    (h : fields.map sortSignedDataField = message.fields) :
    ∃ original : SignedData, fields = original.fields ∧ original.SameUpToSets message ∧
      message.Sorted := by
  obtain ⟨head, rest, rfl, hHead, hRest⟩ := List.map_eq_append_iff.mp h
  obtain ⟨certs, rest, rfl, hCerts, hRest⟩ := List.map_eq_append_iff.mp hRest
  obtain ⟨crls, last, rfl, hCrls, hLast⟩ := List.map_eq_append_iff.mp hRest
  obtain ⟨version, tail, rfl, hVersion, hTail⟩ := List.map_eq_cons_iff.mp hHead
  obtain ⟨algorithms, tail, rfl, hAlgorithms, hTail⟩ := List.map_eq_cons_iff.mp hTail
  obtain ⟨encap, rfl, hEncap⟩ := List.map_eq_singleton_iff.mp hTail
  obtain ⟨signers, rfl, hSigners⟩ := List.map_eq_singleton_iff.mp hLast
  have hPlain := message.plain
  simp only [List.forall_mem_cons] at hPlain
  have hVersionEq := eq_of_sortSignedDataField hVersion hPlain.1
  have hEncapEq := eq_of_sortSignedDataField hEncap hPlain.2.1
  obtain ⟨certificates, rfl, hCertsRel, hCertsSorted⟩ := exists_optional
    (fun field components => exists_of_sortSignedDataField isImplicit_context0Tag) hCerts
  obtain ⟨crls, rfl, hCrlsRel, hCrlsSorted⟩ := exists_optional
    (fun field components => exists_of_sortSignedDataField isImplicit_context1Tag) hCrls
  obtain ⟨algorithms, rfl, hAlgorithmsEq⟩ := exists_of_sortSignedDataField_setOf hAlgorithms
  obtain ⟨signers, rfl, hSignersEq⟩ := exists_of_sortSignedDataField_setOf hSigners
  have hUnchanged : algorithms.map sortSignerInfo = algorithms := by
    refine (List.map_congr_left ?_).trans (List.map_id _)
    intro algorithm hMem
    have hSorted : sortSignerInfo algorithm ∈ message.digestAlgorithms := by
      rw [hAlgorithmsEq]
      exact (ascending_perm _).mem_iff.mpr (List.mem_map_of_mem hMem)
    exact (sortSignerInfo_of_noImplicitChild rfl (message.algorithms _ hSorted)).symm
  rw [hUnchanged] at hAlgorithmsEq
  have hAlgorithmsPerm : algorithms.Perm message.digestAlgorithms := by
    rw [hAlgorithmsEq]
    exact (ascending_perm algorithms).symm
  have hSignersPerm : (signers.map sortSignerInfo).Perm
      (message.signerInfos.map SignerInfo.toValue) := by
    rw [hSignersEq]
    exact (ascending_perm _).symm
  obtain ⟨sorted, hSorted, hSortedPerm⟩ := exists_perm_of_perm_map hSignersPerm
  obtain ⟨originals, rfl, hSame, hAttributes⟩ := exists_signerInfos hSorted
  subst hVersionEq hEncapEq
  refine ⟨{ message with
    digestAlgorithms := algorithms, certificates := certificates, crls := crls,
    signerInfos := originals,
    algorithms := fun algorithm hMem =>
      message.algorithms algorithm (hAlgorithmsPerm.mem_iff.mp hMem) }, rfl,
    ⟨rfl, hAlgorithmsPerm, rfl, hCertsRel, hCrlsRel, sorted, hSame, hSortedPerm⟩, ?_⟩
  refine ⟨?_, hCertsSorted, hCrlsSorted, ?_, ?_⟩
  · rw [hAlgorithmsEq]
    exact ascending_ascending _
  · rw [hSignersEq]
    exact ascending_ascending _
  · intro signer hMem
    exact hAttributes signer (hSortedPerm.mem_iff.mpr hMem)

end Inversion

end Smime.Cms
