import Smime.Cms.EnvelopedData
import Smime.Cms.SignedData

/-! The one DER form of a SignedData: what the two passes of `ber_to_der_cms` make
of it, field by field. -/
namespace Smime.Cms

open X690 X690.Value

theorem tag_canonical (value : Value) : value.canonical.tag = value.tag :=
  (Rearranged.canonical value).tag_eq.symm

/-- Components in DER and in ascending order. -/
def distinguishedEach (components : Option (List Value)) : Option (List Value) :=
  components.map fun children => ascending (children.map canonical)

section Signer

/-- A SignerInfo in DER, its attributes in ascending order. -/
def SignerInfo.distinguished (signer : SignerInfo) : SignerInfo where
  version := signer.version.canonical
  sid := signer.sid.canonical
  digestAlgorithm := signer.digestAlgorithm.canonical
  signedAttrs := distinguishedEach signer.signedAttrs
  signatureAlgorithm := signer.signatureAlgorithm.canonical
  signature := signer.signature.canonical
  unsignedAttrs := distinguishedEach signer.unsignedAttrs
  plain := by
    have hPlain := signer.plain
    simpa only [List.forall_mem_cons, tag_canonical] using hPlain

theorem map_sortSignerInfoField_optional {wrap : List Value → Value}
    (hWrap : ∀ children, sortSignerInfoField (wrap children) = wrap (ascending children))
    (components : Option (List Value)) :
    ((canonicalEach components).map wrap).toList.map sortSignerInfoField =
      ((distinguishedEach components).map wrap).toList := by
  cases components with
  | none => rfl
  | some children => exact congrArg (fun value => [value]) (hWrap _)

theorem map_sortSignerInfoField_plain {fields : List Value}
    (h : ∀ field ∈ fields, ¬ IsImplicit field.tag) :
    (fields.map canonical).map sortSignerInfoField = fields.map canonical := by
  rw [List.map_map]
  apply List.map_congr_left
  intro field hMem
  have hTag := h field hMem
  rw [← tag_canonical] at hTag
  exact sortSignerInfoField_plain hTag

theorem sortSignerInfoField_context0 (children : List Value) :
    sortSignerInfoField (context0 children) = context0 (ascending children) := by
  rw [context0, sortSignerInfoField, if_pos isImplicit_context0Tag]
  rfl

theorem sortSignerInfoField_context1 (children : List Value) :
    sortSignerInfoField (context1 children) = context1 (ascending children) := by
  rw [context1, sortSignerInfoField, if_pos isImplicit_context1Tag]
  rfl

theorem sortSignerInfo_sequence (fields : List Value) :
    sortSignerInfo (sequence fields) = sequence (fields.map sortSignerInfoField) := by
  rw [sequence, sortSignerInfo, if_pos (by rfl)]
  rfl

/-- DER and then the pass over a SignerInfo. -/
theorem sortSignerInfo_canonical (signer : SignerInfo) :
    sortSignerInfo signer.toValue.canonical = signer.distinguished.toValue := by
  have hPlain := signer.plain
  simp only [List.forall_mem_cons] at hPlain
  have hHead := @map_sortSignerInfoField_plain
    [signer.version, signer.sid, signer.digestAlgorithm]
    (by simpa using ⟨hPlain.1, hPlain.2.1, hPlain.2.2.1⟩)
  have hSignature := @map_sortSignerInfoField_plain [signer.signatureAlgorithm, signer.signature]
    (by simpa using ⟨hPlain.2.2.2.1, hPlain.2.2.2.2.1⟩)
  rw [SignerInfo.toValue, canonical_sequence, sortSignerInfo_sequence, SignerInfo.toValue,
    SignerInfo.fields, SignerInfo.fields]
  simp only [List.map_append, map_canonical_optional canonical_context0,
    map_canonical_optional canonical_context1,
    map_sortSignerInfoField_optional sortSignerInfoField_context0,
    map_sortSignerInfoField_optional sortSignerInfoField_context1, hHead, hSignature]
  rfl

end Signer

section Message

theorem NoImplicitChild.canonical {algorithm : Value} (h : NoImplicitChild algorithm) :
    NoImplicitChild algorithm.canonical := by
  cases algorithm with
  | prim => rw [canonical_prim]; trivial
  | cons tag hc hw children =>
      rw [canonical_cons]
      intro child hMem
      obtain ⟨original, hOriginal, rfl⟩ :=
        List.mem_map.mp ((orderChildren_perm tag _).mem_iff.mp hMem)
      rw [tag_canonical]
      exact h original hOriginal

theorem sortSignerInfo_eq_self {algorithm : Value} (h : NoImplicitChild algorithm) :
    sortSignerInfo algorithm = algorithm := by
  cases algorithm with
  | prim => rfl
  | cons tag hc hw children =>
      rw [sortSignerInfo]
      split
      · congr 1
        refine (List.map_congr_left ?_).trans (List.map_id _)
        exact fun child hMem => sortSignerInfoField_plain (h child hMem)
      · rfl

/-- A SignedData in DER, every SET OF field in ascending order. -/
structure DistinguishedForm (sent message : SignedData) : Prop where
  version : message.version = sent.version.canonical
  encapContentInfo : message.encapContentInfo = sent.encapContentInfo.canonical
  certificates : message.certificates = distinguishedEach sent.certificates
  crls : message.crls = distinguishedEach sent.crls
  signerInfos : ∃ order : List SignerInfo, order.Perm sent.signerInfos ∧
    message.signerInfos = order.map SignerInfo.distinguished

theorem sortSignedDataField_setOf (children : List Value) :
    sortSignedDataField (setOf children) = setOf (ascending (children.map sortSignerInfo)) := by
  rw [setOf, sortSignedDataField, if_neg (by decide), if_pos (by rfl)]
  rfl

theorem sortSignedDataField_context0 (children : List Value) :
    sortSignedDataField (context0 children) = context0 (ascending children) := by
  rw [context0, sortSignedDataField, if_pos isImplicit_context0Tag]
  rfl

theorem sortSignedDataField_context1 (children : List Value) :
    sortSignedDataField (context1 children) = context1 (ascending children) := by
  rw [context1, sortSignedDataField, if_pos isImplicit_context1Tag]
  rfl

theorem map_sortSignedDataField_optional {wrap : List Value → Value}
    (hWrap : ∀ children, sortSignedDataField (wrap children) = wrap (ascending children))
    (components : Option (List Value)) :
    ((canonicalEach components).map wrap).toList.map sortSignedDataField =
      ((distinguishedEach components).map wrap).toList := by
  cases components with
  | none => rfl
  | some children => exact congrArg (fun value => [value]) (hWrap _)

/-- The SignerInfos that the pass leaves, and the order in which it has them. -/
theorem exists_order (signers : List SignerInfo) :
    ∃ order : List SignerInfo, order.Perm signers ∧
      ascending ((ascending ((signers.map SignerInfo.toValue).map canonical)).map sortSignerInfo) =
        (order.map SignerInfo.distinguished).map SignerInfo.toValue := by
  have hSigners : ((signers.map SignerInfo.toValue).map canonical).map sortSignerInfo =
      signers.map fun signer => signer.distinguished.toValue := by
    rw [List.map_map, List.map_map]
    exact List.map_congr_left fun signer _ => sortSignerInfo_canonical signer
  have hPerm : (ascending ((ascending ((signers.map SignerInfo.toValue).map canonical)).map
      sortSignerInfo)).Perm (signers.map fun signer => signer.distinguished.toValue) := by
    rw [← hSigners]
    exact (ascending_perm _).trans ((ascending_perm _).map sortSignerInfo)
  obtain ⟨order, hOrder, hOrderPerm⟩ := exists_perm_of_perm_map hPerm
  refine ⟨order, hOrderPerm, ?_⟩
  rw [hOrder, List.map_map]
  rfl

/-- DER and then the pass over the fields of a SignedData. -/
theorem exists_distinguished (sent : SignedData) :
    ∃ message : SignedData, DistinguishedForm sent message ∧
      (sent.fields.map canonical).map sortSignedDataField = message.fields := by
  obtain ⟨order, hPerm, hOrder⟩ := exists_order sent.signerInfos
  have hPlain := sent.plain
  simp only [List.forall_mem_cons] at hPlain
  have hMembers : ∀ algorithm ∈
      ascending ((ascending (sent.digestAlgorithms.map canonical)).map sortSignerInfo),
      NoImplicitChild algorithm := by
    intro algorithm hMem
    obtain ⟨member, hMember, rfl⟩ := List.mem_map.mp ((ascending_perm _).mem_iff.mp hMem)
    obtain ⟨original, hOriginal, rfl⟩ := List.mem_map.mp ((ascending_perm _).mem_iff.mp hMember)
    have hChildren := (sent.algorithms original hOriginal).canonical
    rw [sortSignerInfo_eq_self hChildren]
    exact hChildren
  refine ⟨{
    version := sent.version.canonical
    digestAlgorithms :=
      ascending ((ascending (sent.digestAlgorithms.map canonical)).map sortSignerInfo)
    encapContentInfo := sent.encapContentInfo.canonical
    certificates := distinguishedEach sent.certificates
    crls := distinguishedEach sent.crls
    signerInfos := order.map SignerInfo.distinguished
    plain := by simpa only [List.forall_mem_cons, tag_canonical] using sent.plain
    algorithms := hMembers }, ⟨rfl, rfl, rfl, rfl, order, hPerm, rfl⟩, ?_⟩
  have hVersion := hPlain.1
  have hEncap := hPlain.2.1
  rw [← tag_canonical] at hVersion hEncap
  simp only [SignedData.fields, List.map_append, List.map_cons, List.map_nil, canonical_setOf,
    map_canonical_optional canonical_context0, map_canonical_optional canonical_context1,
    map_sortSignedDataField_optional sortSignedDataField_context0,
    map_sortSignedDataField_optional sortSignedDataField_context1, sortSignedDataField_setOf,
    sortSignedDataField_plain hVersion.1 hVersion.2, sortSignedDataField_plain hEncap.1 hEncap.2,
    hOrder]

end Message

section Injective

/-- An optional field is told from what follows it when that does not start with
its tag. -/
theorem optional_inj_of_head {wrap : List Value → Value} {components others : Option (List Value)}
    {rest more : List Value} (hWrap : ∀ a b, wrap a = wrap b → a = b)
    (hRest : ∀ a tail, rest ≠ wrap a :: tail) (hMore : ∀ a tail, more ≠ wrap a :: tail)
    (h : (components.map wrap).toList ++ rest = (others.map wrap).toList ++ more) :
    components = others ∧ rest = more := by
  cases components with
  | none =>
      cases others with
      | none => exact ⟨rfl, h⟩
      | some b => exact absurd h (hRest b more)
  | some a =>
      cases others with
      | none => exact absurd h.symm (hMore a rest)
      | some b =>
          obtain ⟨hHead, hTail⟩ := List.cons.inj h
          rw [hWrap a b hHead]
          exact ⟨rfl, hTail⟩

theorem context0_ne_of_plain {field : Value} (h : ¬ IsImplicit field.tag) (children rest : List Value)
    (tail : List Value) : field :: rest ≠ context0 children :: tail := by
  intro hEq
  rw [(List.cons.inj hEq).1] at h
  exact h isImplicit_context0Tag

theorem SignerInfo.toValue_inj {signer other : SignerInfo} (h : signer.toValue = other.toValue) :
    signer = other := by
  obtain ⟨version, sid, digestAlgorithm, signedAttrs, signatureAlgorithm, signature,
    unsignedAttrs, plain⟩ := signer
  obtain ⟨version', sid', digestAlgorithm', signedAttrs', signatureAlgorithm', signature',
    unsignedAttrs', plain'⟩ := other
  have hFields := (cons.inj h).2
  simp only [fields, List.cons_append, List.nil_append, List.cons.injEq] at hFields
  obtain ⟨rfl, rfl, rfl, hRest⟩ := hFields
  simp only [List.forall_mem_cons] at plain plain'
  obtain ⟨rfl, hTail⟩ := optional_inj_of_head (fun _ _ => context0_inj)
    (fun a => context0_ne_of_plain plain.2.2.2.1 a _)
    (fun a => context0_ne_of_plain plain'.2.2.2.1 a _) hRest
  obtain ⟨rfl, hSignature⟩ := List.cons.inj hTail
  obtain ⟨rfl, hUnsigned⟩ := List.cons.inj hSignature
  obtain rfl := optional_inj (fun _ _ => context1_inj) hUnsigned
  rfl

theorem SignedData.fields_inj {message other : SignedData} (h : message.fields = other.fields) :
    message = other := by
  obtain ⟨version, digestAlgorithms, encapContentInfo, certificates, crls, signerInfos, plain,
    algorithms⟩ := message
  obtain ⟨version', digestAlgorithms', encapContentInfo', certificates', crls', signerInfos',
    plain', algorithms'⟩ := other
  simp only [fields, List.cons_append, List.nil_append, List.cons.injEq] at h
  obtain ⟨rfl, hAlgorithms, rfl, hRest⟩ := h
  obtain rfl : digestAlgorithms = digestAlgorithms' := (cons.inj hAlgorithms).2
  have hLast : ∀ (signers children tail : List Value), [setOf signers] ≠ context1 children :: tail := by
    intro signers children tail hEq
    exact absurd (cons.inj (List.cons.inj hEq).1).1 (by decide)
  have hCrls : ∀ (crls : Option (List Value)) (signers children tail : List Value),
      (crls.map context1).toList ++ [setOf signers] ≠ context0 children :: tail := by
    intro crls signers children tail hEq
    cases crls with
    | none => exact absurd (cons.inj (List.cons.inj hEq).1).1 (by decide)
    | some _ => exact absurd (cons.inj (List.cons.inj hEq).1).1 (by decide)
  obtain ⟨rfl, hTail⟩ := optional_inj_of_head (fun _ _ => context0_inj) (hCrls _ _) (hCrls _ _) hRest
  obtain ⟨rfl, hSigners⟩ := optional_inj_of_head (fun _ _ => context1_inj) (hLast _) (hLast _) hTail
  have hSame := (cons.inj (List.cons.inj hSigners).1).2
  obtain rfl : signerInfos = signerInfos' :=
    List.map_injective_iff.mpr (fun _ _ => SignerInfo.toValue_inj) hSame
  rfl

theorem SignedData.contentInfo_inj {message other : SignedData}
    (h : message.contentInfo = other.contentInfo) : message = other := by
  obtain ⟨-, hRest⟩ := List.cons.inj (cons.inj h).2
  exact SignedData.fields_inj
    (cons.inj (List.cons.inj (context0_inj (List.cons.inj hRest).1)).1).2

end Injective

end Smime.Cms
