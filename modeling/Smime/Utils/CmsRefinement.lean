import Smime.Utils.Regions
import Smime.Cms.ImplicitSets

/-! The in-place passes refine the passes on value trees: run on an encoded
value, they leave the encoding of the sorted value. -/
namespace Smime.Utils

open X690

section Passes

variable {target : Target}

theorem isConstructed_cons {tag : Tag} {hc hw} (children : List Value) :
    (header (.cons tag hc hw children)).isConstructed = true :=
  hc

theorem isImplicit_iff (tag : Tag) :
    (tag.first == 0xA0 || tag.first == 0xA1) = true ↔ Cms.IsImplicit tag := by
  simp [Cms.IsImplicit]

theorem sortSignerInfoField_refines (field : Value) (before behind : Octets)
    (hSize : field.encode.length < target.usizeSize) :
    sortSignerInfoField target (before ++ (field.encode ++ behind)) before.length (header field) =
      .ok (before ++ ((Cms.sortSignerInfoField field).encode ++ behind)) := by
  cases field with
  | prim tag primitive content =>
      have hHeader : (header (.prim tag primitive content)).isConstructed = false := primitive
      rw [sortSignerInfoField, hHeader, Bool.and_false]
      rfl
  | cons tag constructed whole children =>
      have hHeader : (header (.cons tag constructed whole children)).isConstructed = true :=
        isConstructed_cons children
      have hTag : (header (.cons tag constructed whole children)).tagByte = tag.first := rfl
      rw [sortSignerInfoField, hHeader, Bool.and_true, hTag]
      by_cases hImplicit : Cms.IsImplicit tag
      · rw [if_pos ((isImplicit_iff tag).mpr hImplicit), sortChildrenInPlace_region _ _ _ _ hSize,
          Cms.sortSignerInfoField, if_pos hImplicit]
      · rw [if_neg (fun h => hImplicit ((isImplicit_iff tag).mp h)), Cms.sortSignerInfoField,
          if_neg hImplicit]

theorem length_component_lt {tag : Tag} {hc hw} {children : List Value} {child : Value}
    {bound : Nat} (hMem : child ∈ children)
    (hSize : (Value.cons tag hc hw children).encode.length < bound) :
    child.encode.length < bound := by
  have hInside : child.encode.length ≤ (children.map Value.encode).flatten.length := by
    exact (List.sublist_flatten_of_mem (List.mem_map_of_mem hMem)).length_le
  exact (hInside.trans (length_content_le (.cons tag hc hw children))).trans_lt hSize

theorem sortSignerInfo_refines (signerInfo : Value) (before behind : Octets)
    (hSize : signerInfo.encode.length < target.usizeSize) :
    sortSignerInfo target (before ++ (signerInfo.encode ++ behind)) before.length
        (header signerInfo) =
      .ok (before ++ ((Cms.sortSignerInfo signerInfo).encode ++ behind)) := by
  cases signerInfo with
  | prim tag primitive content =>
      have hHeader : (header (.prim tag primitive content)).isConstructed = false := primitive
      rw [sortSignerInfo, hHeader, Bool.and_false]
      rfl
  | cons tag constructed whole children =>
      have hHeader : (header (.cons tag constructed whole children)).isConstructed = true :=
        isConstructed_cons children
      have hTag : (header (.cons tag constructed whole children)).tagByte = tag.first := rfl
      rw [sortSignerInfo, hHeader, Bool.and_true, hTag]
      by_cases hSequence : tag.first = 0x30
      · rw [if_pos (by simp [hSequence]), Cms.sortSignerInfo, if_pos hSequence]
        exact forEachTlv_components target children before behind
          (fun field hMem before behind =>
            sortSignerInfoField_refines field before behind (length_component_lt hMem hSize))
          (fun field _ => Cms.rearranged_sortSignerInfoField field) hSize
      · rw [if_neg (by simpa using hSequence), Cms.sortSignerInfo, if_neg hSequence]

theorem sortSignedDataField_refines (field : Value) (before behind : Octets)
    (hSize : field.encode.length < target.usizeSize) :
    sortSignedDataField target (before ++ (field.encode ++ behind)) before.length (header field) =
      .ok (before ++ ((Cms.sortSignedDataField field).encode ++ behind)) := by
  cases field with
  | prim tag primitive content =>
      have hHeader : (header (.prim tag primitive content)).isConstructed = false := primitive
      rw [sortSignedDataField, hHeader, Bool.and_false, Bool.and_false]
      rfl
  | cons tag constructed whole children =>
      have hHeader : (header (.cons tag constructed whole children)).isConstructed = true :=
        isConstructed_cons children
      have hTag : (header (.cons tag constructed whole children)).tagByte = tag.first := rfl
      rw [sortSignedDataField, hHeader, Bool.and_true, Bool.and_true, hTag]
      by_cases hImplicit : Cms.IsImplicit tag
      · rw [if_pos ((isImplicit_iff tag).mpr hImplicit), sortChildrenInPlace_region _ _ _ _ hSize,
          Cms.sortSignedDataField, if_pos hImplicit]
      · rw [if_neg (fun h => hImplicit ((isImplicit_iff tag).mp h)), Cms.sortSignedDataField,
          if_neg hImplicit]
        by_cases hSet : tag.first = 0x31
        · rw [if_pos (by simp [hSet]), if_pos hSet]
          -- the members first, then the SET OF by what they have become
          have hMembers := forEachTlv_components target children before behind
            (fun member hMem before behind =>
              sortSignerInfo_refines member before behind (length_component_lt hMem hSize))
            (fun member _ => Cms.rearranged_sortSignerInfo member) hSize
          have hRearranged : (Value.cons tag constructed whole children).Rearranged
              (.cons tag constructed whole (children.map Cms.sortSignerInfo)) :=
            Cms.rearranged_map fun member _ => Cms.rearranged_sortSignerInfo member
          have hMembersSize := hSize
          rw [hRearranged.length_encode] at hMembersSize
          have hSorted := sortChildrenInPlace_region target (children.map Cms.sortSignerInfo)
            before behind hMembersSize
          rw [sortSignerInfosImplicitSets, hMembers, Except.ok_bind',
            header_rearranged hRearranged, hSorted]
        · rw [if_neg (by simpa using hSet), if_neg hSet]

theorem eq_sequence {value : Value} (hFirst : value.tag.first = 0x30)
    (hConstructed : value.tag.constructed = true) : ∃ children, value = Cms.sequence children := by
  have hTag : Cms.sequenceTag = value.tag := Tag.ext_first (by decide) hFirst.symm
  cases value with
  | prim tag primitive content =>
      change tag.constructed = true at hConstructed
      rw [primitive] at hConstructed
      cases hConstructed
  | cons tag constructed whole children =>
      change Cms.sequenceTag = tag at hTag
      subst hTag
      exact ⟨children, rfl⟩

theorem eq_context0 {value : Value} (hFirst : value.tag.first = 0xA0) :
    ∃ children, value = Cms.context0 children := by
  have hTag : Cms.context0Tag = value.tag := Tag.ext_first (by decide) hFirst.symm
  cases value with
  | prim tag primitive content =>
      change Cms.context0Tag = tag at hTag
      subst hTag
      cases primitive
  | cons tag constructed whole children =>
      change Cms.context0Tag = tag at hTag
      subst hTag
      exact ⟨children, rfl⟩

theorem eq_oid {value : Value} (hFirst : value.tag.first = 0x06) :
    value = Cms.oid value.content := by
  have hTag : Cms.oidTag = value.tag := Tag.ext_first (by decide) hFirst.symm
  cases value with
  | prim tag primitive content =>
      change Cms.oidTag = tag at hTag
      subst hTag
      rfl
  | cons tag constructed whole children =>
      change Cms.oidTag = tag at hTag
      subst hTag
      cases constructed

/-- A SignedData is a SEQUENCE. -/
theorem eq_sequence_or_refused (sd : Value) (before behind : Octets)
    (hSize : sd.encode.length < target.usizeSize) :
    (∃ fields, sd = Cms.sequence fields) ∨
      sortSignedData target (before ++ (sd.encode ++ behind)) before.length =
        .error "expected SEQUENCE (SignedData) inside [0]" := by
  by_cases hSequence : sd.tag.first = 0x30 ∧ sd.tag.constructed = true
  · exact .inl (eq_sequence hSequence.1 hSequence.2)
  · right
    rw [sortSignedData, parseDerTlv_encode target before behind sd hSize, Except.ok_bind', if_pos]
    by_cases hFirst : sd.tag.first = 0x30
    · simpa [header, hFirst] using fun hConstructed => hSequence ⟨hFirst, hConstructed⟩
    · simp [header, hFirst]

/-- The SignedData is sorted field by field; anything but a SEQUENCE is
refused. -/
theorem sortSignedData_ok_iff (sd : Value) (before behind out : Octets)
    (hSize : sd.encode.length < target.usizeSize) :
    sortSignedData target (before ++ (sd.encode ++ behind)) before.length = .ok out ↔
      ∃ fields, sd = Cms.sequence fields ∧
        out = before ++ ((Cms.sequence (fields.map Cms.sortSignedDataField)).encode ++ behind) := by
  have hRun : ∀ fields, (Cms.sequence fields).encode.length < target.usizeSize →
      sortSignedData target (before ++ ((Cms.sequence fields).encode ++ behind)) before.length =
        .ok (before ++ ((Cms.sequence (fields.map Cms.sortSignedDataField)).encode ++ behind)) := by
    intro fields hFields
    have hConstructed : (header (Cms.sequence fields)).isConstructed = true :=
      isConstructed_cons _
    have hTag : (header (Cms.sequence fields)).tagByte = 0x30 := rfl
    rw [sortSignedData, parseDerTlv_encode target before behind _ hFields, Except.ok_bind', hTag,
      hConstructed, if_neg (by decide)]
    exact forEachTlv_components target fields before behind
      (fun field hMem before behind =>
        sortSignedDataField_refines field before behind (length_component_lt hMem hFields))
      (fun field _ => Cms.rearranged_sortSignedDataField field) hFields
  constructor
  · intro h
    rcases eq_sequence_or_refused sd before behind hSize with ⟨fields, rfl⟩ | hRefused
    · rw [hRun fields hSize] at h
      cases h
      exact ⟨fields, rfl, rfl⟩
    · rw [hRefused] at h
      cases h
  · rintro ⟨fields, hSd, hOut⟩
    subst hSd hOut
    exact hRun fields hSize

/-- The outer element with its first component, and what lies behind it. -/
theorem sortCmsImplicitSets_sequence (type : Value) (rest : List Value)
    (hSize : (Cms.sequence (type :: rest)).encode.length < target.usizeSize) :
    sortCmsImplicitSets target (Cms.sequence (type :: rest)).encode =
      if type.tag.first != 0x06 || type.content != idSignedData then
        .ok (Cms.sequence (type :: rest)).encode
      else (do
        let before := headerOctets (Cms.sequence (type :: rest)) ++ type.encode
        let data := before ++ (rest.map Value.encode).flatten
        let explicit0 ← parseDerTlv target data before.length
        if explicit0.tagByte != 0xA0 then .error "expected [0] EXPLICIT after OID"
        else sortSignedData target data (before.length + explicit0.headerLen)) := by
  have hOuter := parseDerTlv_encode target [] [] (Cms.sequence (type :: rest)) hSize
  simp only [List.nil_append, List.append_nil, List.length_nil] at hOuter
  have hBuffer : (Cms.sequence (type :: rest)).encode =
      headerOctets (Cms.sequence (type :: rest)) ++
        (type.encode ++ (rest.map Value.encode).flatten) := encode_eq_header _
  have hType := parseDerTlv_encode target (headerOctets (Cms.sequence (type :: rest)))
    (rest.map Value.encode).flatten type (length_component_lt List.mem_cons_self hSize)
  have hContent := slice_content (headerOctets (Cms.sequence (type :: rest)))
    (rest.map Value.encode).flatten type
  have hConstructed : (header (Cms.sequence (type :: rest))).isConstructed = true :=
    isConstructed_cons _
  have hTag : (header (Cms.sequence (type :: rest))).tagByte = 0x30 := rfl
  have hAfter : (headerOctets (Cms.sequence (type :: rest))).length + (header type).headerLen +
      (header type).contentLen =
        (headerOctets (Cms.sequence (type :: rest)) ++ type.encode).length := by
    rw [List.length_append, Nat.add_assoc, length_header]
  rw [sortCmsImplicitSets, hOuter, Except.ok_bind', hTag, hConstructed, if_neg (by decide),
    ← length_headerOctets, hBuffer]
  simp only [hType, Except.ok_bind', hContent, hAfter, List.append_assoc]
  rfl

theorem eq_oid_idSignedData_iff (type : Value) :
    (type.tag.first != 0x06 || type.content != idSignedData) = false ↔
      type = Cms.oid idSignedData := by
  constructor
  · intro h
    simp only [Bool.or_eq_false_iff, bne_eq_false_iff_eq] at h
    rw [eq_oid h.1, h.2]
  · intro h
    rw [h]
    decide

/-- A ContentInfo of another type is left alone. -/
theorem sortCmsImplicitSets_other {type : Value} (rest : List Value)
    (hOther : type ≠ Cms.oid idSignedData)
    (hSize : (Cms.sequence (type :: rest)).encode.length < target.usizeSize) :
    sortCmsImplicitSets target (Cms.sequence (type :: rest)).encode =
      .ok (Cms.sequence (type :: rest)).encode := by
  rw [sortCmsImplicitSets_sequence type rest hSize, if_pos]
  by_contra h
  exact hOther ((eq_oid_idSignedData_iff type).mp (Bool.not_eq_true _ ▸ h))

/-- A SignedData ContentInfo whose `[0]` has components, or is followed by the
SignedData. -/
theorem sortCmsImplicitSets_signedData (rest : List Value)
    (hSize : (Cms.sequence (Cms.oid idSignedData :: rest)).encode.length < target.usizeSize) :
    sortCmsImplicitSets target (Cms.sequence (Cms.oid idSignedData :: rest)).encode = (do
      let before := headerOctets (Cms.sequence (Cms.oid idSignedData :: rest)) ++
        (Cms.oid idSignedData).encode
      let data := before ++ (rest.map Value.encode).flatten
      let explicit0 ← parseDerTlv target data before.length
      if explicit0.tagByte != 0xA0 then .error "expected [0] EXPLICIT after OID"
      else sortSignedData target data (before.length + explicit0.headerLen)) := by
  rw [sortCmsImplicitSets_sequence _ rest hSize, if_neg]
  rw [(eq_oid_idSignedData_iff _).mpr rfl]
  exact Bool.false_ne_true

theorem sortSignedData_end (data : Octets) :
    sortSignedData target data data.length =
      .error "unexpected end of input in TLV header" := by
  rw [sortSignedData, parseDerTlv_end]
  rfl

/-- The octets of a SignedData ContentInfo up to the content of `[0]`. -/
def beforeContent (inner more : List Value) : Octets :=
  headerOctets (Cms.sequence (Cms.oid idSignedData :: Cms.context0 inner :: more)) ++
    ((Cms.oid idSignedData).encode ++ headerOctets (Cms.context0 inner))

theorem encode_contentInfo (inner more : List Value) :
    (Cms.sequence (Cms.oid idSignedData :: Cms.context0 inner :: more)).encode =
      beforeContent inner more ++
        ((inner.map Value.encode).flatten ++ (more.map Value.encode).flatten) := by
  have hContent : (Cms.sequence (Cms.oid idSignedData :: Cms.context0 inner :: more)).content =
      (Cms.oid idSignedData).encode ++ ((Cms.context0 inner).encode ++
        (more.map Value.encode).flatten) := rfl
  rw [encode_eq_header, hContent, encode_eq_header (Cms.context0 inner), beforeContent]
  simp only [List.append_assoc]
  rfl

theorem sortCmsImplicitSets_context0 (inner more : List Value)
    (hSize : (Cms.sequence (Cms.oid idSignedData :: Cms.context0 inner :: more)).encode.length <
      target.usizeSize) :
    sortCmsImplicitSets target
        (Cms.sequence (Cms.oid idSignedData :: Cms.context0 inner :: more)).encode =
      sortSignedData target (beforeContent inner more ++
        ((inner.map Value.encode).flatten ++ (more.map Value.encode).flatten))
        (beforeContent inner more).length := by
  have hExplicit := parseDerTlv_encode target
    (headerOctets (Cms.sequence (Cms.oid idSignedData :: Cms.context0 inner :: more)) ++
      (Cms.oid idSignedData).encode) (more.map Value.encode).flatten (Cms.context0 inner)
    (length_component_lt (List.mem_cons_of_mem _ List.mem_cons_self) hSize)
  have hTag : (header (Cms.context0 inner)).tagByte = 0xA0 := rfl
  have hContent : (Cms.context0 inner).content = (inner.map Value.encode).flatten := rfl
  rw [sortCmsImplicitSets_signedData _ hSize]
  simp only [List.map_cons, List.flatten_cons, hExplicit, Except.ok_bind', hTag, bne_self_eq_false,
    Bool.false_eq_true, if_false]
  rw [encode_eq_header (Cms.context0 inner), ← length_headerOctets, ← List.length_append,
    beforeContent, hContent]
  simp only [List.append_assoc]

/-- The pass over the whole buffer, as a relation on values. -/
theorem sortCmsImplicitSets_of_setsSorted {before after : Value}
    (h : Cms.SetsSorted before after) (hSize : before.encode.length < target.usizeSize) :
    sortCmsImplicitSets target before.encode = .ok after.encode := by
  cases h with
  | otherContent other => exact sortCmsImplicitSets_other _ other hSize
  | @signedData fields more rest =>
      have hSorted := @Cms.SetsSorted.signedData fields more rest
      have hExplicit : (Cms.context0 (Cms.sequence fields :: more)).encode.length <
          target.usizeSize := length_component_lt (List.mem_cons_of_mem _ List.mem_cons_self) hSize
      have hSd : (Cms.sequence fields).encode.length < target.usizeSize :=
        length_component_lt List.mem_cons_self hExplicit
      have hBefore : beforeContent (Cms.sequence (fields.map Cms.sortSignedDataField) :: more) rest =
          beforeContent (Cms.sequence fields :: more) rest := by
        rw [beforeContent, beforeContent, headerOctets_rearranged hSorted.rearranged,
          headerOctets_rearranged (Cms.rearranged_explicit fields more)]
      rw [sortCmsImplicitSets_context0 _ _ hSize, encode_contentInfo, hBefore]
      simp only [List.map_cons, List.flatten_cons, List.append_assoc]
      exact (sortSignedData_ok_iff _ _ _ _ hSd).mpr ⟨fields, rfl, rfl⟩
  | @emptyExplicit fields rest =>
      have hSorted := @Cms.SetsSorted.emptyExplicit fields rest
      have hSd : (Cms.sequence fields).encode.length < target.usizeSize :=
        length_component_lt
          (List.mem_cons_of_mem _ (List.mem_cons_of_mem _ List.mem_cons_self)) hSize
      have hBefore : beforeContent [] (Cms.sequence (fields.map Cms.sortSignedDataField) :: rest) =
          beforeContent [] (Cms.sequence fields :: rest) := by
        rw [beforeContent, beforeContent, headerOctets_rearranged hSorted.rearranged]
      rw [sortCmsImplicitSets_context0 _ _ hSize, encode_contentInfo, hBefore]
      simp only [List.map_cons, List.flatten_cons, List.map_nil, List.flatten_nil,
        List.nil_append]
      exact (sortSignedData_ok_iff _ _ _ _ hSd).mpr ⟨fields, rfl, rfl⟩

/-- What is said of a buffer whose value has no SignedData where one is looked for. -/
def refusals : List String := [
  "not a SEQUENCE at top level", "unexpected end of input in TLV header",
  "expected [0] EXPLICIT after OID", "expected SEQUENCE (SignedData) inside [0]"]

/-- There is a SignedData to sort or a ContentInfo of another type, or the value
is refused. -/
theorem setsSorted_or_refused {value : Value} (hSize : value.encode.length < target.usizeSize) :
    (∃ after, Cms.SetsSorted value after) ∨
      ∃ err ∈ refusals, sortCmsImplicitSets target value.encode = .error err := by
  have hOuter := parseDerTlv_encode target [] [] value hSize
  simp only [List.nil_append, List.append_nil, List.length_nil] at hOuter
  by_cases hSequence : value.tag.first = 0x30 ∧ value.tag.constructed = true
  · obtain ⟨children, rfl⟩ := eq_sequence hSequence.1 hSequence.2
    cases children with
    | nil =>
        have hTag : (header (Cms.sequence [])).tagByte = 0x30 := rfl
        have hConstructed : (header (Cms.sequence [])).isConstructed = true := isConstructed_cons _
        have hBuffer : (Cms.sequence []).encode = headerOctets (Cms.sequence []) :=
          (encode_eq_header _).trans (List.append_nil _)
        have hEnd := parseDerTlv_end target (headerOctets (Cms.sequence []))
        rw [length_headerOctets] at hEnd
        refine .inr ⟨"unexpected end of input in TLV header", by simp [refusals], ?_⟩
        rw [sortCmsImplicitSets, hOuter, Except.ok_bind', hTag, hConstructed, if_neg (by decide),
          hBuffer]
        simp only [hEnd]
        rfl
    | cons type rest =>
        by_cases hType : type = Cms.oid idSignedData
        · subst hType
          cases rest with
          | nil =>
              refine .inr ⟨"unexpected end of input in TLV header", by simp [refusals], ?_⟩
              rw [sortCmsImplicitSets_signedData _ hSize]
              simp only [List.map_nil, List.flatten_nil, List.append_nil, parseDerTlv_end]
              rfl
          | cons explicit0 more =>
              by_cases hExplicit : explicit0.tag.first = 0xA0
              · obtain ⟨inner, rfl⟩ := eq_context0 hExplicit
                rw [sortCmsImplicitSets_context0 _ _ hSize]
                cases inner with
                | nil =>
                    cases more with
                    | nil =>
                        refine .inr ⟨_, ?_, sortSignedData_end _⟩
                        simp [refusals]
                    | cons sd more =>
                        have hSd : sd.encode.length < target.usizeSize :=
                          length_component_lt (List.mem_cons_of_mem _
                            (List.mem_cons_of_mem _ List.mem_cons_self)) hSize
                        simp only [List.map_nil, List.flatten_nil, List.nil_append, List.map_cons,
                          List.flatten_cons]
                        rcases eq_sequence_or_refused sd _ _ hSd with ⟨fields, rfl⟩ | hRefused
                        · exact .inl ⟨_, .emptyExplicit⟩
                        · exact .inr ⟨_, by simp [refusals], hRefused⟩
                | cons sd inner =>
                    have hInner : (Cms.context0 (sd :: inner)).encode.length <
                        target.usizeSize :=
                      length_component_lt (List.mem_cons_of_mem _ List.mem_cons_self) hSize
                    have hSd : sd.encode.length < target.usizeSize :=
                      length_component_lt List.mem_cons_self hInner
                    simp only [List.map_cons, List.flatten_cons, List.append_assoc]
                    rcases eq_sequence_or_refused sd _ _ hSd with ⟨fields, rfl⟩ | hRefused
                    · exact .inl ⟨_, .signedData⟩
                    · exact .inr ⟨_, by simp [refusals], hRefused⟩
              · have hParse := parseDerTlv_encode target
                  (headerOctets (Cms.sequence (Cms.oid idSignedData :: explicit0 :: more)) ++
                    (Cms.oid idSignedData).encode) (more.map Value.encode).flatten explicit0
                  (length_component_lt (List.mem_cons_of_mem _ List.mem_cons_self) hSize)
                have hTag : ((header explicit0).tagByte != 0xA0) = true := by
                  simpa [header] using hExplicit
                refine .inr ⟨"expected [0] EXPLICIT after OID", by simp [refusals], ?_⟩
                rw [sortCmsImplicitSets_signedData _ hSize]
                simp only [List.map_cons, List.flatten_cons, hParse, Except.ok_bind', hTag,
                  if_true]
        · exact .inl ⟨_, .otherContent hType⟩
  · refine .inr ⟨"not a SEQUENCE at top level", by simp [refusals], ?_⟩
    rw [sortCmsImplicitSets, hOuter, Except.ok_bind', if_pos]
    by_cases hFirst : value.tag.first = 0x30
    · simpa [header, hFirst] using fun hConstructed => hSequence ⟨hFirst, hConstructed⟩
    · simp [header, hFirst]

/-- Nothing but a refusal comes of a buffer that holds an encoded value. -/
theorem sortCmsImplicitSets_failsOnly {value : Value}
    (hSize : value.encode.length < target.usizeSize) :
    Except.FailsOnly (· ∈ refusals) (sortCmsImplicitSets target value.encode) := by
  rcases setsSorted_or_refused hSize with ⟨after, hSorted⟩ | ⟨err, hMem, hErr⟩
  · rw [sortCmsImplicitSets_of_setsSorted hSorted hSize]
    exact .ok _
  · rw [hErr]
    exact .error hMem

/-- The pass over the whole buffer is the pass over the value it holds. -/
theorem sortCmsImplicitSets_ok_iff (value : Value) (out : Octets)
    (hSize : value.encode.length < target.usizeSize) :
    sortCmsImplicitSets target value.encode = .ok out ↔
      ∃ after, Cms.SetsSorted value after ∧ out = after.encode := by
  constructor
  · intro h
    rcases setsSorted_or_refused hSize with ⟨after, hSorted⟩ | ⟨err, -, hErr⟩
    · rw [sortCmsImplicitSets_of_setsSorted hSorted hSize] at h
      cases h
      exact ⟨after, hSorted, rfl⟩
    · rw [hErr] at h
      cases h
  · rintro ⟨after, hSorted, hOut⟩
    rw [hOut]
    exact sortCmsImplicitSets_of_setsSorted hSorted hSize

end Passes
end Smime.Utils
