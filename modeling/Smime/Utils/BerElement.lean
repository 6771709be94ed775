import Smime.Utils.Children
import Smime.Utils.Flatten

/-! `ber_tlv_to_der` takes exactly the BER elements of bounded depth off its
input and returns the DER of their values. -/
namespace Smime.Utils

open X690

section Assemble

theorem flattened_iff (first : UInt8) (h : first &&& 0x20 ≠ 0) :
    (first &&& ~~~0x20 = 0x03 ↔ first = 0x23) ∧ (first &&& ~~~0x20 = 0x04 ↔ first = 0x24) := by
  have hAll : ∀ first : UInt8, first &&& 0x20 ≠ 0 →
      (first &&& ~~~0x20 = 0x03 ↔ first = 0x23) ∧ (first &&& ~~~0x20 = 0x04 ↔ first = 0x24) :=
    forall_octet (by decide +kernel)
  exact hAll first h

theorem constructed_iff (tag : Tag) : tag.constructed = true ↔ tag.first &&& 0x20 ≠ 0 := by
  simp [Tag.constructed]

/-- Elements that are no segmented string keep their components, a SET in
ascending order. -/
theorem assembleChildren_whole (target : Target) {tag : Tag} (constructed : tag.constructed = true)
    (whole : StringType.ofTag? tag = none) (blobs : List Octets) :
    assembleChildren target tag.first tag.octets blobs =
      .ok (tlv tag.octets (derOrder tag blobs).flatten) := by
  obtain ⟨hBit, hOctet⟩ := flattened_iff tag.first ((constructed_iff tag).mp constructed)
  have hNotBit : tag.first ≠ 0x23 := by
    intro hEq
    simp [StringType.ofTag?, hEq] at whole
  have hNotOctet : tag.first ≠ 0x24 := by
    intro hEq
    simp [StringType.ofTag?, hEq] at whole
  have hKeep : (tag.first &&& 0x20 != 0 &&
      (tag.first &&& ~~~0x20 == 0x03 || tag.first &&& ~~~0x20 == 0x04)) = false := by
    simp [hBit, hOctet, hNotBit, hNotOctet]
  unfold assembleChildren
  simp only [hKeep, Bool.false_eq_true, if_false, encodeDerLength_eq]
  rfl

theorem assembleChildren_segmented (target : Target) {tag : Tag} {type : StringType}
    (constructed : tag.constructed = true) (announced : StringType.ofTag? tag = some type)
    (blobs : List Octets) :
    assembleChildren target tag.first tag.octets blobs =
      flattenConstructedString target tag.first blobs := by
  have hBase : tag.first &&& ~~~0x20 = 0x03 ∨ tag.first &&& ~~~0x20 = 0x04 := by
    rw [first_of_ofTag? announced]
    cases type with
    | bitString => exact .inl rfl
    | octetString => exact .inr rfl
  have hFlatten : (tag.first &&& 0x20 != 0 &&
      (tag.first &&& ~~~0x20 == 0x03 || tag.first &&& ~~~0x20 == 0x04)) = true := by
    simpa using ⟨(constructed_iff tag).mp constructed, hBase⟩
  unfold assembleChildren
  simp only [hFlatten, if_true]

theorem head?_der (value : Value) : value.der.head? = some value.tag.first := by
  cases value <;> simp [tlv, Tag.octets, Value.tag]

/-- A value whose DER begins like a segment is one. -/
theorem eq_prim_of_head? {type : StringType} {value : Value}
    (h : value.der.head? = some type.primitiveTag.first) :
    ∃ content, value = .prim type.primitiveTag type.primitiveTag_constructed content := by
  have hTag : type.primitiveTag = value.tag := by
    rw [head?_der] at h
    apply Tag.ext_first
    · cases type <;> decide
    · exact (Option.some.inj h).symm
  cases value with
  | prim tag primitive content =>
      change type.primitiveTag = tag at hTag
      subst hTag
      exact ⟨content, rfl⟩
  | cons tag constructed whole children =>
      change type.primitiveTag = tag at hTag
      subst hTag
      rw [type.primitiveTag_constructed] at constructed
      cases constructed

theorem exists_segments {type : StringType} {values : List Value}
    (h : ∀ value ∈ values, value.der.head? = some type.primitiveTag.first) :
    ∃ segments : List Octets,
      values = segments.map (Value.prim type.primitiveTag type.primitiveTag_constructed) := by
  induction values with
  | nil => exact ⟨[], rfl⟩
  | cons first rest ih =>
      obtain ⟨hFirst, hRest⟩ := List.forall_mem_cons.mp h
      obtain ⟨content, rfl⟩ := eq_prim_of_head? hFirst
      obtain ⟨segments, rfl⟩ := ih hRest
      exact ⟨content :: segments, rfl⟩

theorem map_der_segments (type : StringType) (segments : List Octets) :
    (segments.map (Value.prim type.primitiveTag type.primitiveTag_constructed)).map Value.der =
      segments.map (tlv type.primitiveTag.octets) := by
  have hDer : Value.der ∘ Value.prim type.primitiveTag type.primitiveTag_constructed =
      tlv type.primitiveTag.octets := by
    funext content
    exact Value.der_prim _ _ content
  rw [List.map_map, hDer]

theorem head?_of_flattenConstructedString {target : Target} {tag : Tag} {type : StringType}
    (announced : StringType.ofTag? tag = some type) {blobs : List Octets} {out : Octets}
    (h : flattenConstructedString target tag.first blobs = .ok out) :
    ∀ blob ∈ blobs, blob.head? = some type.primitiveTag.first := by
  unfold flattenConstructedString at h
  simp only [first_of_ofTag? announced] at h
  split at h
  · cases h
  · rename_i hAll
    intro blob hMem
    by_contra hHead
    exact hAll (List.any_eq_true.mpr ⟨blob, hMem, by simpa using hHead⟩)

theorem length_segment_le {children : List Ber} {type : StringType} {segments : List Octets}
    (inner : List.Forall₂ Encodes children
      (segments.map (Value.prim type.primitiveTag type.primitiveTag_constructed))) :
    ∀ segment ∈ segments, segment.length ≤ (Ber.encodeList children).length := by
  intro segment hMem
  obtain ⟨child, hChild, hEncodes⟩ := inner.exists_left (List.mem_map_of_mem hMem)
  exact hEncodes.content_length_le.trans (Ber.length_encode_le_encodeList hChild)

/-- Assembling rewritten components gives the DER of a value that the element
encodes, and fails when it encodes none. -/
theorem assembleChildren_ok_iff (target : Target) {tag : Tag} (constructed : tag.constructed = true)
    {form : LengthForm} {children : List Ber} (exact : form.Exact (Ber.encodeList children))
    (hBound : (Ber.encodeList children).length < target.usizeSize) (out : Octets) :
    (∃ values, List.Forall₂ Encodes children values ∧
        assembleChildren target tag.first tag.octets (values.map Value.der) = .ok out) ↔
      ∃ value, Encodes (.cons tag constructed form children) value ∧ out = value.der := by
  cases hType : StringType.ofTag? tag with
  | none =>
      simp only [assembleChildren_whole target constructed hType, Except.ok.injEq]
      constructor
      · rintro ⟨values, inner, hOut⟩
        have order : SentAs tag values values := by
          unfold SentAs
          split
          · exact List.Perm.refl _
          · rfl
        refine ⟨.cons tag constructed hType values, .cons exact inner order, ?_⟩
        rw [Value.der_cons, hOut]
      · rintro ⟨value, hEncodes, hOut⟩
        cases hEncodes with
        | @cons _ _ _ _ _ sent components exact inner order =>
            exact ⟨sent, inner, by rw [hOut, Value.der_cons, order.map_der]⟩
        | segments announced => rw [hType] at announced; cases announced
  | some type =>
      simp only [assembleChildren_segmented target constructed hType]
      constructor
      · rintro ⟨values, inner, hOut⟩
        have hHeads : ∀ value ∈ values, value.der.head? = some type.primitiveTag.first := by
          intro value hMem
          exact head?_of_flattenConstructedString hType hOut _ (List.mem_map_of_mem hMem)
        obtain ⟨segments, rfl⟩ := exists_segments hHeads
        rw [map_der_segments, flattenConstructedString_ok_iff target hType segments out (fun segment hMem =>
          (length_segment_le inner segment hMem).trans_lt hBound)] at hOut
        obtain ⟨content, joins, rfl⟩ := hOut
        exact ⟨_, .segments hType exact inner joins, (Value.der_prim _ _ content).symm⟩
      · rintro ⟨value, hEncodes, hOut⟩
        cases hEncodes with
        | @cons _ _ hw => rw [hType] at hw; cases hw
        | @segments _ _ announcedType _ _ segments content announced exact inner joins =>
            obtain rfl : type = announcedType := Option.some.inj (hType.symm.trans announced)
            refine ⟨_, inner, ?_⟩
            rw [map_der_segments, flattenConstructedString_ok_iff target hType segments out
              (fun segment hMem => (length_segment_le inner segment hMem).trans_lt hBound)]
            exact ⟨content, joins, by rw [hOut, Value.der_prim]⟩

end Assemble

section Element

/-- A BER element of fewer than `levels` levels, and the DER of its value. -/
def BerElement (levels : Nat) (octets der : Octets) : Prop :=
  ∃ ber value, ber.encode = octets ∧ ber.EocFree ∧ ber.height < levels ∧
    Encodes ber value ∧ der = value.der

theorem hasHeaders_berElement (levels : Nat) : HasHeaders (BerElement levels) := by
  intro octets der ⟨ber, value, hOctets, _⟩
  rw [← hOctets]
  exact ber.two_le_length_encode

/-- A sequence of elements is a list of trees side by side. -/
theorem forall₂_berElement {levels : Nat} {pieces blobs : List Octets} :
    List.Forall₂ (BerElement levels) pieces blobs ↔
      ∃ children values, pieces = children.map Ber.encode ∧ blobs = values.map Value.der ∧
        List.Forall₂ Encodes children values ∧
        ∀ child ∈ children, child.EocFree ∧ child.height < levels := by
  constructor
  · intro h
    induction h with
    | nil => exact ⟨[], [], rfl, rfl, .nil, fun _ hMem => absurd hMem List.not_mem_nil⟩
    | cons hFirst _ ih =>
        obtain ⟨ber, value, rfl, hFree, hHeight, hEncodes, rfl⟩ := hFirst
        obtain ⟨children, values, rfl, rfl, inner, hChildren⟩ := ih
        exact ⟨ber :: children, value :: values, rfl, rfl, .cons hEncodes inner,
          List.forall_mem_cons.mpr ⟨⟨hFree, hHeight⟩, hChildren⟩⟩
  · rintro ⟨children, values, hPieces, hBlobs, inner, hChildren⟩
    subst hPieces hBlobs
    induction inner with
    | nil => exact .nil
    | cons hEncodes _ ih =>
        obtain ⟨⟨hFree, hHeight⟩, hRest⟩ := List.forall_mem_cons.mp hChildren
        exact .cons ⟨_, _, rfl, hFree, hHeight, hEncodes, rfl⟩ (ih hRest)

variable {target : Target} {levels : Nat}

theorem berTlvToDer_indefinite (tag : Tag) (constructed : tag.constructed = true) (rest : Octets) :
    berTlvToDer target (levels + 1) (tag.octets ++ 0x80 :: rest) =
      (do
        let (childBlobs, behind) ←
          childrenUntilEoc (berTlvToDer target levels) (rest.length + 1) rest
        let out ← assembleChildren target tag.first tag.octets childBlobs
        return (out, behind)) := by
  have hConstructed : (tag.first &&& 0x20 != 0) = true := constructed
  simp only [Tag.octets, List.cons_append, berTlvToDer, tagContinuation_tag, Except.ok_bind',
    hConstructed, Bool.not_true, Bool.false_eq_true, if_false, if_true]

theorem berTlvToDer_indefinite_prim (tag : Tag) (primitive : tag.constructed = false)
    (rest : Octets) : berTlvToDer target (levels + 1) (tag.octets ++ 0x80 :: rest) =
      .error "indefinite length on primitive tag" := by
  have hPrimitive : (tag.first &&& 0x20 != 0) = false := primitive
  simp only [Tag.octets, List.cons_append, berTlvToDer, tagContinuation_tag, Except.ok_bind',
    hPrimitive, Bool.not_false, if_true]

theorem berTlvToDer_definite (tag : Tag) (length : DefiniteLength) (content behind : Octets)
    (exact : length.value = content.length)
    (hBound : (tag.octets ++ (length.encode ++ (content ++ behind))).length < target.usizeSize) :
    berTlvToDer target (levels + 1) (tag.octets ++ (length.encode ++ (content ++ behind))) =
      if tag.constructed then (do
        let childBlobs ←
          childrenToEnd (berTlvToDer target levels) (content.length + 1) content
        let out ← assembleChildren target tag.first tag.octets childBlobs
        return (out, behind))
      else .ok (tlv tag.octets content, behind) := by
  have hValue : length.value < target.usizeSize := by
    simp only [List.length_append] at hBound
    omega
  obtain ⟨first, more, hEncode, hFirst, hDecode⟩ :=
    decodeBerDefiniteLength_encode target length (content ++ behind) hValue
  rw [hEncode] at hBound ⊢
  have hInput : tag.octets ++ (first :: more ++ (content ++ behind)) =
      tag.first :: (tag.more ++ first :: (more ++ (content ++ behind))) := by
    simp [Tag.octets]
  rw [hInput] at hBound ⊢
  have hStop : (tag.first :: (tag.more ++ first :: (more ++ (content ++ behind)))).length -
      (content ++ behind).length + content.length ≤
        (tag.first :: (tag.more ++ first :: (more ++ (content ++ behind)))).length := by
    simp only [List.length_cons, List.length_append]
    omega
  have hAdd : target.checkedAdd
      ((tag.first :: (tag.more ++ first :: (more ++ (content ++ behind)))).length -
        (content ++ behind).length) content.length = some _ := if_pos (hStop.trans_lt hBound)
  simp only [berTlvToDer, tagContinuation_tag, Except.ok_bind', if_neg hFirst, hDecode, exact,
    List.drop_left, hAdd, okOr, gt_iff_lt, Nat.not_lt.mpr hStop, if_false, List.take_left,
    encodeDerLength_eq]
  rfl

theorem checkedAdd_eq_some {a b c : Nat} (h : okOr (target.checkedAdd a b) "content length overflow" =
    .ok c) : c = a + b := by
  unfold Target.checkedAdd at h
  split at h
  · cases h
    rfl
  · cases h

/-- Every input that is accepted starts with an identifier and length octets. -/
theorem berTlvToDer_header {input : Octets} {result : Octets × Octets}
    (h : berTlvToDer target (levels + 1) input = .ok result) :
    ∃ (tag : Tag) (after : Octets), input = tag.octets ++ after ∧
      ((∃ rest, after = 0x80 :: rest) ∨
        ∃ (length : DefiniteLength) (content rest : Octets),
          after = length.encode ++ (content ++ rest) ∧ length.value = content.length) := by
  cases input with
  | nil => cases h
  | cons tagByte afterTagByte =>
      simp only [berTlvToDer, Except.bind_eq_ok_iff] at h
      obtain ⟨⟨more, afterTag⟩, hTag, h⟩ := h
      obtain ⟨tag, rfl, rfl, rfl⟩ := tagContinuation_ok hTag
      refine ⟨tag, afterTag, rfl, ?_⟩
      cases afterTag with
      | nil => cases h
      | cons lenByte afterLenByte =>
          by_cases hIndefinite : lenByte = 0x80
          · exact .inl ⟨afterLenByte, by rw [hIndefinite]⟩
          · right
            simp only [if_neg hIndefinite, Except.bind_eq_ok_iff] at h
            obtain ⟨⟨contentLen, consumed⟩, hDecode, stop, hStop, h⟩ := h
            obtain ⟨length, hValue, -, hConsumed, hLength⟩ := decodeBerDefiniteLength_ok hDecode
            have hFits : contentLen ≤ (afterLenByte.drop consumed).length := by
              by_contra hLong
              have hSum := checkedAdd_eq_some hStop
              rw [if_pos] at h
              · cases h
              · simp only [List.length_cons, List.length_append] at hSum hLong ⊢
                omega
            refine ⟨length, (afterLenByte.drop consumed).take contentLen,
              (afterLenByte.drop consumed).drop contentLen, ?_, ?_⟩
            · rw [hLength, List.take_append_drop, List.cons_append, List.take_append_drop]
            · rw [hValue, List.length_take, Nat.min_eq_left hFits]

/-- The element grammar, read off the header. -/
theorem berElement_succ_iff {octets der : Octets} :
    BerElement (levels + 1) octets der ↔
      (∃ (tag : Tag) (length : DefiniteLength) (content : Octets), tag.constructed = false ∧
        length.value = content.length ∧ octets = tag.octets ++ (length.encode ++ content) ∧
        der = tlv tag.octets content) ∨
      (∃ (tag : Tag) (constructed : tag.constructed = true) (form : LengthForm)
        (children : List Ber) (value : Value),
        octets = tag.octets ++ form.wrap (Ber.encodeList children) ∧
        (form = .indefinite → ∀ child ∈ children, ¬ [0x00, 0x00] <+: child.encode) ∧
        (∀ child ∈ children, child.EocFree ∧ child.height < levels) ∧
        Encodes (.cons tag constructed form children) value ∧ der = value.der) := by
  constructor
  · rintro ⟨ber, value, hOctets, hFree, hHeight, hEncodes, hDer⟩
    cases ber with
    | prim tag primitive length content =>
        left
        cases hEncodes with
        | prim exact =>
            exact ⟨tag, length, content, primitive, exact, by rw [← hOctets, Ber.encode_prim],
              by rw [hDer, Value.der_prim]⟩
    | cons tag constructed form children =>
        right
        have hChildren := Ber.height_cons_le.mp (Nat.le_of_lt_succ hHeight)
        refine ⟨tag, constructed, form, children, value, by rw [← hOctets, Ber.encode_cons],
          ?_, ?_, hEncodes, hDer⟩
        · intro hForm
          subst hForm
          cases hFree with
          | indefinite _ _ _ inner open_ => exact open_
        · intro child hMem
          refine ⟨?_, hChildren child hMem⟩
          cases hFree with
          | definite _ _ _ _ inner => exact inner child hMem
          | indefinite _ _ _ inner _ => exact inner child hMem
  · intro h
    rcases h with ⟨tag, length, content, primitive, exact, hOctets, hDer⟩ |
      ⟨tag, constructed, form, children, value, hOctets, hOpen, hChildren, hEncodes, hDer⟩
    · refine ⟨.prim tag primitive length content, .prim tag primitive content, ?_, .prim .., ?_,
        .prim exact, ?_⟩
      · rw [hOctets, Ber.encode_prim]
      · rw [Ber.height_prim]
        exact Nat.succ_pos _
      · rw [hDer, Value.der_prim]
    · refine ⟨.cons tag constructed form children, value, ?_, ?_, ?_, hEncodes, hDer⟩
      · rw [hOctets, Ber.encode_cons]
      · cases form with
        | definite length => exact .definite _ _ _ _ fun child hMem => (hChildren child hMem).1
        | indefinite =>
            exact .indefinite _ _ _ (fun child hMem => (hChildren child hMem).1) (hOpen rfl)
      · exact Nat.lt_succ_of_le (Ber.height_cons_le.mpr fun child hMem => (hChildren child hMem).2)

end Element
end Smime.Utils
