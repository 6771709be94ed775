import Smime.X690.Der

/-! Definite-length encodings are prefix-free: the octets of a value determine
the value, whatever follows them. -/
namespace X690

theorem subsequentOctets_unique {octets others x y : Octets}
    (hOctets : subsequentOctets octets = true) (hOthers : subsequentOctets others = true)
    (h : octets ++ x = others ++ y) : octets = others ∧ x = y := by
  induction octets generalizing others with
  | nil => cases hOctets
  | cons octet rest ih =>
      cases others with
      | nil => cases hOthers
      | cons other more =>
          rw [List.cons_append, List.cons_append] at h
          obtain ⟨rfl, hTail⟩ := List.cons.inj h
          cases rest with
          | nil =>
              cases more with
              | nil => exact ⟨rfl, hTail⟩
              | cons next more =>
                  simp only [subsequentOctets, beq_iff_eq] at hOctets
                  simp [subsequentOctets, hOctets] at hOthers
          | cons next rest =>
              cases more with
              | nil =>
                  simp only [subsequentOctets, beq_iff_eq] at hOthers
                  simp [subsequentOctets, hOthers] at hOctets
              | cons following more =>
                  simp only [subsequentOctets, Bool.and_eq_true] at hOctets hOthers
                  obtain ⟨hRest, hBehind⟩ := ih hOctets.2 hOthers.2 hTail
                  exact ⟨by rw [hRest], hBehind⟩

theorem Tag.octets_unique {tag other : Tag} {x y : Octets}
    (h : tag.octets ++ x = other.octets ++ y) : tag = other ∧ x = y := by
  obtain ⟨first, more, wellFormed⟩ := tag
  obtain ⟨otherFirst, otherMore, otherWellFormed⟩ := other
  rw [Tag.octets, Tag.octets, List.cons_append, List.cons_append] at h
  obtain ⟨hFirst, hTail⟩ := List.cons.inj h
  change first = otherFirst at hFirst
  change more ++ x = otherMore ++ y at hTail
  subst hFirst
  have hMore : more = otherMore ∧ x = y := by
    by_cases hLong : first &&& 0x1f = 0x1f
    · rw [if_pos hLong] at wellFormed otherWellFormed
      exact subsequentOctets_unique wellFormed otherWellFormed hTail
    · rw [if_neg hLong] at wellFormed otherWellFormed
      subst wellFormed otherWellFormed
      exact ⟨rfl, hTail⟩
  obtain ⟨rfl, hBehind⟩ := hMore
  exact ⟨rfl, hBehind⟩

theorem long_form_octet {count : Nat} (h : count < 128) :
    (0x80 ||| UInt8.ofNat count).toNat = 128 + count := by
  have hAll : ∀ count : Fin 128, (0x80 ||| UInt8.ofNat count.val).toNat = 128 + count.val := by
    decide +kernel
  exact hAll ⟨count, h⟩

/-- The number a length denotes can be read off its DER octets. -/
theorem derLength_unique {n m : Nat} {x y : Octets} (hn : n < 256 ^ 127) (hm : m < 256 ^ 127)
    (h : derLength n ++ x = derLength m ++ y) : n = m ∧ x = y := by
  have hCountN := Nat.lt_succ_of_le (octetCount_le (by decide) hn)
  have hCountM := Nat.lt_succ_of_le (octetCount_le (by decide) hm)
  have hShort : ∀ {k : Nat}, k < 128 → (UInt8.ofNat k).toNat = k := fun hk =>
    UInt8.toNat_ofNat_of_lt' (Nat.lt_trans hk (by decide))
  unfold derLength at h
  by_cases hSmallN : n < 128
  · rw [if_pos hSmallN] at h
    by_cases hSmallM : m < 128
    · rw [if_pos hSmallM] at h
      obtain ⟨hHead, hTail⟩ := List.cons.inj h
      have := congrArg UInt8.toNat hHead
      rw [hShort hSmallN, hShort hSmallM] at this
      exact ⟨this, hTail⟩
    · rw [if_neg hSmallM] at h
      have := congrArg UInt8.toNat (List.cons.inj h).1
      rw [hShort hSmallN, long_form_octet hCountM] at this
      omega
  · rw [if_neg hSmallN] at h
    by_cases hSmallM : m < 128
    · rw [if_pos hSmallM] at h
      have := congrArg UInt8.toNat (List.cons.inj h).1
      rw [hShort hSmallM, long_form_octet hCountN] at this
      omega
    · rw [if_neg hSmallM] at h
      obtain ⟨hHead, hTail⟩ := List.cons.inj h
      have hCount := congrArg UInt8.toNat hHead
      rw [long_form_octet hCountN, long_form_octet hCountM, Nat.add_left_cancel_iff] at hCount
      rw [← hCount] at hTail
      obtain ⟨hDigits, hBehind⟩ := List.append_inj hTail
        ((beOctets_length _ _).trans (beOctets_length _ _).symm)
      refine ⟨?_, hBehind⟩
      have hValue := congrArg beValue hDigits
      rw [beValue_beOctets, beValue_beOctets, Nat.mod_eq_of_lt (lt_pow_octetCount n)] at hValue
      rw [hValue, Nat.mod_eq_of_lt]
      rw [hCount]
      exact lt_pow_octetCount m

theorem tlv_unique {tag other : Tag} {content others x y : Octets}
    (hContent : content.length < 256 ^ 127) (hOthers : others.length < 256 ^ 127)
    (h : tlv tag.octets content ++ x = tlv other.octets others ++ y) :
    tag = other ∧ content = others ∧ x = y := by
  simp only [tlv, List.append_assoc] at h
  obtain ⟨hTag, hAfterTag⟩ := Tag.octets_unique h
  obtain ⟨hLength, hAfterLength⟩ := derLength_unique hContent hOthers hAfterTag
  obtain ⟨hEq, hBehind⟩ := List.append_inj hAfterLength hLength
  exact ⟨hTag, hEq, hBehind⟩

namespace Value

theorem length_content_lt_tlv (tag : Tag) (content : Octets) :
    content.length < (tlv tag.octets content).length := by
  simp only [tlv, Tag.octets, List.length_append, List.length_cons]
  omega

theorem encode_ne_nil (value : Value) : value.encode ≠ [] := by
  cases value <;> simp [tlv, Tag.octets]

theorem flatten_map_encode_inj {children others : List Value}
    (each : ∀ child ∈ children, ∀ (other : Value) (x y : Octets),
      child.encode.length < 256 ^ 127 → other.encode.length < 256 ^ 127 →
      child.encode ++ x = other.encode ++ y → child = other ∧ x = y)
    (hSize : (children.map encode).flatten.length < 256 ^ 127)
    (h : (children.map encode).flatten = (others.map encode).flatten) : children = others := by
  induction children generalizing others with
  | nil =>
      cases others with
      | nil => rfl
      | cons other more =>
          rw [List.map_cons, List.flatten_cons, List.map_nil, List.flatten_nil] at h
          exact absurd (List.append_eq_nil_iff.mp h.symm).1 (encode_ne_nil other)
  | cons first rest ih =>
      cases others with
      | nil =>
          rw [List.map_cons, List.flatten_cons, List.map_nil, List.flatten_nil] at h
          exact absurd (List.append_eq_nil_iff.mp h).1 (encode_ne_nil first)
      | cons other more =>
          have hTotal := congrArg List.length h
          simp only [List.map_cons, List.flatten_cons, List.length_append] at hSize hTotal h
          obtain ⟨rfl, hTail⟩ := each first List.mem_cons_self other _ _ (by omega) (by omega) h
          rw [ih (fun child hMem => each child (List.mem_cons_of_mem _ hMem)) (by omega) hTail]

/-- No encoding is a proper prefix of another. -/
theorem encode_unique {value other : Value} {x y : Octets}
    (hValue : value.encode.length < 256 ^ 127) (hOther : other.encode.length < 256 ^ 127)
    (h : value.encode ++ x = other.encode ++ y) : value = other ∧ x = y := by
  induction value generalizing other x y with
  | prim tag primitive content =>
      rw [encode_prim] at hValue h
      have hContent := (length_content_lt_tlv tag content).trans hValue
      cases other with
      | prim otherTag _ otherContent =>
          rw [encode_prim] at hOther h
          have hOtherContent := (length_content_lt_tlv otherTag otherContent).trans hOther
          obtain ⟨rfl, rfl, hBehind⟩ := tlv_unique hContent hOtherContent h
          exact ⟨rfl, hBehind⟩
      | cons otherTag constructed _ children =>
          rw [encode_cons] at hOther h
          obtain ⟨rfl, -, -⟩ := tlv_unique hContent
            ((length_content_lt_tlv otherTag _).trans hOther) h
          rw [primitive] at constructed
          cases constructed
  | cons tag constructed whole children ih =>
      rw [encode_cons] at hValue h
      have hContent := (length_content_lt_tlv tag _).trans hValue
      cases other with
      | prim otherTag primitive otherContent =>
          rw [encode_prim] at hOther h
          obtain ⟨rfl, -, -⟩ := tlv_unique hContent
            ((length_content_lt_tlv otherTag _).trans hOther) h
          rw [primitive] at constructed
          cases constructed
      | cons otherTag _ _ others =>
          rw [encode_cons] at hOther h
          obtain ⟨rfl, hChildren, hBehind⟩ := tlv_unique hContent
            ((length_content_lt_tlv otherTag _).trans hOther) h
          obtain rfl := flatten_map_encode_inj (fun child hMem other x y hChild hOther hEq =>
            ih child hMem hChild hOther hEq) hContent hChildren
          exact ⟨rfl, hBehind⟩

theorem encode_inj {value other : Value} (hSize : value.encode.length < 256 ^ 127)
    (h : value.encode = other.encode) : value = other := by
  have hOther := hSize
  rw [h] at hOther
  exact (encode_unique hSize hOther (congrArg (· ++ []) h)).1

end Value
end X690
