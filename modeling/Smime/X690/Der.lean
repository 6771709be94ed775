import Smime.X690.Encoding

/-! DER as the distinguished encoding: every value has one, it is the octets of
`Value.der`, and no other tree that meets the DER rules encodes the value. -/
namespace X690

theorem JoinsBits.length_le {segments : List Octets} {content : Octets}
    (h : JoinsBits segments content) : content.length ≤ max 1 segments.flatten.length := by
  induction h with
  | none => simp
  | last legal data => simp
  | more tail ih =>
      simp only [List.length_cons, List.length_append, List.flatten_cons] at ih ⊢
      omega

theorem Joins.length_le {type : StringType} {segments : List Octets} {content : Octets}
    (h : Joins type segments content) : content.length ≤ max 1 segments.flatten.length := by
  cases type with
  | bitString => exact JoinsBits.length_le h
  | octetString =>
      change content = segments.flatten at h
      rw [h]
      exact Nat.le_max_right _ _

/-- What is in proportion to each component is so to all of them together. -/
theorem Ber.mul_length_flatten_le {p q : Nat} {children : List Ber} {blobs : List Octets}
    (h : List.Forall₂ (fun child blob => p * blob.length ≤ q * child.encode.length)
      children blobs) :
    p * blobs.flatten.length ≤ q * (Ber.encodeList children).length := by
  induction h with
  | nil => exact Nat.zero_le _
  | cons hFirst _ ih =>
      rw [List.flatten_cons, List.length_append, Ber.encodeList_cons, List.length_append,
        Nat.mul_add, Nat.mul_add]
      exact Nat.add_le_add hFirst ih

/-- Joining never makes a string longer than what was sent for it. -/
theorem Encodes.content_length_le {ber : Ber} {tag : Tag} {h : tag.constructed = false}
    {content : Octets} (hEncodes : Encodes ber (.prim tag h content)) :
    content.length ≤ ber.encode.length := by
  induction ber generalizing tag content with
  | prim berTag primitive length sent =>
      cases hEncodes with
      | prim exact =>
          simp only [Ber.encode_prim, List.length_append]
          omega
  | cons berTag constructed form children ih =>
      cases hEncodes with
      | @segments _ _ type _ _ segments _ announced exact inner joins =>
          have hEach : List.Forall₂
              (fun child segment => 1 * segment.length ≤ 1 * child.encode.length)
              children segments := by
            refine (List.forall₂_map_right_iff.mp inner).imp_mem fun child hMem segment hEncodes => ?_
            rw [Nat.one_mul, Nat.one_mul]
            exact ih child hMem hEncodes
          have hInner := Ber.mul_length_flatten_le hEach
          have hWhole := Ber.length_encodeList_lt_cons berTag constructed form children
          have := joins.length_le
          omega

theorem SentAs.map_der {tag : Tag} {sent components : List Value}
    (h : SentAs tag sent components) :
    derOrder tag (sent.map Value.der) = derOrder tag (components.map Value.der) := by
  unfold SentAs at h
  unfold derOrder
  split
  · rename_i hSet
    rw [if_pos hSet] at h
    exact insertionSort_congr (h.map _)
  · rename_i hSet
    rw [if_neg hSet] at h
    rw [h]

/-- A tree that meets the DER rules has no freedom left. -/
theorem IsDer.encode_eq_der {ber : Ber} {value : Value} (hDer : IsDer ber)
    (hEncodes : Encodes ber value) : ber.encode = value.der := by
  induction ber generalizing value with
  | prim tag primitive length content =>
      cases hDer with
      | prim minimal =>
          cases hEncodes with
          | prim exact =>
              rw [Ber.encode_prim, Value.der_prim, tlv,
                DefiniteLength.encode_eq_derLength minimal, exact, List.append_assoc]
  | cons tag constructed form children ih =>
      cases hDer with
      | @cons _ _ length _ minimal whole ascending inner =>
          cases hEncodes with
          | segments announced => rw [whole] at announced; cases announced
          | @cons _ _ _ _ _ sent components exact hInner order =>
              have hChildren : children.map Ber.encode = sent.map Value.der := by
                clear exact order ascending
                induction hInner with
                | nil => rfl
                | cons hChild hRest ihRest =>
                    rw [List.map_cons, List.map_cons,
                      ih _ List.mem_cons_self (inner _ List.mem_cons_self) hChild,
                      ihRest (fun c hc => ih c (List.mem_cons_of_mem _ hc))
                        (fun c hc => inner c (List.mem_cons_of_mem _ hc))]
              have hOrder : children.map Ber.encode =
                  derOrder tag (components.map Value.der) := by
                rw [← order.map_der, ← hChildren]
                unfold derOrder
                split
                · rename_i hSet
                  exact (List.Pairwise.insertionSort_eq (ascending hSet)).symm
                · rfl
              have hLength : length.encode =
                  derLength (derOrder tag (components.map Value.der)).flatten.length := by
                change length.value = _ at exact
                rw [DefiniteLength.encode_eq_derLength minimal, exact, Ber.encodeList_eq, hOrder]
              rw [Ber.encode_cons, Value.der_cons, Ber.encodeList_eq, hOrder, tlv,
                LengthForm.wrap, hLength, List.append_assoc]

theorem length_derLength_le (n count : Nat) (hPos : 0 < count) (h : n < 256 ^ count) :
    (derLength n).length ≤ count + 1 := by
  unfold derLength
  split
  · simp
  · rw [List.length_cons, beOctets_length]
    exact Nat.succ_le_succ (octetCount_le hPos h)

theorem length_flatten_derOrder (tag : Tag) (blobs : List Octets) :
    (derOrder tag blobs).flatten.length = blobs.flatten.length :=
  (derOrder_perm tag blobs).flatten.length_eq

/-- Rewriting an encoding of at most 2^64 octets as DER makes it at most eight
times longer: each header of at least two octets grows to at most eleven. -/
theorem Encodes.length_der_le {ber : Ber} {value : Value} (hEncodes : Encodes ber value)
    (hSize : ber.encode.length ≤ 256 ^ 8) : value.der.length ≤ 8 * ber.encode.length := by
  induction ber generalizing value with
  | prim tag primitive length content =>
      cases hEncodes with
      | prim exact =>
          have hLength := length.length_encode_pos
          rw [Ber.encode_prim, List.length_append, List.length_append] at hSize ⊢
          have hDer := length_derLength_le content.length 9 (by decide) (by omega)
          rw [Value.der_prim, tlv, List.length_append, List.length_append]
          simp only [Tag.octets, List.length_cons]
          omega
  | cons tag constructed form children ih =>
      have hWhole := Ber.two_le_length_encode (.cons tag constructed form children)
      have hBody := Ber.length_encodeList_lt_cons tag constructed form children
      cases hEncodes with
      | @cons _ _ hw _ _ sent components exact inner order =>
          have hEach : List.Forall₂
              (fun child blob => 1 * blob.length ≤ 8 * child.encode.length)
              children (sent.map Value.der) := by
            refine List.forall₂_map_right_iff.mpr (inner.imp_mem fun child hMem value hEncodes => ?_)
            have hChild := Ber.length_encode_le_encodeList hMem
            rw [Nat.one_mul]
            exact ih child hMem hEncodes (by omega)
          have hInner := Ber.mul_length_flatten_le hEach
          have hTag : tag.octets.length + 1 + (Ber.encodeList children).length ≤
              (Ber.cons tag constructed form children).encode.length := by
            cases form with
            | definite length =>
                have hLength := length.length_encode_pos
                simp only [Ber.encode_cons, LengthForm.wrap, List.length_append]
                omega
            | indefinite =>
                simp only [Ber.encode_cons, LengthForm.wrap, List.length_append, List.length_cons]
                omega
          rw [Value.der_cons, ← order.map_der, tlv, List.length_append, List.length_append,
            length_flatten_derOrder]
          have hDer := length_derLength_le (sent.map Value.der).flatten.length 9
            (by decide) (by omega)
          have hOctets : 1 ≤ tag.octets.length := Nat.succ_pos _
          omega
      | @segments _ _ type _ _ segments content announced exact inner joins =>
          have hEncodes : Encodes (.cons tag constructed form children)
              (.prim type.primitiveTag type.primitiveTag_constructed content) :=
            .segments announced exact inner joins
          have hContent := hEncodes.content_length_le
          have hDer := length_derLength_le content.length 9 (by decide) (by omega)
          have hTag : type.primitiveTag.octets.length = 1 := by
            cases type <;> rfl
          rw [Value.der_prim, tlv, List.length_append, List.length_append]
          omega

/-- A list of the components in the order in which DER sends them. -/
theorem exists_sentAs_der (tag : Tag) (components : List Value) :
    ∃ sent, SentAs tag sent components ∧ sent.map Value.der =
      derOrder tag (components.map Value.der) := by
  by_cases hSet : tag.isSet = true
  · refine ⟨components.insertionSort (fun a b => a.der ≤ b.der), ?_, ?_⟩
    · rw [SentAs, if_pos hSet]
      exact List.perm_insertionSort _ _
    · rw [derOrder, if_pos hSet]
      exact List.map_insertionSort _ _ _ _ (fun _ _ _ _ => Iff.rfl)
  · exact ⟨components, by rw [SentAs, if_neg hSet], by rw [derOrder, if_neg hSet]⟩

/-- DER trees of a list of values, side by side. -/
theorem exists_isDer_list {bound : Nat} {values : List Value}
    (each : ∀ value ∈ values, value.der.length < bound → ∃ ber, IsDer ber ∧ Encodes ber value)
    (h : (values.map Value.der).flatten.length < bound) :
    ∃ children, List.Forall₂ Encodes children values ∧ (∀ child ∈ children, IsDer child) ∧
      children.map Ber.encode = values.map Value.der := by
  induction values with
  | nil => exact ⟨[], .nil, fun _ hMem => absurd hMem List.not_mem_nil, rfl⟩
  | cons first rest ih =>
      simp only [List.map_cons, List.flatten_cons, List.length_append] at h
      obtain ⟨ber, hDer, hEncodes⟩ := each first List.mem_cons_self (by omega)
      obtain ⟨children, hInner, hIsDer, hOctets⟩ :=
        ih (fun value hMem => each value (List.mem_cons_of_mem _ hMem)) (by omega)
      refine ⟨ber :: children, .cons hEncodes hInner, List.forall_mem_cons.mpr ⟨hDer, hIsDer⟩, ?_⟩
      rw [List.map_cons, List.map_cons, hOctets, hDer.encode_eq_der hEncodes]

/-- Every value whose DER has a definite length at all has a DER tree. -/
theorem exists_isDer (value : Value) (h : value.der.length < 256 ^ 127) :
    ∃ ber, IsDer ber ∧ Encodes ber value ∧ ber.encode = value.der := by
  suffices ∃ ber, IsDer ber ∧ Encodes ber value by
    obtain ⟨ber, hDer, hEncodes⟩ := this
    exact ⟨ber, hDer, hEncodes, hDer.encode_eq_der hEncodes⟩
  induction value with
  | prim tag primitive content =>
      have hContent : content.length < 256 ^ 127 := by
        rw [Value.der_prim, tlv] at h
        simp only [List.length_append] at h
        omega
      obtain ⟨length, hMinimal, hValue⟩ := DefiniteLength.exists_minimal hContent
      exact ⟨.prim tag primitive length content, .prim hMinimal, .prim hValue⟩
  | cons tag constructed whole components ih =>
      obtain ⟨sent, hSentAs, hSentDer⟩ := exists_sentAs_der tag components
      have hBody : (sent.map Value.der).flatten.length < 256 ^ 127 := by
        rw [Value.der_cons, ← hSentDer, tlv] at h
        simp only [List.length_append] at h
        omega
      obtain ⟨children, hInner, hIsDer, hOctets⟩ := exists_isDer_list
        (fun child hMem hChild => ih child ((hSentAs.mem_iff child).mp hMem) hChild) hBody
      obtain ⟨length, hMinimal, hValue⟩ := DefiniteLength.exists_minimal hBody
      refine ⟨.cons tag constructed (.definite length) children,
        .cons hMinimal whole ?_ hIsDer, .cons ?_ hInner hSentAs⟩
      · intro hSet
        rw [hOctets, hSentDer, derOrder, if_pos hSet]
        exact List.pairwise_insertionSort _ _
      · change length.value = _
        rw [hValue, Ber.encodeList_eq, hOctets]

end X690
