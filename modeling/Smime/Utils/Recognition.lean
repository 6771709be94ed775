import Smime.Utils.BerElement

/-! `ber_to_der` as a recogniser: it accepts an input exactly when the input is
one BER element of bounded depth, and its result is the DER of the value. -/
namespace Smime.Utils

open X690

section Element

variable {target : Target} {levels : Nat}

/-- What an accepted constructed element of indefinite length is. -/
theorem berElement_of_indefinite
    (ih : Recognizes target.usizeSize (berTlvToDer target levels) (BerElement levels))
    {tag : Tag} {rest out behind : Octets}
    (hBound : (tag.octets ++ 0x80 :: rest).length < target.usizeSize)
    (h : berTlvToDer target (levels + 1) (tag.octets ++ 0x80 :: rest) = .ok (out, behind)) :
    ∃ octets, tag.octets ++ 0x80 :: rest = octets ++ behind ∧
      BerElement (levels + 1) octets out := by
  have hRest : rest.length < target.usizeSize := by
    simp only [List.length_append, List.length_cons] at hBound
    omega
  cases hTag : tag.constructed with
  | false =>
      rw [berTlvToDer_indefinite_prim tag hTag] at h
      cases h
  | true =>
      simp only [berTlvToDer_indefinite tag hTag, Except.bind_eq_ok_iff, Except.pure_eq_ok',
        Except.ok.injEq, Prod.mk.injEq, Prod.exists] at h
      obtain ⟨childBlobs, last, hLoop, der, hAssemble, hOut, hLast⟩ := h
      subst hOut hLast
      obtain ⟨pieces, hRestEq, hPieces, hOpen⟩ := (childrenUntilEoc_ok_iff ih
        (hasHeaders_berElement levels) _ _ _ _ hRest (Nat.lt_succ_self _)).mp hLoop
      obtain ⟨children, values, rfl, rfl, inner, hChildren⟩ := forall₂_berElement.mp hPieces
      rw [← Ber.encodeList_eq] at hRestEq
      have hBody : (Ber.encodeList children).length < target.usizeSize := by
        rw [hRestEq, List.length_append] at hRest
        omega
      have exact : LengthForm.indefinite.Exact (Ber.encodeList children) := trivial
      obtain ⟨value, hEncodes, hDer⟩ := (assembleChildren_ok_iff target hTag exact hBody der).mp
        ⟨values, inner, hAssemble⟩
      refine ⟨tag.octets ++ LengthForm.indefinite.wrap (Ber.encodeList children), ?_, ?_⟩
      · rw [hRestEq, LengthForm.wrap]
        simp only [List.append_assoc, List.cons_append, List.nil_append]
      · apply berElement_succ_iff.mpr
        right
        exact ⟨tag, hTag, .indefinite, children, value, rfl,
          fun _ child hMem => hOpen _ (List.mem_map_of_mem hMem), hChildren, hEncodes, hDer⟩

/-- What an accepted element of definite length is. -/
theorem berElement_of_definite
    (ih : Recognizes target.usizeSize (berTlvToDer target levels) (BerElement levels))
    {tag : Tag} {length : DefiniteLength} {content rest out behind : Octets}
    (exact : length.value = content.length)
    (hBound : (tag.octets ++ (length.encode ++ (content ++ rest))).length < target.usizeSize)
    (h : berTlvToDer target (levels + 1) (tag.octets ++ (length.encode ++ (content ++ rest))) =
      .ok (out, behind)) :
    ∃ octets, tag.octets ++ (length.encode ++ (content ++ rest)) = octets ++ behind ∧
      BerElement (levels + 1) octets out := by
  have hContent : content.length < target.usizeSize := by
    simp only [List.length_append] at hBound
    omega
  rw [berTlvToDer_definite tag length content rest exact hBound] at h
  cases hTag : tag.constructed with
  | false =>
      rw [hTag, if_neg Bool.false_ne_true] at h
      cases h
      refine ⟨tag.octets ++ (length.encode ++ content), by simp only [List.append_assoc], ?_⟩
      apply berElement_succ_iff.mpr
      left
      exact ⟨tag, length, content, hTag, exact, rfl, rfl⟩
  | true =>
      simp only [hTag, if_true, Except.bind_eq_ok_iff, Except.pure_eq_ok', Except.ok.injEq,
        Prod.mk.injEq] at h
      obtain ⟨childBlobs, hLoop, der, hAssemble, hOut, hRest⟩ := h
      subst hOut hRest
      obtain ⟨pieces, hContentEq, hPieces⟩ := (childrenToEnd_ok_iff ih
        (hasHeaders_berElement levels) _ _ _ hContent (Nat.lt_succ_self _)).mp hLoop
      obtain ⟨children, values, rfl, rfl, inner, hChildren⟩ := forall₂_berElement.mp hPieces
      rw [← Ber.encodeList_eq] at hContentEq
      subst hContentEq
      have exact : (LengthForm.definite length).Exact (Ber.encodeList children) := exact
      obtain ⟨value, hEncodes, hDer⟩ := (assembleChildren_ok_iff target hTag exact hContent
        der).mp ⟨values, inner, hAssemble⟩
      refine ⟨tag.octets ++ (length.encode ++ Ber.encodeList children),
        by simp only [List.append_assoc], ?_⟩
      apply berElement_succ_iff.mpr
      right
      refine ⟨tag, hTag, .definite length, children, value, rfl, ?_, hChildren, hEncodes, hDer⟩
      intro hForm
      cases hForm

/-- A constructed element is taken off its input, in either length form. -/
theorem berTlvToDer_constructed
    (ih : Recognizes target.usizeSize (berTlvToDer target levels) (BerElement levels))
    {tag : Tag} {constructed : tag.constructed = true} {form : LengthForm} {children : List Ber}
    {value : Value} (behind : Octets)
    (hOpen : form = .indefinite → ∀ child ∈ children, ¬ [0x00, 0x00] <+: child.encode)
    (hChildren : ∀ child ∈ children, child.EocFree ∧ child.height < levels)
    (hEncodes : Encodes (.cons tag constructed form children) value)
    (hBound : (tag.octets ++ form.wrap (Ber.encodeList children) ++ behind).length <
      target.usizeSize) :
    berTlvToDer target (levels + 1)
      (tag.octets ++ form.wrap (Ber.encodeList children) ++ behind) = .ok (value.der, behind) := by
  have hBody : (Ber.encodeList children).length < target.usizeSize := by
    cases form with
    | definite length =>
        simp only [LengthForm.wrap, List.length_append] at hBound
        omega
    | indefinite =>
        simp only [LengthForm.wrap, List.length_append, List.length_cons] at hBound
        omega
  obtain ⟨values, inner, hAssemble⟩ := (assembleChildren_ok_iff target constructed
    hEncodes.exact hBody value.der).mpr ⟨value, hEncodes, rfl⟩
  have hPieces : List.Forall₂ (BerElement levels) (children.map Ber.encode)
      (values.map Value.der) :=
    forall₂_berElement.mpr ⟨children, values, rfl, rfl, inner, hChildren⟩
  cases form with
  | definite length =>
      have exact : length.value = (Ber.encodeList children).length := hEncodes.exact
      have hLoop := (childrenToEnd_ok_iff ih (hasHeaders_berElement levels)
        ((Ber.encodeList children).length + 1) (Ber.encodeList children) _ hBody
        (Nat.lt_succ_self _)).mpr ⟨_, Ber.encodeList_eq children, hPieces⟩
      simp only [LengthForm.wrap, List.append_assoc] at hBound ⊢
      rw [berTlvToDer_definite tag length _ behind exact hBound, if_pos constructed, hLoop,
        Except.ok_bind', hAssemble]
      rfl
  | indefinite =>
      have hRest : (Ber.encodeList children ++ 0x00 :: 0x00 :: behind).length <
          target.usizeSize := by
        simp only [LengthForm.wrap, List.length_append, List.length_cons] at hBound ⊢
        omega
      have hLoop := (childrenUntilEoc_ok_iff ih (hasHeaders_berElement levels) _ _
        (values.map Value.der) behind hRest (Nat.lt_succ_self _)).mpr
          ⟨_, by rw [Ber.encodeList_eq], hPieces, by
            intro piece hMem
            obtain ⟨child, hChild, rfl⟩ := List.mem_map.mp hMem
            exact hOpen rfl child hChild⟩
      simp only [LengthForm.wrap, List.append_assoc, List.cons_append, List.nil_append]
      rw [berTlvToDer_indefinite tag constructed, hLoop, Except.ok_bind']
      show (assembleChildren target tag.first tag.octets (values.map Value.der) >>=
        fun out => pure (out, behind)) = _
      rw [hAssemble]
      rfl

/-- The element parser takes exactly the elements of the grammar, by induction
on the number of levels that are left. -/
theorem berTlvToDer_recognizes (target : Target) (levels : Nat) :
    Recognizes target.usizeSize (berTlvToDer target levels) (BerElement levels) := by
  induction levels with
  | zero =>
      intro input out behind _
      constructor
      · intro h
        cases h
      · intro ⟨_, _, _, _, _, _, hHeight, _⟩
        exact absurd hHeight (Nat.not_lt_zero _)
  | succ levels ih =>
      intro input out behind hBound
      constructor
      · intro h
        obtain ⟨tag, after, rfl, ⟨rest, rfl⟩ | ⟨length, content, rest, rfl, exact⟩⟩ :=
          berTlvToDer_header h
        · exact berElement_of_indefinite ih hBound h
        · exact berElement_of_definite ih exact hBound h
      · intro ⟨octets, hInput, hElement⟩
        subst hInput
        rcases berElement_succ_iff.mp hElement with
          ⟨tag, length, content, primitive, exact, rfl, rfl⟩ |
          ⟨tag, constructed, form, children, value, rfl, hOpen, hChildren, hEncodes, rfl⟩
        · simp only [List.append_assoc] at hBound ⊢
          rw [berTlvToDer_definite tag length content behind exact hBound, primitive]
          rfl
        · exact berTlvToDer_constructed ih behind hOpen hChildren hEncodes hBound

end Element

/-- `ber_to_der` accepts exactly the octets of one element. -/
theorem berToDer_ok_iff_element (target : Target) (input der : Octets)
    (hSlice : input.length < target.usizeSize) :
    berToDer target input = .ok der ↔ BerElement (maxBerDepth + 1) input der := by
  have hParse := berTlvToDer_recognizes target (maxBerDepth + 1)
  constructor
  · intro h
    simp only [berToDer, Except.bind_eq_ok_iff, Prod.exists] at h
    obtain ⟨out, rest, hTlv, h⟩ := h
    cases rest with
    | cons octet rest => cases h
    | nil =>
        cases h
        obtain ⟨octets, hInput, hElement⟩ := (hParse input der [] hSlice).mp hTlv
        rw [hInput, List.append_nil]
        exact hElement
  · intro hElement
    have hTlv := (hParse input der [] hSlice).mpr ⟨input, (List.append_nil _).symm, hElement⟩
    rw [berToDer, hTlv]
    rfl

end Smime.Utils
