import Smime.X690.Der

/-! How much longer the DER of a value can be than what was sent for it. Length
octets grow where end-of-contents octets were sent for them, or where the
components have grown. -/
namespace X690

/-- The octets of a constructed element around its components, behind the identifier. -/
theorem LengthForm.exists_overhead {form : LengthForm} {body : Octets} (exact : form.Exact body) :
    ∃ overhead, (form.wrap body).length = overhead + body.length ∧ 1 ≤ overhead ∧
      (128 ≤ body.length → 2 ≤ overhead) := by
  cases form with
  | indefinite =>
      refine ⟨3, ?_, by decide, fun _ => by decide⟩
      simp only [wrap, List.length_cons, List.length_append, List.length_nil]
      omega
  | definite length =>
      refine ⟨length.encode.length, List.length_append, length.length_encode_pos, fun hLong => ?_⟩
      have exact : length.value = body.length := exact
      cases length with
      | short octet small =>
          have hSmall : octet.toNat < 128 := small
          have hValue : octet.toNat = body.length := exact
          omega
      | long octets nonempty bounded =>
          exact Nat.succ_le_succ (List.length_pos_iff.mpr nonempty)

/-- Length octets against the octets that were there before and what they enclosed. -/
theorem mul_length_derLength_le (length body : Nat) {overhead : Nat} (hTwice : length ≤ 2 * body)
    (hSize : length < 256 ^ 8) (hOne : 1 ≤ overhead) (hLong : 128 ≤ body → 2 ≤ overhead) :
    128 * (derLength length).length ≤ 64 + 192 * overhead + body := by
  by_cases hShort : length < 256
  · have hDer := length_derLength_le length 1 (by decide) hShort
    omega
  · by_cases hTwo : length < 256 ^ 2
    · have hDer := length_derLength_le length 2 (by decide) hTwo
      have := hLong (by omega)
      omega
    · have hDer := length_derLength_le length 8 (by decide) hSize
      omega

/-- An element whose contents have grown by `below` levels grows by one more. -/
theorem mul_length_tlv_le (identifier content : Octets) {body overhead below : Nat}
    (hContent : 128 * content.length ≤ (191 + below) * body) (hBelow : below ≤ 64)
    (hSize : 2 * body < 256 ^ 8) (hTag : 1 ≤ identifier.length) (hOne : 1 ≤ overhead)
    (hLong : 128 ≤ body → 2 ≤ overhead) :
    128 * (tlv identifier content).length ≤
      (191 + (below + 1)) * (identifier.length + (overhead + body)) := by
  have hTwice : (191 + below) * body ≤ 256 * body := Nat.mul_le_mul_right _ (by omega)
  have hDer := mul_length_derLength_le content.length body (by omega) (by omega) hOne hLong
  have hNext : (191 + (below + 1)) * body = (191 + below) * body + body := Nat.succ_mul _ _
  have hOutside : 192 * (identifier.length + overhead) ≤
      (191 + (below + 1)) * (identifier.length + overhead) := Nat.mul_le_mul_right _ (by omega)
  rw [tlv, List.length_append, List.length_append]
  calc
    _ ≤ 192 * (identifier.length + overhead) + (191 + (below + 1)) * body := by
      omega
    _ ≤ (191 + (below + 1)) * (identifier.length + overhead) + (191 + (below + 1)) * body :=
      Nat.add_le_add_right hOutside _
    _ = _ := by rw [← Nat.mul_add, Nat.add_assoc]

/-- One more level of elements adds a part in 128 at most. -/
theorem Encodes.mul_length_der_le {ber : Ber} {value : Value} {levels : Nat}
    (hEncodes : Encodes ber value) (hHeight : ber.height < levels) (hLevels : levels ≤ 65)
    (hSize : 2 * ber.encode.length < 256 ^ 8) :
    128 * value.der.length ≤ (191 + levels) * ber.encode.length := by
  obtain ⟨below, rfl⟩ : ∃ below, levels = below + 1 := ⟨levels - 1, by omega⟩
  induction ber generalizing value below with
  | prim tag primitive length content =>
      cases hEncodes with
      | prim exact =>
          have exact : (LengthForm.definite length).Exact content := exact
          obtain ⟨overhead, hWrap, hOne, hLong⟩ := LengthForm.exists_overhead exact
          have hLength : (Ber.prim tag primitive length content).encode.length =
              tag.octets.length + (overhead + content.length) := by
            rw [Ber.encode_prim, List.length_append, ← hWrap]
            rfl
          rw [hLength] at hSize ⊢
          rw [Value.der_prim]
          exact mul_length_tlv_le tag.octets content (Nat.mul_le_mul_right _ (by omega))
            (by omega) (by omega) (Nat.succ_pos _) hOne hLong
  | cons tag constructed form children ih =>
      obtain ⟨overhead, hWrap, hOne, hLong⟩ := LengthForm.exists_overhead hEncodes.exact
      have hTag : 1 ≤ tag.octets.length := Nat.succ_pos _
      have hLength : (Ber.cons tag constructed form children).encode.length =
          tag.octets.length + (overhead + (Ber.encodeList children).length) := by
        rw [Ber.encode_cons, List.length_append, hWrap]
      rw [hLength] at hSize ⊢
      cases hEncodes with
      | @cons _ _ hw _ _ sent components exact inner order =>
          have hChildren := Ber.height_cons_le.mp (Nat.le_of_lt_succ hHeight)
          have hEach : List.Forall₂
              (fun child blob => 128 * blob.length ≤ (191 + below) * child.encode.length)
              children (sent.map Value.der) := by
            refine List.forall₂_map_right_iff.mpr (inner.imp_mem fun child hMem value hEncodes => ?_)
            have hChild := Ber.length_encode_le_encodeList hMem
            obtain ⟨lower, rfl⟩ : ∃ lower, below = lower + 1 :=
              ⟨below - 1, by have := hChildren child hMem; omega⟩
            exact ih child hMem hEncodes (by omega) lower (hChildren child hMem) (by omega)
          have hInner := Ber.mul_length_flatten_le hEach
          rw [← length_flatten_derOrder tag] at hInner
          rw [Value.der_cons, ← order.map_der]
          exact mul_length_tlv_le _ _ hInner (by omega) (by omega) hTag hOne hLong
      | @segments _ _ type _ _ segments content announced exact inner joins =>
          have hEach : List.Forall₂
              (fun child segment => 1 * segment.length ≤ 1 * child.encode.length)
              children segments := by
            refine (List.forall₂_map_right_iff.mp inner).imp_mem fun child _ segment hEncodes => ?_
            rw [Nat.one_mul, Nat.one_mul]
            exact hEncodes.content_length_le
          have hInner := Ber.mul_length_flatten_le hEach
          have hContent := joins.length_le
          have hPrimitive : type.primitiveTag.octets.length = 1 := by
            cases type <;> rfl
          rw [Value.der_prim]
          -- A string without segments gets an unused-bits octet that was not sent.
          by_cases hEmpty : content.length ≤ 1
          · have hFactor : 192 * 2 ≤ (191 + (below + 1)) *
                (tag.octets.length + (overhead + (Ber.encodeList children).length)) :=
              Nat.mul_le_mul (by omega) (by omega)
            have hDer : (derLength content.length).length = 1 := by
              rw [derLength, if_pos (by omega)]
              rfl
            rw [tlv, List.length_append, List.length_append, hPrimitive, hDer]
            omega
          · have hScaled : 128 * content.length ≤
                (191 + below) * (Ber.encodeList children).length :=
              Nat.mul_le_mul (by omega) (by omega)
            have hTlv := mul_length_tlv_le type.primitiveTag.octets content hScaled (by omega)
              (by omega) (Nat.succ_pos _) hOne hLong
            refine hTlv.trans (Nat.mul_le_mul_left _ ?_)
            omega

/-- Elements of at most 64 levels are at most doubled. -/
theorem Encodes.length_der_le_double {ber : Ber} {value : Value} (hEncodes : Encodes ber value)
    (hHeight : ber.height < 65) (hSize : 2 * ber.encode.length < 256 ^ 8) :
    value.der.length ≤ 2 * ber.encode.length := by
  have hScaled := hEncodes.mul_length_der_le hHeight (Nat.le_refl _) hSize
  omega

end X690
