import Smime.Utils.Calls
import Smime.Utils.TlvHeader

/-! Reading and writing identifiers and lengths stays inside the octets that are
there: each function with checked positions returns what the function on lists
of octets returns. -/
namespace Smime.Utils

open X690

variable {target : Target}

section Lengths

theorem decodeBerDefiniteLength_returns (first : UInt8) (rest : Octets) :
    Calls.decodeBerDefiniteLength target first rest =
      Call.returned (decodeBerDefiniteLength target first rest) := by
  unfold Calls.decodeBerDefiniteLength decodeBerDefiniteLength
  refine Call.ite_returned (fun _ => rfl) fun _ => ?_
  refine Call.ite_returned (fun _ => rfl) fun _ => ?_
  refine Call.ite_returned (fun _ => rfl) fun hAvailable => ?_
  rw [Call.sliceTo_of_le (Nat.le_of_not_gt hAvailable), Call.ok_bind]
  exact Call.bind_returned rfl fun _ _ => rfl

theorem log2_lt_usizeBits {n : Nat} (hNonzero : n ≠ 0) (h : n < target.usizeSize) :
    n.log2 < target.usizeBits :=
  (Nat.log2_lt hNonzero).mpr h

theorem Target.usizeBits_lt (target : Target) : target.usizeBits < target.usizeSize := by
  cases target <;> decide

theorem mapM_ok {α β : Type} {f : α → Call String β} {g : α → β} {as : List α}
    (h : ∀ a ∈ as, f a = Call.ok (g a)) : as.mapM f = Call.ok (as.map g) := by
  induction as with
  | nil => rfl
  | cons a rest ih =>
      obtain ⟨hFirst, hRest⟩ := List.forall_mem_cons.mp h
      rw [List.mapM_cons, hFirst, Call.ok_bind, ih hRest, Call.ok_bind]
      rfl

/-- The octets of a length that is a `usize` are shifted out by less than its width. -/
theorem encodeDerLength_returns {length : Nat} (h : length < target.usizeSize) :
    Calls.encodeDerLength target length = Call.ok (encodeDerLength length) := by
  unfold Calls.encodeDerLength encodeDerLength
  by_cases hShort : length < 0x80
  · rw [if_pos hShort, if_pos hShort]
  · have hNonzero : length ≠ 0 := by
      rintro rfl
      exact hShort (by decide)
    have hLog := log2_lt_usizeBits hNonzero h
    have hBits := target.usizeBits_lt
    have hOctet : ∀ i ∈ (List.range ((length.log2 + 1 + 7) / 8)).reverse,
        Calls.lengthOctet target length i = Call.ok (UInt8.ofNat (length >>> (i * 8))) := by
      intro i hMem
      have hIndex : i < (length.log2 + 1 + 7) / 8 := List.mem_range.mp (List.mem_reverse.mp hMem)
      rw [Calls.lengthOctet, Call.mul_of_lt (by omega), Call.ok_bind, Call.shr_of_lt (by omega),
        Call.ok_bind]
    have hZeros : target.usizeBits - target.leadingZeros length = length.log2 + 1 := by
      rw [Target.leadingZeros, if_neg hNonzero]
      omega
    rw [if_neg hShort, if_neg hShort, Call.sub_of_le, Call.ok_bind, hZeros]
    · simp only [mapM_ok hOctet, Call.ok_bind]
    · rw [Target.leadingZeros, if_neg hNonzero]
      exact Nat.sub_le _ _

end Lengths

section Tag

theorem drop_add_length {data before behind : Octets} {pos : Nat}
    (h : data.drop pos = before ++ behind) : data.drop (pos + before.length) = behind := by
  rw [← List.drop_drop, h, List.drop_left]

/-- The scan stops at the first octet with bit 8 clear, or behind the last octet. -/
theorem tagEnd_returns {data : Octets} {fuel pos : Nat} (hSize : data.length < target.usizeSize)
    (hPos : pos ≤ data.length) (hFuel : data.length - pos < fuel) :
    Calls.tagEnd target data fuel pos =
      Call.ok (pos + ((data.drop pos).takeWhile (fun octet => octet &&& 0x80 != 0)).length) := by
  induction fuel generalizing pos with
  | zero => exact absurd hFuel (Nat.not_lt_zero _)
  | succ fuel ih =>
      rw [Calls.tagEnd]
      by_cases hInside : pos < data.length
      · have hDrop : data.drop pos = data[pos] :: data.drop (pos + 1) :=
          List.drop_eq_getElem_cons hInside
        rw [if_pos hInside, Call.index_of_lt hInside, Call.ok_bind, hDrop]
        by_cases hMore : (data[pos] &&& 0x80 != 0) = true
        · rw [if_pos hMore, Call.add_of_lt (by omega), Call.ok_bind, ih (by omega) (by omega)]
          simp only [List.takeWhile_cons, hMore, if_true, List.length_cons]
          congr 1
          omega
        · rw [if_neg hMore]
          simp only [List.takeWhile_cons, hMore, Bool.false_eq_true, if_false, List.length_nil,
            Nat.add_zero]
      · rw [if_neg hInside, List.drop_eq_nil_of_le (Nat.le_of_not_lt hInside)]
        rfl

theorem skipTag_returns {data : Octets} {tagByte : UInt8} {pos : Nat}
    (hSize : data.length < target.usizeSize) (hPos : pos ≤ data.length) :
    Calls.skipTag target data tagByte pos =
      Call.returned
        ((tagContinuation tagByte (data.drop pos)).map fun tag => pos + tag.1.length) := by
  unfold Calls.skipTag tagContinuation
  by_cases hLong : tagByte &&& 0x1f = 0x1f
  · have hSplit : (data.drop pos).takeWhile (fun octet => octet &&& 0x80 != 0) ++
        (data.drop pos).dropWhile (fun octet => octet &&& 0x80 != 0) = data.drop pos :=
      List.takeWhile_append_dropWhile
    have hLength := congrArg List.length hSplit
    rw [List.length_append, List.length_drop] at hLength
    rw [if_pos hLong, if_pos hLong, tagEnd_returns hSize hPos (by omega), Call.ok_bind,
      List.span_eq_takeWhile_dropWhile]
    cases hBehind : (data.drop pos).dropWhile (fun octet => octet &&& 0x80 != 0) with
    | nil =>
        rw [hBehind, List.length_nil] at hLength
        rw [if_pos (by omega)]
        rfl
    | cons last behind =>
        rw [hBehind, List.length_cons] at hLength
        rw [if_neg (by omega), Call.add_of_lt (by omega)]
        simp only [Except.map, Call.returned_ok, List.length_append, List.length_singleton,
          Nat.add_assoc]
  · rw [if_neg hLong, if_neg hLong]
    rfl

end Tag

section Tlv

theorem parseDerTlv_returns {data : Octets} {offset : Nat}
    (hSize : data.length < target.usizeSize) :
    Calls.parseDerTlv target data offset = Call.returned (parseDerTlv target data offset) := by
  unfold Calls.parseDerTlv parseDerTlv
  by_cases hEnd : offset ≥ data.length
  · rw [if_pos hEnd, List.drop_eq_nil_of_le hEnd]
    rfl
  · have hInside : offset < data.length := Nat.lt_of_not_le hEnd
    rw [if_neg hEnd, Call.index_of_lt hInside, Call.ok_bind, Call.add_of_lt (by omega),
      Call.ok_bind, @skipTag_returns target data _ (offset + 1) hSize hInside,
      List.drop_eq_getElem_cons hInside]
    dsimp only
    cases hTag : tagContinuation data[offset] (data.drop (offset + 1)) with
    | error err => rfl
    | ok tag =>
        obtain ⟨more, afterTag⟩ := tag
        obtain ⟨-, -, -, hAfterTagByte⟩ := tagContinuation_ok hTag
        have hAfterTag := drop_add_length hAfterTagByte
        have hLength := congrArg List.length hAfterTag
        rw [List.length_drop] at hLength
        simp only [Except.map, Call.returned_ok, Call.ok_bind, Except.ok_bind']
        cases afterTag with
        | nil =>
            rw [List.length_nil] at hLength
            rw [if_pos (by omega)]
            rfl
        | cons lenByte afterLenByte =>
            rw [List.length_cons] at hLength
            have hAfterLenByte : data.drop (offset + 1 + more.length + 1) = afterLenByte :=
              @drop_add_length data [lenByte] _ _ hAfterTag
            rw [if_neg (by omega), Call.index_of_drop hAfterTag, Call.ok_bind,
              Call.add_of_lt (by omega), Call.ok_bind, Call.sliceFrom_of_le (by omega),
              Call.ok_bind, hAfterLenByte, decodeBerDefiniteLength_returns]
            dsimp only
            cases hDecode : decodeBerDefiniteLength target lenByte afterLenByte with
            | error err => rfl
            | ok decoded =>
                obtain ⟨contentLen, consumed⟩ := decoded
                obtain ⟨-, -, -, hConsumed, -⟩ := decodeBerDefiniteLength_ok hDecode
                have hContent : (afterLenByte.drop consumed).length =
                    data.length - (offset + 1 + more.length + (1 + consumed)) := by
                  rw [List.length_drop]
                  omega
                simp only [Call.returned_ok, Call.ok_bind, Except.ok_bind', hContent]
                rw [Call.add_of_lt (by omega), Call.ok_bind, Call.add_of_lt (by omega),
                  Call.ok_bind, Call.sub_of_le (by omega), Call.ok_bind]
                refine Call.ite_returned (fun _ => rfl) fun _ => ?_
                rw [Call.sub_of_le (by omega), Call.ok_bind, Except.pure_eq_ok',
                  Call.returned_ok]
                congr 2
                omega

end Tlv

end Smime.Utils
