import Smime.Utils.HeaderReturns
import Smime.Utils.Recognition
import Smime.Utils.Regions
import Smime.X690.Growth

/-! `ber_to_der` returns on every input: it indexes and slices inside the input,
and what it puts together is at most twice as long as the input, so that no
length or position leaves `usize`. -/
namespace Smime.Utils

open X690

variable {target : Target}

section Flatten

theorem derContent_returns {tlv : Octets} (hSize : tlv.length < target.usizeSize) :
    Calls.derContent target tlv = Call.returned (derContent target tlv) := by
  refine Call.bind_returned (parseDerTlv_returns hSize) fun t hParse => ?_
  have hBounds := parseDerTlv_bounds hParse
  rw [Call.add_of_lt (by omega), Call.ok_bind, Call.slice_of_le (by omega) (by omega),
    Nat.add_sub_cancel_left]
  rfl

theorem derContent_length {tlv content : Octets} (h : derContent target tlv = .ok content) :
    content.length ≤ tlv.length := by
  simp only [derContent, Except.bind_eq_ok_iff, Except.pure_eq_ok', Except.ok.injEq] at h
  obtain ⟨t, -, rfl⟩ := h
  rw [List.length_take, List.length_drop]
  omega

theorem joinBitSegments_returns {count i : Nat} {blobs : List Octets} {content : Octets}
    (hBlobs : ∀ blob ∈ blobs, blob.length < target.usizeSize) (hContent : content ≠ [])
    (hIndex : i + blobs.length = count) (hCount : count < target.usizeSize) :
    Calls.joinBitSegments target count i blobs content =
      Call.returned (joinBitSegments target blobs content) := by
  induction blobs generalizing i content with
  | nil => rfl
  | cons blob rest ih =>
      obtain ⟨hBlob, hRest⟩ := List.forall_mem_cons.mp hBlobs
      rw [List.length_cons] at hIndex
      rw [Calls.joinBitSegments, joinBitSegments]
      refine Call.bind_returned (derContent_returns hBlob) fun segment _ => ?_
      cases segment with
      | nil => rfl
      | cons unused bits =>
          have hLast : (i + 1 == count) = rest.isEmpty := by
            cases rest with
            | nil => simpa using hIndex
            | cons next others =>
                rw [List.length_cons] at hIndex
                exact beq_false_of_ne (by omega)
          dsimp only
          rw [Call.add_of_lt (by omega), Call.ok_bind, hLast]
          refine Call.ite_returned (fun _ => rfl) fun _ => ?_
          rw [Call.set_of_lt (List.length_pos_of_ne_nil hContent), Call.ok_bind]
          exact ih hRest (by simpa using fun hNil => absurd hNil hContent) (by omega)

theorem joinBitSegments_length {blobs : List Octets} {content out : Octets}
    (h : joinBitSegments target blobs content = .ok out) :
    out.length ≤ content.length + blobs.flatten.length := by
  induction blobs generalizing content with
  | nil =>
      cases h
      exact Nat.le_add_right _ _
  | cons blob rest ih =>
      simp only [joinBitSegments, Except.bind_eq_ok_iff] at h
      obtain ⟨segment, hSegment, h⟩ := h
      have hBlob := derContent_length hSegment
      cases segment with
      | nil => cases h
      | cons unused bits =>
          dsimp only at h
          split at h
          · cases h
          · have hRest := ih h
            rw [List.length_append, List.length_set] at hRest
            rw [List.length_cons] at hBlob
            rw [List.flatten_cons, List.length_append]
            omega

theorem joinOctetSegments_returns {blobs : List Octets} {content : Octets}
    (hBlobs : ∀ blob ∈ blobs, blob.length < target.usizeSize) :
    Calls.joinOctetSegments target blobs content =
      Call.returned (joinOctetSegments target blobs content) := by
  induction blobs generalizing content with
  | nil => rfl
  | cons blob rest ih =>
      obtain ⟨hBlob, hRest⟩ := List.forall_mem_cons.mp hBlobs
      rw [Calls.joinOctetSegments, joinOctetSegments]
      exact Call.bind_returned (derContent_returns hBlob) fun segment _ => ih hRest

theorem joinOctetSegments_length {blobs : List Octets} {content out : Octets}
    (h : joinOctetSegments target blobs content = .ok out) :
    out.length ≤ content.length + blobs.flatten.length := by
  induction blobs generalizing content with
  | nil =>
      cases h
      exact Nat.le_add_right _ _
  | cons blob rest ih =>
      simp only [joinOctetSegments, Except.bind_eq_ok_iff] at h
      obtain ⟨segment, hSegment, h⟩ := h
      have hBlob := derContent_length hSegment
      have hRest := ih h
      rw [List.length_append] at hRest
      rw [List.flatten_cons, List.length_append]
      omega

theorem length_le_length_flatten {blobs : List Octets} (h : ∀ blob ∈ blobs, blob ≠ []) :
    blobs.length ≤ blobs.flatten.length := by
  induction blobs with
  | nil => exact Nat.le_refl _
  | cons blob rest ih =>
      obtain ⟨hBlob, hRest⟩ := List.forall_mem_cons.mp h
      have hFirst := List.length_pos_of_ne_nil hBlob
      have hOthers := ih hRest
      rw [List.length_cons, List.flatten_cons, List.length_append]
      omega

theorem length_le_of_mem {blobs : List Octets} {blob : Octets} (h : blob ∈ blobs) :
    blob.length ≤ blobs.flatten.length :=
  (List.sublist_flatten_of_mem h).length_le

theorem flattenConstructedString_returns {tagByte : UInt8} {childBlobs : List Octets}
    (hSize : childBlobs.flatten.length + 1 < target.usizeSize) :
    Calls.flattenConstructedString target tagByte childBlobs =
      Call.returned (flattenConstructedString target tagByte childBlobs) := by
  have hBlobs : ∀ blob ∈ childBlobs, blob.length < target.usizeSize := fun blob hMem =>
    (length_le_of_mem hMem).trans_lt (by omega)
  unfold Calls.flattenConstructedString flattenConstructedString
  refine Call.ite_returned (fun _ => rfl) fun hHeads => ?_
  have hCount : childBlobs.length ≤ childBlobs.flatten.length := by
    refine length_le_length_flatten ?_
    rintro blob hMem rfl
    exact hHeads (List.any_eq_true.mpr ⟨[], hMem, rfl⟩)
  by_cases hBits : tagByte &&& ~~~0x20 = 0x03
  · rw [if_pos hBits, if_pos hBits]
    refine Call.bind_returned (joinBitSegments_returns hBlobs (List.cons_ne_nil _ _)
      (Nat.zero_add _) (by omega)) fun content hJoin => ?_
    have hContent := joinBitSegments_length hJoin
    rw [List.length_singleton] at hContent
    dsimp only
    rw [encodeDerLength_returns (by omega), Call.ok_bind]
    rfl
  · rw [if_neg hBits, if_neg hBits]
    refine Call.bind_returned (joinOctetSegments_returns hBlobs) fun content hJoin => ?_
    have hContent := joinOctetSegments_length hJoin
    rw [List.length_nil] at hContent
    dsimp only
    rw [encodeDerLength_returns (by omega), Call.ok_bind]
    rfl

theorem assembleChildren_returns {tagByte : UInt8} {tagBytes : Octets} {childBlobs : List Octets}
    (hSize : childBlobs.flatten.length + 1 < target.usizeSize) :
    Calls.assembleChildren target tagByte tagBytes childBlobs =
      Call.returned (assembleChildren target tagByte tagBytes childBlobs) := by
  unfold Calls.assembleChildren assembleChildren
  refine Call.ite_returned (fun _ => flattenConstructedString_returns hSize) fun _ => ?_
  have hOrdered : (if tagByte == 0x31 then childBlobs.insertionSort (· ≤ ·)
      else childBlobs).flatten.length = childBlobs.flatten.length := by
    split
    · exact (List.perm_insertionSort _ childBlobs).flatten.length_eq
    · rfl
  dsimp only
  rw [encodeDerLength_returns (by omega), Call.ok_bind]
  rfl

end Flatten

section Loops

variable {bound : Nat} {tlv : Octets → Except String (Octets × Octets)}
  {component : Octets → Call String (Octets × Octets)}

theorem startsWithEoc_eq (rest : Octets) :
    Calls.startsWithEoc rest = Call.ok (decide ([0x00, 0x00] <+: rest)) := by
  match rest with
  | [] => rfl
  | [_] => simp [Calls.startsWithEoc]
  | first :: second :: behind =>
      rw [Calls.startsWithEoc, if_pos (by simp), Call.index_of_lt (Nat.succ_pos _), Call.ok_bind,
        List.getElem_cons_zero]
      by_cases hFirst : first = 0x00
      · rw [if_pos hFirst, Call.index_of_lt (by simp), Call.ok_bind]
        simp [List.cons_prefix_cons, hFirst, eq_comm, beq_eq_decide]
      · rw [if_neg hFirst]
        simp [List.cons_prefix_cons, Ne.symm hFirst]

/-- The loop ends, because each component takes octets off its input. -/
theorem childrenUntilEoc_returns
    (hComponent : ∀ rest, rest.length ≤ bound → component rest = Call.returned (tlv rest))
    (hShorter : ∀ rest der remaining, rest.length ≤ bound → tlv rest = .ok (der, remaining) →
      remaining.length < rest.length)
    {fuel : Nat} {rest : Octets} (hBound : rest.length ≤ bound) (hFuel : rest.length < fuel) :
    Calls.childrenUntilEoc component fuel rest =
      Call.returned (childrenUntilEoc tlv fuel rest) := by
  induction fuel generalizing rest with
  | zero => exact absurd hFuel (Nat.not_lt_zero _)
  | succ fuel ih =>
      rw [Calls.childrenUntilEoc, startsWithEoc_eq, Call.ok_bind]
      by_cases hClosed : [0x00, 0x00] <+: rest
      · obtain ⟨behind, rfl⟩ := hClosed
        rw [if_pos (by simp), Call.sliceFrom_of_le (by simp), Call.ok_bind]
        exact congrArg Call.returned (childrenUntilEoc_eoc fuel behind).symm
      · rw [if_neg (by simpa using hClosed)]
        cases rest with
        | nil => rfl
        | cons octet others =>
            rw [childrenUntilEoc_cons fuel (List.cons_ne_nil _ _) hClosed, List.isEmpty_cons,
              if_neg Bool.false_ne_true]
            refine Call.bind_returned (hComponent _ hBound) ?_
            rintro ⟨childDer, remaining⟩ hFirst
            have hRemaining := hShorter _ _ _ hBound hFirst
            exact Call.bind_returned (ih (by omega) (by omega)) fun _ _ => rfl

theorem childrenToEnd_returns
    (hComponent : ∀ rest, rest.length ≤ bound → component rest = Call.returned (tlv rest))
    (hShorter : ∀ rest der remaining, rest.length ≤ bound → tlv rest = .ok (der, remaining) →
      remaining.length < rest.length)
    {fuel : Nat} {rest : Octets} (hBound : rest.length ≤ bound) (hFuel : rest.length < fuel) :
    Calls.childrenToEnd component fuel rest = Call.returned (childrenToEnd tlv fuel rest) := by
  induction fuel generalizing rest with
  | zero => exact absurd hFuel (Nat.not_lt_zero _)
  | succ fuel ih =>
      cases rest with
      | nil => rfl
      | cons octet others =>
          rw [Calls.childrenToEnd, childrenToEnd_cons, List.isEmpty_cons, if_neg Bool.false_ne_true]
          refine Call.bind_returned (hComponent _ hBound) ?_
          rintro ⟨childDer, remaining⟩ hFirst
          have hRemaining := hShorter _ _ _ hBound hFirst
          exact Call.bind_returned (ih (by omega) (by omega)) fun _ _ => rfl

end Loops

section Element

theorem Target.two_mul_lt {n : Nat} (h : n ≤ target.isizeMax) : 2 * n + 1 < target.usizeSize := by
  have hTwo : 2 ≤ target.usizeSize := by cases target <;> decide
  unfold Target.isizeMax at h
  omega

theorem berTlvToDer_shorter {levels : Nat} {input der remaining : Octets}
    (hSize : input.length < target.usizeSize)
    (h : berTlvToDer target levels input = .ok (der, remaining)) :
    remaining.length < input.length := by
  obtain ⟨octets, rfl, hElement⟩ := (berTlvToDer_recognizes target levels _ _ _ hSize).mp h
  have hTwo := hasHeaders_berElement levels _ _ hElement
  rw [List.length_append]
  omega

/-- The components of an indefinite-length element are elements one level below. -/
theorem pieces_of_childrenUntilEoc {levels : Nat} {content rest : Octets} {blobs : List Octets}
    (hSize : content.length < target.usizeSize)
    (h : childrenUntilEoc (berTlvToDer target levels) (content.length + 1) content =
      .ok (blobs, rest)) :
    ∃ pieces, List.Forall₂ (BerElement levels) pieces blobs ∧
      pieces.flatten.length ≤ content.length := by
  obtain ⟨pieces, hPieces, hGrammar, -⟩ := (childrenUntilEoc_ok_iff
    (berTlvToDer_recognizes target levels) (hasHeaders_berElement levels) _ _ _ _ hSize
    (Nat.lt_succ_self _)).mp h
  have hLength := congrArg List.length hPieces
  rw [List.length_append] at hLength
  exact ⟨pieces, hGrammar, by omega⟩

theorem pieces_of_childrenToEnd {levels fuel : Nat} {content : Octets} {blobs : List Octets}
    (hSize : content.length < target.usizeSize) (hFuel : content.length < fuel)
    (h : childrenToEnd (berTlvToDer target levels) fuel content = .ok blobs) :
    ∃ pieces, List.Forall₂ (BerElement levels) pieces blobs ∧
      pieces.flatten.length ≤ content.length := by
  obtain ⟨pieces, hPieces, hGrammar⟩ := (childrenToEnd_ok_iff
    (berTlvToDer_recognizes target levels) (hasHeaders_berElement levels) _ _ _ hSize hFuel).mp h
  exact ⟨pieces, hGrammar, (congrArg List.length hPieces).ge⟩

/-- What is put together from rewritten components fits `usize`. -/
theorem length_blobs_lt {levels : Nat} {pieces blobs : List Octets} (hLevels : levels ≤ 65)
    (hPieces : List.Forall₂ (BerElement levels) pieces blobs)
    (hSize : pieces.flatten.length ≤ target.isizeMax) :
    blobs.flatten.length + 1 < target.usizeSize := by
  have hWidth := usizeSize_le target
  have hTwice := Target.two_mul_lt hSize
  obtain ⟨children, values, rfl, rfl, inner, hChildren⟩ := forall₂_berElement.mp hPieces
  rw [← Ber.encodeList_eq] at hTwice
  have hEach : List.Forall₂ (fun child blob => 1 * blob.length ≤ 2 * child.encode.length)
      children (values.map Value.der) := by
    refine List.forall₂_map_right_iff.mpr (inner.imp_mem fun child hMem value hEncodes => ?_)
    have hChild := Ber.length_encode_le_encodeList hMem
    rw [Nat.one_mul]
    exact hEncodes.length_der_le_double ((hChildren child hMem).2.trans_le hLevels) (by omega)
  have hBlobs := Ber.mul_length_flatten_le hEach
  omega

/-- One level of the recursion; the level below it returns by the hypothesis. -/
theorem berTlvToDer_succ_returns {levels depth : Nat} {input : Octets}
    (hDepth : depth + (levels + 1) = maxBerDepth + 1) (hSize : input.length ≤ target.isizeMax)
    (ih : ∀ rest, rest.length ≤ input.length →
      Calls.berTlvToDer target (levels + 1) rest (depth + 1) =
        Call.returned (berTlvToDer target levels rest)) :
    Calls.berTlvToDer target (levels + 2) input depth =
      Call.returned (berTlvToDer target (levels + 1) input) := by
  have hTwice := Target.two_mul_lt hSize
  have hWidth : maxBerDepth + 1 < target.usizeSize := by cases target <;> decide
  have hLevels : levels ≤ 65 := by
    have : maxBerDepth = 64 := rfl
    omega
  have hShorter : ∀ rest der remaining, rest.length ≤ input.length →
      berTlvToDer target levels rest = .ok (der, remaining) → remaining.length < rest.length :=
    fun rest der remaining hRest => berTlvToDer_shorter (by omega)
  have hComponent : ∀ rest, rest.length ≤ input.length →
      (do
        let depth ← Call.add target.usizeSize depth 1
        Calls.berTlvToDer target (levels + 1) rest depth) =
      Call.returned (berTlvToDer target levels rest) := by
    intro rest hRest
    rw [Call.add_of_lt (by omega), Call.ok_bind, ih rest hRest]
  rw [Calls.berTlvToDer, if_neg (by omega)]
  cases input with
  | nil => rfl
  | cons tagByte afterTagByte =>
      have hSkip : Calls.skipTag target (tagByte :: afterTagByte) tagByte (0 + 1) =
          Call.returned ((tagContinuation tagByte afterTagByte).map fun tag => 1 + tag.1.length) :=
        skipTag_returns (by omega) (Nat.succ_le_succ (Nat.zero_le _))
      rw [List.isEmpty_cons, if_neg Bool.false_ne_true, Call.index_of_lt (Nat.succ_pos _),
        Call.ok_bind, Call.add_of_lt (by omega), Call.ok_bind, List.getElem_cons_zero, hSkip,
        berTlvToDer]
      cases hTag : tagContinuation tagByte afterTagByte with
      | error err => rfl
      | ok tag =>
          obtain ⟨more, afterTag⟩ := tag
          obtain ⟨-, -, -, rfl⟩ := tagContinuation_ok hTag
          generalize hInput : tagByte :: (more ++ afterTag) = input at *
          have hAfterTag : input.drop (1 + more.length) = afterTag := by
            rw [← hInput]
            exact @drop_add_length _ _ _ 1 rfl
          have hLength : input.length = 1 + more.length + afterTag.length := by
            rw [← hInput, List.length_cons, List.length_append]
            omega
          have hTagBytes : (Call.slice input 0 (1 + more.length) : Call String Octets) =
              Call.ok (tagByte :: more) := by
            rw [Call.slice_of_le (Nat.zero_le _) (by omega), ← hInput, Nat.add_comm]
            simp
          simp only [Except.map, Call.returned_ok, Call.ok_bind, Except.ok_bind', hTagBytes]
          cases afterTag with
          | nil =>
              rw [List.length_nil] at hLength
              rw [if_pos (by omega)]
              rfl
          | cons lenByte afterLenByte =>
              rw [List.length_cons] at hLength
              have hAfterLenByte : input.drop (1 + more.length + 1) = afterLenByte :=
                @drop_add_length input [lenByte] _ _ hAfterTag
              rw [if_neg (by omega), Call.index_of_drop hAfterTag, Call.ok_bind,
                Call.add_of_lt (by omega), Call.ok_bind]
              dsimp only
              refine Call.ite_returned (fun _ => ?_) fun _ => ?_
              · refine Call.ite_returned (fun _ => rfl) fun _ => ?_
                rw [Call.sliceFrom_of_le (by omega), Call.ok_bind, hAfterLenByte]
                refine Call.bind_returned (childrenUntilEoc_returns hComponent hShorter (by omega)
                  (Nat.lt_succ_self _)) ?_
                rintro ⟨childBlobs, rest⟩ hLoop
                refine Call.bind_returned (assembleChildren_returns ?_) fun _ _ => rfl
                obtain ⟨pieces, hGrammar, hLe⟩ := pieces_of_childrenUntilEoc (by omega) hLoop
                exact length_blobs_lt hLevels hGrammar (by omega)
              · rw [Call.sliceFrom_of_le (by omega), Call.ok_bind, hAfterLenByte,
                  decodeBerDefiniteLength_returns]
                refine Call.bind_returned rfl ?_
                rintro ⟨contentLen, consumed⟩ hDecode
                obtain ⟨-, -, -, hConsumed, -⟩ := decodeBerDefiniteLength_ok hDecode
                have hContent : input.drop (1 + more.length + 1 + consumed) =
                    afterLenByte.drop consumed := by
                  rw [← hAfterLenByte, List.drop_drop]
                have hPos : input.length - (afterLenByte.drop consumed).length =
                    1 + more.length + 1 + consumed := by
                  rw [List.length_drop]
                  omega
                dsimp only
                rw [Call.add_of_lt (by omega), Call.ok_bind, hPos]
                generalize 1 + more.length + 1 + consumed = pos at *
                refine Call.bind_returned rfl fun stop hStop => ?_
                obtain rfl := checkedAdd_eq_some hStop
                refine Call.ite_returned (fun _ => ?_) fun hFits => ?_
                · rw [Call.sub_of_le (by omega)]
                  rfl
                · have hSlice : (Call.slice input pos (pos + contentLen) : Call String Octets) =
                      Call.ok ((afterLenByte.drop consumed).take contentLen) := by
                    rw [Call.slice_of_le (by omega) (by omega), hContent, Nat.add_sub_cancel_left]
                  have hTake : ((afterLenByte.drop consumed).take contentLen).length =
                      contentLen := by
                    have hDrop : (afterLenByte.drop consumed).length =
                        afterLenByte.length - consumed := List.length_drop
                    rw [List.length_take]
                    omega
                  have hRest : (Call.sliceFrom input (pos + contentLen) : Call String Octets) =
                      Call.ok ((afterLenByte.drop consumed).drop contentLen) := by
                    rw [Call.sliceFrom_of_le (by omega), ← List.drop_drop, hContent]
                  simp only [hSlice, hRest, Call.ok_bind, hTake]
                  refine Call.ite_returned (fun _ => ?_) fun _ => ?_
                  · refine Call.bind_returned (childrenToEnd_returns hComponent hShorter (by omega)
                      (by omega)) fun childBlobs hLoop => ?_
                    refine Call.bind_returned (assembleChildren_returns ?_) fun _ _ => rfl
                    obtain ⟨pieces, hGrammar, hLe⟩ :=
                      pieces_of_childrenToEnd (by omega) (by omega) hLoop
                    exact length_blobs_lt hLevels hGrammar (by omega)
                  · rw [encodeDerLength_returns (by omega)]
                    rfl

theorem berTlvToDer_returns {levels depth : Nat} {input : Octets}
    (hDepth : depth + levels = maxBerDepth + 1) (hSize : input.length ≤ target.isizeMax) :
    Calls.berTlvToDer target (levels + 1) input depth =
      Call.returned (berTlvToDer target levels input) := by
  induction levels generalizing depth input with
  | zero =>
      rw [Calls.berTlvToDer, if_pos (by omega)]
      rfl
  | succ levels ih =>
      exact berTlvToDer_succ_returns hDepth hSize fun rest hRest =>
        ih (by omega) (hRest.trans hSize)

end Element

theorem berToDer_returns {input : Octets} (hSize : input.length ≤ target.isizeMax) :
    Calls.berToDer target input = Call.returned (berToDer target input) := by
  refine Call.bind_returned (berTlvToDer_returns (Nat.zero_add _) hSize) ?_
  rintro ⟨der, rest⟩ -
  exact Call.ite_returned (fun _ => rfl) fun _ => rfl

/-- The rewritten octets are a buffer that positions in `usize` reach. -/
theorem exists_value_of_berToDer {input der : Octets} (hSize : input.length ≤ target.isizeMax)
    (h : berToDer target input = .ok der) :
    ∃ value : Value, der = value.encode ∧ value.encode.length + 1 < target.usizeSize := by
  have hTwice := Target.two_mul_lt hSize
  have hElement := (berToDer_ok_iff_element target input der (by omega)).mp h
  have hLength := @length_blobs_lt target _ [input] [der] (Nat.le_refl _)
    (.cons hElement .nil) (by simpa using hSize)
  obtain ⟨ber, value, -, -, -, -, rfl⟩ := hElement
  refine ⟨value.canonical, rfl, ?_⟩
  change value.der.length + 1 < target.usizeSize
  simpa using hLength

end Smime.Utils
