import Smime.Utils.BerToDerReturns
import Smime.Utils.CmsRefinement
import Smime.Utils.SortReturns

/-! `ber_to_der_cms` as a whole: it returns on every input, and the errors for
elements that do not fit what is around them are never among its results,
because whatever is read a second time was written as DER before. -/
namespace Smime.Utils

open X690

/-- The errors of a header, a region or components that reach too far. -/
def layoutErrors : List String := [
  "TLV content exceeds buffer", "content exceeds data bounds",
  "children don't exactly fill content"]

section Rewriting

variable {target : Target}

/-- A text that starts otherwise is another one. -/
theorem append_not_mem {start : String} (text : String)
    (h : ∀ err ∈ layoutErrors, ¬ start.toList <+: err.toList) : start ++ text ∉ layoutErrors := by
  intro hMem
  apply h _ hMem
  rw [String.toList_append]
  exact List.prefix_append _ _

theorem okOr_failsOnly {α : Type} {P : String → Prop} {err : String} (h : P err)
    (value : Option α) : Except.FailsOnly P (okOr value err) := by
  cases value with
  | none => exact .error h
  | some a => exact .ok a

theorem decodeBerDefiniteLength_failsOnly (first : UInt8) (rest : Octets) :
    Except.FailsOnly (· ∉ layoutErrors) (decodeBerDefiniteLength target first rest) := by
  unfold decodeBerDefiniteLength
  refine .ite (.ok _) (.ite (.error (by decide)) (.ite (.error (by decide)) ?_))
  refine .bind ?_ fun _ => .ok _
  rw [foldlM_lengthStep_zero]
  exact .ite (.ok _) (.error (by decide))

theorem tagContinuation_failsOnly (tagByte : UInt8) (rest : Octets) :
    Except.FailsOnly (· ∉ layoutErrors) (tagContinuation tagByte rest) := by
  unfold tagContinuation
  refine .ite ?_ (.ok _)
  split
  · exact .error (by decide)
  · exact .ok _

theorem joinBitSegments_failsOnly (tag : Tag) {segments : List Octets} (content : Octets)
    (h : ∀ segment ∈ segments, segment.length < target.usizeSize) :
    Except.FailsOnly (· ∉ layoutErrors)
      (joinBitSegments target (segments.map (tlv tag.octets)) content) := by
  induction segments generalizing content with
  | nil => exact .ok _
  | cons segment rest ih =>
      obtain ⟨hSegment, hRest⟩ := List.forall_mem_cons.mp h
      rw [List.map_cons, joinBitSegments, derContent_tlv target tag segment hSegment,
        Except.ok_bind']
      cases segment with
      | nil => exact .error (by decide)
      | cons unused bits => exact .ite (.error (by decide)) (ih _ hRest)

/-- The segments that are joined were written as DER one level below. -/
theorem assembleChildren_failsOnly {tag : Tag} (constructed : tag.constructed = true)
    {levels : Nat} {pieces blobs : List Octets}
    (hPieces : List.Forall₂ (BerElement levels) pieces blobs)
    (hBound : pieces.flatten.length < target.usizeSize) :
    Except.FailsOnly (· ∉ layoutErrors) (assembleChildren target tag.first tag.octets blobs) := by
  obtain ⟨children, values, rfl, rfl, inner, -⟩ := forall₂_berElement.mp hPieces
  rw [← Ber.encodeList_eq] at hBound
  cases hType : StringType.ofTag? tag with
  | none =>
      rw [assembleChildren_whole target constructed hType]
      exact .ok _
  | some type =>
      rw [assembleChildren_segmented target constructed hType, flattenConstructedString,
        first_of_ofTag? hType]
      dsimp only
      split
      · exact .error (by decide)
      · rename_i hHeads
        have hSegments : ∀ value ∈ values, value.der.head? = some type.primitiveTag.first := by
          intro value hMem
          by_contra hHead
          exact hHeads (List.any_eq_true.mpr
            ⟨value.der, List.mem_map_of_mem hMem, by simpa using hHead⟩)
        obtain ⟨segments, rfl⟩ := exists_segments hSegments
        have hLengths : ∀ segment ∈ segments, segment.length < target.usizeSize :=
          fun segment hMem => (length_segment_le inner segment hMem).trans_lt hBound
        rw [map_der_segments]
        refine .ite ((joinBitSegments_failsOnly _ _ hLengths).bind fun _ => .ok _) ?_
        rw [joinOctetSegments_eq target _ segments _ hLengths]
        exact .ok _

section Loops

variable {bound : Nat} {parse : Octets → Except String (Octets × Octets)}

theorem childrenToEnd_failsOnly
    (hParse : ∀ rest, rest.length ≤ bound → Except.FailsOnly (· ∉ layoutErrors) (parse rest))
    (hShorter : ∀ rest der remaining, rest.length ≤ bound → parse rest = .ok (der, remaining) →
      remaining.length < rest.length)
    (fuel : Nat) {rest : Octets} (hBound : rest.length ≤ bound) :
    Except.FailsOnly (· ∉ layoutErrors) (childrenToEnd parse fuel rest) := by
  induction fuel generalizing rest with
  | zero => exact .error (by decide)
  | succ fuel ih =>
      cases rest with
      | nil => exact .ok _
      | cons octet others =>
          rw [childrenToEnd_cons]
          refine (hParse _ hBound).bind_of ?_
          rintro ⟨childDer, remaining⟩ hFirst
          have hRemaining := hShorter _ _ _ hBound hFirst
          exact (ih (by omega)).bind fun _ => .ok _

theorem childrenUntilEoc_failsOnly
    (hParse : ∀ rest, rest.length ≤ bound → Except.FailsOnly (· ∉ layoutErrors) (parse rest))
    (hShorter : ∀ rest der remaining, rest.length ≤ bound → parse rest = .ok (der, remaining) →
      remaining.length < rest.length)
    (fuel : Nat) {rest : Octets} (hBound : rest.length ≤ bound) :
    Except.FailsOnly (· ∉ layoutErrors) (childrenUntilEoc parse fuel rest) := by
  induction fuel generalizing rest with
  | zero => exact .error (by decide)
  | succ fuel ih =>
      by_cases hClosed : [0x00, 0x00] <+: rest
      · obtain ⟨behind, rfl⟩ := hClosed
        exact .ok _
      · by_cases hNonempty : rest = []
        · subst hNonempty
          exact .error (by decide)
        · rw [childrenUntilEoc_cons fuel hNonempty hClosed]
          refine (hParse _ hBound).bind_of ?_
          rintro ⟨childDer, remaining⟩ hFirst
          have hRemaining := hShorter _ _ _ hBound hFirst
          exact (ih (by omega)).bind fun _ => .ok _

end Loops

theorem berTlvToDer_failsOnly (levels : Nat) {input : Octets}
    (hBound : input.length < target.usizeSize) :
    Except.FailsOnly (· ∉ layoutErrors) (berTlvToDer target levels input) := by
  induction levels generalizing input with
  | zero => exact .error (by decide)
  | succ levels ih =>
      have hParse : ∀ rest, rest.length ≤ input.length →
          Except.FailsOnly (· ∉ layoutErrors) (berTlvToDer target levels rest) :=
        fun rest hRest => ih (by omega)
      have hShorter : ∀ rest der remaining, rest.length ≤ input.length →
          berTlvToDer target levels rest = .ok (der, remaining) →
          remaining.length < rest.length :=
        fun rest der remaining hRest => berTlvToDer_shorter (by omega)
      cases input with
      | nil => exact .error (by decide)
      | cons tagByte afterTagByte =>
          rw [berTlvToDer]
          refine (tagContinuation_failsOnly _ _).bind_of ?_
          rintro ⟨more, afterTag⟩ hTag
          obtain ⟨tag, rfl, rfl, rfl⟩ := tagContinuation_ok hTag
          cases afterTag with
          | nil => exact .error (by decide)
          | cons lenByte afterLenByte =>
              simp only [List.length_cons, List.length_append] at hBound hParse hShorter
              refine .ite (.ite_of (fun _ => .error (by decide)) fun hConstructed => ?_) ?_
              · have constructed : tag.constructed = true := by
                  simpa [Tag.constructed] using hConstructed
                refine (childrenUntilEoc_failsOnly hParse hShorter _ (by omega)).bind_of ?_
                rintro ⟨childBlobs, behind⟩ hLoop
                obtain ⟨pieces, hGrammar, hLe⟩ := pieces_of_childrenUntilEoc (by omega) hLoop
                exact (assembleChildren_failsOnly constructed hGrammar (by omega)).bind
                  fun _ => .ok _
              · refine (decodeBerDefiniteLength_failsOnly _ _).bind ?_
                rintro ⟨contentLen, consumed⟩
                refine (okOr_failsOnly (by decide) _).bind fun stop => ?_
                refine .ite (.error ?_) (.ite_of (fun hConstructed => ?_) fun _ => .ok _)
                · simp only [String.append_assoc]
                  exact append_not_mem _ (by decide)
                · have constructed : tag.constructed = true := hConstructed
                  have hTake : ((afterLenByte.drop consumed).take contentLen).length =
                      min contentLen (afterLenByte.length - consumed) := by
                    rw [List.length_take, List.length_drop]
                  refine (childrenToEnd_failsOnly hParse hShorter _ (by omega)).bind_of
                    fun childBlobs hLoop => ?_
                  obtain ⟨pieces, hGrammar, hLe⟩ :=
                    pieces_of_childrenToEnd (by omega) (by omega) hLoop
                  exact (assembleChildren_failsOnly constructed hGrammar (by omega)).bind
                    fun _ => .ok _

theorem berToDer_failsOnly {input : Octets} (hBound : input.length < target.usizeSize) :
    Except.FailsOnly (· ∉ layoutErrors) (berToDer target input) := by
  refine (berTlvToDer_failsOnly _ hBound).bind ?_
  rintro ⟨der, rest⟩
  refine .ite (.error ?_) (.ok _)
  simp only [String.append_assoc]
  exact append_not_mem _ (by decide)

end Rewriting

section Whole

variable {target : Target}

theorem berToDerCms_returns {input : Octets} (hSize : input.length ≤ target.isizeMax) :
    Calls.berToDerCms target input = Call.returned (berToDerCms target input) := by
  refine Call.bind_returned (berToDer_returns hSize) fun der hDer => ?_
  obtain ⟨value, rfl, hValue⟩ := exists_value_of_berToDer hSize hDer
  exact sortCmsImplicitSets_returns (by omega)

/-- The buffer that is sorted holds the DER of a value. -/
theorem berToDerCms_failsOnly {input : Octets} (hSize : input.length ≤ target.isizeMax) :
    Except.FailsOnly (· ∉ layoutErrors) (berToDerCms target input) := by
  have hTwice := Target.two_mul_lt hSize
  refine (berToDer_failsOnly (by omega)).bind_of fun der hDer => ?_
  obtain ⟨value, rfl, hValue⟩ := exists_value_of_berToDer hSize hDer
  intro err hErr
  have hApart : ∀ refusal ∈ refusals, refusal ∉ layoutErrors := by decide
  exact hApart err (sortCmsImplicitSets_failsOnly (by omega) err hErr)

/-- On every input the checked program ends without a panic, with the result of
the function on lists of octets; that is never an error about the layout of what
the program wrote itself. -/
theorem berToDerCms_settles (target : Target) (input : ByteSlice target) :
    Calls.berToDerCms target input.octets = Call.returned (berToDerCms target input.octets) ∧
      ∀ err ∈ layoutErrors, berToDerCms target input.octets ≠ .error err := by
  refine ⟨berToDerCms_returns input.fits, fun err hMem hErr => ?_⟩
  exact berToDerCms_failsOnly input.fits err hErr hMem

end Whole

end Smime.Utils
