import Mathlib.Data.List.TakeDrop
import Mathlib.Data.List.TakeWhile
import Smime.Utils.LengthCodec

/-! Reading the identifier and length of one element. Tags are prefix-free, so
scanning finds exactly the octets of the tag, and `parse_der_tlv` at the start
of a DER element returns its header and content lengths. -/
namespace Smime.Utils

open X690

theorem subsequentOctets_iff (octets : Octets) :
    subsequentOctets octets = true ↔
      ∃ continued last, octets = continued ++ [last] ∧
        (∀ octet ∈ continued, (octet &&& 0x80 != 0) = true) ∧ (last &&& 0x80 != 0) = false := by
  induction octets with
  | nil => simp [subsequentOctets]
  | cons octet rest ih =>
      cases rest with
      | nil =>
          constructor
          · intro h
            have hLast : octet &&& 0x80 = 0 := by simpa [subsequentOctets] using h
            exact ⟨[], octet, rfl, by simp, by simp [hLast]⟩
          · rintro ⟨continued, last, hEq, -, hLast⟩
            have hLength := congrArg List.length hEq
            have hNil : continued = [] := by simpa using hLength
            subst hNil
            obtain rfl : octet = last := by simpa using hEq
            simpa [subsequentOctets] using hLast
      | cons next rest =>
          rw [subsequentOctets, Bool.and_eq_true, ih]
          · constructor
            · rintro ⟨hOctet, continued, last, hEq, hContinued, hLast⟩
              exact ⟨octet :: continued, last, by rw [hEq]; rfl,
                List.forall_mem_cons.mpr ⟨hOctet, hContinued⟩, hLast⟩
            · rintro ⟨continued, last, hEq, hContinued, hLast⟩
              cases continued with
              | nil => simp at hEq
              | cons first continued =>
                  obtain ⟨rfl, hRest⟩ := List.cons.inj hEq
                  exact ⟨hContinued octet List.mem_cons_self, continued, last, hRest,
                    fun b hb => hContinued b (List.mem_cons_of_mem _ hb), hLast⟩
          · simp

theorem span_eq_of_forall {p : UInt8 → Bool} {continued behind : Octets} {last : UInt8}
    (hContinued : ∀ octet ∈ continued, p octet = true) (hLast : p last = false) :
    (continued ++ last :: behind).span p = (continued, last :: behind) := by
  rw [List.span_eq_takeWhile_dropWhile, List.takeWhile_append_of_pos hContinued,
    List.dropWhile_append_of_pos hContinued, List.takeWhile_cons_of_neg (by simp [hLast]),
    List.dropWhile_cons_of_neg (by simp [hLast]), List.append_nil]

/-- Scanning finds the end of a tag, whatever follows it. -/
theorem tagContinuation_tag (tag : Tag) (behind : Octets) :
    tagContinuation tag.first (tag.more ++ behind) = .ok (tag.more, behind) := by
  obtain ⟨first, more, wellFormed⟩ := tag
  unfold tagContinuation
  by_cases hLong : first &&& 0x1f = 0x1f
  · rw [if_pos hLong]
    rw [if_pos hLong] at wellFormed
    obtain ⟨continued, last, rfl, hContinued, hLast⟩ := (subsequentOctets_iff more).mp wellFormed
    rw [List.append_assoc, List.singleton_append, span_eq_of_forall hContinued hLast]
  · rw [if_neg hLong]
    rw [if_neg hLong] at wellFormed
    subst wellFormed
    rfl

/-- What the scan accepts is a tag. -/
theorem tagContinuation_ok {first : UInt8} {rest more behind : Octets}
    (h : tagContinuation first rest = .ok (more, behind)) :
    ∃ tag : Tag, tag.first = first ∧ tag.more = more ∧ rest = more ++ behind := by
  unfold tagContinuation at h
  split at h
  · rename_i hLong
    have hSpan := List.span_eq_takeWhile_dropWhile
      (fun octet : UInt8 => octet &&& 0x80 != 0) rest
    have hRest : rest.takeWhile (fun octet : UInt8 => octet &&& 0x80 != 0) ++
        rest.dropWhile (fun octet : UInt8 => octet &&& 0x80 != 0) = rest :=
      List.takeWhile_append_dropWhile
    rw [hSpan] at h
    split at h
    · cases h
    · rename_i continued last behind' hParts
      cases h
      obtain ⟨hTake, hDrop⟩ := Prod.mk.inj hParts
      have hLast : (last &&& 0x80 != 0) = false := by
        have := List.head?_dropWhile_not (fun octet : UInt8 => octet &&& 0x80 != 0) rest
        rw [hDrop] at this
        simpa using this
      have hContinued : ∀ octet ∈ continued, (octet &&& 0x80 != 0) = true := by
        intro octet hMem
        rw [← hTake] at hMem
        exact List.mem_takeWhile_imp (p := fun octet : UInt8 => octet &&& 0x80 != 0) hMem
      refine ⟨⟨first, continued ++ [last], ?_⟩, rfl, rfl, ?_⟩
      · rw [if_pos hLong]
        exact (subsequentOctets_iff _).mpr ⟨continued, last, rfl, hContinued, hLast⟩
      · rw [← hRest, hTake, hDrop, List.append_assoc, List.singleton_append]
  · rename_i hShort
    cases h
    exact ⟨Tag.ofOctet first hShort, rfl, rfl, rfl⟩

/-- A DER element is read at its offset, whatever surrounds it. -/
theorem parseDerTlv_tlv (target : Target) (before behind : Octets) (tag : Tag) (content : Octets)
    (h : content.length < target.usizeSize) :
    parseDerTlv target (before ++ (tlv tag.octets content ++ behind)) before.length =
      .ok { headerLen := tag.octets.length + (derLength content.length).length
            contentLen := content.length
            isConstructed := tag.constructed
            tagByte := tag.first } := by
  have hBound : content.length < 256 ^ 127 := h.trans (usizeSize_lt target)
  obtain ⟨l, hMinimal, hValue⟩ := DefiniteLength.exists_minimal hBound
  obtain ⟨lenFirst, lenMore, hEncode, -, hDecode⟩ :=
    decodeBerDefiniteLength_encode target l (content ++ behind) (by rw [hValue]; exact h)
  have hLength : derLength content.length = lenFirst :: lenMore := by
    rw [← hValue, ← DefiniteLength.encode_eq_derLength hMinimal, hEncode]
  have hData : before ++ (tlv tag.octets content ++ behind) =
      before ++ tag.first :: (tag.more ++ lenFirst :: (lenMore ++ (content ++ behind))) := by
    simp [tlv, Tag.octets, hLength]
  rw [hData]
  simp only [parseDerTlv, List.drop_left, tagContinuation_tag, Except.ok_bind', hDecode, hValue,
    List.length_append, gt_iff_lt, Nat.not_lt.mpr (Nat.le_add_right _ _), if_false,
    Except.pure_eq_ok', Tag.constructed, Tag.octets, List.length_cons, hLength]
  congr 2
  omega

theorem derContent_tlv (target : Target) (tag : Tag) (content : Octets)
    (h : content.length < target.usizeSize) :
    derContent target (tlv tag.octets content) = .ok content := by
  have hParse := parseDerTlv_tlv target [] [] tag content h
  simp only [List.nil_append, List.append_nil, List.length_nil] at hParse
  rw [derContent, hParse, Except.ok_bind', Except.pure_eq_ok', tlv, ← List.length_append,
    List.drop_left, List.take_length]

end Smime.Utils
