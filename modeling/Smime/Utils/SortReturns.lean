import Smime.Utils.HeaderReturns
import Smime.Utils.Regions

/-! The pass over the implicitly tagged fields returns on every buffer that
positions in `usize` reach. An element that is read lies inside the buffer, and
sorting neither moves the end of an element nor that of the buffer. -/
namespace Smime.Utils

open X690

variable {target : Target}

section Children

/-- The loop ends, because each element takes octets. -/
theorem childSlices_returns {data : Octets} {contentEnd fuel pos : Nat}
    (hSize : data.length < target.usizeSize) (hFuel : contentEnd - pos < fuel) :
    Calls.childSlices target data contentEnd fuel pos =
      Call.returned (childSlices target data contentEnd fuel pos) := by
  induction fuel generalizing pos with
  | zero => exact absurd hFuel (Nat.not_lt_zero _)
  | succ fuel ih =>
      rw [Calls.childSlices, childSlices]
      refine Call.ite_returned (fun hInside => ?_) fun _ => rfl
      refine Call.bind_returned (parseDerTlv_returns hSize) fun tlv hParse => ?_
      have hBounds := parseDerTlv_bounds hParse
      have hTwo := two_le_headerLen hParse
      rw [Call.add_of_lt (by omega), Call.ok_bind, Call.add_of_lt (by omega), Call.ok_bind,
        Call.slice_of_le (by omega) hBounds, Call.ok_bind, Call.ok_bind, Nat.add_sub_cancel_left]
      exact Call.bind_returned (ih (by omega)) fun _ _ => rfl

theorem writeBack_returns {data : Octets} {pos : Nat} {children : List Octets}
    (hSize : data.length < target.usizeSize)
    (hFits : pos + children.flatten.length ≤ data.length) :
    Calls.writeBack target data pos children = Call.ok (writeBack data pos children) := by
  induction children generalizing data pos with
  | nil => rfl
  | cons child rest ih =>
      rw [List.flatten_cons, List.length_append] at hFits
      have hCopy : (copyFromSlice data pos child).length = data.length := by
        simp only [copyFromSlice, List.length_append, List.length_take, List.length_drop]
        omega
      rw [Calls.writeBack, writeBack, Call.add_of_lt (by omega), Call.ok_bind,
        Call.copyInto_of_le (by omega) (by omega) (by omega), Call.ok_bind, Call.ok_bind]
      refine ih (hCopy.trans_lt hSize) ?_
      change _ ≤ (copyFromSlice data pos child).length
      omega

theorem sortChildrenInPlace_returns {data : Octets} {offset headerLen contentLen : Nat}
    (hSize : data.length < target.usizeSize)
    (hBounds : offset + (headerLen + contentLen) ≤ data.length) :
    Calls.sortChildrenInPlace target data offset headerLen contentLen =
      Call.returned (sortChildrenInPlace target data offset headerLen contentLen) := by
  unfold Calls.sortChildrenInPlace sortChildrenInPlace
  rw [Call.add_of_lt (by omega), Call.ok_bind, Call.add_of_lt (by omega), Call.ok_bind]
  refine Call.ite_returned (fun _ => rfl) fun hFits => ?_
  refine Call.bind_returned (childSlices_returns hSize (by omega)) ?_
  rintro ⟨children, pos⟩ hSlices
  refine Call.ite_returned (fun _ => rfl) fun hEnd => ?_
  have hStop := childSlices_length hSlices
  have hPerm : (children.insertionSort (· ≤ ·)).flatten.length = children.flatten.length :=
    (List.perm_insertionSort _ children).flatten.length_eq
  rw [writeBack_returns hSize (by omega)]
  rfl

end Children

section Fields

theorem forEachTlv_returns {visit : Octets → Nat → DerTlv → Except String Octets}
    {visitCall : Octets → Nat → DerTlv → Call String Octets} {size contentEnd fuel pos : Nat}
    {data : Octets} (hSize : size < target.usizeSize)
    (hVisit : ∀ data pos t, data.length = size → pos + (t.headerLen + t.contentLen) ≤ size →
      visitCall data pos t = Call.returned (visit data pos t))
    (hKeeps : ∀ data pos t out, visit data pos t = .ok out → out.length = data.length)
    (hData : data.length = size) (hFuel : contentEnd - pos < fuel) :
    Calls.forEachTlv target visitCall contentEnd fuel data pos =
      Call.returned (forEachTlv target visit contentEnd fuel data pos) := by
  induction fuel generalizing data pos with
  | zero => exact absurd hFuel (Nat.not_lt_zero _)
  | succ fuel ih =>
      rw [Calls.forEachTlv, forEachTlv]
      refine Call.ite_returned (fun hInside => ?_) fun _ => rfl
      refine Call.bind_returned (parseDerTlv_returns (hData.trans_lt hSize)) fun tlv hParse => ?_
      have hBounds := parseDerTlv_bounds hParse
      have hTwo := two_le_headerLen hParse
      rw [hData] at hBounds
      refine Call.bind_returned (hVisit data pos tlv hData hBounds) fun visited hVisited => ?_
      rw [Call.add_of_lt (by omega), Call.ok_bind, Call.add_of_lt (by omega), Call.ok_bind]
      exact ih ((hKeeps _ _ _ _ hVisited).trans hData) (by omega)

theorem sortSignerInfoField_returns {data : Octets} {fieldPos : Nat} {fieldTlv : DerTlv}
    (hSize : data.length < target.usizeSize)
    (hBounds : fieldPos + (fieldTlv.headerLen + fieldTlv.contentLen) ≤ data.length) :
    Calls.sortSignerInfoField target data fieldPos fieldTlv =
      Call.returned (sortSignerInfoField target data fieldPos fieldTlv) :=
  Call.ite_returned (fun _ => sortChildrenInPlace_returns hSize hBounds) fun _ => rfl

theorem sortSignerInfo_returns {data : Octets} {siPos : Nat} {siTlv : DerTlv}
    (hSize : data.length < target.usizeSize)
    (hBounds : siPos + (siTlv.headerLen + siTlv.contentLen) ≤ data.length) :
    Calls.sortSignerInfo target data siPos siTlv =
      Call.returned (sortSignerInfo target data siPos siTlv) := by
  refine Call.ite_returned (fun _ => ?_) fun _ => rfl
  rw [Call.add_of_lt (by omega), Call.ok_bind, Call.add_of_lt (by omega), Call.ok_bind]
  exact forEachTlv_returns hSize
    (fun other pos t hOther hInside => sortSignerInfoField_returns (by omega) (by omega))
    (fun _ _ _ _ => sortSignerInfoField_length) rfl (by omega)

theorem sortSignerInfosImplicitSets_returns {data : Octets} {contentStart contentLen : Nat}
    (hSize : data.length < target.usizeSize)
    (hBounds : contentStart + contentLen ≤ data.length) :
    Calls.sortSignerInfosImplicitSets target data contentStart contentLen =
      Call.returned (sortSignerInfosImplicitSets target data contentStart contentLen) := by
  unfold Calls.sortSignerInfosImplicitSets
  rw [Call.add_of_lt (by omega), Call.ok_bind]
  exact forEachTlv_returns hSize
    (fun other pos t hOther hInside => sortSignerInfo_returns (by omega) (by omega))
    (fun _ _ _ _ => sortSignerInfo_length) rfl (by omega)

theorem sortSignedDataField_returns {data : Octets} {pos : Nat} {tlv : DerTlv}
    (hSize : data.length < target.usizeSize)
    (hBounds : pos + (tlv.headerLen + tlv.contentLen) ≤ data.length) :
    Calls.sortSignedDataField target data pos tlv =
      Call.returned (sortSignedDataField target data pos tlv) := by
  refine Call.ite_returned (fun _ => sortChildrenInPlace_returns hSize hBounds) fun _ => ?_
  refine Call.ite_returned (fun _ => ?_) fun _ => rfl
  rw [Call.add_of_lt (by omega), Call.ok_bind]
  refine Call.bind_returned (sortSignerInfosImplicitSets_returns hSize (by omega))
    fun members hMembers => ?_
  have hLength := forEachTlv_length (fun _ _ _ _ => sortSignerInfo_length) hMembers
  exact sortChildrenInPlace_returns (hLength.trans_lt hSize) (hBounds.trans hLength.ge)

theorem sortSignedData_returns {data : Octets} {start : Nat}
    (hSize : data.length < target.usizeSize) :
    Calls.sortSignedData target data start = Call.returned (sortSignedData target data start) := by
  refine Call.bind_returned (parseDerTlv_returns hSize) fun sd hParse => ?_
  have hBounds := parseDerTlv_bounds hParse
  refine Call.ite_returned (fun _ => rfl) fun _ => ?_
  rw [Call.add_of_lt (by omega), Call.ok_bind, Call.add_of_lt (by omega), Call.ok_bind]
  exact forEachTlv_returns hSize
    (fun other pos t hOther hInside => sortSignedDataField_returns (by omega) (by omega))
    (fun _ _ _ _ => sortSignedDataField_length) rfl (by omega)

end Fields

section Buffer

theorem isSignedDataType_eq {data : Octets} {contentStart : Nat} {oidTlv : DerTlv}
    (hSize : data.length < target.usizeSize)
    (hBounds : contentStart + (oidTlv.headerLen + oidTlv.contentLen) ≤ data.length) :
    Calls.isSignedDataType target data contentStart
        (contentStart + oidTlv.headerLen + oidTlv.contentLen) oidTlv =
      Call.ok (!(oidTlv.tagByte != 0x06 ||
        (data.drop (contentStart + oidTlv.headerLen)).take oidTlv.contentLen != idSignedData)) := by
  unfold Calls.isSignedDataType
  by_cases hTag : (oidTlv.tagByte != 0x06) = true
  · rw [if_pos hTag, hTag]
    rfl
  · rw [if_neg hTag, Call.add_of_lt (by omega), Call.ok_bind,
      Call.slice_of_le (by omega) (by omega), Call.ok_bind, Nat.add_sub_cancel_left,
      Bool.eq_false_iff.mpr hTag, Bool.false_or, bne, Bool.not_not]

theorem sortCmsImplicitSets_returns {data : Octets} (hSize : data.length < target.usizeSize) :
    Calls.sortCmsImplicitSets target data = Call.returned (sortCmsImplicitSets target data) := by
  refine Call.bind_returned (parseDerTlv_returns hSize) fun ci _ => ?_
  refine Call.ite_returned (fun _ => rfl) fun _ => ?_
  refine Call.bind_returned (parseDerTlv_returns hSize) fun oidTlv hOid => ?_
  have hBounds := parseDerTlv_bounds hOid
  rw [Call.add_of_lt (by omega), Call.ok_bind, Call.add_of_lt (by omega), Call.ok_bind,
    isSignedDataType_eq hSize hBounds, Call.ok_bind, Bool.not_not]
  refine Call.ite_returned (fun _ => rfl) fun _ => ?_
  refine Call.bind_returned (parseDerTlv_returns hSize) fun explicit0 hExplicit => ?_
  have hInside := parseDerTlv_bounds hExplicit
  refine Call.ite_returned (fun _ => rfl) fun _ => ?_
  rw [Call.add_of_lt (by omega), Call.ok_bind]
  exact sortSignedData_returns hSize

end Buffer

end Smime.Utils
