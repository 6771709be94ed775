import Smime.Utils.TlvHeader
import Smime.Utils.BerToDerCms
import Smime.X690.Rearranged

/-! The in-place passes of `src/utils.rs` on a buffer that holds encoded values:
a region of elements stays a region of elements, rearranged as trees. -/
namespace Smime.Utils

open X690

/-- What `parse_der_tlv` reports of an encoded value. -/
def header (value : Value) : DerTlv where
  headerLen := value.tag.octets.length + (derLength value.content.length).length
  contentLen := value.content.length
  isConstructed := value.tag.constructed
  tagByte := value.tag.first

theorem length_header (value : Value) :
    (header value).headerLen + (header value).contentLen = value.encode.length := by
  rw [Value.encode_eq_tlv, tlv, List.length_append, List.length_append]
  rfl

/-- Identifier and length octets of an encoded value. -/
def headerOctets (value : Value) : Octets := value.tag.octets ++ derLength value.content.length

theorem encode_eq_header (value : Value) :
    value.encode = headerOctets value ++ value.content :=
  value.encode_eq_tlv

theorem length_headerOctets (value : Value) :
    (headerOctets value).length = (header value).headerLen := by
  rw [headerOctets, List.length_append]
  rfl

/-- Rearranging components leaves the header of an element as it is. -/
theorem headerOctets_rearranged {value other : Value} (h : value.Rearranged other) :
    headerOctets value = headerOctets other := by
  rw [headerOctets, headerOctets, h.tag_eq, h.length_content]

theorem header_rearranged {value other : Value} (h : value.Rearranged other) :
    header value = header other := by
  rw [header, header, h.tag_eq, h.length_content]

/-- The content octets of an element, by position. -/
theorem slice_content (before behind : Octets) (value : Value) :
    ((before ++ (value.encode ++ behind)).drop (before.length + (header value).headerLen)).take
      (header value).contentLen = value.content := by
  have hLength : (header value).contentLen = value.content.length := rfl
  rw [← length_headerOctets, ← List.length_append, encode_eq_header, List.append_assoc,
    ← List.append_assoc before, List.drop_left, hLength, List.take_left]

theorem length_content_le (value : Value) : value.content.length ≤ value.encode.length := by
  rw [← length_header]
  exact Nat.le_add_left _ _

theorem parseDerTlv_encode (target : Target) (before behind : Octets) (value : Value)
    (hSize : value.encode.length < target.usizeSize) :
    parseDerTlv target (before ++ (value.encode ++ behind)) before.length = .ok (header value) := by
  rw [Value.encode_eq_tlv]
  exact parseDerTlv_tlv target before behind value.tag value.content
    ((length_content_le value).trans_lt hSize)

theorem parseDerTlv_end (target : Target) (data : Octets) :
    parseDerTlv target data data.length = .error "unexpected end of input in TLV header" := by
  rw [parseDerTlv, List.drop_length]

theorem two_le_length_encode (value : Value) : 2 ≤ value.encode.length := by
  have hLength : 0 < (derLength value.content.length).length :=
    List.length_pos_of_ne_nil (derLength_ne_nil _)
  rw [Value.encode_eq_tlv, tlv, List.length_append, List.length_append, Tag.octets,
    List.length_cons]
  omega

section Regions

variable (target : Target)

/-- Collecting the elements of a region yields their encodings. -/
theorem childSlices_region (children : List Value) (before behind : Octets) (fuel : Nat)
    (hSize : (children.map Value.encode).flatten.length < target.usizeSize)
    (hFuel : (children.map Value.encode).flatten.length < fuel) :
    childSlices target (before ++ ((children.map Value.encode).flatten ++ behind))
        (before.length + (children.map Value.encode).flatten.length) fuel before.length =
      .ok (children.map Value.encode,
        before.length + (children.map Value.encode).flatten.length) := by
  induction children generalizing before fuel with
  | nil =>
      cases fuel with
      | zero => exact absurd hFuel (Nat.not_lt_zero _)
      | succ fuel =>
          rw [childSlices, if_neg]
          · rfl
          · exact Nat.lt_irrefl _
  | cons child rest ih =>
      cases fuel with
      | zero => exact absurd hFuel (Nat.not_lt_zero _)
      | succ fuel =>
          have hTwo := two_le_length_encode child
          simp only [List.map_cons, List.flatten_cons, List.length_append] at hSize hFuel ⊢
          have hParse := parseDerTlv_encode target before
            ((rest.map Value.encode).flatten ++ behind) child (by omega)
          have hRest := ih (before ++ child.encode) fuel (by omega) (by omega)
          simp only [List.length_append, List.append_assoc, Nat.add_assoc] at hRest
          rw [List.append_assoc, childSlices, if_pos (by omega), hParse, Except.ok_bind']
          simp only [length_header, hRest, Except.ok_bind', List.drop_left,
            List.take_left, Except.pure_eq_ok']

theorem copyFromSlice_region (before old behind child : Octets) (h : old.length = child.length) :
    copyFromSlice (before ++ (old ++ behind)) before.length child =
      before ++ (child ++ behind) := by
  rw [copyFromSlice, List.take_left, ← h, ← List.length_append, ← List.append_assoc before old,
    List.drop_left]

theorem writeBack_region (blobs : List Octets) (before old behind : Octets)
    (h : old.length = blobs.flatten.length) :
    writeBack (before ++ (old ++ behind)) before.length blobs =
      before ++ (blobs.flatten ++ behind) := by
  induction blobs generalizing before old with
  | nil =>
      have hNil : old = [] := List.eq_nil_of_length_eq_zero h
      rw [hNil, writeBack]
      rfl
  | cons blob rest ih =>
      rw [List.flatten_cons, List.length_append] at h
      have hOld : old = old.take blob.length ++ old.drop blob.length :=
        (List.take_append_drop _ _).symm
      have hTake : (old.take blob.length).length = blob.length := by
        rw [List.length_take]
        omega
      have hRest := ih (before ++ blob) (old.drop blob.length) (by rw [List.length_drop]; omega)
      rw [List.length_append, List.append_assoc, List.append_assoc] at hRest
      rw [writeBack, hOld, List.append_assoc, copyFromSlice_region _ _ _ _ hTake, hRest,
        List.flatten_cons, List.append_assoc]

/-- Sorting in place is sorting the components of the tree. -/
theorem sortChildrenInPlace_region {tag : Tag} {hc hw} (children : List Value)
    (before behind : Octets)
    (hSize : (Value.cons tag hc hw children).encode.length < target.usizeSize) :
    sortChildrenInPlace target (before ++ ((Value.cons tag hc hw children).encode ++ behind))
        before.length (header (.cons tag hc hw children)).headerLen
        (header (.cons tag hc hw children)).contentLen =
      .ok (before ++ ((Value.cons tag hc hw (Value.ascending children)).encode ++ behind)) := by
  have hContent : (children.map Value.encode).flatten.length < target.usizeSize :=
    (length_content_le (.cons tag hc hw children)).trans_lt hSize
  have hLength : (header (.cons tag hc hw children)).contentLen =
      (children.map Value.encode).flatten.length := rfl
  have hPerm : ((Value.ascending children).map Value.encode).flatten.length =
      (children.map Value.encode).flatten.length :=
    ((Value.ascending_perm children).map Value.encode).flatten.length_eq
  have hHeader : headerOctets (.cons tag hc hw (Value.ascending children)) =
      headerOctets (.cons tag hc hw children) := by
    rw [headerOctets, headerOctets, Value.content, Value.content, hPerm]
    rfl
  have hSlices := childSlices_region target children
    (before ++ headerOctets (.cons tag hc hw children)) behind
    ((children.map Value.encode).flatten.length + 1) hContent (Nat.lt_succ_self _)
  rw [encode_eq_header, encode_eq_header, hHeader, sortChildrenInPlace, ← length_headerOctets,
    ← List.length_append, hLength, Value.content, Value.content, List.append_assoc,
    ← List.append_assoc before, if_neg]
  · rw [hSlices, Except.ok_bind']
    simp only [ne_eq, not_true_eq_false, if_false, Except.pure_eq_ok']
    rw [← Value.map_encode_ascending, writeBack_region _ _ _ _ hPerm.symm]
    simp only [List.append_assoc]
  · simp only [List.length_append]
    omega

/-- A pass over a region whose step rearranges each element as `f` does. -/
theorem forEachTlv_region {visit : Octets → Nat → DerTlv → Except String Octets}
    {f : Value → Value} (children : List Value) (before behind : Octets) (fuel : Nat)
    (hVisit : ∀ child ∈ children, ∀ before behind : Octets,
      visit (before ++ (child.encode ++ behind)) before.length (header child) =
        .ok (before ++ ((f child).encode ++ behind)))
    (hLength : ∀ child ∈ children, (f child).encode.length = child.encode.length)
    (hSize : (children.map Value.encode).flatten.length < target.usizeSize)
    (hFuel : (children.map Value.encode).flatten.length < fuel) :
    forEachTlv target visit (before.length + (children.map Value.encode).flatten.length) fuel
        (before ++ ((children.map Value.encode).flatten ++ behind)) before.length =
      .ok (before ++ (((children.map f).map Value.encode).flatten ++ behind)) := by
  induction children generalizing before fuel with
  | nil =>
      cases fuel with
      | zero => exact absurd hFuel (Nat.not_lt_zero _)
      | succ fuel =>
          rw [forEachTlv, if_neg]
          · rfl
          · exact Nat.lt_irrefl _
  | cons child rest ih =>
      cases fuel with
      | zero => exact absurd hFuel (Nat.not_lt_zero _)
      | succ fuel =>
          have hTwo := two_le_length_encode child
          obtain ⟨hChild, hChildren⟩ := List.forall_mem_cons.mp hVisit
          obtain ⟨hChildLength, hLengths⟩ := List.forall_mem_cons.mp hLength
          simp only [List.map_cons, List.flatten_cons, List.length_append] at hSize hFuel ⊢
          have hParse := parseDerTlv_encode target before
            ((rest.map Value.encode).flatten ++ behind) child (by omega)
          have hRest := ih (before ++ (f child).encode) fuel hChildren hLengths (by omega)
            (by omega)
          simp only [List.length_append, List.append_assoc, hChildLength, Nat.add_assoc] at hRest
          rw [List.append_assoc, forEachTlv, if_pos (by omega), hParse, Except.ok_bind', hChild,
            Except.ok_bind', length_header, hRest, List.append_assoc]

/-- A pass over the components of an element. -/
theorem forEachTlv_components {visit : Octets → Nat → DerTlv → Except String Octets}
    {f : Value → Value} {tag : Tag} {hc hw} (children : List Value) (before behind : Octets)
    (hVisit : ∀ child ∈ children, ∀ before behind : Octets,
      visit (before ++ (child.encode ++ behind)) before.length (header child) =
        .ok (before ++ ((f child).encode ++ behind)))
    (hRearranged : ∀ child ∈ children, child.Rearranged (f child))
    (hSize : (Value.cons tag hc hw children).encode.length < target.usizeSize) :
    forEachTlv target visit
        (before.length + (header (.cons tag hc hw children)).headerLen +
          (header (.cons tag hc hw children)).contentLen)
        ((header (.cons tag hc hw children)).contentLen + 1)
        (before ++ ((Value.cons tag hc hw children).encode ++ behind))
        (before.length + (header (.cons tag hc hw children)).headerLen) =
      .ok (before ++ ((Value.cons tag hc hw (children.map f)).encode ++ behind)) := by
  have hContent : (children.map Value.encode).flatten.length < target.usizeSize :=
    (length_content_le (.cons tag hc hw children)).trans_lt hSize
  have hLength : (header (.cons tag hc hw children)).contentLen =
      (children.map Value.encode).flatten.length := rfl
  have hWhole : (Value.cons tag hc hw children).Rearranged (.cons tag hc hw (children.map f)) :=
    .cons (Value.Rearranged.of_map hRearranged) (List.Perm.refl _)
  have hRegion := forEachTlv_region target children
    (before ++ headerOctets (.cons tag hc hw children)) behind
    ((children.map Value.encode).flatten.length + 1) hVisit
    (fun child hMem => (hRearranged child hMem).length_encode.symm) hContent (Nat.lt_succ_self _)
  rw [encode_eq_header, encode_eq_header (.cons tag hc hw (children.map f)),
    ← headerOctets_rearranged hWhole, ← length_headerOctets, ← List.length_append, hLength,
    Value.content, Value.content, List.append_assoc, ← List.append_assoc before, hRegion]
  simp only [List.append_assoc]

end Regions

section Length

variable {target : Target}

/-- The octets of a header that is read, and at least as many behind it as it announces. -/
theorem parseDerTlv_split {data : Octets} {pos : Nat} {t : DerTlv}
    (h : parseDerTlv target data pos = .ok t) :
    ∃ front behind, data.drop pos = front ++ behind ∧ front.length = t.headerLen ∧
      2 ≤ front.length ∧ t.contentLen ≤ behind.length := by
  have hDrop : (data.drop pos).length = data.length - pos := List.length_drop
  rw [parseDerTlv] at h
  cases hData : data.drop pos with
  | nil =>
      rw [hData] at h
      cases h
  | cons tagByte afterTagByte =>
      rw [hData] at h hDrop
      simp only [Except.bind_eq_ok_iff, Prod.exists] at h
      obtain ⟨more, afterTag, hTag, h⟩ := h
      obtain ⟨tag, -, -, hAfterTagByte⟩ := tagContinuation_ok hTag
      cases afterTag with
      | nil => cases h
      | cons lenByte afterLenByte =>
          simp only [Except.bind_eq_ok_iff, Prod.exists] at h
          obtain ⟨contentLen, consumed, -, h⟩ := h
          split at h
          · cases h
          · rename_i hFits
            cases h
            have hSplit : tagByte :: afterTagByte =
                tagByte :: (more ++ lenByte :: afterLenByte.take consumed) ++
                  afterLenByte.drop consumed := by
              rw [hAfterTagByte, List.cons_append, List.append_assoc, List.cons_append,
                List.take_append_drop]
            refine ⟨_, _, hSplit, ?_, ?_, Nat.le_of_not_gt hFits⟩
            · rw [hSplit, List.length_append] at hDrop
              change _ = data.length - pos - (afterLenByte.drop consumed).length
              omega
            · simp only [List.length_cons, List.length_append]
              omega

theorem parseDerTlv_bounds {data : Octets} {pos : Nat} {t : DerTlv}
    (h : parseDerTlv target data pos = .ok t) :
    pos + (t.headerLen + t.contentLen) ≤ data.length := by
  obtain ⟨front, behind, hSplit, hFront, hTwo, hBehind⟩ := parseDerTlv_split h
  have hLength := congrArg List.length hSplit
  rw [List.length_drop, List.length_append] at hLength
  omega

theorem two_le_headerLen {data : Octets} {pos : Nat} {t : DerTlv}
    (h : parseDerTlv target data pos = .ok t) : 2 ≤ t.headerLen := by
  obtain ⟨front, -, -, hFront, hTwo, -⟩ := parseDerTlv_split h
  rwa [hFront] at hTwo

theorem childSlices_length {data : Octets} {contentEnd fuel pos stop : Nat}
    {children : List Octets}
    (h : childSlices target data contentEnd fuel pos = .ok (children, stop)) :
    stop = pos + children.flatten.length := by
  induction fuel generalizing pos children with
  | zero => cases h
  | succ fuel ih =>
      rw [childSlices] at h
      split at h
      · simp only [Except.bind_eq_ok_iff, Except.pure_eq_ok', Except.ok.injEq, Prod.exists,
          Prod.mk.injEq] at h
        obtain ⟨t, hParse, rest, last, hRest, rfl, rfl⟩ := h
        have hBounds := parseDerTlv_bounds hParse
        have hStop := ih hRest
        rw [List.flatten_cons, List.length_append, List.length_take, List.length_drop, hStop]
        omega
      · cases h
        rfl

theorem writeBack_length (children : List Octets) (data : Octets) (pos : Nat)
    (h : pos + children.flatten.length ≤ data.length) :
    (writeBack data pos children).length = data.length := by
  induction children generalizing data pos with
  | nil => rfl
  | cons child rest ih =>
      rw [List.flatten_cons, List.length_append] at h
      have hCopy : (copyFromSlice data pos child).length = data.length := by
        simp only [copyFromSlice, List.length_append, List.length_take, List.length_drop]
        omega
      rw [writeBack, ih _ _ (by omega), hCopy]

/-- Sorting in place leaves the length of the buffer as it is. -/
theorem sortChildrenInPlace_length {data out : Octets} {offset headerLen contentLen : Nat}
    (h : sortChildrenInPlace target data offset headerLen contentLen = .ok out) :
    out.length = data.length := by
  simp only [sortChildrenInPlace] at h
  split at h
  · cases h
  · rename_i hFits
    simp only [Except.bind_eq_ok_iff, Prod.exists] at h
    obtain ⟨children, pos, hSlices, h⟩ := h
    split at h
    · cases h
    · rename_i hEnd
      cases h
      have hStop := childSlices_length hSlices
      have hPerm : (children.insertionSort (· ≤ ·)).flatten.length = children.flatten.length :=
        (List.perm_insertionSort _ children).flatten.length_eq
      apply writeBack_length
      omega

theorem forEachTlv_length {visit : Octets → Nat → DerTlv → Except String Octets}
    {contentEnd fuel pos : Nat} {data out : Octets}
    (hVisit : ∀ data pos t out, visit data pos t = .ok out → out.length = data.length)
    (h : forEachTlv target visit contentEnd fuel data pos = .ok out) :
    out.length = data.length := by
  induction fuel generalizing data pos with
  | zero => cases h
  | succ fuel ih =>
      rw [forEachTlv] at h
      split at h
      · simp only [Except.bind_eq_ok_iff] at h
        obtain ⟨t, _, visited, hVisited, hRest⟩ := h
        exact (ih hRest).trans (hVisit _ _ _ _ hVisited)
      · cases h
        rfl

theorem sortSignerInfoField_length {data out : Octets} {pos : Nat} {t : DerTlv}
    (h : sortSignerInfoField target data pos t = .ok out) : out.length = data.length := by
  rw [sortSignerInfoField] at h
  split at h
  · exact sortChildrenInPlace_length h
  · cases h
    rfl

theorem sortSignerInfo_length {data out : Octets} {pos : Nat} {t : DerTlv}
    (h : sortSignerInfo target data pos t = .ok out) : out.length = data.length := by
  rw [sortSignerInfo] at h
  split at h
  · exact forEachTlv_length (fun _ _ _ _ => sortSignerInfoField_length) h
  · cases h
    rfl

theorem sortSignedDataField_length {data out : Octets} {pos : Nat} {t : DerTlv}
    (h : sortSignedDataField target data pos t = .ok out) : out.length = data.length := by
  rw [sortSignedDataField] at h
  split at h
  · exact sortChildrenInPlace_length h
  · split at h
    · simp only [Except.bind_eq_ok_iff] at h
      obtain ⟨members, hMembers, hSet⟩ := h
      exact (sortChildrenInPlace_length hSet).trans
        (forEachTlv_length (fun _ _ _ _ => sortSignerInfo_length) hMembers)
    · cases h
      rfl

/-- The pass over the buffer never changes its length. -/
theorem sortCmsImplicitSets_length {data out : Octets}
    (h : sortCmsImplicitSets target data = .ok out) : out.length = data.length := by
  simp only [sortCmsImplicitSets, Except.bind_eq_ok_iff] at h
  obtain ⟨ci, _, h⟩ := h
  split at h
  · cases h
  · simp only [Except.bind_eq_ok_iff] at h
    obtain ⟨oidTlv, _, h⟩ := h
    split at h
    · cases h
      rfl
    · simp only [Except.bind_eq_ok_iff] at h
      obtain ⟨explicit0, _, h⟩ := h
      split at h
      · cases h
      · simp only [sortSignedData, Except.bind_eq_ok_iff] at h
        obtain ⟨sd, _, h⟩ := h
        split at h
        · cases h
        · exact forEachTlv_length (fun _ _ _ _ => sortSignedDataField_length) h

end Length
end Smime.Utils
