import Smime.Data.Lists
import Smime.X690.Value

/-! BER (X.690 clause 8): which octet strings encode a value. An encoding is a
concrete tree that records every choice the sender has, namely the length form
of each element, the segmentation of strings and the order inside a SET. -/
namespace X690

/-- How the end of a constructed element is marked (8.1.3). -/
inductive LengthForm where
  | definite (length : DefiniteLength)
  | indefinite

namespace LengthForm

/-- Length octets, contents and, in the indefinite form, end-of-contents. -/
def wrap : LengthForm → Octets → Octets
  | definite length, body => length.encode ++ body
  | indefinite, body => 0x80 :: (body ++ [0x00, 0x00])

/-- A definite length is exactly the length of the contents. -/
def Exact : LengthForm → Octets → Prop
  | definite length, body => length.value = body.length
  | indefinite, _ => True

end LengthForm

inductive Ber where
  | prim (tag : Tag) (primitive : tag.constructed = false)
      (length : DefiniteLength) (content : Octets)
  | cons (tag : Tag) (constructed : tag.constructed = true)
      (form : LengthForm) (children : List Ber)

namespace Ber

mutual

@[elab_as_elim, induction_eliminator]
theorem induction {motive : Ber → Prop}
    (prim : ∀ tag primitive length content, motive (.prim tag primitive length content))
    (cons : ∀ tag constructed form children, (∀ child ∈ children, motive child) →
      motive (.cons tag constructed form children)) : ∀ ber, motive ber
  | .prim tag primitive length content => prim tag primitive length content
  | .cons tag constructed form children =>
      cons tag constructed form children (inductionList prim cons children)

theorem inductionList {motive : Ber → Prop}
    (prim : ∀ tag primitive length content, motive (.prim tag primitive length content))
    (cons : ∀ tag constructed form children, (∀ child ∈ children, motive child) →
      motive (.cons tag constructed form children)) :
    ∀ children : List Ber, ∀ child ∈ children, motive child
  | [], _, h => absurd h List.not_mem_nil
  | first :: rest, child, h =>
      (List.mem_cons.mp h).elim (fun hEq => hEq ▸ induction prim cons first)
        (inductionList prim cons rest child)

end

mutual

def encode : Ber → Octets
  | prim tag _ length content => tag.octets ++ (length.encode ++ content)
  | cons tag _ form children => tag.octets ++ form.wrap (encodeList children)

def encodeList : List Ber → Octets
  | [] => []
  | child :: rest => encode child ++ encodeList rest

end

mutual

/-- How many levels of elements lie below this one. -/
def height : Ber → Nat
  | prim _ _ _ _ => 0
  | cons _ _ _ children => heightList children

def heightList : List Ber → Nat
  | [] => 0
  | child :: rest => max (height child + 1) (heightList rest)

end

@[simp] theorem encode_prim (tag : Tag) (h length content) :
    (prim tag h length content).encode = tag.octets ++ (length.encode ++ content) := by
  rw [encode]

@[simp] theorem encode_cons (tag : Tag) (h form) (children : List Ber) :
    (cons tag h form children).encode = tag.octets ++ form.wrap (encodeList children) := by
  rw [encode]

@[simp] theorem encodeList_nil : encodeList [] = [] := by rw [encodeList]

@[simp] theorem encodeList_cons (child : Ber) (rest : List Ber) :
    encodeList (child :: rest) = child.encode ++ encodeList rest := by
  rw [encodeList]

theorem encodeList_eq (children : List Ber) :
    encodeList children = (children.map encode).flatten := by
  induction children with
  | nil => simp
  | cons child rest ih => simp [ih]

@[simp] theorem height_prim (tag : Tag) (h length content) :
    (prim tag h length content).height = 0 := by
  rw [height]

theorem height_cons_le {tag : Tag} {h form} {children : List Ber} {levels : Nat} :
    (cons tag h form children).height ≤ levels ↔ ∀ child ∈ children, child.height + 1 ≤ levels := by
  rw [height]
  induction children with
  | nil => simp [heightList]
  | cons child rest ih =>
      rw [heightList, Nat.max_le, ih]
      simp

theorem height_lt_of_mem {tag : Tag} {h form} {children : List Ber} {child : Ber}
    (hMem : child ∈ children) : child.height < (cons tag h form children).height :=
  height_cons_le.mp (Nat.le_refl _) child hMem

/-- Every element has an identifier and a length. -/
theorem two_le_length_encode (ber : Ber) : 2 ≤ ber.encode.length := by
  cases ber with
  | prim tag h length content =>
      have hLength := length.length_encode_pos
      simp only [encode_prim, Tag.octets, List.length_append, List.length_cons]
      omega
  | cons tag h form children =>
      cases form with
      | definite length =>
          have hLength := length.length_encode_pos
          simp only [encode_cons, LengthForm.wrap, Tag.octets, List.length_append,
            List.length_cons]
          omega
      | indefinite =>
          simp only [encode_cons, LengthForm.wrap, Tag.octets, List.length_append,
            List.length_cons]
          omega

theorem length_encode_le_encodeList {child : Ber} {children : List Ber} (h : child ∈ children) :
    child.encode.length ≤ (encodeList children).length := by
  induction children with
  | nil => exact absurd h List.not_mem_nil
  | cons first rest ih =>
      rw [encodeList_cons, List.length_append]
      rcases List.mem_cons.mp h with rfl | hRest
      · omega
      · have := ih hRest
        omega

theorem length_encodeList_lt_cons (tag : Tag) (h form) (children : List Ber) :
    (encodeList children).length < (cons tag h form children).encode.length := by
  cases form <;> simp [LengthForm.wrap, Tag.octets] <;> omega

/-- An indefinite-length element is closed by the first end-of-contents pair
after its identifier, so no component of one may look like that pair. -/
inductive EocFree : Ber → Prop
  | prim (tag : Tag) (h length content) : EocFree (.prim tag h length content)
  | definite (tag : Tag) (h length) (children : List Ber)
      (inner : ∀ child ∈ children, EocFree child) :
      EocFree (.cons tag h (.definite length) children)
  | indefinite (tag : Tag) (h) (children : List Ber)
      (inner : ∀ child ∈ children, EocFree child)
      (open_ : ∀ child ∈ children, ¬ [0x00, 0x00] <+: child.encode) :
      EocFree (.cons tag h .indefinite children)

end Ber

/-- Segments of a BIT STRING (8.6.4). Each carries its own unused-bits octet,
at most 7 and zero without data; only the last segment may leave bits unused,
and the joined string has the count of the last. -/
inductive JoinsBits : List Octets → Octets → Prop
  | none : JoinsBits [] [0x00]
  | last {unused : UInt8} {bits : Octets} (legal : unused ≤ 7) (data : bits = [] → unused = 0) :
      JoinsBits [unused :: bits] (unused :: bits)
  | more {bits rest : Octets} {unused : UInt8} {segments : List Octets}
      (tail : JoinsBits segments (unused :: rest)) :
      JoinsBits ((0x00 :: bits) :: segments) (unused :: (bits ++ rest))

/-- The contents of the segments join to the content of the whole string. -/
def Joins : StringType → List Octets → Octets → Prop
  | .bitString, segments, content => JoinsBits segments content
  | .octetString, segments, content => content = segments.flatten

/-- The components of a SET may be sent in any order. -/
def SentAs (tag : Tag) (sent components : List Value) : Prop :=
  if tag.isSet then sent.Perm components else sent = components

/-- `Encodes ber value`: the tree `ber` is a BER encoding of `value`. -/
inductive Encodes : Ber → Value → Prop
  | prim {tag : Tag} {h : tag.constructed = false} {length : DefiniteLength} {content : Octets}
      (exact : length.value = content.length) :
      Encodes (.prim tag h length content) (.prim tag h content)
  | cons {tag : Tag} {hc : tag.constructed = true} {hw : StringType.ofTag? tag = none}
      {form : LengthForm} {children : List Ber} {sent components : List Value}
      (exact : form.Exact (Ber.encodeList children))
      (inner : List.Forall₂ Encodes children sent)
      (order : SentAs tag sent components) :
      Encodes (.cons tag hc form children) (.cons tag hc hw components)
  | segments {tag : Tag} {hc : tag.constructed = true} {type : StringType}
      {form : LengthForm} {children : List Ber} {segments : List Octets} {content : Octets}
      (announced : StringType.ofTag? tag = some type)
      (exact : form.Exact (Ber.encodeList children))
      (inner : List.Forall₂ Encodes children
        (segments.map (Value.prim type.primitiveTag type.primitiveTag_constructed)))
      (joins : Joins type segments content) :
      Encodes (.cons tag hc form children)
        (.prim type.primitiveTag type.primitiveTag_constructed content)

theorem Encodes.exact {tag : Tag} {constructed : tag.constructed = true} {form : LengthForm}
    {children : List Ber} {value : Value}
    (h : Encodes (.cons tag constructed form children) value) :
    form.Exact (Ber.encodeList children) := by
  cases h with
  | cons exact _ _ => exact exact
  | segments _ exact _ _ => exact exact

theorem SentAs.mem_iff {tag : Tag} {sent components : List Value}
    (h : SentAs tag sent components) (value : Value) : value ∈ sent ↔ value ∈ components := by
  unfold SentAs at h
  split at h
  · exact h.mem_iff
  · rw [h]

theorem constructed_ne_zero {tag : Tag} (h : tag.constructed = true) : tag.first ≠ 0x00 := by
  intro hZero
  rw [Tag.constructed, hZero] at h
  cases h

/-- An encoding of a value without tag 0 never looks like end-of-contents. -/
theorem Encodes.not_startsWith_eoc {ber : Ber} {value : Value} (h : Encodes ber value)
    (hTags : value.NoTagZero) : ¬ [0x00, 0x00] <+: ber.encode := by
  have hFirst : ∃ octet rest, ber.encode = octet :: rest ∧ octet ≠ 0x00 := by
    cases h with
    | @prim tag =>
        cases hTags with
        | prim nonzero => exact ⟨tag.first, _, by rw [Ber.encode_prim]; rfl, nonzero⟩
    | @cons tag hc => exact ⟨tag.first, _, by rw [Ber.encode_cons]; rfl, constructed_ne_zero hc⟩
    | @segments tag hc => exact ⟨tag.first, _, by rw [Ber.encode_cons]; rfl, constructed_ne_zero hc⟩
  obtain ⟨octet, rest, hEncode, hNonzero⟩ := hFirst
  intro hPrefix
  rw [hEncode, List.cons_prefix_cons] at hPrefix
  exact hNonzero hPrefix.1.symm

theorem Encodes.eocFree {ber : Ber} {value : Value} (h : Encodes ber value)
    (hTags : value.NoTagZero) : ber.EocFree := by
  induction ber generalizing value with
  | prim tag primitive length content => exact .prim tag primitive length content
  | cons tag constructed form children ih =>
      have hChildren : ∀ child ∈ children, ∃ inner, Encodes child inner ∧ inner.NoTagZero := by
        intro child hMem
        cases h with
        | cons exact inner order =>
            obtain ⟨component, hSent, hEncodes⟩ := inner.exists_right hMem
            cases hTags with
            | cons hInner =>
                exact ⟨component, hEncodes, hInner _ ((order.mem_iff component).mp hSent)⟩
        | @segments _ _ type _ _ segments _ announced exact inner joins =>
            obtain ⟨component, hSegment, hEncodes⟩ := inner.exists_right hMem
            obtain ⟨content, -, rfl⟩ := List.mem_map.mp hSegment
            exact ⟨_, hEncodes, .prim (by cases type <;> decide)⟩
      have hFree : ∀ child ∈ children, child.EocFree := by
        intro child hMem
        obtain ⟨inner, hEncodes, hInner⟩ := hChildren child hMem
        exact ih child hMem hEncodes hInner
      cases form with
      | definite length => exact .definite tag constructed length children hFree
      | indefinite =>
          apply Ber.EocFree.indefinite tag constructed children hFree
          intro child hMem
          obtain ⟨inner, hEncodes, hInner⟩ := hChildren child hMem
          exact hEncodes.not_startsWith_eoc hInner

/-- X.690 clause 10: minimal definite lengths, no segmented string and SET
components in ascending order. -/
inductive IsDer : Ber → Prop
  | prim {tag : Tag} {h : tag.constructed = false} {length : DefiniteLength} {content : Octets}
      (minimal : length.Minimal) : IsDer (.prim tag h length content)
  | cons {tag : Tag} {h : tag.constructed = true} {length : DefiniteLength} {children : List Ber}
      (minimal : length.Minimal) (whole : StringType.ofTag? tag = none)
      (ascending : tag.isSet = true → (children.map Ber.encode).Pairwise (· ≤ ·))
      (inner : ∀ child ∈ children, IsDer child) :
      IsDer (.cons tag h (.definite length) children)

end X690
