import Smime.X690.Length

/-! ASN.1 values as trees of tagged elements, and their DER (X.690 clauses 8.1
and 10). A value tree has no constructed OCTET STRING or BIT STRING: segmenting
a string is a choice of its encoding, not a part of its value. -/
namespace X690

/-- The octets after the first of a high-tag-number identifier: bit 8 is set
on all of them but the last. -/
def subsequentOctets : Octets → Bool
  | [] => false
  | [octet] => octet &&& 0x80 == 0
  | octet :: rest => octet &&& 0x80 != 0 && subsequentOctets rest

/-- Identifier octets (8.1.2), of one or several octets. -/
structure Tag where
  first : UInt8
  more : Octets
  wellFormed : if first &&& 0x1f = 0x1f then subsequentOctets more = true else more = []
  deriving DecidableEq

namespace Tag

def octets (tag : Tag) : Octets := tag.first :: tag.more

def constructed (tag : Tag) : Bool := tag.first &&& 0x20 != 0

/-- The universal SET and SET OF. -/
def isSet (tag : Tag) : Bool := tag.first == 0x31

/-- A one-octet identifier. -/
def ofOctet (octet : UInt8) (low : octet &&& 0x1f ≠ 0x1f) : Tag :=
  ⟨octet, [], by rw [if_neg low]⟩

theorem eq_ofOctet {tag : Tag} (low : tag.first &&& 0x1f ≠ 0x1f) : tag = ofOctet tag.first low := by
  obtain ⟨first, more, wellFormed⟩ := tag
  rw [if_neg low] at wellFormed
  subst wellFormed
  rfl

theorem ext_first {s t : Tag} (low : s.first &&& 0x1f ≠ 0x1f) (h : s.first = t.first) : s = t := by
  obtain ⟨first, more, wellFormed⟩ := t
  subst h
  rw [if_neg low] at wellFormed
  subst wellFormed
  exact eq_ofOctet low

@[simp] theorem octets_ofOctet (octet : UInt8) (low : octet &&& 0x1f ≠ 0x1f) :
    (ofOctet octet low).octets = [octet] := rfl

end Tag

/-- The string types whose segments are joined (8.6, 8.7). Of the other strings that BER
may write in segments, each segment stays a component. -/
inductive StringType where
  | bitString
  | octetString
  deriving DecidableEq

namespace StringType

def primitiveTag : StringType → Tag
  | bitString => Tag.ofOctet 0x03 (by decide)
  | octetString => Tag.ofOctet 0x04 (by decide)

theorem primitiveTag_constructed (type : StringType) : type.primitiveTag.constructed = false := by
  cases type <;> decide

/-- The string type a constructed identifier announces. -/
def ofTag? (tag : Tag) : Option StringType :=
  if tag.first = 0x23 then some bitString
  else if tag.first = 0x24 then some octetString
  else none

end StringType

/-- An ASN.1 value: a primitive element with its content octets, or a
constructed one with its components. -/
inductive Value where
  | prim (tag : Tag) (primitive : tag.constructed = false) (content : Octets)
  | cons (tag : Tag) (constructed : tag.constructed = true)
      (whole : StringType.ofTag? tag = none) (children : List Value)

namespace Value

mutual

/-- Induction over a value tree with the hypothesis for every component. -/
@[elab_as_elim, induction_eliminator]
theorem induction {motive : Value → Prop}
    (prim : ∀ tag primitive content, motive (.prim tag primitive content))
    (cons : ∀ tag constructed whole children, (∀ child ∈ children, motive child) →
      motive (.cons tag constructed whole children)) : ∀ value, motive value
  | .prim tag primitive content => prim tag primitive content
  | .cons tag constructed whole children =>
      cons tag constructed whole children (inductionList prim cons children)

theorem inductionList {motive : Value → Prop}
    (prim : ∀ tag primitive content, motive (.prim tag primitive content))
    (cons : ∀ tag constructed whole children, (∀ child ∈ children, motive child) →
      motive (.cons tag constructed whole children)) :
    ∀ children : List Value, ∀ child ∈ children, motive child
  | [], _, h => absurd h List.not_mem_nil
  | first :: rest, child, h =>
      (List.mem_cons.mp h).elim (fun hEq => hEq ▸ induction prim cons first)
        (inductionList prim cons rest child)

end

def tag : Value → Tag
  | prim tag _ _ => tag
  | cons tag _ _ _ => tag

/-- No element has the identifier octet of end-of-contents (8.1.5). -/
inductive NoTagZero : Value → Prop
  | prim {tag : Tag} {h : tag.constructed = false} {content : Octets} (nonzero : tag.first ≠ 0x00) :
      NoTagZero (.prim tag h content)
  | cons {tag : Tag} {hc : tag.constructed = true} {hw : StringType.ofTag? tag = none}
      {children : List Value} (inner : ∀ child ∈ children, NoTagZero child) :
      NoTagZero (.cons tag hc hw children)

end Value

/-- Identifier, minimal definite length and content. -/
def tlv (identifier content : Octets) : Octets :=
  identifier ++ derLength content.length ++ content

namespace Value

mutual

/-- Minimal definite lengths throughout; components in the order they have. -/
def encode : Value → Octets
  | prim tag _ content => tlv tag.octets content
  | cons tag _ _ children => tlv tag.octets (encodeList children)

def encodeList : List Value → Octets
  | [] => []
  | child :: rest => encode child ++ encodeList rest

end

@[simp] theorem encode_prim (tag : Tag) (h) (content : Octets) :
    (prim tag h content).encode = tlv tag.octets content := by
  rw [encode]

@[simp] theorem encode_cons (tag : Tag) (hc hw) (children : List Value) :
    (cons tag hc hw children).encode = tlv tag.octets (children.map encode).flatten := by
  have hList : ∀ children, encodeList children = (children.map encode).flatten := by
    intro children
    induction children with
    | nil => rw [encodeList]; rfl
    | cons child rest ih => rw [encodeList, ih]; rfl
  rw [encode, hList]

end Value

/-- DER puts the components of a SET in ascending order (10.3, 11.6). -/
def derOrder (tag : Tag) (blobs : List Octets) : List Octets :=
  if tag.isSet then blobs.insertionSort (· ≤ ·) else blobs

theorem derOrder_perm (tag : Tag) (blobs : List Octets) : (derOrder tag blobs).Perm blobs := by
  unfold derOrder
  split
  · exact List.perm_insertionSort _ _
  · exact List.Perm.refl _

/-- Sorting forgets the order the components were listed in. -/
theorem insertionSort_congr {blobs others : List Octets} (h : blobs.Perm others) :
    blobs.insertionSort (· ≤ ·) = others.insertionSort (· ≤ ·) := by
  have hPerm : (blobs.insertionSort (· ≤ ·)).Perm (others.insertionSort (· ≤ ·)) :=
    (List.perm_insertionSort _ _).trans (h.trans (List.perm_insertionSort _ _).symm)
  exact hPerm.eq_of_pairwise' (List.pairwise_insertionSort _ _) (List.pairwise_insertionSort _ _)

namespace Value

/-- Components in ascending order of their encodings. -/
def ascending (children : List Value) : List Value :=
  children.insertionSort (fun a b => a.encode ≤ b.encode)

/-- The order of 11.6 on components. -/
def Ascending (children : List Value) : Prop := children.Pairwise (fun a b => a.encode ≤ b.encode)

theorem ascending_perm (children : List Value) : (ascending children).Perm children :=
  List.perm_insertionSort _ _

theorem map_encode_ascending (children : List Value) :
    (ascending children).map encode = (children.map encode).insertionSort (· ≤ ·) :=
  List.map_insertionSort _ _ _ _ (fun _ _ _ _ => Iff.rfl)

theorem ascending_ascending (children : List Value) : Ascending (ascending children) := by
  have hSorted : ((ascending children).map encode).Pairwise (· ≤ ·) := by
    rw [map_encode_ascending]
    exact List.pairwise_insertionSort _ _
  exact List.pairwise_map.mp hSorted

theorem ascending_of_ascending {children : List Value} (h : Ascending children) :
    ascending children = children :=
  List.Pairwise.insertionSort_eq h

/-- Order components by their encodings where the tag is SET. -/
def orderChildren (tag : Tag) (children : List Value) : List Value :=
  if tag.isSet then ascending children else children

theorem orderChildren_perm (tag : Tag) (children : List Value) :
    (orderChildren tag children).Perm children := by
  unfold orderChildren
  split
  · exact ascending_perm children
  · exact List.Perm.refl _

theorem map_encode_orderChildren (tag : Tag) (children : List Value) :
    (orderChildren tag children).map encode = derOrder tag (children.map encode) := by
  unfold orderChildren derOrder
  split
  · exact map_encode_ascending children
  · rfl

mutual

/-- The same value with the components of every SET in ascending order. -/
def canonical : Value → Value
  | prim tag h content => prim tag h content
  | cons tag hc hw children => cons tag hc hw (orderChildren tag (canonicalList children))

def canonicalList : List Value → List Value
  | [] => []
  | child :: rest => canonical child :: canonicalList rest

end

@[simp] theorem canonical_prim (tag : Tag) (h) (content : Octets) :
    (prim tag h content).canonical = prim tag h content := by
  rw [canonical]

@[simp] theorem canonical_cons (tag : Tag) (hc hw) (children : List Value) :
    (cons tag hc hw children).canonical =
      cons tag hc hw (orderChildren tag (children.map canonical)) := by
  have hList : ∀ children, canonicalList children = children.map canonical := by
    intro children
    induction children with
    | nil => rw [canonicalList]; rfl
    | cons child rest ih => rw [canonicalList, ih]; rfl
  rw [canonical, hList]

/-- The DER encoding of a value. -/
def der (value : Value) : Octets := value.canonical.encode

@[simp] theorem der_prim (tag : Tag) (h) (content : Octets) :
    (prim tag h content).der = tlv tag.octets content := by
  simp [der]

@[simp] theorem der_cons (tag : Tag) (hc hw) (children : List Value) :
    (cons tag hc hw children).der =
      tlv tag.octets (derOrder tag (children.map der)).flatten := by
  rw [der, canonical_cons, encode_cons, map_encode_orderChildren, List.map_map]
  rfl

/-- Every SET in the tree already lists its components in ascending order. -/
def SetsAscending (value : Value) : Prop := value.canonical = value

theorem orderChildren_of_ascending {tag : Tag} {children : List Value}
    (h : tag.isSet = true → Ascending children) : orderChildren tag children = children := by
  unfold orderChildren
  split
  · rename_i hSet
    exact ascending_of_ascending (h hSet)
  · rfl

theorem ascending_orderChildren {tag : Tag} (hSet : tag.isSet = true) (children : List Value) :
    Ascending (orderChildren tag children) := by
  rw [orderChildren, if_pos hSet]
  exact ascending_ascending children

/-- Canonical values are fixed points. -/
@[simp] theorem canonical_canonical (value : Value) : value.canonical.canonical = value.canonical := by
  induction value with
  | prim tag h content => simp
  | cons tag hc hw children ih =>
      have hChildren : (orderChildren tag (children.map canonical)).map canonical =
          orderChildren tag (children.map canonical) := by
        refine (List.map_congr_left ?_).trans (List.map_id _)
        intro child hMem
        obtain ⟨original, hOriginal, rfl⟩ :=
          List.mem_map.mp ((orderChildren_perm tag _).mem_iff.mp hMem)
        exact ih original hOriginal
      rw [canonical_cons, canonical_cons, hChildren,
        orderChildren_of_ascending (ascending_orderChildren · _)]

theorem setsAscending_canonical (value : Value) : value.canonical.SetsAscending :=
  canonical_canonical value

@[simp] theorem setsAscending_prim (tag : Tag) (h) (content : Octets) :
    (prim tag h content).SetsAscending :=
  canonical_prim tag h content

theorem setsAscending_cons {tag : Tag} {hc hw} {children : List Value} :
    (cons tag hc hw children).SetsAscending ↔
      (tag.isSet = true → Ascending children) ∧ ∀ child ∈ children, child.SetsAscending := by
  unfold SetsAscending
  rw [canonical_cons, cons.injEq]
  constructor
  · intro ⟨_, hChildren⟩
    constructor
    · intro hSet
      rw [← hChildren]
      exact ascending_orderChildren hSet _
    · intro child hMem
      rw [← hChildren] at hMem
      obtain ⟨original, -, rfl⟩ := List.mem_map.mp ((orderChildren_perm tag _).mem_iff.mp hMem)
      exact canonical_canonical original
  · intro ⟨hOrder, hEach⟩
    have hMap : children.map canonical = children :=
      (List.map_congr_left hEach).trans (List.map_id _)
    rw [hMap]
    exact ⟨rfl, orderChildren_of_ascending hOrder⟩

theorem der_eq_encode {value : Value} (h : value.SetsAscending) : value.der = value.encode :=
  congrArg encode h

end Value
end X690
