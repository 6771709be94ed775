import Smime.X690.Der

/-! Rearranging components. A value whose components are listed in another
order, at any level, keeps its identifier, its size and its depth. -/
namespace X690
namespace Value

def content : Value → Octets
  | prim _ _ content => content
  | cons _ _ _ children => (children.map encode).flatten

theorem encode_eq_tlv (value : Value) : value.encode = tlv value.tag.octets value.content := by
  cases value with
  | prim => rw [encode_prim]; rfl
  | cons => rw [encode_cons]; rfl

mutual

/-- How many levels of components lie below this value. -/
def height : Value → Nat
  | prim _ _ _ => 0
  | cons _ _ _ children => heightList children

def heightList : List Value → Nat
  | [] => 0
  | child :: rest => max (height child + 1) (heightList rest)

end

@[simp] theorem height_prim (tag : Tag) (h content) : (prim tag h content).height = 0 := by
  rw [height]

theorem height_cons_le {tag : Tag} {hc hw} {children : List Value} {levels : Nat} :
    (cons tag hc hw children).height ≤ levels ↔ ∀ child ∈ children, child.height + 1 ≤ levels := by
  rw [height]
  induction children with
  | nil => simp [heightList]
  | cons child rest ih =>
      rw [heightList, Nat.max_le, ih]
      simp

theorem height_lt_of_mem {tag : Tag} {hc hw} {children : List Value} {child : Value}
    (h : child ∈ children) : child.height < (cons tag hc hw children).height :=
  height_cons_le.mp (Nat.le_refl _) child h

/-- The same value up to the order of the components at every level. -/
inductive Rearranged : Value → Value → Prop
  | prim {tag : Tag} {h : tag.constructed = false} {content : Octets} :
      Rearranged (.prim tag h content) (.prim tag h content)
  | cons {tag : Tag} {hc : tag.constructed = true} {hw : StringType.ofTag? tag = none}
      {children middle others : List Value} (inner : List.Forall₂ Rearranged children middle)
      (order : middle.Perm others) :
      Rearranged (.cons tag hc hw children) (.cons tag hc hw others)

namespace Rearranged

theorem of_map {f : Value → Value} {children : List Value}
    (h : ∀ child ∈ children, Rearranged child (f child)) :
    List.Forall₂ Rearranged children (children.map f) := by
  induction children with
  | nil => exact .nil
  | cons child rest ih =>
      obtain ⟨hChild, hRest⟩ := List.forall_mem_cons.mp h
      exact .cons hChild (ih hRest)

theorem refl (value : Value) : Rearranged value value := by
  induction value with
  | prim => exact .prim
  | cons tag hc hw children ih =>
      have hInner := of_map (f := id) ih
      rw [List.map_id] at hInner
      exact .cons hInner (List.Perm.refl _)

theorem tag_eq {value other : Value} (h : Rearranged value other) : value.tag = other.tag := by
  cases h <;> rfl

theorem length_encode_of_content {value other : Value} (hTag : value.tag = other.tag)
    (hContent : value.content.length = other.content.length) :
    value.encode.length = other.encode.length := by
  simp only [encode_eq_tlv, tlv, List.length_append, hTag, hContent]

theorem length_content {value other : Value} (h : Rearranged value other) :
    value.content.length = other.content.length := by
  induction value generalizing other with
  | prim =>
      cases h
      rfl
  | cons tag hc hw children ih =>
      cases h with
      | @cons _ _ _ _ middle others inner order =>
          have hInner : (children.map encode).flatten.length =
              (middle.map encode).flatten.length := by
            clear order
            induction inner with
            | nil => rfl
            | cons hFirst hRest ihRest =>
                simp only [List.map_cons, List.flatten_cons, List.length_append]
                rw [length_encode_of_content hFirst.tag_eq (ih _ List.mem_cons_self hFirst),
                  ihRest (fun c hc => ih c (List.mem_cons_of_mem _ hc))]
          exact hInner.trans (order.map encode).flatten.length_eq

theorem length_encode {value other : Value} (h : Rearranged value other) :
    value.encode.length = other.encode.length :=
  length_encode_of_content h.tag_eq h.length_content

theorem height_le {value other : Value} (h : Rearranged value other) :
    other.height ≤ value.height := by
  induction value generalizing other with
  | prim =>
      cases h
      exact Nat.le_refl _
  | cons tag hc hw children ih =>
      cases h with
      | @cons _ _ _ _ middle others inner order =>
          apply height_cons_le.mpr
          intro component hMem
          obtain ⟨child, hChild, hRearranged⟩ := inner.exists_left (order.mem_iff.mpr hMem)
          exact Nat.lt_of_le_of_lt (ih child hChild hRearranged) (height_lt_of_mem hChild)

theorem canonical (value : Value) : Rearranged value value.canonical := by
  induction value with
  | prim tag h content =>
      rw [canonical_prim]
      exact .prim
  | cons tag hc hw children ih =>
      rw [canonical_cons]
      exact .cons (of_map ih) (orderChildren_perm tag _).symm

end Rearranged

theorem height_le_of_encodes {ber : Ber} {value : Value} (h : Encodes ber value) :
    value.height ≤ ber.height := by
  induction ber generalizing value with
  | prim =>
      cases h
      exact Nat.zero_le _
  | cons tag constructed form children ih =>
      cases h with
      | cons exact inner order =>
          apply height_cons_le.mpr
          intro component hMem
          obtain ⟨child, hChild, hEncodes⟩ := inner.exists_left ((order.mem_iff _).mpr hMem)
          exact Nat.lt_of_le_of_lt (ih child hChild hEncodes) (Ber.height_lt_of_mem hChild)
      | segments =>
          rw [height_prim]
          exact Nat.zero_le _

end Value

theorem IsDer.eocFree {ber : Ber} (h : IsDer ber) : ber.EocFree := by
  induction ber with
  | prim tag primitive length content => exact .prim tag primitive length content
  | cons tag constructed form children ih =>
      cases h with
      | cons minimal whole ascending inner =>
          exact .definite _ _ _ _ fun child hMem => ih child hMem (inner child hMem)

/-- DER adds no levels to a value. -/
theorem IsDer.height_le {ber : Ber} {value : Value} (h : IsDer ber) (hEncodes : Encodes ber value) :
    ber.height ≤ value.height := by
  induction ber generalizing value with
  | prim =>
      rw [Ber.height_prim]
      exact Nat.zero_le _
  | cons tag constructed form children ih =>
      cases h with
      | cons minimal whole ascending inner =>
          cases hEncodes with
          | segments announced => rw [whole] at announced; cases announced
          | @cons _ _ _ _ _ sent components exact hInner order =>
              apply Ber.height_cons_le.mpr
              intro child hMem
              obtain ⟨component, hSent, hChild⟩ := hInner.exists_right hMem
              have hChildLe := ih child hMem (inner child hMem) hChild
              exact Nat.lt_of_le_of_lt hChildLe
                (Value.height_lt_of_mem ((order.mem_iff component).mp hSent))

end X690
