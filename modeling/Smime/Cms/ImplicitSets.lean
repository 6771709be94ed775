import Smime.X690.Rearranged
import Smime.Utils.BerToDerCms

/-! Sorting the SET OF fields of a SignedData that implicit tagging hides from
DER, on value trees: `[0]` and `[1]` of each SignerInfo, then the fields of the
SignedData itself. The pass only rearranges components, keeps every universal
SET in ascending order, and does nothing when repeated. -/
namespace Smime.Cms

open X690 X690.Value
open Utils (idSignedData)

def sequenceTag : Tag := Tag.ofOctet 0x30 (by decide)
def setTag : Tag := Tag.ofOctet 0x31 (by decide)
def context0Tag : Tag := Tag.ofOctet 0xA0 (by decide)
def context1Tag : Tag := Tag.ofOctet 0xA1 (by decide)
def oidTag : Tag := Tag.ofOctet 0x06 (by decide)

def sequence (children : List Value) : Value :=
  .cons sequenceTag (by decide) (by decide) children

def setOf (children : List Value) : Value := .cons setTag (by decide) (by decide) children

def context0 (children : List Value) : Value :=
  .cons context0Tag (by decide) (by decide) children

def context1 (children : List Value) : Value :=
  .cons context1Tag (by decide) (by decide) children

def oid (content : Octets) : Value := .prim oidTag (by decide) content

/-- The identifiers of constructed `[0]` and `[1]`. -/
def IsImplicit (tag : Tag) : Prop := tag.first = 0xA0 ∨ tag.first = 0xA1

instance (tag : Tag) : Decidable (IsImplicit tag) := inferInstanceAs (Decidable (_ ∨ _))

/-- A field of a SignerInfo with its attributes in order. -/
def sortSignerInfoField : Value → Value
  | .cons tag hc hw children =>
    .cons tag hc hw (if IsImplicit tag then ascending children else children)
  | field => field

/-- A SignerInfo with its attributes in order. -/
def sortSignerInfo : Value → Value
  | .cons tag hc hw children =>
    .cons tag hc hw (if tag.first = 0x30 then children.map sortSignerInfoField else children)
  | signerInfo => signerInfo

/-- A field of a SignedData in order. -/
def sortSignedDataField : Value → Value
  | .cons tag hc hw children =>
    .cons tag hc hw
      (if IsImplicit tag then ascending children
       else if tag.first = 0x31 then ascending (children.map sortSignerInfo)
       else children)
  | field => field

theorem not_isSet_of_isImplicit {tag : Tag} (h : IsImplicit tag) : tag.isSet = false := by
  rcases h with h | h
  · rw [Tag.isSet, h]
    rfl
  · rw [Tag.isSet, h]
    rfl

theorem ascending_idem (children : List Value) :
    ascending (ascending children) = ascending children :=
  ascending_of_ascending (ascending_ascending children)

section Idempotent

theorem sortSignerInfoField_idem (field : Value) :
    sortSignerInfoField (sortSignerInfoField field) = sortSignerInfoField field := by
  cases field with
  | prim => rfl
  | cons tag hc hw children =>
      by_cases hImplicit : IsImplicit tag
      · simp only [sortSignerInfoField, if_pos hImplicit, ascending_idem]
      · simp only [sortSignerInfoField, if_neg hImplicit]

theorem map_idem {f : Value → Value} (h : ∀ value, f (f value) = f value) (children : List Value) :
    (children.map f).map f = children.map f := by
  rw [List.map_map]
  apply List.map_congr_left
  intro child _
  exact h child

theorem sortSignerInfo_idem (signerInfo : Value) :
    sortSignerInfo (sortSignerInfo signerInfo) = sortSignerInfo signerInfo := by
  cases signerInfo with
  | prim => rfl
  | cons tag hc hw children =>
      by_cases hSequence : tag.first = 0x30
      · simp only [sortSignerInfo, if_pos hSequence, map_idem sortSignerInfoField_idem]
      · simp only [sortSignerInfo, if_neg hSequence]

/-- The SET OF is sorted after its members, so its members are already sorted
when the pass is repeated. -/
theorem ascending_map_sortSignerInfo_idem (children : List Value) :
    ascending ((ascending (children.map sortSignerInfo)).map sortSignerInfo) =
      ascending (children.map sortSignerInfo) := by
  have hMembers : (ascending (children.map sortSignerInfo)).map sortSignerInfo =
      ascending (children.map sortSignerInfo) := by
    refine (List.map_congr_left ?_).trans (List.map_id _)
    intro member hMem
    obtain ⟨original, -, rfl⟩ := List.mem_map.mp ((ascending_perm _).mem_iff.mp hMem)
    exact sortSignerInfo_idem original
  rw [hMembers, ascending_idem]

theorem sortSignedDataField_idem (field : Value) :
    sortSignedDataField (sortSignedDataField field) = sortSignedDataField field := by
  cases field with
  | prim => rfl
  | cons tag hc hw children =>
      by_cases hImplicit : IsImplicit tag
      · simp only [sortSignedDataField, if_pos hImplicit, ascending_idem]
      · by_cases hSet : tag.first = 0x31
        · simp only [sortSignedDataField, if_neg hImplicit, if_pos hSet,
            ascending_map_sortSignerInfo_idem]
        · simp only [sortSignedDataField, if_neg hImplicit, if_neg hSet]

end Idempotent

section Rearranged

theorem forall₂_refl (children : List Value) : List.Forall₂ Rearranged children children := by
  have hInner : List.Forall₂ Rearranged children (children.map id) :=
    Rearranged.of_map fun child _ => Rearranged.refl child
  rwa [List.map_id] at hInner

theorem rearranged_ascending {tag : Tag} {hc hw} (children : List Value) :
    Rearranged (.cons tag hc hw children) (.cons tag hc hw (ascending children)) :=
  .cons (forall₂_refl children) (ascending_perm children).symm

theorem rearranged_map {tag : Tag} {hc hw} {f : Value → Value} {children : List Value}
    (h : ∀ child ∈ children, Rearranged child (f child)) :
    Rearranged (.cons tag hc hw children) (.cons tag hc hw (children.map f)) :=
  .cons (Rearranged.of_map h) (List.Perm.refl _)

theorem rearranged_sortSignerInfoField (field : Value) :
    Rearranged field (sortSignerInfoField field) := by
  cases field with
  | prim => exact .prim
  | cons tag hc hw children =>
      rw [sortSignerInfoField]
      split
      · exact rearranged_ascending children
      · exact Rearranged.refl _

theorem rearranged_sortSignerInfo (signerInfo : Value) :
    Rearranged signerInfo (sortSignerInfo signerInfo) := by
  cases signerInfo with
  | prim => exact .prim
  | cons tag hc hw children =>
      rw [sortSignerInfo]
      split
      · exact rearranged_map fun child _ => rearranged_sortSignerInfoField child
      · exact Rearranged.refl _

theorem rearranged_sortSignedDataField (field : Value) :
    Rearranged field (sortSignedDataField field) := by
  cases field with
  | prim => exact .prim
  | cons tag hc hw children =>
      rw [sortSignedDataField]
      split
      · exact rearranged_ascending children
      · split
        · exact .cons (Rearranged.of_map fun child _ => rearranged_sortSignerInfo child)
            (ascending_perm _).symm
        · exact Rearranged.refl _

theorem rearranged_fields (fields : List Value) :
    Rearranged (sequence fields) (sequence (fields.map sortSignedDataField)) :=
  rearranged_map fun field _ => rearranged_sortSignedDataField field

theorem rearranged_explicit (fields more : List Value) :
    Rearranged (context0 (sequence fields :: more))
      (context0 (sequence (fields.map sortSignedDataField) :: more)) :=
  .cons (.cons (rearranged_fields fields) (forall₂_refl more)) (List.Perm.refl _)

end Rearranged

section SetsAscending

theorem setsAscending_sortSignerInfoField {field : Value} (h : field.SetsAscending) :
    (sortSignerInfoField field).SetsAscending := by
  cases field with
  | prim => exact h
  | cons tag hc hw children =>
      rw [sortSignerInfoField]
      split
      · rename_i hImplicit
        obtain ⟨-, hEach⟩ := setsAscending_cons.mp h
        apply setsAscending_cons.mpr
        constructor
        · intro hSet
          rw [not_isSet_of_isImplicit hImplicit] at hSet
          cases hSet
        · intro child hMem
          exact hEach child ((ascending_perm children).mem_iff.mp hMem)
      · exact h

theorem forall_map {f : Value → Value} {p : Value → Prop} {children : List Value}
    (hf : ∀ value, p value → p (f value)) (h : ∀ child ∈ children, p child) :
    ∀ child ∈ children.map f, p child := by
  intro child hMem
  obtain ⟨original, hOriginal, rfl⟩ := List.mem_map.mp hMem
  exact hf original (h original hOriginal)

theorem setsAscending_sortSignerInfo {signerInfo : Value} (h : signerInfo.SetsAscending) :
    (sortSignerInfo signerInfo).SetsAscending := by
  cases signerInfo with
  | prim => exact h
  | cons tag hc hw children =>
      rw [sortSignerInfo]
      split
      · rename_i hSequence
        obtain ⟨-, hEach⟩ := setsAscending_cons.mp h
        apply setsAscending_cons.mpr
        constructor
        · intro hSet
          rw [Tag.isSet, hSequence] at hSet
          cases hSet
        · exact forall_map (fun _ => setsAscending_sortSignerInfoField) hEach
      · exact h

theorem setsAscending_sortSignedDataField {field : Value} (h : field.SetsAscending) :
    (sortSignedDataField field).SetsAscending := by
  cases field with
  | prim => exact h
  | cons tag hc hw children =>
      obtain ⟨-, hEach⟩ := setsAscending_cons.mp h
      rw [sortSignedDataField]
      apply setsAscending_cons.mpr
      constructor
      · intro hSet
        split
        · exact ascending_ascending _
        · split
          · exact ascending_ascending _
          · rename_i hNotSet
            exact absurd (by simpa [Tag.isSet] using hSet) hNotSet
      · split
        · intro child hMem
          exact hEach child ((ascending_perm children).mem_iff.mp hMem)
        · split
          · have hMembers := forall_map (f := sortSignerInfo) (p := SetsAscending)
              (fun _ => setsAscending_sortSignerInfo) hEach
            intro child hMem
            exact hMembers child ((ascending_perm _).mem_iff.mp hMem)
          · exact hEach

end SetsAscending

/-- What the pass makes of a ContentInfo. An empty `[0]` does not stop it: the
SignedData is then the element that follows. -/
inductive SetsSorted : Value → Value → Prop
  | otherContent {type : Value} {rest : List Value} (other : type ≠ oid idSignedData) :
      SetsSorted (sequence (type :: rest)) (sequence (type :: rest))
  | signedData {fields more rest : List Value} :
      SetsSorted (sequence (oid idSignedData :: context0 (sequence fields :: more) :: rest))
        (sequence (oid idSignedData ::
          context0 (sequence (fields.map sortSignedDataField) :: more) :: rest))
  | emptyExplicit {fields rest : List Value} :
      SetsSorted (sequence (oid idSignedData :: context0 [] :: sequence fields :: rest))
        (sequence (oid idSignedData :: context0 [] ::
          sequence (fields.map sortSignedDataField) :: rest))

namespace SetsSorted

theorem idem {before after : Value} (h : SetsSorted before after) : SetsSorted after after := by
  cases h with
  | otherContent other => exact .otherContent other
  | @signedData fields more rest =>
      have hAgain := @signedData (fields.map sortSignedDataField) more rest
      rw [map_idem sortSignedDataField_idem] at hAgain
      exact hAgain
  | @emptyExplicit fields rest =>
      have hAgain := @emptyExplicit (fields.map sortSignedDataField) rest
      rw [map_idem sortSignedDataField_idem] at hAgain
      exact hAgain

theorem rearranged {before after : Value} (h : SetsSorted before after) :
    Rearranged before after := by
  cases h with
  | otherContent => exact Rearranged.refl _
  | @signedData fields more rest =>
      exact .cons (.cons (Rearranged.refl _)
        (.cons (rearranged_explicit fields more) (forall₂_refl rest))) (List.Perm.refl _)
  | @emptyExplicit fields rest =>
      exact .cons (.cons (Rearranged.refl _) (.cons (Rearranged.refl _)
        (.cons (rearranged_fields fields) (forall₂_refl rest)))) (List.Perm.refl _)

theorem setsAscending_sequence {children : List Value} :
    (sequence children).SetsAscending ↔ ∀ child ∈ children, child.SetsAscending := by
  rw [sequence, setsAscending_cons]
  exact ⟨fun h => h.2, fun h => ⟨fun hSet => absurd hSet (by decide), h⟩⟩

theorem setsAscending_context0 {children : List Value} :
    (context0 children).SetsAscending ↔ ∀ child ∈ children, child.SetsAscending := by
  rw [context0, setsAscending_cons]
  exact ⟨fun h => h.2, fun h => ⟨fun hSet => absurd hSet (by decide), h⟩⟩

theorem setsAscending {before after : Value} (h : SetsSorted before after)
    (hBefore : before.SetsAscending) : after.SetsAscending := by
  have hFields : ∀ fields : List Value, (sequence fields).SetsAscending →
      (sequence (fields.map sortSignedDataField)).SetsAscending := by
    intro fields hSequence
    apply setsAscending_sequence.mpr
    exact forall_map (fun _ => setsAscending_sortSignedDataField)
      (setsAscending_sequence.mp hSequence)
  cases h with
  | otherContent => exact hBefore
  | @signedData fields more rest =>
      simp only [setsAscending_sequence, setsAscending_context0, List.forall_mem_cons]
        at hBefore hFields ⊢
      exact ⟨hBefore.1, ⟨hFields fields hBefore.2.1.1, hBefore.2.1.2⟩, hBefore.2.2⟩
  | @emptyExplicit fields rest =>
      simp only [setsAscending_sequence, setsAscending_context0, List.forall_mem_cons]
        at hBefore hFields ⊢
      exact ⟨hBefore.1, hBefore.2.1, hFields fields hBefore.2.2.1, hBefore.2.2.2⟩

end SetsSorted
end Smime.Cms
