import Mathlib.Data.List.Forall2

/-! Lists whose elements are related one by one. -/
namespace List.Forall₂

variable {α β : Type} {R S : α → β → Prop} {as : List α} {bs : List β}

theorem exists_right (h : List.Forall₂ R as bs) {a : α} (hMem : a ∈ as) : ∃ b ∈ bs, R a b := by
  induction h with
  | nil => cases hMem
  | cons hHead _ ih =>
      rcases List.mem_cons.mp hMem with rfl | hRest
      · exact ⟨_, List.mem_cons_self, hHead⟩
      · obtain ⟨b, hb, hab⟩ := ih hRest
        exact ⟨b, List.mem_cons_of_mem _ hb, hab⟩

theorem exists_left (h : List.Forall₂ R as bs) {b : β} (hMem : b ∈ bs) : ∃ a ∈ as, R a b :=
  h.flip.exists_right hMem

theorem imp_mem (h : List.Forall₂ R as bs) (hImp : ∀ a ∈ as, ∀ b, R a b → S a b) :
    List.Forall₂ S as bs := by
  induction h with
  | nil => exact .nil
  | cons hHead _ ih =>
      obtain ⟨hFirst, hRest⟩ := List.forall_mem_cons.mp hImp
      exact .cons (hFirst _ hHead) (ih hRest)

variable {γ : Type}

theorem comp {T : β → γ → Prop} {cs : List γ} (h : List.Forall₂ R as bs)
    (hNext : List.Forall₂ T bs cs) : List.Forall₂ (fun a c => ∃ b, R a b ∧ T b c) as cs := by
  induction h generalizing cs with
  | nil =>
      cases hNext
      exact .nil
  | cons hHead _ ih =>
      cases hNext with
      | cons hSecond hRest => exact .cons ⟨_, hHead, hSecond⟩ (ih hRest)

theorem flatMap_of_forall {P : β → γ → Prop} {f : α → List β} {g : α → List γ}
    (h : ∀ a ∈ as, List.Forall₂ P (f a) (g a)) : List.Forall₂ P (as.flatMap f) (as.flatMap g) := by
  induction as with
  | nil => exact .nil
  | cons a rest ih =>
      obtain ⟨hHead, hRest⟩ := List.forall_mem_cons.mp h
      rw [List.flatMap_cons, List.flatMap_cons]
      exact List.rel_append hHead (ih hRest)

theorem mapIdx_eq {f : Nat → α → γ} {g : Nat → β → γ} (h : List.Forall₂ R as bs)
    (hEach : ∀ idx a b, R a b → f idx a = g idx b) : as.mapIdx f = bs.mapIdx g := by
  induction h generalizing f g with
  | nil => rfl
  | cons hHead _ ih =>
      rw [List.mapIdx_cons, List.mapIdx_cons, hEach 0 _ _ hHead,
        ih fun idx a b => hEach (idx + 1) a b]

theorem any_eq {p : α → Bool} {q : β → Bool} (h : List.Forall₂ R as bs)
    (hEach : ∀ a b, R a b → p a = q b) : as.any p = bs.any q := by
  induction h with
  | nil => rfl
  | cons hHead _ ih => rw [List.any_cons, List.any_cons, hEach _ _ hHead, ih]

theorem all_eq {p : α → Bool} {q : β → Bool} (h : List.Forall₂ R as bs)
    (hEach : ∀ a b, R a b → p a = q b) : as.all p = bs.all q := by
  induction h with
  | nil => rfl
  | cons hHead _ ih => rw [List.all_cons, List.all_cons, hEach _ _ hHead, ih]

theorem findIdx?_eq {p : α → Bool} {q : β → Bool} (h : List.Forall₂ R as bs)
    (hEach : ∀ a b, R a b → p a = q b) : as.findIdx? p = bs.findIdx? q := by
  induction h with
  | nil => rfl
  | cons hHead _ ih => rw [List.findIdx?_cons, List.findIdx?_cons, hEach _ _ hHead, ih]

/-- Related lists have related first hits. -/
theorem rel_find? {p : α → Bool} {q : β → Bool} (h : List.Forall₂ R as bs)
    (hEach : ∀ a b, R a b → p a = q b) : Option.Rel R (as.find? p) (bs.find? q) := by
  induction h with
  | nil => exact .none
  | @cons a b as bs hHead _ ih =>
      have hSame := hEach a b hHead
      cases hHit : p a with
      | true =>
          rw [List.find?_cons_of_pos hHit, List.find?_cons_of_pos (hSame ▸ hHit)]
          exact .some hHead
      | false =>
          rw [List.find?_cons_of_neg (by simp [hHit]),
            List.find?_cons_of_neg (by simp [← hSame, hHit])]
          exact ih

theorem rel_getElem? (h : List.Forall₂ R as bs) (i : Nat) : Option.Rel R as[i]? bs[i]? := by
  induction h generalizing i with
  | nil => exact .none
  | cons hHead _ ih =>
      cases i with
      | zero => exact .some hHead
      | succ i => exact ih i

end List.Forall₂

theorem List.eq_of_perm_of_forall_eq {α : Type} {xs ys : List α} (h : ys.Perm xs)
    (hSame : ∀ x ∈ xs, ∀ y ∈ xs, x = y) : ys = xs := by
  cases xs with
  | nil => exact h.eq_nil
  | cons x rest =>
      have hReplicate : x :: rest = List.replicate (rest.length + 1) x :=
        List.eq_replicate_iff.mpr ⟨rfl, fun y hMem => hSame y hMem x List.mem_cons_self⟩
      rw [hReplicate] at h ⊢
      exact List.perm_replicate.mp h

namespace Option

variable {α β γ : Type} {R : α → β → Prop} {x : Option α} {y : Option β}

theorem map_eq_of_rel {f : α → γ} {g : β → γ} (h : Option.Rel R x y)
    (hEach : ∀ a b, R a b → f a = g b) : x.map f = y.map g := by
  cases h with
  | none => rfl
  | some hBoth => exact congrArg some (hEach _ _ hBoth)

theorem exists_some_of_rel (h : Option.Rel R x y) {a : α} (hx : x = some a) :
    ∃ b, y = some b ∧ R a b := by
  cases h with
  | none => cases hx
  | some hBoth =>
      cases hx
      exact ⟨_, rfl, hBoth⟩

theorem forall₂_toList_of_rel (h : Option.Rel R x y) : List.Forall₂ R x.toList y.toList := by
  cases h with
  | none => exact .nil
  | some hBoth => exact .cons hBoth .nil

theorem eq_none_of_rel (h : Option.Rel R x y) (hx : x = none) : y = none := by
  cases h with
  | none => rfl
  | some hBoth => cases hx

theorem perm_getD_of_rel {field other : Option (List α)} (h : Option.Rel List.Perm field other) :
    (other.getD []).Perm (field.getD []) := by
  cases h with
  | none => exact .refl _
  | some hPerm => exact hPerm.symm

end Option
