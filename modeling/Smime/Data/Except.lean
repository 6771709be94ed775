import Smime.Data.Lists

/-! Inversion of monadic steps that may fail. -/
namespace Except

universe u v
variable {ε : Type u} {α β : Type v}

theorem bind_eq_ok_iff {x : Except ε α} {f : α → Except ε β} {b : β} :
    (x >>= f) = .ok b ↔ ∃ a, x = .ok a ∧ f a = .ok b := by
  cases x with
  | error err => simp [bind, Except.bind]
  | ok a => simp [bind, Except.bind]

@[simp] theorem ok_bind' (a : α) (f : α → Except ε β) : ((.ok a : Except ε α) >>= f) = f a := rfl

@[simp] theorem error_bind' (err : ε) (f : α → Except ε β) :
    ((.error err : Except ε α) >>= f) = .error err := rfl

@[simp] theorem pure_eq_ok' (a : α) : (pure a : Except ε α) = .ok a := rfl

@[simp] theorem mapError_eq_ok_iff {ε' : Type u} {f : ε → ε'} {x : Except ε α} {a : α} :
    x.mapError f = .ok a ↔ x = .ok a := by
  cases x with
  | error err => simp [Except.mapError]
  | ok b => simp [Except.mapError]

/-- A run of fallible steps over a list, as a relation between elements. -/
theorem mapM_eq_ok_iff {f : α → Except ε β} {as : List α} {bs : List β} :
    as.mapM f = .ok bs ↔ List.Forall₂ (fun a b => f a = .ok b) as bs := by
  induction as generalizing bs with
  | nil =>
      rw [List.mapM_nil, List.forall₂_nil_left_iff, pure_eq_ok', Except.ok.injEq]
      exact eq_comm
  | cons a rest ih =>
      simp only [List.mapM_cons, bind_eq_ok_iff, ih, pure_eq_ok', Except.ok.injEq]
      constructor
      · rintro ⟨b, hb, others, hOthers, rfl⟩
        exact .cons hb hOthers
      · intro h
        cases h with
        | cons hb hOthers => exact ⟨_, hb, _, hOthers, rfl⟩

/-- Elements related one by one are the two sides of a list of related pairs. -/
theorem forall₂_ok_iff_pairs {f : α → Except ε β} {as : List α} {bs : List β} :
    List.Forall₂ (fun a b => f a = .ok b) as bs ↔
      ∃ pairs : List (β × α), as = pairs.map Prod.snd ∧ bs = pairs.map Prod.fst ∧
        ∀ pair ∈ pairs, f pair.2 = .ok pair.1 := by
  constructor
  · intro h
    induction h with
    | nil => exact ⟨[], rfl, rfl, by simp⟩
    | @cons a b _ _ hab _ ih =>
        obtain ⟨pairs, rfl, rfl, hPairs⟩ := ih
        exact ⟨(b, a) :: pairs, rfl, rfl, List.forall_mem_cons.mpr ⟨hab, hPairs⟩⟩
  · rintro ⟨pairs, rfl, rfl, hPairs⟩
    rw [List.forall₂_map_left_iff, List.forall₂_map_right_iff, List.forall₂_same]
    exact hPairs

/-- Every error of `x` satisfies `P`. -/
def FailsOnly (P : ε → Prop) (x : Except ε α) : Prop := ∀ err, x = .error err → P err

namespace FailsOnly

variable {P : ε → Prop}

theorem ok (a : α) : FailsOnly P (.ok a : Except ε α) := by
  intro err hErr
  cases hErr

theorem error {err : ε} (h : P err) : FailsOnly P (.error err : Except ε α) := by
  intro other hOther
  cases hOther
  exact h

theorem bind_of {x : Except ε α} {f : α → Except ε β} (hx : FailsOnly P x)
    (hf : ∀ a, x = .ok a → FailsOnly P (f a)) : FailsOnly P (x >>= f) := by
  cases x with
  | error err => exact error (hx err rfl)
  | ok a => exact hf a rfl

theorem bind {x : Except ε α} {f : α → Except ε β} (hx : FailsOnly P x)
    (hf : ∀ a, FailsOnly P (f a)) : FailsOnly P (x >>= f) :=
  hx.bind_of fun a _ => hf a

theorem mapError {ε' : Type u} {f : ε' → ε} (h : ∀ err, P (f err)) (x : Except ε' α) :
    FailsOnly P (x.mapError f) := by
  cases x with
  | error err => exact error (h err)
  | ok a => exact ok a

theorem mapError_of {ε' : Type u} {Q : ε' → Prop} {f : ε' → ε} {x : Except ε' α}
    (hx : FailsOnly Q x) (h : ∀ err, Q err → P (f err)) : FailsOnly P (x.mapError f) := by
  cases x with
  | error err => exact error (h err (hx err rfl))
  | ok a => exact ok a

theorem ite_of {c : Prop} [Decidable c] {x y : Except ε α} (hx : c → FailsOnly P x)
    (hy : ¬c → FailsOnly P y) : FailsOnly P (if c then x else y) := by
  by_cases h : c
  · rw [if_pos h]
    exact hx h
  · rw [if_neg h]
    exact hy h

theorem ite {c : Prop} [Decidable c] {x y : Except ε α} (hx : FailsOnly P x)
    (hy : FailsOnly P y) : FailsOnly P (if c then x else y) :=
  .ite_of (fun _ => hx) fun _ => hy

theorem mapM {f : α → Except ε β} (h : ∀ a, FailsOnly P (f a)) (as : List α) :
    FailsOnly P (as.mapM f) := by
  induction as with
  | nil => exact ok _
  | cons a rest ih =>
      rw [List.mapM_cons]
      exact (h a).bind fun _ => ih.bind fun _ => ok _

end FailsOnly

end Except

namespace Smime

/-- `Option::ok_or`. -/
def orError {ε α : Type} (err : ε) : Option α → Except ε α
  | some a => .ok a
  | none => .error err

theorem orError_failsOnly {ε α : Type} {P : ε → Prop} {err : ε} (h : P err) (value : Option α) :
    Except.FailsOnly P (orError err value) := by
  cases value with
  | none => exact .error h
  | some a => exact .ok a

@[simp] theorem orError_eq_ok_iff {ε α : Type} {err : ε} {value : Option α} {a : α} :
    orError err value = .ok a ↔ value = some a := by
  cases value with
  | none => simp [orError]
  | some b => simp [orError]

theorem exists_error_of_not_ok {ε α : Type} {result : Except ε α} (h : ∀ a, result ≠ .ok a) :
    ∃ e, result = .error e := by
  cases result with
  | ok a => exact absurd rfl (h a)
  | error e => exact ⟨e, rfl⟩

theorem toOption_eq_some_iff {ε α : Type} {x : Except ε α} {a : α} :
    x.toOption = some a ↔ x = .ok a := by
  cases x <;> simp [Except.toOption]

theorem toOption_ok {ε α : Type} (a : α) : (Except.ok a : Except ε α).toOption = some a := rfl

theorem mapM_eq_some_iff {α β : Type} {f : α → Option β} {as : List α} {bs : List β} :
    as.mapM f = some bs ↔ List.Forall₂ (fun a b => f a = some b) as bs := by
  induction as generalizing bs with
  | nil => cases bs <;> simp
  | cons a as ih =>
      rw [List.mapM_cons, Option.bind_eq_bind, Option.bind_eq_some_iff, List.forall₂_cons_left_iff]
      apply exists_congr
      intro b
      rw [Option.bind_eq_bind, Option.bind_eq_some_iff]
      constructor
      · rintro ⟨hHead, rest, hRest, hSome⟩
        cases hSome
        exact ⟨rest, hHead, ih.mp hRest, rfl⟩
      · rintro ⟨rest, hHead, hRest, rfl⟩
        exact ⟨hHead, rest, ih.mpr hRest, rfl⟩

section FirstFound

variable {ε α β γ : Type}

/-- The first item that is found, unless one fails before it. -/
theorem findSomeM?_append {f : α → Except ε (Option β)} (xs ys : List α) :
    (xs ++ ys).findSomeM? f =
      (xs.findSomeM? f >>= fun found =>
        match found with
        | some b => .ok (some b)
        | none => ys.findSomeM? f) := by
  induction xs with
  | nil => rfl
  | cons x rest ih =>
      rw [List.cons_append, List.findSomeM?_cons, List.findSomeM?_cons, ih]
      cases f x with
      | error err => rfl
      | ok found =>
          cases found with
          | some b => rfl
          | none => rfl

theorem findSomeM?_map {f : β → Except ε (Option γ)} {g : α → β} (xs : List α) :
    (xs.map g).findSomeM? f = xs.findSomeM? fun x => f (g x) := by
  induction xs with
  | nil => rfl
  | cons x rest ih => rw [List.map_cons, List.findSomeM?_cons, List.findSomeM?_cons, ih]

/-- What a search through containers comes across: for a container that cannot be
read its error, else what becomes of each of its elements. -/
def itemsOf (parse : γ → Except ε (List α)) (step : α → Except ε (Option β)) (container : γ) :
    List (Except ε (Option β)) :=
  match parse container with
  | .error err => [.error err]
  | .ok elements => elements.map step

theorem mem_itemsOf {parse : γ → Except ε (List α)} {step : α → Except ε (Option β)}
    {container : γ} {b : β} :
    .ok (some b) ∈ itemsOf parse step container ↔
      ∃ elements, parse container = .ok elements ∧ ∃ x ∈ elements, step x = .ok (some b) := by
  unfold itemsOf
  cases parse container with
  | error err => simp
  | ok elements => simp

/-- A search through containers is one through all that it comes across, in order. -/
theorem findSomeM?_containers (parse : γ → Except ε (List α)) (step : α → Except ε (Option β))
    (containers : List γ) :
    (containers.findSomeM? fun container => do
        let elements ← parse container
        elements.findSomeM? step) =
      (containers.flatMap (itemsOf parse step)).findSomeM? id := by
  induction containers with
  | nil => rfl
  | cons container rest ih =>
      rw [List.findSomeM?_cons, List.flatMap_cons, findSomeM?_append, ih]
      unfold itemsOf
      cases parse container with
      | error err => rfl
      | ok elements =>
          dsimp only
          rw [findSomeM?_map, Except.ok_bind']
          rfl

/-- A search finds something exactly when there is something to find, and behind
some of it every failure. -/
theorem exists_findSomeM?_id_iff {items : List (Except ε (Option β))} :
    (∃ b, items.findSomeM? id = .ok (some b)) ↔
      (∃ b, .ok (some b) ∈ items) ∧
        ∀ before err behind, items = before ++ .error err :: behind →
          ∃ b, .ok (some b) ∈ before := by
  induction items with
  | nil => simp
  | cons item rest ih =>
      rw [List.findSomeM?_cons, id]
      rcases item with err | _ | b
      · constructor
        · rintro ⟨b, ⟨⟩⟩
        · rintro ⟨-, hBehind⟩
          obtain ⟨b, hMem⟩ := hBehind [] err rest rfl
          cases hMem
      · rw [Except.ok_bind']
        refine ih.trans (and_congr (by simp) ⟨?_, ?_⟩)
        · intro hBehind before err behind hEq
          rcases List.cons_eq_append_iff.mp hEq with ⟨rfl, hHead⟩ | ⟨before', rfl, hRest⟩
          · cases hHead
          · obtain ⟨b, hMem⟩ := hBehind before' err behind hRest
            exact ⟨b, List.mem_cons_of_mem _ hMem⟩
        · intro hBehind before err behind hEq
          obtain ⟨b, hMem⟩ := hBehind (.ok none :: before) err behind (by rw [hEq]; rfl)
          exact ⟨b, by simpa using hMem⟩
      · refine iff_of_true ⟨b, rfl⟩ ⟨⟨b, List.mem_cons_self⟩, ?_⟩
        intro before err behind hEq
        rcases List.cons_eq_append_iff.mp hEq with ⟨rfl, hHead⟩ | ⟨before', rfl, -⟩
        · cases hHead
        · exact ⟨b, List.mem_cons_self⟩

end FirstFound

end Smime
