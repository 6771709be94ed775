import Smime.Data.Except

/-! Calls of functions that return a `Result` and index, slice and calculate on
the way. Such a call returns, or it does not: because of a panic, or because a
loop goes on. Slices are lists; `usize` is a number of values. -/
universe u

/-- `none` when the call does not return. -/
abbrev Call (ε α : Type u) := ExceptT ε Option α

namespace Call

variable {ε α β : Type u}

def panic : Call ε α := ExceptT.mk none

def returned (result : Except ε α) : Call ε α := ExceptT.mk (some result)

def ok (a : α) : Call ε α := returned (.ok a)

def error (err : ε) : Call ε α := returned (.error err)

@[simp] theorem returned_ok (a : α) : (returned (.ok a) : Call ε α) = ok a := rfl

@[simp] theorem returned_error (err : ε) : (returned (.error err) : Call ε α) = error err := rfl

@[simp] theorem pure_eq_ok (a : α) : (pure a : Call ε α) = ok a := rfl

@[simp] theorem ok_bind (a : α) (f : α → Call ε β) : (ok a >>= f) = f a := rfl

@[simp] theorem error_bind (err : ε) (f : α → Call ε β) : (error err >>= f) = error err := rfl

theorem bind_eq_ok_iff {x : Call ε α} {f : α → Call ε β} {b : β} :
    (x >>= f) = ok b ↔ ∃ a, x = ok a ∧ f a = ok b := by
  constructor
  · intro h
    rcases x with _ | err | a
    · cases h
    · cases h
    · exact ⟨a, rfl, h⟩
  · rintro ⟨a, rfl, h⟩
    exact h

theorem returned_eq_ok_iff {x : Except ε α} {a : α} : returned x = ok a ↔ x = .ok a := by
  constructor
  · intro h
    cases h
    rfl
  · rintro rfl
    rfl

/-- A call that returns, then one that does for every value of the first. -/
theorem bind_returned {x : Call ε α} {f : α → Call ε β} {y : Except ε α} {g : α → Except ε β}
    (hx : x = returned y) (hf : ∀ a, y = .ok a → f a = returned (g a)) :
    (x >>= f) = returned (y >>= g) := by
  subst hx
  cases y with
  | ok a => exact hf a rfl
  | error err => rfl

theorem ite_returned {c : Prop} [Decidable c] {x y : Call ε α} {x' y' : Except ε α}
    (hx : c → x = returned x') (hy : ¬c → y = returned y') :
    (if c then x else y) = returned (if c then x' else y') := by
  by_cases h : c
  · rw [if_pos h, if_pos h, hx h]
  · rw [if_neg h, if_neg h, hy h]

section Slices

variable {γ : Type} {ε : Type}

/-- `xs[i]`. -/
def index (xs : List γ) (i : Nat) : Call ε γ :=
  match xs[i]? with
  | some x => ok x
  | none => panic

/-- `xs[start..stop]`. -/
def slice (xs : List γ) (start stop : Nat) : Call ε (List γ) :=
  if start ≤ stop ∧ stop ≤ xs.length then ok ((xs.drop start).take (stop - start)) else panic

/-- `xs[start..]`. -/
def sliceFrom (xs : List γ) (start : Nat) : Call ε (List γ) :=
  if start ≤ xs.length then ok (xs.drop start) else panic

/-- `xs[..stop]`. -/
def sliceTo (xs : List γ) (stop : Nat) : Call ε (List γ) :=
  if stop ≤ xs.length then ok (xs.take stop) else panic

/-- `xs[start..stop].copy_from_slice(ys)`. -/
def copyInto (xs : List γ) (start stop : Nat) (ys : List γ) : Call ε (List γ) :=
  if start ≤ stop ∧ stop ≤ xs.length ∧ ys.length = stop - start then
    ok (xs.take start ++ (ys ++ xs.drop stop))
  else panic

/-- `xs[i] = x`. -/
def set (xs : List γ) (i : Nat) (x : γ) : Call ε (List γ) :=
  if i < xs.length then ok (xs.set i x) else panic

theorem index_of_lt {xs : List γ} {i : Nat} (h : i < xs.length) :
    (index xs i : Call ε γ) = ok xs[i] := by
  rw [index, List.getElem?_eq_getElem h]

theorem index_of_drop {xs rest : List γ} {x : γ} {i : Nat} (h : xs.drop i = x :: rest) :
    (index xs i : Call ε γ) = ok x := by
  rw [index, ← List.head?_drop, h]
  rfl

theorem slice_of_le {xs : List γ} {start stop : Nat} (hStart : start ≤ stop)
    (hStop : stop ≤ xs.length) :
    (slice xs start stop : Call ε (List γ)) = ok ((xs.drop start).take (stop - start)) :=
  if_pos ⟨hStart, hStop⟩

theorem sliceFrom_of_le {xs : List γ} {start : Nat} (h : start ≤ xs.length) :
    (sliceFrom xs start : Call ε (List γ)) = ok (xs.drop start) :=
  if_pos h

theorem sliceTo_of_le {xs : List γ} {stop : Nat} (h : stop ≤ xs.length) :
    (sliceTo xs stop : Call ε (List γ)) = ok (xs.take stop) :=
  if_pos h

theorem copyInto_of_le {xs ys : List γ} {start stop : Nat} (hStart : start ≤ stop)
    (hStop : stop ≤ xs.length) (hLength : ys.length = stop - start) :
    (copyInto xs start stop ys : Call ε (List γ)) = ok (xs.take start ++ (ys ++ xs.drop stop)) :=
  if_pos ⟨hStart, hStop, hLength⟩

theorem set_of_lt {xs : List γ} {i : Nat} {x : γ} (h : i < xs.length) :
    (set xs i x : Call ε (List γ)) = ok (xs.set i x) :=
  if_pos h

end Slices

section Arithmetic

variable {ε : Type}

/-- `a + b` in an integer type of `size` values. -/
def add (size a b : Nat) : Call ε Nat := if a + b < size then ok (a + b) else panic

def sub (a b : Nat) : Call ε Nat := if b ≤ a then ok (a - b) else panic

def mul (size a b : Nat) : Call ε Nat := if a * b < size then ok (a * b) else panic

/-- `a >> shift` in an integer type of `bits` bits. -/
def shr (bits a shift : Nat) : Call ε Nat := if shift < bits then ok (a >>> shift) else panic

theorem add_of_lt {size a b : Nat} (h : a + b < size) : (add size a b : Call ε Nat) = ok (a + b) :=
  if_pos h

theorem sub_of_le {a b : Nat} (h : b ≤ a) : (sub a b : Call ε Nat) = ok (a - b) :=
  if_pos h

theorem mul_of_lt {size a b : Nat} (h : a * b < size) : (mul size a b : Call ε Nat) = ok (a * b) :=
  if_pos h

theorem shr_of_lt {bits a shift : Nat} (h : shift < bits) :
    (shr bits a shift : Call ε Nat) = ok (a >>> shift) :=
  if_pos h

end Arithmetic

end Call
