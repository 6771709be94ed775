import Mathlib.Data.List.Basic

/-! UTF-8 as a machine that takes one octet at a time, and the conversion that puts
U+FFFD in the place of every sequence that the machine has to give up. -/
namespace Utf8

/-- The octets that may come next in a sequence that was begun. -/
inductive Continuation where
  | any
  | fromA0
  | upTo9F
  | from90
  | upTo8F
  deriving DecidableEq

/-- The least and the greatest of them. -/
def Continuation.bounds : Continuation → Nat × Nat
  | any => (0x80, 0xBF)
  | fromA0 => (0xA0, 0xBF)
  | upTo9F => (0x80, 0x9F)
  | from90 => (0x90, 0xBF)
  | upTo8F => (0x80, 0x8F)

def Continuation.Accepts (next : Continuation) (octet : UInt8) : Prop :=
  next.bounds.1 ≤ octet.toNat ∧ octet.toNat ≤ next.bounds.2

instance (next : Continuation) (octet : UInt8) : Decidable (next.Accepts octet) :=
  inferInstanceAs (Decidable (_ ∧ _))

/-- What comes behind the first of three or four octets: no longer form than needed,
no surrogate, nothing beyond U+10FFFF. -/
def second (first : UInt8) : Continuation :=
  if first.toNat = 0xE0 then .fromA0
  else if first.toNat = 0xED then .upTo9F
  else if first.toNat = 0xF0 then .from90
  else if first.toNat = 0xF4 then .upTo8F
  else .any

/-- What a first octet has behind it. -/
def owedBy (octet : UInt8) : Option (List Continuation) :=
  if octet.toNat < 0x80 then some []
  else if octet.toNat < 0xC2 then none
  else if octet.toNat < 0xE0 then some [.any]
  else if octet.toNat < 0xF0 then some [second octet, .any]
  else if octet.toNat < 0xF5 then some [second octet, .any, .any]
  else none

/-- One octet, where `owed` is still to come of a sequence. -/
def step : List Continuation → UInt8 → Option (List Continuation)
  | [], octet => owedBy octet
  | next :: owed, octet => if next.Accepts octet then some owed else none

def run (owed : List Continuation) (octets : List UInt8) : Option (List Continuation) :=
  octets.foldlM step owed

/-- Whole sequences and nothing else. -/
def WellFormed (octets : List UInt8) : Prop := run [] octets = some []

instance (octets : List UInt8) : Decidable (WellFormed octets) :=
  inferInstanceAs (Decidable (_ = _))

/-- U+FFFD. -/
def replacement : List UInt8 := [0xEF, 0xBF, 0xBD]

/-- What stands for a sequence that breaks off. -/
def brokenOff : List UInt8 → List UInt8
  | [] => []
  | _ => replacement

/-- The conversion behind `pending`, the start of a sequence of which `owed` is
still to come. -/
def lossyFrom (pending : List UInt8) (owed : List Continuation) : List UInt8 → List UInt8
  | [] => brokenOff pending
  | octet :: rest =>
      match step owed octet with
      | some [] => pending ++ octet :: lossyFrom [] [] rest
      | some owed => lossyFrom (pending ++ [octet]) owed rest
      | none =>
          -- The octet breaks the sequence off and is not part of it.
          brokenOff pending ++
            match owedBy octet with
            | some [] => octet :: lossyFrom [] [] rest
            | some owed => lossyFrom [octet] owed rest
            | none => replacement ++ lossyFrom [] [] rest

/-- `String::from_utf8_lossy`. -/
def fromUtf8Lossy (octets : List UInt8) : List UInt8 := lossyFrom [] [] octets

section Machine

theorem run_cons (owed : List Continuation) (octet : UInt8) (rest : List UInt8) :
    run owed (octet :: rest) = (step owed octet).bind fun owed => run owed rest := by
  rw [run, List.foldlM_cons]
  rfl

theorem run_append (owed : List Continuation) (octets rest : List UInt8) :
    run owed (octets ++ rest) = (run owed octets).bind fun owed => run owed rest := by
  rw [run, List.foldlM_append]
  rfl

theorem WellFormed.append {octets rest : List UInt8} (h : WellFormed octets)
    (hRest : WellFormed rest) : WellFormed (octets ++ rest) := by
  rw [WellFormed, run_append, h]
  exact hRest

theorem wellFormed_replacement : WellFormed replacement := by decide

/-- ASCII stands for itself. -/
theorem owedBy_ascii {octet : UInt8} (h : octet.toNat < 0x80) : owedBy octet = some [] := by
  rw [owedBy, if_pos h]

/-- No sequence goes on with ASCII. -/
theorem step_ascii {octet : UInt8} (h : octet.toNat < 0x80) (next : Continuation)
    (owed : List Continuation) : step (next :: owed) octet = none := by
  have hNot : ¬ next.Accepts octet := by
    rintro ⟨hLow, -⟩
    have hBound : 0x80 ≤ next.bounds.1 := by cases next <;> decide
    omega
  rw [step, if_neg hNot]

/-- ASCII comes between sequences only. -/
theorem run_ascii {octet : UInt8} (h : octet.toNat < 0x80) (owed : List Continuation)
    (rest : List UInt8) :
    run owed (octet :: rest) = if owed = [] then run [] rest else none := by
  rw [run_cons]
  cases owed with
  | nil => rw [step, owedBy_ascii h]; rfl
  | cons next owed => rw [step_ascii h]; rfl

end Machine

section Conversion

/-- `pending` is the start of a sequence of which `owed` is still to come. -/
structure Begun (pending : List UInt8) (owed : List Continuation) : Prop where
  reached : run [] pending = some owed
  whole : owed = [] → pending = []

theorem begun_nil : Begun [] [] := ⟨rfl, fun _ => rfl⟩

theorem Begun.snoc {pending : List UInt8} {owed later : List Continuation} {octet : UInt8}
    (h : Begun pending owed) (hStep : step owed octet = some later) (hLater : later ≠ []) :
    Begun (pending ++ [octet]) later := by
  refine ⟨?_, fun hNil => absurd hNil hLater⟩
  rw [run_append, h.reached, Option.bind_some, run_cons, hStep]
  rfl

theorem Begun.finished {pending : List UInt8} {owed : List Continuation} {octet : UInt8}
    (h : Begun pending owed) (hStep : step owed octet = some []) :
    WellFormed (pending ++ [octet]) := by
  rw [WellFormed, run_append, h.reached, Option.bind_some, run_cons, hStep]
  rfl

theorem wellFormed_brokenOff (pending : List UInt8) : WellFormed (brokenOff pending) := by
  cases pending with
  | nil => rfl
  | cons => exact wellFormed_replacement

/-- The conversion gives whole sequences. -/
theorem wellFormed_lossyFrom {pending : List UInt8} {owed : List Continuation}
    (octets : List UInt8) (h : Begun pending owed) :
    WellFormed (lossyFrom pending owed octets) := by
  induction octets generalizing pending owed with
  | nil => exact wellFormed_brokenOff pending
  | cons octet rest ih =>
      rw [lossyFrom]
      split
      next hStep =>
        rw [List.append_cons]
        exact (h.finished hStep).append (ih begun_nil)
      next later hNot hStep => exact ih (h.snoc hStep hNot)
      next =>
        refine (wellFormed_brokenOff pending).append ?_
        split
        next hFirst => exact (begun_nil.finished hFirst).append (ih begun_nil)
        next later hNot hFirst => exact ih (begun_nil.snoc hFirst hNot)
        next => exact wellFormed_replacement.append (ih begun_nil)

/-- The conversion keeps what it need not give up. -/
theorem lossyFrom_of_run {pending : List UInt8} {owed : List Continuation} {octets : List UInt8}
    (h : Begun pending owed) (hRun : run owed octets = some []) :
    lossyFrom pending owed octets = pending ++ octets := by
  induction octets generalizing pending owed with
  | nil =>
      obtain rfl : owed = [] := Option.some.inj hRun
      rw [h.whole rfl]
      rfl
  | cons octet rest ih =>
      rw [run_cons, Option.bind_eq_some_iff] at hRun
      obtain ⟨later, hStep, hRest⟩ := hRun
      rw [lossyFrom, hStep]
      cases later with
      | nil =>
          dsimp only
          rw [ih begun_nil hRest, List.nil_append]
      | cons next later =>
          dsimp only
          rw [ih (h.snoc hStep (List.cons_ne_nil next later)) hRest, List.append_assoc,
            List.singleton_append]

/-- The conversion changes nothing exactly when there is nothing to replace. -/
theorem fromUtf8Lossy_eq_self_iff {octets : List UInt8} :
    fromUtf8Lossy octets = octets ↔ WellFormed octets := by
  constructor
  · intro h
    rw [← h]
    exact wellFormed_lossyFrom octets begun_nil
  · exact lossyFrom_of_run begun_nil

/-- What stands in front of ASCII is converted on its own. -/
theorem lossyFrom_append_ascii {ascii : UInt8} (hAscii : ascii.toNat < 0x80) (octets rest : List UInt8)
    {pending : List UInt8} {owed : List Continuation} (h : Begun pending owed) :
    lossyFrom pending owed (octets ++ ascii :: rest) =
      lossyFrom pending owed octets ++ ascii :: fromUtf8Lossy rest := by
  induction octets generalizing pending owed with
  | nil =>
      rw [List.nil_append, lossyFrom, lossyFrom]
      cases owed with
      | nil =>
          rw [h.whole rfl, step, owedBy_ascii hAscii]
          rfl
      | cons next owed =>
          rw [step_ascii hAscii, owedBy_ascii hAscii]
          rfl
  | cons octet octets ih =>
      rw [List.cons_append, lossyFrom, lossyFrom]
      split
      next => rw [ih begun_nil, List.append_assoc, List.cons_append]
      next later hNot hStep => exact ih (h.snoc hStep hNot)
      next =>
        rw [List.append_assoc]
        congr 1
        split
        next => rw [ih begun_nil, List.cons_append]
        next later hNot hFirst => exact ih (begun_nil.snoc hFirst hNot)
        next => rw [ih begun_nil, List.append_assoc]

theorem fromUtf8Lossy_append_ascii {ascii : UInt8} (hAscii : ascii.toNat < 0x80)
    (octets rest : List UInt8) :
    fromUtf8Lossy (octets ++ ascii :: rest) =
      fromUtf8Lossy octets ++ ascii :: fromUtf8Lossy rest :=
  lossyFrom_append_ascii hAscii octets rest begun_nil

end Conversion

end Utf8
