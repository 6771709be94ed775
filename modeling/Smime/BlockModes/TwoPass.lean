import Mathlib.Logic.Equiv.Defs
import Smime.BlockModes.Cbc

/-! Cipher block chaining twice over whole blocks, the second time from the last
block of the first, and how it is undone from the end: the last block gives the
initialization vector of the others. -/
namespace Smime.BlockModes

section Chaining

variable {enc dec : List UInt8 → List UInt8} {size : Nat}

theorem exists_append_two {α : Type} {xs : List α} (h : 2 ≤ xs.length) :
    ∃ before a b, xs = (before ++ [a]) ++ [b] := by
  rcases List.eq_nil_or_concat xs with rfl | ⟨rest, b, rfl⟩
  · exact absurd h (by simp)
  · rcases List.eq_nil_or_concat rest with rfl | ⟨before, a, rfl⟩
    · exact absurd h (by simp)
    · exact ⟨before, a, b, by simp⟩

@[simp] theorem length_encryptBlocks (iv : List UInt8) (parts : List (List UInt8)) :
    (encryptBlocks enc iv parts).length = parts.length := by
  induction parts generalizing iv with
  | nil => rfl
  | cons part rest ih => simp only [encryptBlocks, List.length_cons, ih]

/-- The block before a chain is all that it needs of what comes before. -/
theorem decryptBlocks_append (iv : List UInt8) (before behind : List (List UInt8)) :
    decryptBlocks dec iv (before ++ behind) =
      decryptBlocks dec iv before ++ decryptBlocks dec (before.getLast?.getD iv) behind := by
  induction before generalizing iv with
  | nil => rfl
  | cons part rest ih =>
      have hLast : (part :: rest).getLast?.getD iv = rest.getLast?.getD part := by
        rw [List.getLast?_cons, Option.getD_some]
      rw [List.cons_append, decryptBlocks, ih, hLast, decryptBlocks, List.cons_append]

/-- The vector of the second pass. -/
def secondIv (iv : List UInt8) (once : List (List UInt8)) : List UInt8 := once.getLast?.getD iv

def encryptTwice (enc : List UInt8 → List UInt8) (iv : List UInt8) (parts : List (List UInt8)) :
    List (List UInt8) :=
  encryptBlocks enc (secondIv iv (encryptBlocks enc iv parts)) (encryptBlocks enc iv parts)

theorem length_secondIv {iv : List UInt8} {once : List (List UInt8)} (hIv : iv.length = size)
    (hOnce : ∀ part ∈ once, part.length = size) : (secondIv iv once).length = size := by
  cases hLast : once.getLast? with
  | none =>
      rw [secondIv, hLast]
      exact hIv
  | some last =>
      rw [secondIv, hLast]
      exact hOnce last (List.mem_of_getLast? hLast)

/-- Undoing the second pass from its end. -/
theorem decryptBlocks_twice (hLength : ∀ block, block.length = size → (enc block).length = size)
    (hInverse : ∀ block, block.length = size → dec (enc block) = block) {iv : List UInt8}
    {once before : List (List UInt8)} {final : List UInt8} (hIv : iv.length = size)
    (hOnce : ∀ part ∈ once, part.length = size) (hBefore : before ≠ [])
    (h : encryptBlocks enc (secondIv iv once) once = before ++ [final]) :
    xorBlock (before.getLast hBefore) (dec final) = secondIv iv once ∧
      decryptBlocks dec (secondIv iv once) before ++ [secondIv iv once] = once := by
  have hUndone := decryptBlocks_encryptBlocks hLength hInverse (length_secondIv hIv hOnce) hOnce
  rw [h, decryptBlocks_append, List.getLast?_eq_some_getLast hBefore, Option.getD_some] at hUndone
  simp only [decryptBlocks] at hUndone
  have hLast : secondIv iv once = xorBlock (before.getLast hBefore) (dec final) := by
    conv_lhs => rw [secondIv, ← hUndone, List.getLast?_concat]
    rfl
  refine ⟨hLast.symm, ?_⟩
  rw [← hLast] at hUndone
  exact hUndone

end Chaining

section Permutations

variable {size : Nat}

/-- A permutation of the blocks, left out of account for anything else. -/
def onBlocks (permutation : Equiv.Perm { block : List UInt8 // block.length = size })
    (block : List UInt8) : List UInt8 :=
  if h : block.length = size then (permutation ⟨block, h⟩).val else block

variable {permutation : Equiv.Perm { block : List UInt8 // block.length = size }}
  {block : List UInt8}

theorem length_onBlocks (h : block.length = size) : (onBlocks permutation block).length = size := by
  rw [onBlocks, dif_pos h]
  exact (permutation ⟨block, h⟩).property

theorem onBlocks_symm (h : block.length = size) :
    onBlocks permutation.symm (onBlocks permutation block) = block := by
  have hBlock : onBlocks permutation block = (permutation ⟨block, h⟩).val := dif_pos h
  rw [onBlocks, dif_pos (length_onBlocks h)]
  simp only [hBlock, Subtype.coe_eta, Equiv.symm_apply_apply]

end Permutations

section Modes

variable (size : Nat) (enc : List UInt8 → List UInt8)

/-- Without padding: the data has to be whole blocks. -/
def cbcEncryptRaw (iv data : List UInt8) : Option (List UInt8) :=
  if data.length % size = 0 then some (encryptBlocks enc iv (toBlocks size data)).flatten else none

variable {size enc} {dec : List UInt8 → List UInt8}

theorem cbcEncryptRaw_flatten (hSize : 0 < size) {parts : List (List UInt8)}
    (hParts : ∀ part ∈ parts, part.length = size) (iv : List UInt8) :
    cbcEncryptRaw size enc iv parts.flatten = some (encryptBlocks enc iv parts).flatten := by
  have hWhole : parts.flatten.length % size = 0 := by
    rw [length_flatten_of hParts, Nat.mul_mod_left]
  rw [cbcEncryptRaw, if_pos hWhole, toBlocks_flatten hSize hParts]

theorem cbcDecryptRaw_flatten (hSize : 0 < size) {parts : List (List UInt8)}
    (hParts : ∀ part ∈ parts, part.length = size) (iv : List UInt8) :
    cbcDecryptRaw size dec iv parts.flatten = some (decryptBlocks dec iv parts).flatten := by
  have hWhole : parts.flatten.length % size = 0 := by
    rw [length_flatten_of hParts, Nat.mul_mod_left]
  rw [cbcDecryptRaw, if_pos hWhole, toBlocks_flatten hSize hParts]

/-- The last block of data is its last `size` octets. -/
theorem drop_flatten_concat {before : List (List UInt8)} {final : List UInt8}
    (hBefore : ∀ part ∈ before, part.length = size) :
    (before ++ [final]).flatten.drop (before.length * size) = final := by
  rw [List.flatten_append, List.flatten_singleton, ← length_flatten_of hBefore, List.drop_left]

theorem take_flatten_concat {before : List (List UInt8)} {final : List UInt8}
    (hBefore : ∀ part ∈ before, part.length = size) :
    (before ++ [final]).flatten.take (before.length * size) = before.flatten := by
  rw [List.flatten_append, List.flatten_singleton, ← length_flatten_of hBefore, List.take_left]

end Modes

end Smime.BlockModes
