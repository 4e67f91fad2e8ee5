import Mathlib.Tactic.Common

/-!
# Cutting a list into chunks

`chunks size xs` cuts `xs` into pieces of `size` elements, the last one possibly shorter, as the
`chunks` method of a slice does. Nothing is lost, no piece is empty or longer than `size`, and there
are no more pieces than needed.
-/

namespace Chunks

variable {α : Type}

/-- `fuel` bounds the number of pieces; a list has no more of them than elements. -/
def chunksFor (size : Nat) : Nat → List α → List (List α)
  | 0, _ => []
  | _ + 1, [] => []
  | fuel + 1, x :: xs => (x :: xs).take size :: chunksFor size fuel ((x :: xs).drop size)

def chunks (size : Nat) (xs : List α) : List (List α) :=
  chunksFor size xs.length xs

section

variable {size : Nat} (hsize : 0 < size)
include hsize

theorem chunksFor_flatten (fuel : Nat) (xs : List α) (hfuel : xs.length ≤ fuel) :
    (chunksFor size fuel xs).flatten = xs := by
  induction fuel generalizing xs with
  | zero =>
      obtain rfl : xs = [] := List.length_eq_zero_iff.mp (by omega)
      rfl
  | succ fuel ih =>
      cases xs with
      | nil => rfl
      | cons x xs =>
          have hrest : ((x :: xs).drop size).length ≤ fuel := by
            simp only [List.length_drop, List.length_cons] at hfuel ⊢
            omega
          rw [chunksFor, List.flatten_cons, ih _ hrest, List.take_append_drop]

theorem chunks_flatten (xs : List α) : (chunks size xs).flatten = xs :=
  chunksFor_flatten hsize xs.length xs (Nat.le_refl _)

theorem length_chunksFor_mul_lt (fuel : Nat) (xs : List α) :
    (chunksFor size fuel xs).length * size < xs.length + size := by
  induction fuel generalizing xs with
  | zero => simpa [chunksFor] using Nat.lt_add_left _ hsize
  | succ fuel ih =>
      cases xs with
      | nil => simpa [chunksFor] using hsize
      | cons x xs =>
          rw [chunksFor, List.length_cons, Nat.add_mul, Nat.one_mul]
          by_cases hlong : size ≤ (x :: xs).length
          · have hrest := ih ((x :: xs).drop size)
            rw [List.length_drop] at hrest
            omega
          · have hnone : (x :: xs).drop size = [] := List.drop_eq_nil_of_le (by omega)
            rw [hnone]
            cases fuel <;> simp [chunksFor]

theorem length_chunks_mul_lt (xs : List α) : (chunks size xs).length * size < xs.length + size :=
  length_chunksFor_mul_lt hsize xs.length xs

end

theorem length_le_of_mem_chunksFor {size fuel : Nat} {xs piece : List α}
    (hpiece : piece ∈ chunksFor size fuel xs) : piece.length ≤ size := by
  induction fuel generalizing xs with
  | zero => simp [chunksFor] at hpiece
  | succ fuel ih =>
      cases xs with
      | nil => simp [chunksFor] at hpiece
      | cons x xs =>
          rcases List.mem_cons.mp hpiece with rfl | hrest
          · exact List.length_take_le _ _
          · exact ih hrest

theorem length_le_of_mem_chunks {size : Nat} {xs piece : List α}
    (hpiece : piece ∈ chunks size xs) : piece.length ≤ size :=
  length_le_of_mem_chunksFor hpiece

theorem length_pos_of_mem_chunksFor {size fuel : Nat} (hsize : 0 < size) {xs piece : List α}
    (hpiece : piece ∈ chunksFor size fuel xs) : 0 < piece.length := by
  induction fuel generalizing xs with
  | zero => simp [chunksFor] at hpiece
  | succ fuel ih =>
      cases xs with
      | nil => simp [chunksFor] at hpiece
      | cons x xs =>
          rcases List.mem_cons.mp hpiece with rfl | hrest
          · rw [List.length_take, List.length_cons]
            omega
          · exact ih hrest

theorem length_pos_of_mem_chunks {size : Nat} (hsize : 0 < size) {xs piece : List α}
    (hpiece : piece ∈ chunks size xs) : 0 < piece.length :=
  length_pos_of_mem_chunksFor hsize hpiece

theorem length_flatten_le {size : Nat} {pieces : List (List α)}
    (hpieces : ∀ piece ∈ pieces, piece.length ≤ size) : pieces.flatten.length ≤ pieces.length * size := by
  induction pieces with
  | nil => simp
  | cons piece pieces ih =>
      have hfirst := hpieces piece (by simp)
      have hrest := ih fun piece hmem => hpieces piece (List.mem_cons_of_mem _ hmem)
      rw [List.flatten_cons, List.length_append, List.length_cons, Nat.add_mul, Nat.one_mul]
      omega

end Chunks
