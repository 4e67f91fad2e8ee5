import Mathlib.Tactic.Common
import Mathlib.Data.List.Nodup

/-!
# Sequence numbers of sixteen bits

A sequence number is a point on a circle of `2 ^ 16` points. `offset s i` is the point `i` places
after `s`; two offsets of one point below `2 ^ 16` are different points. `number s xs` labels the
elements of a list with consecutive points from `s` on.
-/

namespace Serial

/-- The point `i` places after `s`. -/
def offset (s : UInt16) (i : Nat) : UInt16 := s + UInt16.ofNat i

theorem toNat_offset (s : UInt16) (i : Nat) : (offset s i).toNat = (s.toNat + i) % 65536 := by
  simp only [offset, UInt16.toNat_add, UInt16.toNat_ofNat']
  omega

@[simp]
theorem offset_zero (s : UInt16) : offset s 0 = s := by
  simp [offset]

@[simp]
theorem offset_add_one (s : UInt16) (i : Nat) : offset s i + 1 = offset s (i + 1) := by
  apply UInt16.toNat_inj.mp
  simp only [UInt16.toNat_add, toNat_offset, UInt16.toNat_one]
  omega

theorem offset_one (s : UInt16) : offset s 1 = s + 1 := rfl

theorem offset_offset (s : UInt16) (i j : Nat) : offset (offset s i) j = offset s (i + j) := by
  apply UInt16.toNat_inj.mp
  simp only [toNat_offset]
  omega

theorem offset_add_one_left (s : UInt16) (i : Nat) : offset (s + 1) i = offset s (i + 1) := by
  rw [← offset_one, offset_offset, Nat.add_comm]

theorem offset_injective {s : UInt16} {i j : Nat} (hi : i < 65536) (hj : j < 65536)
    (h : offset s i = offset s j) : i = j := by
  have htoNat := congrArg UInt16.toNat h
  simp only [toNat_offset] at htoNat
  have hs := s.toNat_lt
  omega

theorem toNat_offset_sub_offset (s : UInt16) {i j : Nat} (hle : i ≤ j) (hnear : j - i < 65536) :
    (offset s j - offset s i).toNat = j - i := by
  rw [UInt16.toNat_sub, toNat_offset, toNat_offset]
  omega

theorem offset_toNat_sub (s t : UInt16) : offset s (t - s).toNat = t := by
  apply UInt16.toNat_inj.mp
  have hs := s.toNat_lt
  have ht := t.toNat_lt
  rw [toNat_offset, UInt16.toNat_sub]
  omega

section

variable {α : Type}

/-- The elements labelled with consecutive points from `s` on. -/
def number (s : UInt16) : List α → List (UInt16 × α)
  | [] => []
  | x :: xs => (s, x) :: number (s + 1) xs

@[simp]
theorem length_number (s : UInt16) (xs : List α) : (number s xs).length = xs.length := by
  induction xs generalizing s with
  | nil => rfl
  | cons x xs ih => simp [number, ih]

theorem map_snd_number (s : UInt16) (xs : List α) : (number s xs).map Prod.snd = xs := by
  induction xs generalizing s with
  | nil => rfl
  | cons x xs ih => simp [number, ih]

theorem number_append (s : UInt16) (xs ys : List α) :
    number s (xs ++ ys) = number s xs ++ number (offset s xs.length) ys := by
  induction xs generalizing s with
  | nil => simp [number]
  | cons x xs ih =>
      simp [number, ih, offset_add_one_left]

theorem number_drop (s : UInt16) (xs : List α) (k : Nat) :
    (number s xs).drop k = number (offset s k) (xs.drop k) := by
  induction k generalizing s xs with
  | zero => simp
  | succ k ih =>
      cases xs with
      | nil => simp [number]
      | cons x xs => simp [number, ih, offset_add_one_left]

theorem number_take (s : UInt16) (xs : List α) (k : Nat) :
    (number s xs).take k = number s (xs.take k) := by
  induction k generalizing s xs with
  | zero => simp [number]
  | succ k ih =>
      cases xs with
      | nil => simp [number]
      | cons x xs => simp [number, ih]

theorem getElem?_number (s : UInt16) (xs : List α) (i : Nat) :
    (number s xs)[i]? = xs[i]?.map fun x => (offset s i, x) := by
  induction xs generalizing s i with
  | nil => simp [number]
  | cons x xs ih =>
      cases i with
      | zero => simp [number]
      | succ i => simp [number, ih, offset_add_one_left]

/-- The labels are all different until they come round. -/
theorem nodup_number_iff (s : UInt16) (xs : List α) :
    ((number s xs).map Prod.fst).Nodup ↔ xs.length ≤ 65536 := by
  have hget : ∀ i, ((number s xs).map Prod.fst)[i]? = xs[i]?.map fun _ => offset s i := by
    intro i
    rw [List.getElem?_map, getElem?_number]
    cases xs[i]? <;> rfl
  rw [List.nodup_iff_getElem?_ne_getElem?]
  constructor
  · intro hdistinct
    by_contra hlong
    have hround : offset s 65536 = offset s 0 := by
      apply UInt16.toNat_inj.mp
      rw [toNat_offset, toNat_offset]
      omega
    refine hdistinct 0 65536 (by omega) (by simpa using by omega) ?_
    rw [hget, hget, List.getElem?_eq_getElem (by omega), List.getElem?_eq_getElem (by omega)]
    exact congrArg some hround.symm
  · intro hlength i j hless hj hsame
    simp only [List.length_map, length_number] at hj
    rw [hget, hget, List.getElem?_eq_getElem (by omega), List.getElem?_eq_getElem hj] at hsame
    have := offset_injective (by omega) (by omega) (Option.some.inj hsame)
    omega

theorem mem_number {s : UInt16} {xs : List α} {label : UInt16} {x : α} :
    (label, x) ∈ number s xs ↔ ∃ i, xs[i]? = some x ∧ label = offset s i := by
  rw [List.mem_iff_getElem?]
  constructor
  · rintro ⟨i, hi⟩
    rw [getElem?_number, Option.map_eq_some_iff] at hi
    obtain ⟨x', hx, heq⟩ := hi
    cases heq
    exact ⟨i, hx, rfl⟩
  · rintro ⟨i, hx, rfl⟩
    exact ⟨i, by rw [getElem?_number, hx]; rfl⟩

/-- While no label has come round again, the `i`-th label picks the `i`-th element. -/
theorem getElem?_of_mem_number {s : UInt16} {xs : List α} {i : Nat} {x : α}
    (hlength : xs.length ≤ 65535) (hi : i ≤ xs.length) (hmem : (offset s i, x) ∈ number s xs) :
    xs[i]? = some x := by
  obtain ⟨m, hm, hlabel⟩ := mem_number.mp hmem
  have hm' := (List.getElem?_eq_some_iff.mp hm).1
  obtain rfl := offset_injective (by omega) (by omega) hlabel
  exact hm

/-- **Consecutive labels pick consecutive elements.** While the list is too short for a label to come
round again, elements labelled from the `k`-th label on are the elements from the `k`-th on. -/
theorem isPrefix_drop_of_mem_number {s : UInt16} {xs run : List α} {k : Nat}
    (hlength : xs.length ≤ 65535) (hk : k ≤ xs.length)
    (hrun : ∀ i x, run[i]? = some x → (offset (offset s k) i, x) ∈ number s xs) :
    run <+: xs.drop k := by
  have hget : ∀ i x, run[i]? = some x → xs[k + i]? = some x := by
    intro i
    induction i with
    | zero =>
        intro x hx
        have hfirst := hrun 0 x hx
        rw [offset_zero] at hfirst
        exact getElem?_of_mem_number hlength hk hfirst
    | succ i ih =>
        intro x hx
        have hi : i < run.length := by
          have := (List.getElem?_eq_some_iff.mp hx).1
          omega
        have hprevious :=
          (List.getElem?_eq_some_iff.mp (ih run[i] (List.getElem?_eq_getElem hi))).1
        have hnext := hrun (i + 1) x hx
        rw [offset_offset] at hnext
        exact getElem?_of_mem_number hlength (by omega) hnext
  rw [List.prefix_iff_getElem?]
  intro i hi
  rw [List.getElem?_drop]
  exact hget i run[i] (List.getElem?_eq_getElem hi)

end

end Serial
