import Mathlib.Order.Bounds.Basic
import Mathlib.Data.Int.ModEq

/-!
# The least residue

Integers that lie closer together than the modulus keep their order when they are reduced, unless they
lie on both sides of a multiple of it: then those behind the multiple come first. The residue of the
least of them is therefore the least of their residues exactly when all of them have one quotient.
-/

namespace Residue

/-- The subtraction of machine words is the subtraction of residues. -/
theorem toNat_sub_eq_emod (x y : UInt32) : ((x - y).toNat : Int) = (x.toNat - y.toNat) % 2 ^ 32 := by
  have hy := y.toNat_lt
  rw [UInt32.toNat_sub]
  omega

variable {N : Int}

theorem eq_of_emod_eq {x y : Int} (hle : x ≤ y) (hnear : y - x < N) (hresidue : y % N = x % N) :
    y = x := by
  have hdvd : N ∣ y - x := Int.ModEq.dvd hresidue.symm
  have hzero := Int.eq_zero_of_dvd_of_nonneg_of_lt (Int.sub_nonneg.mpr hle) hnear hdvd
  omega

theorem emod_le_emod_of_ediv_eq {x y : Int} (hle : x ≤ y) (hquotient : x / N = y / N) :
    x % N ≤ y % N := by
  have hx := Int.emod_add_mul_ediv x N
  have hy := Int.emod_add_mul_ediv y N
  rw [hquotient] at hx
  omega

theorem emod_lt_emod_of_ediv_lt (hN : 0 < N) {x y : Int} (hnear : y - x < N)
    (hquotient : x / N < y / N) : y % N < x % N := by
  have hstep : N * (x / N) + N ≤ N * (y / N) := by
    calc N * (x / N) + N = N * (x / N + 1) := by rw [Int.mul_add, Int.mul_one]
      _ ≤ N * (y / N) := Int.mul_le_mul_of_nonneg_left hquotient hN.le
  have hx := Int.emod_add_mul_ediv x N
  have hy := Int.emod_add_mul_ediv y N
  omega

/-- A difference of residues is the difference from the lowest integer only for the residue of that
integer. -/
theorem emod_sub_emod_eq_iff {last other lowest : Int} (hlast : lowest ≤ last)
    (hlastNear : last - lowest < N) (hother : lowest ≤ other) (hotherNear : other - lowest < N) :
    (last % N - other % N) % N = last - lowest ↔ other = lowest := by
  rw [← Int.sub_emod]
  constructor
  · intro hsame
    have hcongruent : last - other ≡ last - lowest [ZMOD N] := by
      rw [Int.ModEq, hsame, Int.emod_eq_of_lt (by omega) hlastNear]
    have hresidue := hcongruent.sub_left last
    rw [sub_sub_cancel, sub_sub_cancel] at hresidue
    exact eq_of_emod_eq hother hotherNear hresidue
  · rintro rfl
    exact Int.emod_eq_of_lt (by omega) hlastNear

section

variable {S : Set Int} {lowest : Int} (hN : 0 < N) (hlowest : IsLeast S lowest)
  (hnear : ∀ x ∈ S, x - lowest < N)
include hN hlowest hnear

theorem isLeast_emod_iff :
    IsLeast ((· % N) '' S) (lowest % N) ↔ ∀ x ∈ S, x / N = lowest / N := by
  constructor
  · intro hleast x hx
    have hle : lowest / N ≤ x / N := Int.ediv_le_ediv hN (hlowest.2 hx)
    by_contra hother
    have hless := emod_lt_emod_of_ediv_lt hN (hnear x hx) (by omega)
    have hbound := hleast.2 (Set.mem_image_of_mem _ hx)
    omega
  · intro hquotients
    refine ⟨Set.mem_image_of_mem _ hlowest.1, ?_⟩
    rintro _ ⟨x, hx, rfl⟩
    exact emod_le_emod_of_ediv_eq (hlowest.2 hx) (hquotients x hx).symm

/-- **Differences from the least residue.** Among integers closer together than the modulus, the
difference of a residue from the least residue is the difference from the least integer exactly when
all the integers have one quotient. -/
theorem emod_sub_least_eq_iff {base last : Int} (hbase : IsLeast ((· % N) '' S) base)
    (hlast : last ∈ S) :
    (last % N - base) % N = last - lowest ↔ ∀ x ∈ S, x / N = lowest / N := by
  obtain ⟨other, hother, rfl⟩ := hbase.1
  dsimp only at hbase ⊢
  rw [← isLeast_emod_iff hN hlowest hnear,
    emod_sub_emod_eq_iff (hlowest.2 hlast) (hnear last hlast) (hlowest.2 hother) (hnear other hother)]
  constructor
  · rintro rfl
    exact hbase
  · intro hleast
    exact eq_of_emod_eq (hlowest.2 hother) (hnear other hother) (hbase.unique hleast)

end

end Residue
