import Mathlib

/-!
# Shares and ranges

Whole numbers out of exact ratios, and ranges of whole numbers that follow one another.

* `truncate`, `roundEven`, `roundTo` — `int(q)`, `round(q)` and `round(q, digits)`;
* `nearest` — what a float keeps of a number;
* `share_fits` — **a share that is not rounded up has room**: what fits as a whole fits in proportion;
* `sum_floor_le`, `sum_lt_floor_add` — what is left when all shares are rounded down;
* `Tiles` — ranges without a gap and without an overlap.

Nothing here is about any particular program.
-/

namespace ComputeMesh

open Int

/-- `int(q)`: towards zero. -/
def truncate (q : ℚ) : ℤ := if 0 ≤ q then ⌊q⌋ else ⌈q⌉

/-- `round(q)`: to the nearest, and from the middle to the even one. -/
def roundEven (q : ℚ) : ℤ :=
  let below := q - ⌊q⌋
  if below < 1 / 2 ∨ (below = 1 / 2 ∧ ⌊q⌋ % 2 = 0) then ⌊q⌋ else ⌊q⌋ + 1

/-- `round(q, digits)`. -/
def roundTo (q : ℚ) (digits : ℕ) : ℚ := roundEven (q * 10 ^ digits) / 10 ^ digits

theorem truncate_le {q : ℚ} {n : ℤ} (h : q ≤ n) : truncate q ≤ n := by
  rw [truncate]
  split
  · exact floor_le_iff.mpr (lt_of_le_of_lt h (lt_add_one _))
  · exact ceil_le.mpr h

theorem le_truncate_iff {n : ℤ} {q : ℚ} (h : 0 ≤ q) : n ≤ truncate q ↔ (n : ℚ) ≤ q := by
  rw [truncate, if_pos h]
  exact le_floor

/-- The nearest binary fraction of 53 digits, of any size. -/
def nearest (q : ℚ) : ℚ :=
  if q = 0 then 0
  else
    let ulp : ℚ := 2 ^ (Int.log 2 |q| - 52)
    roundEven (q / ulp) * ulp

theorem le_roundEven {n : ℤ} {q : ℚ} (h : n ≤ q) : n ≤ roundEven q := by
  have hfloor : n ≤ ⌊q⌋ := le_floor.mpr h
  simp only [roundEven]
  split <;> omega

theorem one_le_nearest {q : ℚ} (h : 1 ≤ q) : 1 ≤ nearest q := by
  have hpos : 0 < q := lt_of_lt_of_le one_pos h
  have hexp : 0 ≤ log 2 q := (zpow_le_iff_le_log one_lt_two hpos).mp (by simpa using h)
  have hulp : (0 : ℚ) < 2 ^ (log 2 q - 52) := zpow_pos two_pos _
  have hscale : ((2 ^ 52 : ℤ) : ℚ) * 2 ^ (log 2 q - 52) = 2 ^ log 2 q := by
    rw [zpow_sub₀ two_ne_zero]
    push_cast
    field_simp
  have hdigits : ((2 ^ 52 : ℤ) : ℚ) ≤ q / 2 ^ (log 2 q - 52) := by
    rw [le_div_iff₀ hulp, hscale]
    exact zpow_log_le_self one_lt_two hpos
  rw [nearest, if_neg hpos.ne', abs_of_pos hpos]
  calc (1 : ℚ) ≤ 2 ^ log 2 q := one_le_zpow₀ one_le_two hexp
    _ = ((2 ^ 52 : ℤ) : ℚ) * 2 ^ (log 2 q - 52) := hscale.symm
    _ ≤ roundEven (q / 2 ^ (log 2 q - 52)) * 2 ^ (log 2 q - 52) := by
        gcongr
        exact_mod_cast le_roundEven hdigits

/-- **What fits as a whole fits in proportion.** -/
theorem share_fits {count layers part total size fraction : ℚ} (hcount : 0 ≤ count) (htotal : 0 < total)
    (hshare : count ≤ layers * (part / total)) (hfraction : 0 ≤ fraction) (hsize : size ≤ total * fraction) :
    count * size ≤ layers * part * fraction := by
  calc count * size ≤ count * (total * fraction) := mul_le_mul_of_nonneg_left hsize hcount
    _ ≤ layers * (part / total) * (total * fraction) :=
        mul_le_mul_of_nonneg_right hshare (mul_nonneg htotal.le hfraction)
    _ = layers * part * fraction := by
        field_simp

theorem sum_floor_le (shares : List ℚ) : ((shares.map Int.floor).sum : ℚ) ≤ shares.sum := by
  induction shares with
  | nil => simp
  | cons q rest ih =>
    simp only [List.map_cons, List.sum_cons, cast_add]
    linarith [floor_le q]

theorem sum_lt_floor_add {shares : List ℚ} (h : shares ≠ []) :
    shares.sum < ((shares.map Int.floor).sum + shares.length : ℤ) := by
  have hrest : ∀ rest : List ℚ, rest.sum ≤ ((rest.map floor).sum + rest.length : ℤ) := by
    intro rest
    induction rest with
    | nil => simp
    | cons q rest ih =>
      simp only [List.map_cons, List.sum_cons, List.length_cons]
      push_cast at ih ⊢
      linarith [lt_floor_add_one q]
  obtain ⟨q, rest, rfl⟩ := List.exists_cons_of_ne_nil h
  have hle := hrest rest
  simp only [List.map_cons, List.sum_cons, List.length_cons]
  push_cast at hle ⊢
  linarith [lt_floor_add_one q]

/-- Ranges that follow one another from `start` to `stop`. -/
def Tiles (start stop : ℤ) : List (ℤ × ℤ) → Prop
  | [] => start = stop
  | range :: rest => range.1 = start ∧ range.1 ≤ range.2 ∧ Tiles range.2 stop rest

end ComputeMesh
