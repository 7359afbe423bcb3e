import ComputeMesh.Lib.Dict

/-!
# Sums by key

A list of keyed amounts, the total it holds for a key, and the dictionary that accumulates it entry by
entry.  Accounts with their postings, buckets with their allocations and owners with their reservations
are all instances.

* `sumAt_append`, `sumAt_map` — how totals follow the ways lists are built;
* `sumAt_eq_zero` — a key that no entry has;
* `getD_addAll` — **accumulating is summing**: after adding a list to a dictionary entry by entry, a key
  holds what it held before plus the list's total for it.
-/

namespace ComputeMesh

variable {κ : Type} [DecidableEq κ]

/-- The total of the amounts stored under `k`. -/
def sumAt (es : List (κ × ℤ)) (k : κ) : ℤ := ((es.filter fun e => e.1 = k).map Prod.snd).sum

@[simp] theorem sumAt_nil (k : κ) : sumAt ([] : List (κ × ℤ)) k = 0 := rfl

theorem sumAt_cons (e : κ × ℤ) (es : List (κ × ℤ)) (k : κ) :
    sumAt (e :: es) k = (if e.1 = k then e.2 else 0) + sumAt es k := by
  by_cases h : e.1 = k <;> simp [sumAt, h]

theorem sumAt_append (es fs : List (κ × ℤ)) (k : κ) : sumAt (es ++ fs) k = sumAt es k + sumAt fs k := by
  simp [sumAt]

theorem sumAt_map {ι : Type} [DecidableEq ι] (g : ι → κ) (hg : Function.Injective g)
    (es : List (ι × ℤ)) (i : ι) : sumAt (es.map fun e => (g e.1, e.2)) (g i) = sumAt es i := by
  induction es with
  | nil => rfl
  | cons e es ih => simp [sumAt_cons, ih, hg.eq_iff]

variable {es : List (κ × ℤ)}

theorem sumAt_eq_zero {k : κ} (h : ∀ e ∈ es, e.1 ≠ k) : sumAt es k = 0 := by
  have hnil : es.filter (fun e => e.1 = k) = [] := by
    rw [List.filter_eq_nil_iff]
    intro e he
    simpa using h e he
  simp [sumAt, hnil]

theorem sumAt_nonneg {k : κ} (h : ∀ e ∈ es, e.1 = k → 0 ≤ e.2) : 0 ≤ sumAt es k := by
  apply List.sum_nonneg
  intro x hx
  obtain ⟨e, he, rfl⟩ := List.mem_map.mp hx
  obtain ⟨hmem, hk⟩ := List.mem_filter.mp he
  exact h e hmem (by simpa using hk)

theorem sumAt_of_mem_of_nodup (hnd : (es.map Prod.fst).Nodup) {k : κ} {x : ℤ} (h : (k, x) ∈ es) : sumAt es k = x := by
  induction es with
  | nil => simp at h
  | cons e es ih =>
    obtain ⟨k', x'⟩ := e
    rw [List.map_cons, List.nodup_cons] at hnd
    rcases List.mem_cons.mp h with heq | hmem
    · obtain ⟨rfl, rfl⟩ := Prod.mk.inj heq
      have hzero : sumAt es k = 0 :=
        sumAt_eq_zero fun e he heq => hnd.1 (List.mem_map.mpr ⟨e, he, heq⟩)
      rw [sumAt_cons, hzero]
      simp
    · have hne : k' ≠ k := fun heq => hnd.1 (List.mem_map.mpr ⟨(k, x), hmem, heq.symm⟩)
      rw [sumAt_cons, if_neg hne, ih hnd.2 hmem, zero_add]

namespace Dict

/-- Add an amount to what a key holds. -/
def addAt (d : Dict κ ℤ) (e : κ × ℤ) : Dict κ ℤ := d.set e.1 (d.getD e.1 0 + e.2)

/-- Add a list of amounts, entry by entry. -/
def addAll (d : Dict κ ℤ) (es : List (κ × ℤ)) : Dict κ ℤ := es.foldl addAt d

theorem getD_addAt (d : Dict κ ℤ) (e : κ × ℤ) (k : κ) :
    (d.addAt e).getD k 0 = d.getD k 0 + if e.1 = k then e.2 else 0 := by
  rw [addAt, getD_set]
  by_cases h : k = e.1
  · subst h
    simp
  · rw [if_neg h, if_neg (Ne.symm h), add_zero]

/-- **Accumulating is summing.** -/
theorem getD_addAll (es : List (κ × ℤ)) :
    ∀ (d : Dict κ ℤ) (k : κ), (d.addAll es).getD k 0 = d.getD k 0 + sumAt es k := by
  induction es with
  | nil => intro d k; simp [addAll]
  | cons e es ih =>
    intro d k
    have hrec : (d.addAll (e :: es)).getD k 0 = ((d.addAt e).addAll es).getD k 0 := rfl
    rw [hrec, ih, getD_addAt, sumAt_cons]
    omega

end Dict

end ComputeMesh
