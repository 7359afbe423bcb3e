import Mathlib

/-!
# Calls that raise or return

A method that checks, raises and returns is an `Except`; one that also changes a content `σ` inside a transaction
returns the new content next to its result, and a call that raises leaves the old one.

* `bind_eq_ok_iff`, `ite_error_eq_ok_iff` — a sequence of checks returns when each of them passes;
* `checkEach` — a check of every element of a list, `checkEach_eq_ok_iff`;
* `committed` — what the transaction of a call leaves, with the rule `committed_of`.

Nothing here is about any particular program.
-/

namespace ComputeMesh

variable {ε α β σ : Type}

@[simp] theorem ok_bind (a : α) (f : α → Except ε β) : (Except.ok a >>= f) = f a := rfl

@[simp] theorem error_bind (e : ε) (f : α → Except ε β) : (Except.error e >>= f) = .error e := rfl

theorem bind_eq_ok_iff {x : Except ε α} {f : α → Except ε β} {b : β} :
    (x >>= f) = .ok b ↔ ∃ a, x = .ok a ∧ f a = .ok b := by
  cases x with
  | error e => exact ⟨nofun, fun ⟨_, h, _⟩ => (nomatch h)⟩
  | ok a => exact ⟨fun h => ⟨a, rfl, h⟩, fun ⟨_, ha, h⟩ => by cases ha; exact h⟩

theorem ite_error_eq_ok_iff {p : Prop} [Decidable p] {e : ε} {x : Except ε α} {a : α} :
    (if p then .error e else x) = .ok a ↔ ¬p ∧ x = .ok a := by
  by_cases hp : p
  · rw [if_pos hp]
    exact ⟨nofun, fun h => absurd hp h.1⟩
  · rw [if_neg hp]
    exact ⟨fun h => ⟨hp, h⟩, fun h => h.2⟩

/-- The check of each element, up to the first that raises. -/
def checkEach (check : α → Except ε Unit) : List α → Except ε Unit
  | [] => .ok ()
  | a :: as => check a >>= fun _ => checkEach check as

theorem checkEach_eq_ok_iff {check : α → Except ε Unit} {as : List α} :
    checkEach check as = .ok () ↔ ∀ a ∈ as, check a = .ok () := by
  induction as with
  | nil => exact ⟨nofun, fun _ => rfl⟩
  | cons a as ih =>
    rw [checkEach, bind_eq_ok_iff, List.forall_mem_cons, ih]
    exact ⟨fun ⟨_, ha, hrest⟩ => ⟨ha, hrest⟩, fun ⟨ha, hrest⟩ => ⟨(), ha, hrest⟩⟩

/-- What the transaction of a call leaves: the new content if the call returned, the old one if it raised. -/
def committed (s : σ) : Except ε (α × σ) → σ
  | .ok (_, s') => s'
  | .error _ => s

@[simp] theorem committed_ok (s s' : σ) (a : α) : committed s (.ok (a, s') : Except ε (α × σ)) = s' := rfl

@[simp] theorem committed_error (s : σ) (e : ε) : committed s (.error e : Except ε (α × σ)) = s := rfl

/-- What held before a call and holds of whatever it returns with holds after its transaction. -/
theorem committed_of {P : σ → Prop} {s : σ} {x : Except ε (α × σ)} (h : P s)
    (hok : ∀ a s', x = .ok (a, s') → P s') : P (committed s x) := by
  cases x with
  | error e => exact h
  | ok r => exact hok r.1 r.2 rfl

end ComputeMesh
