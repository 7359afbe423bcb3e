import Mathlib

/-!
# A connection and its transactions

One connection to a database of content `δ`, as far as transactions go: `BEGIN`, `COMMIT`, `ROLLBACK` and named
savepoints.  Outside a transaction every statement commits at once.  A savepoint outside a transaction opens
one, which the release of that savepoint commits; rolling back to a savepoint keeps it on the stack.

* `Connection.write` — a statement, or several that succeed together;
* `Connection.savepoint`, `release`, `rollbackTo`, `beginTransaction`, `commit`, `rollback`;
* `release_savepoint`, `rollbackTo_savepoint` — what a savepoint comes to when it is released, and when it is
  rolled back to.
-/

namespace ComputeMesh

/-- What a connection holds while a transaction is open: the savepoint that opened it, if `BEGIN` did not, and
the savepoints inside, newest first, each with the content at its time. -/
structure OpenTransaction (δ : Type) where
  outermost : Option (String × δ)
  inner : List (String × δ)

/-- A connection: idle on what is durable, or inside a transaction. -/
inductive Connection (δ : Type)
  | idle (data : δ)
  | busy (durable current : δ) (transaction : OpenTransaction δ)

namespace Connection

variable {δ : Type}

/-- What is committed. -/
def durable : Connection δ → δ
  | idle data => data
  | busy durable _ _ => durable

/-- What the connection reads. -/
def current : Connection δ → δ
  | idle data => data
  | busy _ current _ => current

def inTransaction : Connection δ → Bool
  | idle _ => false
  | busy _ _ _ => true

/-- Replace the content: committed at once when no transaction is open. -/
def write (c : Connection δ) (data : δ) : Connection δ :=
  match c with
  | idle _ => idle data
  | busy durable _ t => busy durable data t

/-- `SAVEPOINT name`. -/
def savepoint (c : Connection δ) (name : String) : Connection δ :=
  match c with
  | idle data => busy data data ⟨some (name, data), []⟩
  | busy durable current t => busy durable current { t with inner := (name, current) :: t.inner }

def startingAt (name : String) (savepoints : List (String × δ)) : List (String × δ) :=
  savepoints.dropWhile fun sp => sp.1 != name

/-- `RELEASE SAVEPOINT name`. -/
def release (c : Connection δ) (name : String) : Except String (Connection δ) :=
  match c with
  | idle _ => .error ("no such savepoint: " ++ name)
  | busy durable current t =>
    match startingAt name t.inner with
    | _ :: rest => .ok (busy durable current { t with inner := rest })
    | [] =>
      match t.outermost with
      | none => .error ("no such savepoint: " ++ name)
      | some sp => if sp.1 = name then .ok (idle current) else .error ("no such savepoint: " ++ name)

/-- `ROLLBACK TO SAVEPOINT name`. -/
def rollbackTo (c : Connection δ) (name : String) : Except String (Connection δ) :=
  match c with
  | idle _ => .error ("no such savepoint: " ++ name)
  | busy durable _ t =>
    match startingAt name t.inner with
    | sp :: rest => .ok (busy durable sp.2 { t with inner := sp :: rest })
    | [] =>
      match t.outermost with
      | none => .error ("no such savepoint: " ++ name)
      | some sp =>
        if sp.1 = name then .ok (busy durable sp.2 { t with inner := [] })
        else .error ("no such savepoint: " ++ name)

/-- `BEGIN IMMEDIATE`. -/
def beginTransaction : Connection δ → Except String (Connection δ)
  | idle data => .ok (busy data data ⟨none, []⟩)
  | busy _ _ _ => .error "cannot start a transaction within a transaction"

def commit : Connection δ → Except String (Connection δ)
  | idle _ => .error "cannot commit - no transaction is active"
  | busy _ current _ => .ok (idle current)

def rollback : Connection δ → Except String (Connection δ)
  | idle _ => .error "cannot rollback - no transaction is active"
  | busy durable _ _ => .ok (idle durable)

/-! ### What the statements come to -/

@[simp] theorem inTransaction_write (c : Connection δ) (data : δ) :
    (c.write data).inTransaction = c.inTransaction := by
  cases c <;> rfl

@[simp] theorem write_current (c : Connection δ) : c.write c.current = c := by
  cases c <;> rfl

@[simp] theorem current_savepoint (c : Connection δ) (name : String) : (c.savepoint name).current = c.current := by
  cases c <;> rfl

@[simp] theorem inTransaction_savepoint (c : Connection δ) (name : String) :
    (c.savepoint name).inTransaction = true := by
  cases c <;> rfl

theorem durable_eq_current {c : Connection δ} (h : c.inTransaction = false) : c.durable = c.current := by
  cases c with
  | idle data => rfl
  | busy durable current t => cases h

/-- `BEGIN IMMEDIATE` succeeds exactly outside a transaction. -/
theorem beginTransaction_isOk (c : Connection δ) : (∃ c', c.beginTransaction = .ok c') ↔ c.inTransaction = false := by
  cases c with
  | idle data => exact iff_of_true ⟨_, rfl⟩ rfl
  | busy durable current t =>
    refine iff_of_false ?_ (by simp [inTransaction])
    rintro ⟨c', h⟩
    cases h

@[simp] theorem startingAt_cons_self (name : String) (data : δ) (rest : List (String × δ)) :
    startingAt name ((name, data) :: rest) = (name, data) :: rest := by
  simp [startingAt]

@[simp] theorem startingAt_nil (name : String) : startingAt name ([] : List (String × δ)) = [] := rfl

/-- **A savepoint that is released** was one write. -/
theorem release_savepoint (c : Connection δ) (name : String) (data : δ) :
    ((c.savepoint name).write data).release name = .ok (c.write data) := by
  cases c with
  | idle d | busy durable current t => simp [savepoint, write, release]

/-- **A savepoint that is rolled back to** stays. -/
theorem rollbackTo_savepoint (c : Connection δ) (name : String) (data : δ) :
    ((c.savepoint name).write data).rollbackTo name = .ok (c.savepoint name) := by
  cases c with
  | idle d | busy durable current t => simp [savepoint, write, rollbackTo]

end Connection

end ComputeMesh
