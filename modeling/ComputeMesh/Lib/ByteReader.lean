import Mathlib

/-!
# Reading binary files

A reader takes the bytes of a file and a position in it to a result, or an error, and the position it has reached.

* `Consumes` — at a position the reader reads exactly some bytes, whatever stands before and after them;
* `Consumes.bind`, `Consumes.times` — **the rules of sequence and of repetition**;
* `Confined` — the reader never goes back or past the end of the file, whatever the file holds;
* `ofLittleEndian_littleEndian` — a number is read back from its little-endian bytes.
-/

namespace ComputeMesh

/-- A reader with errors `ε`. -/
def ByteReader (ε α : Type) : Type := List UInt8 → ℕ → Except ε α × ℕ

namespace ByteReader

variable {ε α β : Type}

/-- Succeed without reading. -/
def ret (a : α) : ByteReader ε α := fun _ pos => (.ok a, pos)

/-- Fail where one is. -/
def fail (e : ε) : ByteReader ε α := fun _ pos => (.error e, pos)

/-- One reader after another. -/
def andThen (p : ByteReader ε α) (f : α → ByteReader ε β) : ByteReader ε β := fun file pos =>
  match p file pos with
  | (.ok a, pos) => f a file pos
  | (.error e, pos) => (.error e, pos)

instance : Monad (ByteReader ε) where
  pure := ret
  bind := andThen

/-- The position. -/
def tell : ByteReader ε ℕ := fun _ pos => (.ok pos, pos)

/-- The next bytes, if the file has them. -/
def read (beyond : ε) (size : ℕ) : ByteReader ε (List UInt8) := fun file pos =>
  if file.length < pos + size then (.error beyond, pos) else (.ok ((file.drop pos).take size), pos + size)

/-- Pass over the next bytes, if the file has them. -/
def skip (beyond : ε) (size : ℕ) : ByteReader ε Unit := fun file pos =>
  if file.length < pos + size then (.error beyond, pos) else (.ok (), pos + size)

/-- The same reader `n` times. -/
def times (p : ByteReader ε Unit) : ℕ → ByteReader ε Unit
  | 0 => ret ()
  | n + 1 => p.andThen fun _ => p.times n

variable {p : ByteReader ε α} {f : α → ByteReader ε β} {pos : ℕ}

theorem bind_eq_ok_iff {file : List UInt8} {pos' : ℕ} {b : β} :
    (p >>= f) file pos = (.ok b, pos') ↔ ∃ a mid, p file pos = (.ok a, mid) ∧ f a file mid = (.ok b, pos') := by
  show (match p file pos with
    | (.ok a, pos) => f a file pos
    | (.error e, pos) => (.error e, pos)) = _ ↔ _
  generalize p file pos = r
  obtain ⟨result, mid⟩ := r
  cases result with
  | error e =>
    constructor
    · intro h
      cases h
    · rintro ⟨_, _, h, _⟩
      cases h
  | ok a =>
    constructor
    · intro h
      exact ⟨a, mid, rfl, h⟩
    · rintro ⟨a', mid', heq, h⟩
      cases heq
      exact h

theorem pure_eq_ok_iff {a b : α} {file : List UInt8} {pos' : ℕ} :
    (pure a : ByteReader ε α) file pos = (.ok b, pos') ↔ a = b ∧ pos = pos' := by
  show (Except.ok a, pos) = _ ↔ _
  rw [Prod.mk.injEq, Except.ok.injEq]

/-! ### What a reader reads -/

/-- At `pos` the reader reads `bytes` as `a`. -/
def Consumes (p : ByteReader ε α) (pos : ℕ) (bytes : List UInt8) (a : α) : Prop :=
  ∀ before after, before.length = pos → p (before ++ (bytes ++ after)) pos = (.ok a, pos + bytes.length)

theorem consumes_pure (a : α) (pos : ℕ) : (pure a : ByteReader ε α).Consumes pos [] a := fun _ _ _ => rfl

theorem consumes_tell (pos : ℕ) : (tell : ByteReader ε ℕ).Consumes pos [] pos := fun _ _ _ => rfl

/-- **The rule of sequence.** -/
theorem Consumes.bind {first second : List UInt8} {a : α}
    {b : β} (hp : p.Consumes pos first a) (hf : (f a).Consumes (pos + first.length) second b) :
    (p >>= f).Consumes pos (first ++ second) b := by
  intro before after hpos
  show (match p (before ++ (first ++ second ++ after)) pos with
    | (.ok a, pos) => f a (before ++ (first ++ second ++ after)) pos
    | (.error e, pos) => (.error e, pos)) = _
  rw [List.append_assoc first, hp before (second ++ after) hpos]
  have hrest := hf (before ++ first) after (by rw [List.length_append, hpos])
  rw [List.append_assoc] at hrest
  show f a (before ++ (first ++ (second ++ after))) (pos + first.length) = _
  rw [hrest, List.length_append, Nat.add_assoc]

variable {bytes : List UInt8}

theorem Consumes.bind_nil {a : α}
    {b : β} (hp : p.Consumes pos [] a) (hf : (f a).Consumes pos bytes b) : (p >>= f).Consumes pos bytes b := by
  have hafter : (f a).Consumes (pos + ([] : List UInt8).length) bytes b := hf
  exact hp.bind hafter

theorem Consumes.bind_last {a : α}
    {b : β} (hp : p.Consumes pos bytes a) (hf : (f a).Consumes (pos + bytes.length) [] b) :
    (p >>= f).Consumes pos bytes b := by
  have hboth := hp.bind hf
  rwa [List.append_nil] at hboth

theorem consumes_read (beyond : ε) {size : ℕ} (hsize : bytes.length = size) :
    (read beyond size).Consumes pos bytes bytes := by
  intro before after hpos
  have hroom : ¬ (before ++ (bytes ++ after)).length < pos + size := by
    simp only [List.length_append]
    omega
  unfold read
  rw [if_neg hroom, List.drop_left' hpos, List.take_left' hsize, hsize]

theorem consumes_skip (beyond : ε) {size : ℕ} (hsize : bytes.length = size) :
    (skip beyond size).Consumes pos bytes () := by
  intro before after hpos
  have hroom : ¬ (before ++ (bytes ++ after)).length < pos + size := by
    simp only [List.length_append]
    omega
  unfold skip
  rw [if_neg hroom, hsize]

/-- **The rule of repetition**: a reader that reads each of a list of parts reads them one after another. -/
theorem Consumes.times {γ : Type} {p : ByteReader ε Unit} {encode : γ → List UInt8} {items : List γ}
    (hp : ∀ item ∈ items, ∀ pos, p.Consumes pos (encode item) ()) (pos : ℕ) :
    (p.times items.length).Consumes pos (items.flatMap encode) () := by
  induction items generalizing pos with
  | nil => exact consumes_pure () pos
  | cons item items ih =>
    exact (hp item List.mem_cons_self pos).bind
      (ih (fun other hother => hp other (List.mem_cons_of_mem _ hother)) _)

/-- What a reader that reads `bytes` does at the start of a file. -/
theorem Consumes.run {p : ByteReader ε α} {bytes : List UInt8} {a : α} (h : p.Consumes 0 bytes a)
    (after : List UInt8) : p (bytes ++ after) 0 = (.ok a, bytes.length) := by
  have hrun := h [] after rfl
  rwa [List.nil_append, Nat.zero_add] at hrun

/-! ### Staying in the file -/

/-- The reader goes forward and stays within the file. -/
def Confined (p : ByteReader ε α) : Prop :=
  ∀ file pos, pos ≤ file.length → pos ≤ (p file pos).2 ∧ (p file pos).2 ≤ file.length

theorem confined_pure (a : α) : (pure a : ByteReader ε α).Confined := fun _ _ h => ⟨le_rfl, h⟩

theorem confined_fail (e : ε) : (fail e : ByteReader ε α).Confined := fun _ _ h => ⟨le_rfl, h⟩

theorem confined_tell : (tell : ByteReader ε ℕ).Confined := fun _ _ h => ⟨le_rfl, h⟩

theorem confined_read (beyond : ε) (size : ℕ) : (read beyond size).Confined := by
  intro file pos h
  unfold read
  split
  · exact ⟨le_rfl, h⟩
  · exact ⟨Nat.le_add_right _ _, by dsimp only; omega⟩

theorem confined_skip (beyond : ε) (size : ℕ) : (skip beyond size).Confined := by
  intro file pos h
  unfold skip
  split
  · exact ⟨le_rfl, h⟩
  · exact ⟨Nat.le_add_right _ _, by dsimp only; omega⟩

theorem Confined.bind (hp : p.Confined) (hf : ∀ a, (f a).Confined) : (p >>= f).Confined := by
  intro file pos h
  show pos ≤ (match p file pos with
    | (.ok a, pos) => f a file pos
    | (.error e, pos) => (.error e, pos)).2 ∧ (match p file pos with
    | (.ok a, pos) => f a file pos
    | (.error e, pos) => (.error e, pos)).2 ≤ file.length
  obtain ⟨hge, hle⟩ := hp file pos h
  generalize hrun : p file pos = r at hge hle ⊢
  obtain ⟨result, pos'⟩ := r
  cases result with
  | error e => exact ⟨hge, hle⟩
  | ok a => exact (hf a file pos' hle).imp hge.trans id

theorem Confined.times {p : ByteReader ε Unit} (hp : p.Confined) (n : ℕ) : (p.times n).Confined := by
  induction n with
  | zero => exact confined_pure ()
  | succ n ih => exact hp.bind fun _ => ih

end ByteReader

/-! ### Little-endian numbers -/

/-- The `k` lowest bytes of a number, the lowest first. -/
def littleEndian : ℕ → ℕ → List UInt8
  | 0, _ => []
  | k + 1, n => UInt8.ofNat n :: littleEndian k (n / 256)

/-- The number that bytes stand for, the lowest first. -/
def ofLittleEndian : List UInt8 → ℕ
  | [] => 0
  | b :: bs => b.toNat + 256 * ofLittleEndian bs

@[simp] theorem length_littleEndian (k n : ℕ) : (littleEndian k n).length = k := by
  induction k generalizing n with
  | zero => rfl
  | succ k ih => rw [littleEndian, List.length_cons, ih]

/-- **The round trip.** -/
theorem ofLittleEndian_littleEndian {k n : ℕ} (h : n < 256 ^ k) : ofLittleEndian (littleEndian k n) = n := by
  induction k generalizing n with
  | zero =>
    rw [Nat.pow_zero, Nat.lt_one_iff] at h
    exact h.symm
  | succ k ih =>
    have hdiv : n / 256 < 256 ^ k := Nat.div_lt_of_lt_mul (by rwa [Nat.pow_succ, Nat.mul_comm] at h)
    rw [littleEndian, ofLittleEndian, ih hdiv, UInt8.toNat_ofNat']
    exact Nat.mod_add_div n 256

end ComputeMesh
