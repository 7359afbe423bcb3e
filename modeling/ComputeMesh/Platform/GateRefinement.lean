import ComputeMesh.Platform.WorkerGates
import ComputeMesh.Lib.Run

/-!
# What the admission gates are for

A gate keeps the admissions that were acquired and not released, and admits no more than the budget allows.

* `Admission`, `Outstanding` — an admission, and those that are outstanding, with `acquire` and `release` on them;
* `Within` — the limits;
* `MemoryHolds`, `DurableHolds` — what either gate stores of the outstanding admissions;
* `Discernible` — **when the two gates store enough** to tell which admission a call is about.
-/

namespace ComputeMesh.Platform

open List AdmissionRow WorkerConcurrencyGate

/-- An admission that was acquired. -/
structure Admission where
  key : Option String
  principalId : String
  sessionId : String
  tenantId : String
  acquiredAt : ℚ
  deriving DecidableEq, Repr

namespace Admission

def granted (q : GateRequest) (now : ℚ) : Admission := ⟨q.key, q.principalId, q.sessionId, q.tenantId, now⟩

def parties (a : Admission) : String × String × String := (a.principalId, a.sessionId, a.tenantId)

def isOf (q : GateRequest) (a : Admission) : Bool :=
  decide (a.principalId = q.principalId) && decide (a.sessionId = q.sessionId) &&
    (decide (q.tenantId = "") || decide (a.tenantId = q.tenantId))

/-- The key that the database stores for it when no worker id is given. -/
def storedKey (a : Admission) : String := a.key.getD ("" ++ ":" ++ a.sessionId)

end Admission

/-- The outstanding admissions. -/
abbrev Outstanding := List Admission

namespace Outstanding

/-! ### What a gate is for -/

def tenants (held : Outstanding) : List String :=
  (held.map Admission.tenantId).filter fun tenant => decide (tenant ≠ "")

def full (budget : WorkerConcurrencyBudget) (held : Outstanding) (q : GateRequest) : Bool :=
  decide (budget.globalLimit ≤ held.length) ||
    decide (budget.principalLimit ≤ (held.map Admission.principalId).count q.principalId) ||
    decide (budget.sessionLimit ≤ (held.map Admission.sessionId).count q.sessionId) ||
    (decide (q.tenantId ≠ "") && tenantLimitReached budget.tenantLimit (held.tenants.count q.tenantId))

def named (held : Outstanding) (key : String) : Option Admission := held.find? fun a => decide (a.key = some key)

/-- Acquiring: a known key is answered from its admission, anything else is admitted as far as the limits allow. -/
def acquire (budget : WorkerConcurrencyBudget) (held : Outstanding) (q : GateRequest) (now : ℚ) :
    Except GateError (Bool × Outstanding) := do
  q.validateIds
  match q.key.bind held.named with
  | some a => .ok (decide (a.parties = (q.principalId, q.sessionId, q.tenantId)), held)
  | none => if held.full budget q then .ok (false, held) else .ok (true, .granted q now :: held)

/-- The admission that a release gives back: the one with the key, or one that was acquired without a key. -/
def target (held : Outstanding) (q : GateRequest) : Option Admission :=
  held.find? fun a => decide (a.key = q.key) && a.isOf q

def release (held : Outstanding) (q : GateRequest) : Except GateError Outstanding := do
  q.validateIds
  match held.target q with
  | some a => .ok (held.erase a)
  | none => .error (.agentWorkerError "worker concurrency release has no matching admission")

/-! ### When a call is clear -/

/-- No admission is of the principal, or none of the session, or none of the tenant if one is given. -/
def unknown (held : Outstanding) (q : GateRequest) : Prop :=
  q.principalId ∉ held.map Admission.principalId ∨ q.sessionId ∉ held.map Admission.sessionId ∨
    (q.tenantId ≠ "" ∧ q.tenantId ∉ held.map Admission.tenantId)

instance (held : Outstanding) (q : GateRequest) : Decidable (held.unknown q) := inferInstanceAs (Decidable (_ ∨ _ ∨ _))

/-- The request can be told apart from the admissions without a key, under which the database stores a key of its own. -/
def keyApart (held : Outstanding) (q : GateRequest) : Prop :=
  ∀ a ∈ held, a.storedKey = (Admission.granted q 0).storedKey → q.key ≠ none ∧ a.key = q.key

/-- The newest admissions that a release without a key may mean were acquired without one, by the tenant that is given. -/
def newestKeyless (held : Outstanding) (q : GateRequest) : Prop :=
  (∃ a ∈ held, a.isOf q = true) ∧
    ∀ a ∈ held, a.isOf q = true → (∀ b ∈ held, b.isOf q = true → b.acquiredAt ≤ a.acquiredAt) →
      a.key = none ∧ a.tenantId = q.tenantId

/-- A release that either names an admission, or that cannot mean any, or that has no key and means one without. -/
def releaseClear (held : Outstanding) (q : GateRequest) : Prop :=
  held.unknown q ∨ (∃ key, q.key = some key ∧ held.named key ≠ none) ∨ (q.key = none ∧ held.newestKeyless q)

end Outstanding

/-- The limits hold. -/
structure Within (budget : WorkerConcurrencyBudget) (held : Outstanding) : Prop where
  global : held.length ≤ budget.globalLimit
  principal : ∀ p, (held.map Admission.principalId).count p ≤ budget.principalLimit
  session : ∀ s, (held.map Admission.sessionId).count s ≤ budget.sessionLimit
  tenant : ∀ limit, budget.tenantLimit = some limit → ∀ t, held.tenants.count t ≤ limit

structure MemoryHolds (gate : WorkerConcurrencyGate) (held : Outstanding) : Prop where
  global : gate.activeGlobal = held.length
  principals : Tallies gate.activePrincipals (held.map Admission.principalId)
  sessions : Tallies gate.activeSessions (held.map Admission.sessionId)
  tenants : Tallies gate.activeTenants held.tenants
  keys : ∀ key, gate.admissions.get? key = (held.named key).map Admission.parties

/-- What the database stores of an admission. -/
def AdmissionRow.entry (row : AdmissionRow) : String × String × String × String × ℚ :=
  (row.admissionKey, row.principalId, row.sessionId, row.tenantId, row.acquiredAt)

def Admission.entry (a : Admission) : String × String × String × String × ℚ :=
  (a.storedKey, a.principalId, a.sessionId, a.tenantId, a.acquiredAt)

/-- What the gate in the database stores. -/
structure DurableHolds (gate : DurableWorkerConcurrencyGate) (held : Outstanding) : Prop where
  rows : ((gate.rows.filter AdmissionRow.active).map AdmissionRow.entry).Perm (held.map Admission.entry)
  distinct : (held.map Admission.storedKey).Nodup
  ids : (gate.rows.map AdmissionRow.admissionId).Nodup
  fresh : ∀ row ∈ gate.rows, row.admissionId < gate.nextId

/-- The answers agree, and so do the contents if the calls return. -/
def Follows {α β γ : Type} (holds : β → γ → Prop) : Except GateError (α × β) → Except GateError (α × γ) → Prop
  | .ok (answer, gate), .ok (answer', held) => answer = answer' ∧ holds gate held
  | .error _, .error _ => True
  | _, _ => False

variable {budget : WorkerConcurrencyBudget} {held : Outstanding} {q : GateRequest} {now : ℚ} {a : Admission}

/-! ### The gate in memory -/

section Memory

variable {gate : WorkerConcurrencyGate}

namespace MemoryHolds

theorem existing_eq (h : MemoryHolds gate held) :
    gate.existing q = (q.key.bind held.named).map Admission.parties := by
  rw [existing]
  cases q.key with
  | none => rfl
  | some key => exact h.keys key

theorem full_eq (h : MemoryHolds gate held) : gate.full budget q = held.full budget q := by
  rw [full, Outstanding.full, h.global, h.principals.getD_eq, h.sessions.getD_eq, h.tenants.getD_eq]

theorem counted (h : MemoryHolds gate held) : MemoryHolds (gate.counted q) (.granted q now :: held) := by
  refine ⟨congrArg (· + 1) h.global, h.principals.raised _, h.sessions.raised _, ?_, fun key => ?_⟩
  · unfold WorkerConcurrencyGate.counted Outstanding.tenants
    dsimp only
    rw [map_cons, filter_cons]
    split
    · rename_i hempty
      rw [if_neg (by simp [Admission.granted, hempty])]
      exact h.tenants
    · rename_i htenant
      have hgiven : decide ((Admission.granted q now).tenantId ≠ "") = true := decide_eq_true htenant
      rw [if_pos hgiven]
      exact h.tenants.raised _
  · unfold WorkerConcurrencyGate.counted Outstanding.named
    dsimp only
    rw [find?_cons]
    cases hkey : q.key with
    | none =>
      have hother : decide ((Admission.granted q now).key = some key) = false := by simp [Admission.granted, hkey]
      rw [hother]
      exact h.keys key
    | some k =>
      rw [Dict.get?_set]
      by_cases heq : key = k
      · have hthis : decide ((Admission.granted q now).key = some key) = true := by simp [Admission.granted, hkey, heq]
        rw [if_pos heq, hthis]
        rfl
      · have hother : decide ((Admission.granted q now).key = some key) = false := by
          simp [Admission.granted, hkey, Ne.symm heq]
        rw [if_neg heq, hother]
        exact h.keys key

/-- **The gate in memory acquires** as the outstanding admissions do. -/
theorem tryAcquire (h : MemoryHolds gate held) :
    Follows MemoryHolds (gate.tryAcquire budget q) (held.acquire budget q now) := by
  unfold WorkerConcurrencyGate.tryAcquire Outstanding.acquire
  cases q.validateIds with
  | error e => trivial
  | ok u =>
    simp only [ok_bind, h.existing_eq, h.full_eq]
    cases hnamed : q.key.bind held.named with
    | some a => exact ⟨rfl, h⟩
    | none =>
      dsimp only [Option.map_none]
      cases held.full budget q with
      | true => exact ⟨rfl, h⟩
      | false => exact ⟨rfl, h.counted⟩

end MemoryHolds

end Memory

/-! ### Outstanding admissions -/

namespace Outstanding

variable {key : String} {b : Admission}

theorem eq_of_storedKey (hdistinct : (held.map Admission.storedKey).Nodup) (ha : a ∈ held) (hb : b ∈ held)
    (heq : a.storedKey = b.storedKey) : a = b := inj_on_of_nodup_map hdistinct ha hb heq

theorem storedKey_of_key (h : a.key = some key) : a.storedKey = key := by rw [Admission.storedKey, h]; rfl

theorem mem_of_named (h : held.named key = some a) : a ∈ held ∧ a.key = some key := by
  have hkey : decide (a.key = some key) = true := find?_some (p := fun a : Admission => decide (a.key = some key)) h
  exact ⟨mem_of_find?_eq_some h, of_decide_eq_true hkey⟩

theorem named_eq_some (hdistinct : (held.map Admission.storedKey).Nodup) :
    held.named key = some a ↔ a ∈ held ∧ a.key = some key := by
  constructor
  · exact mem_of_named
  · rintro ⟨hmem, hkey⟩
    cases hnamed : held.named key with
    | none => exact absurd (find?_eq_none.mp hnamed a hmem) (by simp [hkey])
    | some b =>
      obtain ⟨hb, hbkey⟩ := mem_of_named hnamed
      rw [eq_of_storedKey hdistinct hb hmem ((storedKey_of_key hbkey).trans (storedKey_of_key hkey).symm)]

theorem target_eq_some (h : held.target q = some a) : a ∈ held ∧ a.key = q.key ∧ a.isOf q = true := by
  have hboth : (decide (a.key = q.key) && a.isOf q) = true :=
    find?_some (p := fun a : Admission => decide (a.key = q.key) && a.isOf q) h
  obtain ⟨hkey, hof⟩ := Bool.and_eq_true_iff.mp hboth
  exact ⟨mem_of_find?_eq_some h, of_decide_eq_true hkey, hof⟩

theorem target_eq_none (h : held.target q = none) (hmem : a ∈ held) (hkey : a.key = q.key) : a.isOf q = false := by
  have hnot := find?_eq_none.mp h a hmem
  rw [decide_eq_true hkey, Bool.true_and] at hnot
  exact Bool.eq_false_iff.mpr hnot

theorem isOf_iff : a.isOf q = true ↔
    a.principalId = q.principalId ∧ a.sessionId = q.sessionId ∧ (q.tenantId = "" ∨ a.tenantId = q.tenantId) := by
  simp [Admission.isOf, and_assoc]

theorem isOf_of_unknown (h : held.unknown q) (hmem : a ∈ held) : a.isOf q = false := by
  refine Bool.eq_false_iff.mpr fun hof => ?_
  obtain ⟨hp, hs, ht⟩ := isOf_iff.mp hof
  rcases h with hnone | hnone | ⟨hgiven, hnone⟩
  · exact hnone (hp ▸ mem_map_of_mem hmem)
  · exact hnone (hs ▸ mem_map_of_mem hmem)
  · rcases ht with hempty | ht
    · exact hgiven hempty
    · exact hnone (ht ▸ mem_map_of_mem hmem)

theorem named_erase (hdistinct : (held.map Admission.storedKey).Nodup) (hmem : a ∈ held) :
    named (held.erase a) key = if a.key = some key then none else held.named key := by
  have hnodup : held.Nodup := List.Nodup.of_map _ hdistinct
  have hdistinct' : ((held.erase a).map Admission.storedKey).Nodup :=
    hdistinct.sublist (List.Sublist.map _ erase_sublist)
  refine Option.ext fun b => ?_
  rw [named_eq_some hdistinct', hnodup.mem_erase_iff]
  split
  · rename_i hkey
    refine iff_of_false ?_ nofun
    rintro ⟨⟨hne, hb⟩, hbkey⟩
    exact hne (eq_of_storedKey hdistinct hb hmem ((storedKey_of_key hbkey).trans (storedKey_of_key hkey).symm))
  · rename_i hkey
    rw [named_eq_some hdistinct]
    constructor
    · rintro ⟨⟨-, hb⟩, hbkey⟩
      exact ⟨hb, hbkey⟩
    · rintro ⟨hb, hbkey⟩
      exact ⟨⟨fun heq => hkey (heq ▸ hbkey), hb⟩, hbkey⟩

end Outstanding

/-! ### Releasing in memory -/

namespace MemoryHolds

variable {gate : WorkerConcurrencyGate}

theorem discharge (h : MemoryHolds gate held) (hdistinct : (held.map Admission.storedKey).Nodup) (hmem : a ∈ held)
    (hkey : a.key = q.key) (hparties : a.parties = (q.principalId, q.sessionId, q.tenantId)) :
    gate.giveBack q = .ok (gate.discharge q) ∧ MemoryHolds (gate.discharge q) (held.erase a) := by
  obtain ⟨hp, hs, ht⟩ : a.principalId = q.principalId ∧ a.sessionId = q.sessionId ∧ a.tenantId = q.tenantId := by
    simpa [Admission.parties] using hparties
  have hperm : held.Perm (a :: held.erase a) := perm_cons_erase hmem
  have hprincipals := h.principals.perm (hperm.map _)
  have hsessions := h.sessions.perm (hperm.map _)
  have htenants := h.tenants.perm ((hperm.map _).filter _)
  have hlength := hperm.length_eq
  rw [map_cons, hp] at hprincipals
  rw [map_cons, hs] at hsessions
  rw [map_cons, ht, filter_cons] at htenants
  rw [length_cons] at hlength
  constructor
  · unfold giveBack
    rw [if_neg, if_neg]
    · rintro ⟨hgiven, hnone⟩
      rw [if_pos (decide_eq_true hgiven)] at htenants
      rw [htenants.getD_eq, count_cons_self] at hnone
      omega
    · rw [h.global, hprincipals.getD_eq, hsessions.getD_eq, count_cons_self, count_cons_self]
      omega
  · refine ⟨?_, hprincipals.lowered, hsessions.lowered, ?_, fun key => ?_⟩
    · show gate.activeGlobal - 1 = _
      rw [h.global]
      omega
    · unfold WorkerConcurrencyGate.discharge
      dsimp only
      split
      · rename_i hempty
        rwa [if_neg (by simp [hempty])] at htenants
      · rename_i hgiven
        rw [if_pos (decide_eq_true hgiven)] at htenants
        exact htenants.lowered
    · unfold WorkerConcurrencyGate.discharge
      dsimp only
      rw [Outstanding.named_erase hdistinct hmem, hkey]
      cases q.key with
      | none => exact h.keys key
      | some k =>
        rw [Dict.get?_erase]
        by_cases heq : key = k
        · rw [if_pos heq, if_pos (congrArg some heq.symm)]
          rfl
        · rw [if_neg heq, if_neg fun hsome => heq (Option.some.inj hsome).symm]
          exact h.keys key

theorem giveBack_of_unknown (h : MemoryHolds gate held) (hunknown : held.unknown q) :
    ∃ e, gate.giveBack q = .error e := by
  unfold giveBack
  split
  · exact ⟨_, rfl⟩
  · rename_i hsome
    rw [h.principals.getD_eq, h.sessions.getD_eq] at hsome
    split
    · exact ⟨_, rfl⟩
    · rename_i htenant
      rw [h.tenants.getD_eq] at htenant
      rcases hunknown with hnone | hnone | ⟨hgiven, hnone⟩
      · exact absurd (.inr (.inl (Nat.le_of_eq (count_eq_zero.mpr hnone)))) hsome
      · exact absurd (.inr (.inr (Nat.le_of_eq (count_eq_zero.mpr hnone)))) hsome
      · exact absurd ⟨hgiven, Nat.le_of_eq (count_eq_zero.mpr fun hin => hnone (mem_filter.mp hin).1)⟩ htenant

/-- **A release that names an admission** by its key. -/
theorem release_named (h : MemoryHolds gate held) (hdistinct : (held.map Admission.storedKey).Nodup)
    (hnamed : q.key.bind held.named = some a) :
    if a.isOf q then ∃ gate', gate.release q = .ok gate' ∧ MemoryHolds gate' (held.erase a)
    else ∃ e, gate.release q = .error e := by
  obtain ⟨key, hkey, hfind⟩ := Option.bind_eq_some_iff.mp hnamed
  obtain ⟨hmem, hakey⟩ := (Outstanding.named_eq_some hdistinct).mp hfind
  unfold WorkerConcurrencyGate.release
  rw [h.existing_eq, hnamed, Option.map_some]
  unfold Admission.parties
  dsimp only
  by_cases hpair : (a.principalId, a.sessionId) = (q.principalId, q.sessionId)
  · obtain ⟨hp, hs⟩ := Prod.mk.inj hpair
    rw [if_neg (not_not.mpr hpair)]
    by_cases hempty : q.tenantId = ""
    · rw [if_pos hempty, if_pos (Outstanding.isOf_iff.mpr ⟨hp, hs, .inl hempty⟩)]
      have hgive := h.discharge (q := { q with tenantId := a.tenantId }) hdistinct hmem (hakey.trans hkey.symm)
        (by rw [Admission.parties, hp, hs])
      exact ⟨_, hgive⟩
    · rw [if_neg hempty]
      by_cases htenant : q.tenantId = a.tenantId
      · rw [if_neg (not_not.mpr htenant), if_pos (Outstanding.isOf_iff.mpr ⟨hp, hs, .inr htenant.symm⟩)]
        have hgive := h.discharge hdistinct hmem (hakey.trans hkey.symm) (by rw [Admission.parties, hp, hs, htenant])
        exact ⟨_, hgive⟩
      · rw [if_pos htenant, if_neg]
        · exact ⟨_, rfl⟩
        · rw [Outstanding.isOf_iff]
          rintro ⟨-, -, ht | ht⟩
          · exact hempty ht
          · exact htenant ht.symm
  · rw [if_pos hpair, if_neg]
    · exact ⟨_, rfl⟩
    · rw [Outstanding.isOf_iff]
      rintro ⟨hp, hs, -⟩
      exact hpair (by rw [hp, hs])

end MemoryHolds

/-! ### What a clear release means -/

namespace Outstanding

theorem target_of_named (hdistinct : (held.map Admission.storedKey).Nodup) (hnamed : q.key.bind held.named = some a) :
    held.target q = if a.isOf q then some a else none := by
  obtain ⟨key, hkey, hfind⟩ := Option.bind_eq_some_iff.mp hnamed
  obtain ⟨hmem, hakey⟩ := mem_of_named hfind
  have hsame : ∀ b, held.target q = some b → b = a := by
    intro b hb
    obtain ⟨hbmem, hbkey, -⟩ := target_eq_some hb
    exact Option.some.inj (((named_eq_some hdistinct).mpr ⟨hbmem, hbkey.trans hkey⟩).symm.trans hfind)
  split
  · rename_i hof
    cases htarget : held.target q with
    | none =>
      rw [target_eq_none htarget hmem (hakey.trans hkey.symm)] at hof
      cases hof
    | some b => rw [hsame b htarget]
  · rename_i hof
    cases htarget : held.target q with
    | none => rfl
    | some b =>
      obtain rfl := hsame b htarget
      exact absurd (target_eq_some htarget).2.2 hof

theorem target_of_unknown (h : held.unknown q) : held.target q = none := by
  cases htarget : held.target q with
  | none => rfl
  | some a =>
    obtain ⟨hmem, -, hof⟩ := target_eq_some htarget
    rw [isOf_of_unknown h hmem] at hof
    cases hof

theorem exists_newest (h : ∃ a ∈ held, a.isOf q = true) :
    ∃ a ∈ held, a.isOf q = true ∧ ∀ b ∈ held, b.isOf q = true → b.acquiredAt ≤ a.acquiredAt := by
  induction held with
  | nil =>
    obtain ⟨a, hmem, -⟩ := h
    cases hmem
  | cons first held ih =>
    by_cases hrest : ∃ a ∈ held, a.isOf q = true
    · obtain ⟨a, hmem, hof, hnewest⟩ := ih hrest
      by_cases hfirst : first.isOf q = true ∧ a.acquiredAt ≤ first.acquiredAt
      · refine ⟨first, mem_cons_self, hfirst.1, fun b hb hbof => ?_⟩
        rcases mem_cons.mp hb with rfl | hin
        · exact le_refl _
        · exact (hnewest b hin hbof).trans hfirst.2
      · refine ⟨a, mem_cons_of_mem _ hmem, hof, fun b hb hbof => ?_⟩
        rcases mem_cons.mp hb with rfl | hin
        · exact le_of_lt (not_le.mp fun hle => hfirst ⟨hbof, hle⟩)
        · exact hnewest b hin hbof
    · obtain ⟨a, hmem, hof⟩ := h
      rcases mem_cons.mp hmem with rfl | hin
      · refine ⟨a, hmem, hof, fun b hb hbof => ?_⟩
        rcases mem_cons.mp hb with rfl | hin'
        · exact le_refl _
        · exact absurd ⟨b, hin', hbof⟩ hrest
      · exact absurd ⟨a, hin, hof⟩ hrest

theorem storedKey_of_keyless (h : a.key = none) (hsession : a.sessionId = q.sessionId) :
    a.storedKey = "" ++ ":" ++ q.sessionId := by
  rw [Admission.storedKey, h, hsession]
  rfl

/-- **A release without a key** means the newest admission of the parties, which is the only one without a key. -/
theorem target_of_keyless (hdistinct : (held.map Admission.storedKey).Nodup) (hkey : q.key = none)
    (h : held.newestKeyless q) :
    ∃ a, held.target q = some a ∧ a.tenantId = q.tenantId ∧ ∀ b ∈ held, b.isOf q = true →
      (∀ b' ∈ held, b'.isOf q = true → b'.acquiredAt ≤ b.acquiredAt) → b = a := by
  obtain ⟨a, hmem, hof, hnewest⟩ := exists_newest h.1
  obtain ⟨hakey, htenant⟩ := h.2 a hmem hof hnewest
  -- all admissions without a key of one session are the same
  have honly : ∀ b ∈ held, b.isOf q = true → b.key = none → b = a := fun b hb hbof hbkey =>
    eq_of_storedKey hdistinct hb hmem ((storedKey_of_keyless hbkey (isOf_iff.mp hbof).2.1).trans
      (storedKey_of_keyless hakey (isOf_iff.mp hof).2.1).symm)
  refine ⟨a, ?_, htenant, fun b hb hbof hbnewest => honly b hb hbof (h.2 b hb hbof hbnewest).1⟩
  cases htarget : held.target q with
  | none =>
    rw [target_eq_none htarget hmem (hakey.trans hkey.symm)] at hof
    cases hof
  | some b =>
    obtain ⟨hb, hbkey, hbof⟩ := target_eq_some htarget
    rw [honly b hb hbof (hbkey.trans hkey)]

end Outstanding

/-- **The gate in memory releases** as the outstanding admissions do, if the release is clear. -/
theorem MemoryHolds.release {gate : WorkerConcurrencyGate} (h : MemoryHolds gate held)
    (hdistinct : (held.map Admission.storedKey).Nodup) (hclear : held.releaseClear q)
    (hvalid : q.validateIds ≠ .ok () → held.unknown q) :
    Follows MemoryHolds ((gate.release q).map fun gate => ((), gate)) ((held.release q).map fun held => ((), held)) := by
  have hrelease : q.validateIds = .ok () → held.release q = match held.target q with
      | some a => .ok (held.erase a)
      | none => .error (.agentWorkerError "worker concurrency release has no matching admission") := by
    intro hok
    rw [Outstanding.release, hok]
    rfl
  have hrefused : held.unknown q → ∃ e, held.release q = .error e := by
    intro hunknown
    unfold Outstanding.release
    cases hids : q.validateIds with
    | error e => exact ⟨e, rfl⟩
    | ok u =>
      rw [ok_bind, Outstanding.target_of_unknown hunknown]
      exact ⟨_, rfl⟩
  cases hnamed : q.key.bind held.named with
  | some a =>
    have hmemory := h.release_named hdistinct hnamed
    by_cases hof : a.isOf q = true
    · rw [if_pos hof] at hmemory
      obtain ⟨gate', hgate', hholds⟩ := hmemory
      have hids : q.validateIds = .ok () := by
        by_contra hbad
        obtain ⟨key, -, hfind⟩ := Option.bind_eq_some_iff.mp hnamed
        rw [Outstanding.isOf_of_unknown (hvalid hbad) (Outstanding.mem_of_named hfind).1] at hof
        cases hof
      rw [hgate', hrelease hids, Outstanding.target_of_named hdistinct hnamed, if_pos hof]
      exact ⟨rfl, hholds⟩
    · rw [if_neg hof] at hmemory
      obtain ⟨e, he⟩ := hmemory
      have hspec : ∃ e, held.release q = .error e := by
        by_cases hids : q.validateIds = .ok ()
        · rw [hrelease hids, Outstanding.target_of_named hdistinct hnamed, if_neg hof]
          exact ⟨_, rfl⟩
        · exact hrefused (hvalid hids)
      obtain ⟨e', he'⟩ := hspec
      rw [he, he']
      trivial
  | none =>
    have hthere : gate.release q = gate.giveBack q := by
      rw [WorkerConcurrencyGate.release, h.existing_eq, hnamed]
      rfl
    have hunclear : held.unknown q → Follows MemoryHolds ((gate.release q).map fun gate => ((), gate))
        ((held.release q).map fun held => ((), held)) := by
      intro hunknown
      obtain ⟨e, he⟩ := h.giveBack_of_unknown hunknown
      obtain ⟨e', he'⟩ := hrefused hunknown
      rw [hthere, he, he']
      trivial
    by_cases hids : q.validateIds = .ok ()
    · rcases hclear with hunknown | ⟨key, hkey, hsome⟩ | ⟨hkey, hnewest⟩
      · exact hunclear hunknown
      · rw [hkey] at hnamed
        exact absurd hnamed hsome
      · obtain ⟨a, htarget, htenant, -⟩ := Outstanding.target_of_keyless hdistinct hkey hnewest
        obtain ⟨hmem, hakey, hof⟩ := Outstanding.target_eq_some htarget
        obtain ⟨hp, hs, -⟩ := Outstanding.isOf_iff.mp hof
        obtain ⟨hgive, hholds⟩ := h.discharge hdistinct hmem hakey (by rw [Admission.parties, hp, hs, htenant])
        rw [hthere, hgive, hrelease hids, htarget]
        exact ⟨rfl, hholds⟩
    · exact hunclear (hvalid hids)

/-! ### The gate in the database -/

namespace DurableHolds

variable {gate : DurableWorkerConcurrencyGate} {row : AdmissionRow} {leaseSeconds : ℚ}

theorem mem_of_row (h : DurableHolds gate held) (hmem : row ∈ gate.rows) (hactive : row.active = true) :
    ∃ a ∈ held, a.entry = row.entry :=
  mem_map.mp (h.rows.mem_iff.mp (mem_map_of_mem (mem_filter.mpr ⟨hmem, hactive⟩)))

theorem row_of_mem (h : DurableHolds gate held) (hmem : a ∈ held) :
    ∃ row ∈ gate.rows, row.active = true ∧ a.entry = row.entry := by
  obtain ⟨row, hrow, heq⟩ := mem_map.mp (h.rows.mem_iff.mpr (mem_map_of_mem hmem))
  obtain ⟨hin, hactive⟩ := mem_filter.mp hrow
  exact ⟨row, hin, hactive, heq.symm⟩

theorem entry_eq_iff : a.entry = row.entry ↔ a.storedKey = row.admissionKey ∧ a.principalId = row.principalId ∧
    a.sessionId = row.sessionId ∧ a.tenantId = row.tenantId ∧ a.acquiredAt = row.acquiredAt := by
  simp [Admission.entry, entry]

theorem isOf_of_entry (h : a.entry = row.entry) (q : GateRequest) : row.isOf q = a.isOf q := by
  obtain ⟨-, hp, hs, ht, -⟩ := entry_eq_iff.mp h
  rw [isOf, Admission.isOf, hp, hs, ht]

theorem eq_of_key (h : DurableHolds gate held) {row' : AdmissionRow} (hmem : row ∈ gate.rows) (hmem' : row' ∈ gate.rows)
    (hactive : row.active = true) (hactive' : row'.active = true) (hkey : row.admissionKey = row'.admissionKey) :
    row = row' := by
  have hkeys : ((gate.rows.filter active).map admissionKey).Nodup := by
    have hperm := h.rows.map Prod.fst
    rw [map_map, map_map] at hperm
    exact hperm.nodup_iff.mpr h.distinct
  exact inj_on_of_nodup_map hkeys (mem_filter.mpr ⟨hmem, hactive⟩) (mem_filter.mpr ⟨hmem', hactive'⟩) hkey

theorem map_perm {β : Type} (h : DurableHolds gate held) (g : String × String × String × String × ℚ → β) :
    ((gate.rows.filter AdmissionRow.active).map fun row => g row.entry).Perm (held.map fun a => g a.entry) := by
  have hperm := h.rows.map g
  rwa [map_map, map_map] at hperm

theorem count_eq (f : AdmissionRow → String) (x : String) :
    gate.count (fun row => decide (f row = x)) = ((gate.rows.filter AdmissionRow.active).map f).count x := by
  have hsplit : gate.rows.filter (fun row => row.active && decide (f row = x))
      = (gate.rows.filter active).filter fun row => decide (f row = x) := by
    rw [filter_filter]
    exact filter_congr fun row _ => Bool.and_comm _ _
  rw [DurableWorkerConcurrencyGate.count, hsplit, count, countP_map, countP_eq_length_filter]
  rfl

theorem full_eq (h : DurableHolds gate held) : gate.full budget q = held.full budget q := by
  have hall : gate.count (fun _ => true) = held.length := by
    have hlength := h.rows.length_eq
    rw [length_map, length_map] at hlength
    rw [← hlength, DurableWorkerConcurrencyGate.count]
    simp
  have hprincipals := (h.map_perm fun e => e.2.1).count_eq q.principalId
  have hsessions := (h.map_perm fun e => e.2.2.1).count_eq q.sessionId
  have htenants := (h.map_perm fun e => e.2.2.2.1).count_eq q.tenantId
  simp only [entry, Admission.entry] at hprincipals hsessions htenants
  rw [DurableWorkerConcurrencyGate.full, Outstanding.full, hall, count_eq, count_eq, count_eq, hprincipals, hsessions,
    htenants]
  by_cases hgiven : q.tenantId = ""
  · simp [hgiven]
  · have hsome : decide (q.tenantId ≠ "") = true := decide_eq_true hgiven
    have htenant : held.tenants.count q.tenantId = (held.map Admission.tenantId).count q.tenantId :=
      count_filter (p := fun tenant : String => decide (tenant ≠ "")) hsome
    rw [htenant]

theorem reclaimExpired_eq (h : ∀ row ∈ gate.rows, row.active = true → now < row.expiresAt) :
    gate.reclaimExpired now = gate := by
  have hall : gate.rows.filter (fun row => !row.expired now) = gate.rows := by
    refine filter_eq_self.mpr fun row hmem => ?_
    cases hactive : row.active with
    | false => simp [expired, hactive]
    | true => simp [expired, hactive, not_le.mpr (h row hmem hactive)]
  rw [DurableWorkerConcurrencyGate.reclaimExpired, hall]

theorem extend (h : DurableHolds gate held) (admissionId : ℕ) (now : ℚ) :
    DurableHolds (gate.extend leaseSeconds admissionId now) held := by
  let touch : AdmissionRow → AdmissionRow := fun row =>
    if row.admissionId = admissionId then row.extend leaseSeconds now else row
  have hactive : active ∘ touch = active := by
    funext row
    show (touch row).active = row.active
    unfold touch
    split <;> rfl
  have hentry : entry ∘ touch = entry := by
    funext row
    show (touch row).entry = row.entry
    unfold touch
    split <;> rfl
  have hid : AdmissionRow.admissionId ∘ touch = AdmissionRow.admissionId := by
    funext row
    show (touch row).admissionId = row.admissionId
    unfold touch
    split <;> rfl
  refine ⟨?_, h.distinct, ?_, fun row hmem => ?_⟩
  · show (((gate.rows.map touch).filter active).map entry).Perm _
    rw [filter_map, map_map, hactive, hentry]
    exact h.rows
  · show ((gate.rows.map touch).map AdmissionRow.admissionId).Nodup
    rw [map_map, hid]
    exact h.ids
  · obtain ⟨row', hmem', rfl⟩ := mem_map.mp hmem
    have hlt := h.fresh row' hmem'
    rwa [← congrFun hid row'] at hlt

theorem insert (h : DurableHolds gate held) (hnew : ∀ a ∈ held, a.storedKey ≠ (Admission.granted q now).storedKey) :
    DurableHolds (gate.insert leaseSeconds q "" now) (.granted q now :: held) := by
  refine ⟨?_, nodup_cons.mpr ⟨fun hmem => ?_, h.distinct⟩, ?_, fun row hmem => ?_⟩
  · rw [DurableWorkerConcurrencyGate.insert, filter_append, map_append]
    exact perm_append_comm.trans (h.rows.cons _)
  · obtain ⟨a, ha, heq⟩ := mem_map.mp hmem
    exact hnew a ha heq
  · rw [DurableWorkerConcurrencyGate.insert, map_append]
    refine nodup_append.mpr ⟨h.ids, nodup_singleton _, fun x hx y hy => ?_⟩
    obtain ⟨row, hrow, rfl⟩ := mem_map.mp hx
    rw [mem_singleton.mp hy]
    exact Nat.ne_of_lt (h.fresh row hrow)
  · rcases mem_append.mp hmem with hold | hlast
    · exact Nat.lt_succ_of_lt (h.fresh row hold)
    · rw [mem_singleton.mp hlast]
      exact Nat.lt_succ_self _

theorem existing_eq_some {key : String} (hexisting : gate.existing key = some row) :
    row ∈ gate.rows ∧ row.active = true ∧ row.admissionKey = key := by
  have hboth : (row.active && decide (row.admissionKey = key)) = true :=
    find?_some (p := fun row : AdmissionRow => row.active && decide (row.admissionKey = key)) hexisting
  obtain ⟨hactive, hkey⟩ := Bool.and_eq_true_iff.mp hboth
  exact ⟨mem_of_find?_eq_some hexisting, hactive, of_decide_eq_true hkey⟩

theorem storedKey_ne_empty : DurableWorkerConcurrencyGate.storedKey q "" ≠ "" := by
  rw [DurableWorkerConcurrencyGate.storedKey, GateRequest.key]
  cases hkey : q.admissionKey.filter fun key => decide (key ≠ "") with
  | some key => exact of_decide_eq_true (Option.filter_eq_some_iff.mp hkey).2
  | none =>
    intro h
    have hlength := congrArg String.length h
    rw [Option.getD_none, String.length_append, String.length_append] at hlength
    exact absurd hlength (by simp)

/-- **The gate in the database acquires** as the outstanding admissions do, if no lease has expired and the request can be
told apart from the admissions without a key. -/
theorem tryAcquire (h : DurableHolds gate held) (hlive : ∀ row ∈ gate.rows, row.active = true → now < row.expiresAt)
    (hapart : held.keyApart q) :
    Follows DurableHolds (gate.tryAcquire budget leaseSeconds q "" now) (held.acquire budget q now) := by
  unfold DurableWorkerConcurrencyGate.tryAcquire Outstanding.acquire
  cases q.validateIds with
  | error e => trivial
  | ok u =>
    simp only [ok_bind, if_neg storedKey_ne_empty, reclaimExpired_eq hlive, h.full_eq]
    cases hexisting : gate.existing (DurableWorkerConcurrencyGate.storedKey q "") with
    | some row =>
      obtain ⟨hmem, hactive, hrowKey⟩ := existing_eq_some hexisting
      obtain ⟨a, ha, hentry⟩ := h.mem_of_row hmem hactive
      obtain ⟨hstored, hp, hs, ht, -⟩ := entry_eq_iff.mp hentry
      obtain ⟨hsome, hakey⟩ := hapart a ha (hstored.trans hrowKey)
      have hnamed : q.key.bind held.named = some a := by
        obtain ⟨key, hqkey⟩ := Option.ne_none_iff_exists'.mp hsome
        rw [hqkey]
        exact (Outstanding.named_eq_some h.distinct).mpr ⟨ha, hakey.trans hqkey⟩
      rw [hnamed]
      dsimp only
      by_cases hparties : a.parties = (q.principalId, q.sessionId, q.tenantId)
      · rw [if_neg, decide_eq_true hparties]
        · exact ⟨rfl, h.extend _ _⟩
        · rw [← hp, ← hs, ← ht]
          rintro (hne | hne | hne)
          · exact hne (congrArg Prod.fst hparties)
          · exact hne (congrArg (fun e => e.2.1) hparties)
          · exact hne (congrArg (fun e => e.2.2) hparties)
      · rw [if_pos, decide_eq_false hparties]
        · exact ⟨rfl, h⟩
        · rw [← hp, ← hs, ← ht]
          by_contra hall
          simp only [not_or, not_not] at hall
          exact hparties (by rw [Admission.parties, hall.1, hall.2.1, hall.2.2])
    | none =>
      have hnew : ∀ a ∈ held, a.storedKey ≠ (Admission.granted q now).storedKey := by
        intro a ha hstored
        obtain ⟨row, hmem, hactive, hentry⟩ := h.row_of_mem ha
        have hnone := find?_eq_none.mp hexisting row hmem
        have hkey' : row.admissionKey = DurableWorkerConcurrencyGate.storedKey q "" :=
          (entry_eq_iff.mp hentry).1.symm.trans hstored
        rw [hactive, Bool.true_and, decide_eq_true hkey'] at hnone
        exact hnone rfl
      have hnamed : q.key.bind held.named = none := by
        cases hqkey : q.key with
        | none => rfl
        | some key =>
          cases hfind : held.named key with
          | none => exact hfind
          | some a =>
            obtain ⟨ha, hakey⟩ := Outstanding.mem_of_named hfind
            refine absurd ((Outstanding.storedKey_of_key hakey).trans ?_) (hnew a ha)
            rw [Outstanding.storedKey_of_key (a := .granted q now) hqkey]
      rw [hnamed]
      dsimp only
      cases held.full budget q with
      | true => exact ⟨rfl, h⟩
      | false => exact ⟨rfl, h.insert hnew⟩

/-- **The update of a release** that hits the row of an admission and no other. -/
theorem releaseWhere (h : DurableHolds gate held) {p : AdmissionRow → Bool} (ha : a ∈ held) (hmem : row ∈ gate.rows)
    (hactive : row.active = true) (hentry : a.entry = row.entry) (hp : ∀ r ∈ gate.rows, p r = true ↔ r = row) :
    Follows DurableHolds ((gate.releaseWhere p now).map fun gate => ((), gate)) (.ok ((), held.erase a)) := by
  obtain ⟨before, after, hrows⟩ := append_of_mem hmem
  have hnodup : gate.rows.Nodup := List.Nodup.of_map _ h.ids
  rw [hrows] at hnodup hp
  have hself : p row = true := (hp row (by simp)).mpr rfl
  have hother : ∀ r, r ∈ before ∨ r ∈ after → p r = false := by
    intro r hr
    refine Bool.eq_false_iff.mpr fun hpr => ?_
    obtain rfl := (hp r (by rcases hr with hin | hin <;> simp [hin])).mp hpr
    obtain ⟨-, hafter, hbefore⟩ := nodup_append.mp hnodup
    rcases hr with hin | hin
    · exact hbefore r hin r mem_cons_self rfl
    · exact (nodup_cons.mp hafter).1 hin
  have hkept : ∀ rows : List AdmissionRow, (∀ r ∈ rows, p r = false) →
      (rows.map fun r => if p r then r.release now else r) = rows := by
    intro rows hnone
    refine (map_congr_left fun r hr => ?_).trans (map_id rows)
    rw [hnone r hr]
    rfl
  have hreleased : (gate.rows.map fun r => if p r then r.release now else r) = before ++ row.release now :: after := by
    rw [hrows, map_append, map_cons, if_pos hself, hkept before fun r hr => hother r (.inl hr),
      hkept after fun r hr => hother r (.inr hr)]
  have hone : (gate.rows.filter p).length = 1 := by
    rw [hrows, filter_append, filter_cons_of_pos hself,
      filter_eq_nil_iff.mpr fun r hr => Bool.eq_false_iff.mp (hother r (.inl hr)),
      filter_eq_nil_iff.mpr fun r hr => Bool.eq_false_iff.mp (hother r (.inr hr))]
    rfl
  unfold DurableWorkerConcurrencyGate.releaseWhere
  rw [if_neg (not_not.mpr hone), hreleased]
  refine ⟨rfl, ?_, h.distinct.sublist (List.Sublist.map _ erase_sublist), ?_, fun r hr => ?_⟩
  · have hold := h.rows
    rw [hrows, filter_append, filter_cons_of_pos hactive, map_append, map_cons] at hold
    have hheld := (perm_cons_erase ha).map Admission.entry
    rw [map_cons, hentry] at hheld
    have hcancel := (perm_middle.symm.trans hold).trans hheld
    show (((before ++ row.release now :: after).filter active).map entry).Perm _
    have hgone : (row.release now).active = false := rfl
    rw [filter_append, filter_cons_of_neg (Bool.eq_false_iff.mp hgone), map_append]
    exact hcancel.cons_inv
  · have hids := h.ids
    rw [hrows, map_append, map_cons] at hids
    show ((before ++ row.release now :: after).map admissionId).Nodup
    rw [map_append, map_cons]
    exact hids
  · have hfresh := h.fresh
    rw [hrows] at hfresh
    rcases mem_append.mp hr with hin | hin
    · exact hfresh r (mem_append_left _ hin)
    · rcases mem_cons.mp hin with rfl | hin
      · exact hfresh row (by simp)
      · exact hfresh r (mem_append_right _ (mem_cons_of_mem _ hin))

theorem releaseWhere_eq_error {p : AdmissionRow → Bool} (hp : ∀ r ∈ gate.rows, p r = false) :
    ∃ e, gate.releaseWhere p now = .error e := by
  have hnone : gate.rows.filter p = [] := filter_eq_nil_iff.mpr fun r hr => Bool.eq_false_iff.mp (hp r hr)
  unfold DurableWorkerConcurrencyGate.releaseWhere
  rw [hnone, if_pos (by decide)]
  exact ⟨_, rfl⟩

/-- **The gate in the database releases** as the outstanding admissions do, if the release is clear. -/
theorem release (order : NewestFirst) (h : DurableHolds gate held) (hclear : held.releaseClear q) :
    Follows DurableHolds ((gate.release order q now).map fun gate => ((), gate))
      ((held.release q).map fun held => ((), held)) := by
  unfold DurableWorkerConcurrencyGate.release Outstanding.release
  cases q.validateIds with
  | error e => trivial
  | ok u =>
    simp only [ok_bind]
    -- no row is of the parties if no admission is
    have hnoRow : held.unknown q → ∀ row ∈ gate.rows, (row.isOf q && row.active) = false := by
      intro hunknown row hmem
      cases hactive : row.active with
      | false => exact Bool.and_false _
      | true =>
        obtain ⟨a, ha, hentry⟩ := h.mem_of_row hmem hactive
        rw [isOf_of_entry hentry, Outstanding.isOf_of_unknown hunknown ha]
        rfl
    cases hkey : q.key with
    | some key =>
      dsimp only
      by_cases htarget : ∃ a, held.target q = some a
      · obtain ⟨a, htarget⟩ := htarget
        obtain ⟨ha, hakey, hof⟩ := Outstanding.target_eq_some htarget
        obtain ⟨row, hmem, hactive, hentry⟩ := h.row_of_mem ha
        have hrowKey : row.admissionKey = key :=
          (entry_eq_iff.mp hentry).1.symm.trans (Outstanding.storedKey_of_key (hakey.trans hkey))
        rw [htarget]
        refine h.releaseWhere ha hmem hactive hentry fun r hr => ?_
        constructor
        · intro hhit
          simp only [Bool.and_eq_true, decide_eq_true_eq] at hhit
          exact h.eq_of_key hr hmem hhit.2 hactive (hhit.1.1.trans hrowKey.symm)
        · rintro rfl
          rw [hactive, decide_eq_true hrowKey, isOf_of_entry hentry, hof]
          rfl
      · have hnone : held.target q = none := Option.eq_none_iff_forall_ne_some.mpr fun a ha => htarget ⟨a, ha⟩
        rw [hnone]
        have hmiss : ∀ row ∈ gate.rows, (decide (row.admissionKey = key) && row.isOf q && row.active) = false := by
          intro row hmem
          refine Bool.eq_false_iff.mpr fun hhit => ?_
          simp only [Bool.and_eq_true, decide_eq_true_eq] at hhit
          obtain ⟨⟨hrowKey, hof⟩, hactive⟩ := hhit
          rcases hclear with hunknown | ⟨key', hkey', hsome⟩ | ⟨hno, -⟩
          · have hfalse := hnoRow hunknown row hmem
            rw [hof, hactive] at hfalse
            cases hfalse
          · obtain rfl := Option.some.inj (hkey.symm.trans hkey')
            obtain ⟨a, hnamed⟩ := Option.ne_none_iff_exists'.mp hsome
            obtain ⟨ha, hakey⟩ := Outstanding.mem_of_named hnamed
            obtain ⟨b, hb, hentry⟩ := h.mem_of_row hmem hactive
            have hsame : b = a := Outstanding.eq_of_storedKey h.distinct hb ha
              (((entry_eq_iff.mp hentry).1.trans hrowKey).trans (Outstanding.storedKey_of_key hakey).symm)
            rw [isOf_of_entry hentry, hsame, Outstanding.target_eq_none hnone ha (hakey.trans hkey.symm)] at hof
            cases hof
          · exact nomatch hkey.symm.trans hno
        obtain ⟨e, he⟩ := (@releaseWhere_eq_error now) hmiss
        rw [he]
        trivial
    | none =>
      dsimp only
      rcases hclear with hunknown | ⟨key', hkey', -⟩ | ⟨-, hnewest⟩
      · have hempty : order.pick (gate.rows.filter fun row => row.isOf q && row.active) = none := by
          cases hpick : order.pick (gate.rows.filter fun row => row.isOf q && row.active) with
          | none => rfl
          | some row =>
            obtain ⟨hmem, hhit⟩ := mem_filter.mp (order.mem hpick)
            rw [hnoRow hunknown row hmem] at hhit
            cases hhit
        obtain ⟨e, he⟩ := (@releaseWhere_eq_error now gate)
          (p := fun row => decide (some row.admissionId = (none : Option AdmissionRow).map admissionId))
          fun r _ => rfl
        rw [hempty, he, Outstanding.target_of_unknown hunknown]
        trivial
      · exact nomatch hkey.symm.trans hkey'
      · obtain ⟨a, htarget, -, honly⟩ := Outstanding.target_of_keyless h.distinct hkey hnewest
        obtain ⟨ha, hakey, hof⟩ := Outstanding.target_eq_some htarget
        have hsome : order.pick (gate.rows.filter fun row => row.isOf q && row.active) ≠ none := by
          obtain ⟨row, hmem, hactive, hentry⟩ := h.row_of_mem ha
          refine @NewestFirst.some_of_mem order _ row (mem_filter.mpr ⟨hmem, ?_⟩)
          rw [isOf_of_entry hentry, hof, hactive]
          rfl
        obtain ⟨row, hpick⟩ := Option.ne_none_iff_exists'.mp hsome
        obtain ⟨hmem, hhit⟩ := mem_filter.mp (order.mem hpick)
        obtain ⟨hrowOf, hactive⟩ := Bool.and_eq_true_iff.mp hhit
        obtain ⟨b, hb, hentry⟩ := h.mem_of_row hmem hactive
        -- the row that the database picks is that of the newest admission of the parties
        have hba : b = a := by
          refine honly b hb ((isOf_of_entry hentry q).symm.trans hrowOf) fun b' hb' hof' => ?_
          obtain ⟨row', hmem', hactive', hentry'⟩ := h.row_of_mem hb'
          have hle := order.newest hpick row' (mem_filter.mpr ⟨hmem', by rw [isOf_of_entry hentry', hof', hactive']; rfl⟩)
          rw [(entry_eq_iff.mp hentry).2.2.2.2, (entry_eq_iff.mp hentry').2.2.2.2]
          exact hle
        subst hba
        rw [hpick, htarget]
        refine h.releaseWhere hb hmem hactive hentry fun r hr => ?_
        rw [decide_eq_true_eq, Option.map_some, Option.some.injEq]
        exact ⟨fun hid => inj_on_of_nodup_map h.ids hr hmem hid, fun heq => congrArg _ heq⟩

end DurableHolds

end ComputeMesh.Platform
