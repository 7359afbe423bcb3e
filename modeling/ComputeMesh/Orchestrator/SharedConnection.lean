import ComputeMesh.Orchestrator.StatefulCommands

/-!
# The connection between the calls

The store, the command enforcer and the lease table share one connection.  A savepoint block that raises rolls
back to its savepoint and leaves it on the stack, and with it the transaction that the savepoint has opened: the
next `BEGIN IMMEDIATE` is refused and what later calls write is not committed.

* `onConnection_idle` — on an idle connection a store call does what `StoreCall.run` says;
* `Call.inTransaction_run` — **a transaction that a call finds open stays open**;
* `Call.Clean` — no savepoint block of the call raises;
* `connection_left_idle_iff` — **a sequence of calls leaves the connection idle after each of them exactly when
  every call is clean.**
-/

namespace ComputeMesh.Orchestrator

open StateStore Connection

/-! ### Store calls -/

namespace StoreCall

/-- What a transaction leaves: nothing of it when it is rolled back. -/
def afterTransaction (s : StateStore) (now : UtcTime) (id : String) (req : Request)
    (body : StateStore → Except Exn CommandResult × StateStore) : StateStore :=
  match (s.enforce now id req).1 with
  | .error _ => (s.enforce now id req).2
  | .ok () =>
    match body (s.enforce now id req).2 with
    | (.ok _, s') => s'
    | (.error _, _) => (s.enforce now id req).2

theorem transitionJob_snd (s : StateStore) (now : UtcTime) (id : String) (req : Request) (target : JobState) :
    (s.transitionJob now id req target).2 = afterTransaction s now id req (jobBody id req target) := by
  unfold transitionJob afterTransaction jobBody
  rcases s.enforce now id req with ⟨e | u, s₁⟩
  · rfl
  · dsimp only
    rcases s₁.jobs.transition "job" id req target (.ok ()) (fun _ => .ok none) with e | r
    · rfl
    · rfl

theorem reservationTransition_snd (s : StateStore) (now : UtcTime) (id : String) (req : Request)
    (target : ReservationState) (expiry : Option AwareDatetime) (binding : Option (String × String)) :
    (s.reservationTransition now id req target expiry binding).2
      = afterTransaction s now id req (reservationBody id req target expiry binding) := by
  unfold reservationTransition afterTransaction reservationBody
  rcases s.enforce now id req with ⟨e | u, s₁⟩
  · rfl
  · dsimp only
    rcases s₁.reservations.transition "reservation" id req target (s₁.checkBinding binding)
      (leaseText target expiry) with e | r
    · rfl
    · cases binding with
      | none => rfl
      | some b =>
        dsimp only
        by_cases hchanged : r.1.changed = false
        · simp only [if_pos hchanged]
        · simp only [if_neg hchanged]
          cases s₁.bindings.contains id <;> rfl

theorem run_eq_plan (s : StateStore) (now : UtcTime) (call : StoreCall) : call.run s now
      = match call.plan s now with
        | .answers _ => s
        | .writes s' => s'
        | .transaction id req body => afterTransaction s now id req body := by
  cases call with
  | command c =>
    cases c with
    | leaseReservation id req expiresAt =>
      show (s.leaseReservation now id req expiresAt).2 = _
      unfold leaseReservation plan
      cases expiresAt with
      | naive wall => rfl
      | aware expiry =>
        dsimp only
        split
        · rfl
        · exact reservationTransition_snd s now id req _ _ _
    | commitReservation id req jobId stageId =>
      show (s.commitReservation now id req jobId stageId).2 = _
      by_cases hnames : jobId = "" ∨ stageId = ""
      · simp only [plan, if_pos hnames, commitReservation]
      · simp only [plan, if_neg hnames, commitReservation]
        exact reservationTransition_snd s now id req _ _ _
    | transitionReservation id req target => exact reservationTransition_snd s now id req _ _ _
    | transitionJob id req target => exact transitionJob_snd s now id req _
  | ensureJob jobId =>
    show (s.ensureJob jobId).2 = _
    by_cases hid : jobId = ""
    · simp only [plan, if_pos hid, StateStore.ensureJob]
    · simp only [plan, if_neg hid]
  | ensureReservation id =>
    show (s.ensureReservation id).2 = _
    by_cases hid : id = ""
    · simp only [plan, if_pos hid, StateStore.ensureReservation]
    · simp only [plan, if_neg hid]
  | expireIfDue id requestId expectedRevision due =>
    show (s.expireReservationIfDue now id requestId expectedRevision due).2 = _
    unfold expireReservationIfDue plan
    cases due with
    | naive wall => rfl
    | aware d =>
      dsimp only
      rcases s.reservations.rows.get? id with _ | row
      · rfl
      · dsimp only
        rcases leaseDue row d with e | b
        · rfl
        · cases b with
          | false => rfl
          | true =>
            have hsnd := reservationTransition_snd s now id
              { requestId := requestId, expectedRevision := expectedRevision } .expired none none
            dsimp only
            rw [← hsnd]
            show _ = (s.transitionReservation now id { requestId, expectedRevision } .expired).2
            split
            · rename_i hr
              rw [hr]
            · rename_i hr
              rw [hr]

/-- **On an idle connection a store call is what it is on the store**, and the connection is idle again. -/
theorem onConnection_idle (now : UtcTime) (call : StoreCall) (db : ControlDatabase) :
    (call.onConnection now (.idle db)).2 = .idle { db with store := call.run db.store now } := by
  have hcurrent : (idle db).current = db := rfl
  rw [run_eq_plan]
  simp only [onConnection, hcurrent]
  rcases call.plan db.store now with r | s | ⟨id, req, body⟩
  · rfl
  · rfl
  · unfold afterTransaction
    dsimp only
    rcases (db.store.enforce now id req).1 with e | u
    · rfl
    · dsimp only [transact, write, beginTransaction, current]
      rcases body (db.store.enforce now id req).2 with ⟨e | r, s⟩
      · rfl
      · rfl

/-- **A store call keeps to the transaction it finds**, and leaves none of its own. -/
theorem inTransaction_onConnection (now : UtcTime) (call : StoreCall) (c : Connection ControlDatabase) :
    (call.onConnection now c).2.inTransaction = c.inTransaction := by
  cases c with
  | idle db => rw [onConnection_idle]; rfl
  | busy durable current t =>
    unfold onConnection
    rcases call.plan _ now with r | s | ⟨id, req, body⟩
    · rfl
    · rfl
    · dsimp only
      split
      · rfl
      · rfl

end StoreCall

/-! ### Savepoint blocks -/

/-- **A savepoint block leaves the connection idle** exactly when it finds it idle and does not raise. -/
theorem inTransaction_executeWithSavepoint {α : Type} (c : Connection ControlDatabase) (name : String)
    (fn : ControlDatabase → Except CallExn α × ControlDatabase) :
    (executeWithSavepoint c name fn).2.inTransaction = false ↔
      c.inTransaction = false ∧ ∃ a, (fn c.current).1 = .ok a := by
  rw [executeWithSavepoint_eq]
  rcases fn c.current with ⟨e | a, data⟩
  · simp
  · simp

namespace CapacityOp

open ControlDatabase (fitsInteger fitsFloat)

/-- The statements of the method do not raise: a lease that still has room is not there yet, and a job is
dispatched on a live lease that is large enough and not bound to another job; what is added up fits. -/
def Passes (totalCapacity : ℤ) (now : ℚ) (db : ControlDatabase) : CapacityOp → Prop
  | leaseCapacity leaseId amount ttlSeconds =>
    ∃ used, (db.expireLeases now).usedCapacity = .ok used ∧ (totalCapacity - used < amount ∨
        (db.expireLeases now).capacityLeases.contains leaseId = false ∧ fitsFloat ttlSeconds = true ∧
          fitsInteger amount = true)
  | dispatchJob jobId requiredCapacity leaseId =>
    leaseId.getD "" ≠ "" ∧ ∃ lease, (db.expireLeases now).capacityLeases.get? (leaseId.getD "") = some lease ∧
      requiredCapacity ≤ lease.amount ∧ (lease.jobId.getD "" = "" ∨ lease.jobId.getD "" = jobId)
  | getAvailableCapacity => ∃ used, (db.expireLeases now).usedCapacity = .ok used
  | releaseLease _ | expireLeases => True

theorem passes_iff (totalCapacity : ℤ) (now : ℚ) (db : ControlDatabase) (op : CapacityOp) :
    (∃ r, (op.perform totalCapacity now db).1 = .ok r) ↔ op.Passes totalCapacity now db := by
  cases op with
  | leaseCapacity leaseId amount ttlSeconds =>
    simp only [perform, doLease, Passes]
    rcases (db.expireLeases now).usedCapacity with e | used
    · simp
    · simp only [Except.ok.injEq, exists_eq_left']
      by_cases hfull : totalCapacity - used < amount
      · simp only [if_pos hfull]
        exact iff_of_true ⟨_, rfl⟩ (.inl hfull)
      · simp only [if_neg hfull]
        cases (db.expireLeases now).capacityLeases.contains leaseId with
        | true => simp [hfull]
        | false =>
          cases fitsFloat ttlSeconds with
          | false => simp [hfull]
          | true =>
            cases fitsInteger amount with
            | false | true => simp [hfull]
  | dispatchJob jobId requiredCapacity leaseId =>
    simp only [perform, doDispatch, Passes]
    by_cases hid : leaseId.getD "" = ""
    · simp [hid]
    · rcases (db.expireLeases now).capacityLeases.get? (leaseId.getD "") with _ | lease
      · simp [hid]
      · by_cases hsmall : lease.amount < requiredCapacity
        · simp [hid, hsmall]
        · by_cases hbound : lease.jobId.getD "" ≠ "" ∧ lease.jobId.getD "" ≠ jobId
          · simp only [if_neg hid, if_neg hsmall, if_pos hbound, reduceCtorEq, exists_false, false_iff]
            rintro ⟨-, lease', hlease, -, h | h⟩
            · cases hlease
              exact hbound.1 h
            · cases hlease
              exact hbound.2 h
          · simp only [if_neg hid, if_neg hsmall, if_neg hbound]
            refine iff_of_true ⟨_, rfl⟩ ⟨hid, lease, rfl, not_lt.mp hsmall, ?_⟩
            by_contra h
            rw [not_or] at h
            exact hbound h
  | releaseLease leaseId | expireLeases => exact iff_of_true ⟨_, rfl⟩ trivial
  | getAvailableCapacity =>
    simp only [perform, doGet, Passes]
    rcases (db.expireLeases now).usedCapacity with e | used
    · simp
    · simp

/-- A method of the lease table leaves the connection idle exactly when it finds it so and passes. -/
theorem inTransaction_run (totalCapacity : ℤ) (now : ℚ) (op : CapacityOp) (c : Connection ControlDatabase) :
    (op.run totalCapacity now c).2.inTransaction = false ↔
      c.inTransaction = false ∧ op.Passes totalCapacity now c.current := by
  rw [← passes_iff]
  unfold run
  rcases hname : op.savepointName with _ | name
  · -- only the expiry has no savepoint, and it does not raise
    cases op with
    | expireLeases => simp [perform]
    | leaseCapacity | dispatchJob | releaseLease | getAvailableCapacity => cases hname
  · exact inTransaction_executeWithSavepoint c name _

end CapacityOp

/-! ### Calls and the bodies of commands -/

/-- What a result needs to be recorded under a key: it is a JSON value and the key is not in the log. -/
def Recordable (db : ControlDatabase) (key : String) (result : PyValue) : Prop :=
  (∃ value, result = .json value) ∧ db.idempotencyLog.contains key = false

def loggedResult (db : ControlDatabase) (key : String) : Option Json :=
  ((db.idempotencyLog.get? key).map IdempotencyRow.result).filter Json.truthy

mutual

/-- **No savepoint block of the call raises**: each is entered in a state in which it passes. -/
def Call.Clean (totalCapacity : ℤ) : Call → Connection ControlDatabase → Prop
  | .store _ _, _ => True
  | .capacity now op, c => op.Passes totalCapacity now c.current
  | .executeCommand _ command executeFn, c =>
    if command.isStateChanging = true ∧ command.isIdempotentByDesign = false then
      ∀ key, command.key? = some key → loggedResult c.current key = none → Body.Clean totalCapacity executeFn c ∧
          ∀ result, (executeFn.run totalCapacity c).1 = .ok result →
            Recordable (executeFn.run totalCapacity c).2.current key result
    else Body.Clean totalCapacity executeFn c

/-- The same for the calls of a body. -/
def Body.Clean (totalCapacity : ℤ) : Body → Connection ControlDatabase → Prop
  | .returns _, _ => True
  | .raises _, _ => True
  | .call inner next, c =>
    Call.Clean totalCapacity inner c ∧
      Body.Clean totalCapacity (next (inner.run totalCapacity c).1) (inner.run totalCapacity c).2

end

theorem record_passes_iff (command : CommandDocument) (now : UtcTime) (key : String) (result : PyValue)
    (db : ControlDatabase) :
    (∃ u, (command.record now key result db).1 = .ok u) ↔ Recordable db key result := by
  unfold CommandDocument.record Recordable
  cases result with
  | other typeName => simp
  | json value =>
    cases db.idempotencyLog.contains key with
    | true => simp
    | false => simp

theorem Call.run_keyed (totalCapacity : ℤ) {now : UtcTime} {command : CommandDocument} {executeFn : Body}
    {key : String} (c : Connection ControlDatabase)
    (hkeyed : command.isStateChanging = true ∧ command.isIdempotentByDesign = false)
    (hkey : command.key? = some key) :
    Call.run totalCapacity (.executeCommand now command executeFn) c = match loggedResult c.current key with
        | some existing => (CommandDocument.replay existing, c)
        | none =>
          match executeFn.run totalCapacity c with
          | (.error e, c₁) => (.error e, c₁)
          | (.ok result, c₁) =>
            match executeWithSavepoint c₁ ("idempotency_record_" ++ Md5.md5Hex key)
                (command.record now key result) with
            | (.error e, c₂) => (.error e, c₂)
            | (.ok (), c₂) => (.ok (.value result), c₂) := by
  have hcheck : executeWithSavepoint c ("idempotency_check_" ++ Md5.md5Hex key) (CommandDocument.check key)
      = (.ok ((c.current.idempotencyLog.get? key).map IdempotencyRow.result), c) := by
    rw [executeWithSavepoint_eq]
    simp only [CommandDocument.check, write_current]
  rw [Call.run, if_pos hkeyed]
  simp only [hkey, hcheck]
  rfl

mutual

/-- **A call leaves the connection idle exactly when it finds it idle and is clean.** -/
theorem Call.inTransaction_run (totalCapacity : ℤ) : ∀ (call : Call) (c : Connection ControlDatabase),
    (call.run totalCapacity c).2.inTransaction = false ↔
      c.inTransaction = false ∧ call.Clean totalCapacity c
  | .store now call, c => by
    rw [Call.run, Call.Clean, StoreCall.inTransaction_onConnection, and_true]
  | .capacity now op, c => by
    rw [Call.run, Call.Clean]
    exact op.inTransaction_run totalCapacity now c
  | .executeCommand now command executeFn, c => by
    have hbody := Body.inTransaction_run totalCapacity executeFn c
    by_cases hkeyed : command.isStateChanging = true ∧ command.isIdempotentByDesign = false
    · rw [Call.Clean, if_pos hkeyed]
      rcases hkey : command.key? with _ | key
      · rw [Call.run, if_pos hkeyed]
        simp [hkey]
      · rw [Call.run_keyed totalCapacity c hkeyed hkey]
        rcases hlogged : loggedResult c.current key with _ | existing
        · rcases hrun : executeFn.run totalCapacity c with ⟨e | result, c₁⟩
          · rw [hrun] at hbody
            simp only [hbody, Option.some.injEq, forall_eq', hlogged, forall_const, reduceCtorEq,
              IsEmpty.forall_iff, implies_true, and_true]
          · -- the body has returned: what is left is the block that records its result
            rw [hrun] at hbody
            have hrecord := inTransaction_executeWithSavepoint c₁ ("idempotency_record_" ++ Md5.md5Hex key)
              (command.record now key result)
            rw [record_passes_iff] at hrecord
            simp only [Option.some.injEq, forall_eq', hlogged, forall_const, Except.ok.injEq]
            rw [← and_assoc, ← hbody, ← hrecord]
            rcases executeWithSavepoint c₁ _ (command.record now key result) with ⟨e | u, c₂⟩
            · rfl
            · rfl
        · simp [hlogged]
    · rw [Call.run, Call.Clean, if_neg hkeyed, if_neg hkeyed, ← hbody]
      rcases executeFn.run totalCapacity c with ⟨e | result, c₁⟩
      · rfl
      · rfl

theorem Body.inTransaction_run (totalCapacity : ℤ) : ∀ (body : Body) (c : Connection ControlDatabase),
    (body.run totalCapacity c).2.inTransaction = false ↔ c.inTransaction = false ∧ body.Clean totalCapacity c
  | .returns value, c => by rw [Body.run, Body.Clean, and_true]
  | .raises e, c => by rw [Body.run, Body.Clean, and_true]
  | .call inner next, c => by
    rw [Body.run, Body.Clean, Body.inTransaction_run totalCapacity (next _) _,
      Call.inTransaction_run totalCapacity inner c, and_assoc]

end

/-! ### Sequences of calls -/

/-- The connection between two calls: no transaction is open, so `BEGIN IMMEDIATE` succeeds and nothing is
pending. -/
structure Settled (c : Connection ControlDatabase) : Prop where
  closed : c.inTransaction = false
  begins : ∃ c', c.beginTransaction = .ok c'
  committed : c.durable = c.current

theorem settled_iff (c : Connection ControlDatabase) : Settled c ↔ c.inTransaction = false :=
  ⟨Settled.closed, fun h => ⟨h, c.beginTransaction_isOk.mpr h, durable_eq_current h⟩⟩

def Call.next (totalCapacity : ℤ) (c : Connection ControlDatabase) (call : Call) :
    Connection ControlDatabase :=
  (call.run totalCapacity c).2

/-- **The shared connection.**  Starting from an idle connection, the connection is settled after every call of a
sequence exactly when every call is clean in the state it is made in. -/
theorem connection_left_idle_iff (totalCapacity : ℤ) (db : ControlDatabase) (calls : List Call) :
    Run.Along (Call.next totalCapacity) (fun c call => Settled (Call.next totalCapacity c call)) (.idle db)
        calls ↔
      Run.Along (Call.next totalCapacity) (fun c call => call.Clean totalCapacity c) (.idle db) calls := by
  have hidle : (idle db).inTransaction = false := rfl
  generalize idle db = c at hidle
  induction calls generalizing c with
  | nil => exact Iff.rfl
  | cons call rest ih =>
    have hstep : Settled (Call.next totalCapacity c call) ↔ call.Clean totalCapacity c := by
      rw [settled_iff]
      exact (call.inTransaction_run totalCapacity c).trans (and_iff_right hidle)
    constructor
    · rintro ⟨hsettled, hrest⟩
      exact ⟨hstep.mp hsettled, (ih _ hsettled.closed).mp hrest⟩
    · rintro ⟨hclean, hrest⟩
      have hsettled := hstep.mpr hclean
      exact ⟨hsettled, (ih _ hsettled.closed).mpr hrest⟩

def ControlDatabase.empty : ControlDatabase := ⟨.empty, Dict.empty, Dict.empty⟩

/-- The same lease is asked for twice, and then a job is to move. -/
def sampleCalls : List Call :=
  [.store (sampleTime 0 second_zero) (.ensureJob "job-1"), .capacity 0 (.leaseCapacity "lease-1" 10 60),
    .capacity 1 (.leaseCapacity "lease-1" 10 60),
    .store (sampleTime 1 second_one) (.command (.transitionJob "job-1"
      { requestId := "q-1", expectedRevision := 0 } .validating))]

/-- **A refused lease leaves a transaction open**, in which the store cannot begin its own. -/
theorem refused_lease_blocks_store :
    ¬Run.Along (Call.next 100) (fun c call => Settled (Call.next 100 c call)) (.idle .empty) sampleCalls := by
  intro h
  have hclosed := h.2.2.1.closed
  revert hclosed
  decide +kernel

end ComputeMesh.Orchestrator
