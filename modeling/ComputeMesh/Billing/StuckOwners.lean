import ComputeMesh.Billing.OwnerProgress
import ComputeMesh.Billing.PostingEffects

/-!
# Owners stuck at Stripe

A run in which one owner after the other asks for a withdrawal and every transfer fails, so that each is left
with a settlement to be retried.  `stuck_owners` says what it leads to after any number of owners; from the
501st on, the settlement of the first owner is too old for the listing (`first_is_not_found`).
-/

namespace ComputeMesh.Billing

open ComputeMesh.Text List

attribute [local irreducible] Ledger.creditOwnerEarnedCredits

/-! ### Names -/

def digit (d : ℕ) : Char := Char.ofNat (48 + d % 10)

/-- The last three digits of a number. -/
def digits3 (k : ℕ) : String := String.ofList [digit (k / 100), digit (k / 10), digit k]

theorem toList_digits3 (k : ℕ) : (digits3 k).toList = [digit (k / 100), digit (k / 10), digit k] :=
  String.toList_ofList

theorem digit_mem_hex (d : ℕ) : digit d ∈ "0123456789abcdef".toList := by
  have h : ∀ e < 10, Char.ofNat (48 + e) ∈ "0123456789abcdef".toList := by decide
  exact h (d % 10) (Nat.mod_lt d (by decide))

theorem mem_hex_of_mem_digits3 {k : ℕ} {c : Char} (h : c ∈ (digits3 k).toList) : c ∈ "0123456789abcdef".toList := by
  rw [toList_digits3] at h
  simp only [mem_cons, not_mem_nil, or_false] at h
  rcases h with rfl | rfl | rfl <;> exact digit_mem_hex _

theorem digit_inj {d e : ℕ} (h : digit d = digit e) : d % 10 = e % 10 := by
  have hinj : ∀ a < 10, ∀ b < 10, Char.ofNat (48 + a) = Char.ofNat (48 + b) → a = b := by decide
  exact hinj _ (Nat.mod_lt d (by decide)) _ (Nat.mod_lt e (by decide)) h

theorem digits3_inj {k j : ℕ} (hk : k < 1000) (hj : j < 1000) (h : digits3 k = digits3 j) : k = j := by
  have hlist := congrArg String.toList h
  rw [toList_digits3, toList_digits3] at hlist
  simp only [cons.injEq, and_true] at hlist
  have h₁ := digit_inj hlist.1
  have h₂ := digit_inj hlist.2.1
  have h₃ := digit_inj hlist.2.2
  omega

theorem strip_append_digits3 {p : String} {c : Char} (hhead : p.toList.head? = some c)
    (hc : isSpace c = false) (k : ℕ) : strip (p ++ digits3 k) = p ++ digits3 k := by
  refine strip_append hhead hc ?_ fun c' hc' => isSpace_of_hex c' (mem_hex_of_mem_digits3 hc')
  rw [toList_digits3]
  exact cons_ne_nil _ _

/-! ### Owners and calls -/

/-- The `k`-th owner. -/
def stuckOwner (k : ℕ) : OwnerId where
  val := "owner-" ++ digits3 k
  stripped := strip_append_digits3 (c := 'o') (by decide) (by decide) k
  nonempty := by simp
  short := by
    rw [← String.length_toList, String.toList_append, toList_digits3]
    exact (by decide : 6 + 3 ≤ 256)

theorem stuckOwner_inj {k j : ℕ} (hk : k < 1000) (hj : j < 1000)
    (h : (stuckOwner k).val = (stuckOwner j).val) : k = j := by
  have hval : "owner-" ++ digits3 k = "owner-" ++ digits3 j := h
  exact digits3_inj hk hj (append_left_cancel hval)

def stuckProfile (o : OwnerId) : OwnerPayoutProfile := ⟨"acct_" ++ o.val, true⟩

/-- The `k`-th call comes `k` microseconds after the first. -/
def stuckEnv (k : ℕ) : Env :=
  ⟨1767225600 + (1000 + k) / 1000000, "2026-01-01T00:00:00.001" ++ digits3 k ++ "Z", ""⟩

theorem zeros_hex : ∀ c ∈ "000000000".toList, c ∈ "0123456789abcdef".toList := by simp

def stuckToken (k : ℕ) : HexToken where
  val := "000000000" ++ digits3 k
  nonempty := by simp
  hex := by
    intro c hc
    rw [String.toList_append] at hc
    rcases List.mem_append.mp hc with h | h
    · exact zeros_hex c h
    · exact mem_hex_of_mem_digits3 h

def stuckInput (o : OwnerId) (k : ℕ) : RunInput :=
  ⟨stuckEnv k, stuckToken k, some (stuckProfile o), .ok (stuckProfile o)⟩

/-- The settlement of the `k`-th call. -/
def stuckId (k : ℕ) : SettlementId := ownerSettlementId "" (stuckEnv k) (stuckToken k)

theorem token_eq_of_ownerSettlementId_eq {env env' : Env} {token token' : HexToken}
    (hlen : token.val.toList.length = token'.val.toList.length)
    (h : ownerSettlementId "" env token = ownerSettlementId "" env' token') : token.val = token'.val := by
  have hblank : ¬strip "" ≠ "" := by decide
  rw [ownerSettlementId, if_neg hblank, ownerSettlementId, if_neg hblank] at h
  exact (append_inj_of_length hlen (congrArg SettlementId.val h)).2

theorem stuckId_inj {k j : ℕ} (hk : k < 1000) (hj : j < 1000) (h : stuckId k = stuckId j) : k = j := by
  have hlen : ∀ i, (stuckToken i).val.toList.length = 12 := by
    intro i
    rw [stuckToken, String.toList_append, toList_digits3]
    rfl
  have htoken := token_eq_of_ownerSettlementId_eq (by rw [hlen, hlen]) h
  exact digits3_inj hk hj (append_left_cancel (c := "000000000") htoken)

def stuckReference (k : ℕ) : String := "job-" ++ digits3 k

theorem strip_stuckReference (k : ℕ) : strip (stuckReference k) = stuckReference k :=
  strip_append_digits3 (c := 'j') (by decide) (by decide) k

theorem digit_zero_lt {d : ℕ} (h : d % 10 ≠ 0) : digit 0 < digit d := by
  have hlt : ∀ e < 10, e ≠ 0 → Char.ofNat 48 < Char.ofNat (48 + e) := by decide
  exact hlt (d % 10) (Nat.mod_lt d (by decide)) h

theorem digit_of_mod_eq_zero {d : ℕ} (h : d % 10 = 0) : digit 0 = digit d := by
  rw [digit, digit, h]

theorem stamp_zero_lt {k : ℕ} (hpos : 0 < k) (hk : k < 1000) : (stuckEnv 0).isoNow < (stuckEnv k).isoNow := by
  rw [String.lt_iff_toList_lt]
  simp only [stuckEnv, String.toList_append, append_assoc]
  apply append_left_lt
  rw [toList_digits3, toList_digits3]
  simp only [cons_append, cons_lt_cons_iff]
  -- the first digit that is not zero decides
  by_cases h₁ : k / 100 % 10 = 0
  · refine .inr ⟨digit_of_mod_eq_zero h₁, ?_⟩
    by_cases h₂ : k / 10 % 10 = 0
    · exact .inr ⟨digit_of_mod_eq_zero h₂, .inl (digit_zero_lt (by omega))⟩
    · exact .inl (digit_zero_lt h₂)
  · exact .inl (digit_zero_lt h₁)

/-! ### One round -/

/-- The earning that the `k`-th call withdraws. -/
def earnStep (o : OwnerId) (k : ℕ) : OwnerStep :=
  .earn (stuckEnv k) o.val minimumPayoutMicroUnits (stuckReference k)

/-- An owner earns the minimum payout and asks for it, and the transfer fails. -/
def stuckRound (o : OwnerId) (k : ℕ) : List OwnerStep :=
  earnStep o k :: OwnerSettlements.failingSteps (stuckInput o k) o.val (stuckProfile o) "Stripe is down"

namespace OwnerSettlements

variable {s : OwnerSettlements} {o : OwnerId} {k : ℕ}

/-- Nothing is in the way of the owner's `k`-th call: no call is under way, its names are new, and the
owner has neither a settlement that is found nor anything earned. -/
structure Ready (s : OwnerSettlements) (o : OwnerId) (k : ℕ) : Prop where
  sound : s.Sound
  idle : ∃ answer, s.stage = .idle answer
  noHolds : s.ledger.ownerHolds = Dict.empty
  notFound : inflightForOwner s.accountStore o.val = none
  newId : Dict.get? s.accountStore (stuckId k) = none
  unseenEarning : "owner-earning:" ++ stuckReference k ∉ s.ledger.journal.processedEvents
  unseenReserve : withdrawalEvent .reserve (stuckId k) ∉ s.ledger.journal.processedEvents
  earned : s.ledger.bucketBalance o .earned = 0

theorem Ready.earn (h : s.Ready o k) : ∃ tx, tx.eventId = "owner-earning:" ++ stuckReference k ∧
      tx.fields = Ledger.bucketCreditPostings "expense:provider_earnings" providerEarningsExpense o .earned
        minimumPayoutMicroUnits ∧
      s.next (earnStep o k) = { s with ledger := s.ledger.recorded tx } := by
  have hstrip := strip_stuckReference k
  obtain ⟨tx, hcredit, hevent, hfields⟩ := Ledger.creditOwnerEarned_recorded
    (Ledger.healthy_of_isWritten h.sound.written) (stuckEnv k) o
    (by decide : 0 < minimumPayoutMicroUnits)
    (show strip (stuckReference k) ≠ "" by rw [hstrip]; simp [stuckReference])
    "Verified provider earnings" (by rw [hstrip]; exact h.unseenEarning)
  rw [hstrip] at hevent
  refine ⟨tx, hevent, hfields, ?_⟩
  simp only [earnStep, OwnerSettlements.next, hcredit]

/-- What the owner's `k`-th round has changed. -/
structure RoundDone (s s' : OwnerSettlements) (o : OwnerId) (k : ℕ) (row : SettlementRecord) : Prop where
  sound : s'.Sound
  idle : ∃ answer, s'.stage = .idle answer
  noHolds : s'.ledger.ownerHolds = Dict.empty
  retry : IsRetryRow row o (stuckInput o k) minimumPayoutMicroUnits
  store : s'.accountStore = Dict.set s.accountStore (stuckId k) row
  events : ∀ e, e ∈ s'.ledger.journal.processedEvents ↔
    e = withdrawalEvent .reserve (stuckId k) ∨ e = "owner-earning:" ++ stuckReference k ∨
      e ∈ s.ledger.journal.processedEvents
  balance : ∀ a, a.toList.head? = some 'o' → s'.ledger.rawBalance a
    = s.ledger.rawBalance a + if pendingAccountOf o.val = a then minimumPayoutMicroUnits else 0

theorem netChange_earning_of_owner (o : OwnerId) (amount : ℤ) {a : String} (ha : a.toList.head? = some 'o') :
    netChange (Ledger.bucketCreditPostings "expense:provider_earnings" providerEarningsExpense o .earned
      amount) a = if ownerBucketAccount o .earned = a then amount else 0 := by
  have hne : "expense:provider_earnings" ≠ a := by
    apply ne_of_head
    rw [ha]
    decide
  rw [netChange_bucketCredit (by decide), if_neg hne, zero_add]

theorem Ready.earned_balance (h : s.Ready o k) {earning : Transaction}
    (hfields : earning.fields = Ledger.bucketCreditPostings "expense:provider_earnings"
      providerEarningsExpense o .earned minimumPayoutMicroUnits) :
    (s.ledger.recorded earning).bucketBalance o .earned = minimumPayoutMicroUnits := by
  have hold := h.earned
  unfold Ledger.bucketBalance at hold ⊢
  rw [Ledger.rawBalance_recorded, hfields,
    netChange_earning_of_owner o _ (head_ownerBucketAccount o .earned), if_pos rfl, hold, zero_add]

/-- **A round leaves the owner with a settlement to be retried.** -/
theorem Ready.round (h : s.Ready o k) : ∃ row, RoundDone s (Run.exec next s (stuckRound o k)) o k row := by
  obtain ⟨earning, hevent, hfields, hearn⟩ := h.earn
  have hsound : ({ s with ledger := s.ledger.recorded earning } : OwnerSettlements).Sound := by
    rw [← hearn]
    exact h.sound.next trivial
  obtain ⟨answer, hidle⟩ := h.idle
  have hbalance := h.earned_balance hfields
  have hunseen : withdrawalEvent .reserve (stuckId k)
      ∉ (s.ledger.recorded earning).journal.processedEvents := by
    rw [Ledger.mem_processedEvents_recorded, hevent]
    rintro (heq | hmem)
    · exact withdrawalEvent_ne_earning _ _ _ heq
    · exact h.unseenReserve hmem
  obtain ⟨tx, row, htx, htxFields, hrow, hexec⟩ := failed_withdrawal hsound hidle h.noHolds
    (show (stuckInput o k).refreshed = .ok (stuckProfile o) from rfl) rfl h.notFound h.newId hunseen hbalance
    (by decide) le_rfl "Stripe is down"
  have hrun : Run.exec next s (stuckRound o k)
      = ⟨(s.ledger.recorded earning).recorded tx, Dict.set s.accountStore row.settlementId row,
          s.transfers, .return_ row⟩ := by
    rw [← hexec, ← hearn]
    rfl
  have hid : row.settlementId = stuckId k := hrow.id
  rw [hid] at htx
  have hfresh : Run.Along next FreshId s (stuckRound o k) :=
    ⟨trivial, fun _ => h.newId, trivial, trivial, trivial, trivial, trivial, trivial⟩
  have hsoundEnd := Run.exec_of_along Sound (fun _ _ hs hok => hs.next hok) h.sound hfresh
  refine ⟨row, hsoundEnd, ?_, ?_, hrow, ?_, ?_, ?_⟩
  · rw [hrun]
    exact ⟨_, rfl⟩
  · rw [hrun]
    exact h.noHolds
  · rw [hrun, ← hid]
  · intro e
    rw [hrun]
    show e ∈ ((s.ledger.recorded earning).recorded tx).journal.processedEvents ↔ _
    rw [Ledger.mem_processedEvents_recorded, Ledger.mem_processedEvents_recorded, htx, hevent]
  · intro a ha
    rw [hrun]
    show ((s.ledger.recorded earning).recorded tx).rawBalance a = _
    rw [Ledger.rawBalance_recorded, Ledger.rawBalance_recorded, hfields, htxFields,
      netChange_earning_of_owner o _ ha, netChange_withdrawalReserve]
    omega

/-! ### Any number of rounds -/

/-- The first `n` owners are stuck, and nothing else has happened. -/
structure Stuck (n : ℕ) (s : OwnerSettlements) : Prop where
  sound : s.Sound
  idle : ∃ answer, s.stage = .idle answer
  noHolds : s.ledger.ownerHolds = Dict.empty
  rows : ∀ id row, Dict.get? s.accountStore id = some row → ∃ k < n, id = stuckId k ∧
    IsRetryRow row (stuckOwner k) (stuckInput (stuckOwner k) k) minimumPayoutMicroUnits
  has : ∀ k < n, ∃ row, Dict.get? s.accountStore (stuckId k) = some row
  events : ∀ e, e ∈ s.ledger.journal.processedEvents ↔ ∃ k < n,
    e = withdrawalEvent .reserve (stuckId k) ∨ e = "owner-earning:" ++ stuckReference k
  earned : ∀ k, s.ledger.bucketBalance (stuckOwner k) .earned = 0
  pending : ∀ k < 1000, s.ledger.rawBalance (pendingAccountOf (stuckOwner k).val)
    = if k < n then minimumPayoutMicroUnits else 0

variable {n : ℕ}

theorem inflightForOwner_eq_none {store : SettlementStore} {owner : String}
    (h : ∀ status, ∀ row ∈ store.listSettlements status 500, row.accountId ≠ owner) :
    inflightForOwner store owner = none := by
  apply findSome?_eq_none_iff.mpr
  intro status _
  apply find?_eq_none.mpr
  intro row hrow
  simp [h status row hrow]

/-- After `n` rounds, any owner without a settlement that is found can begin the next one. -/
theorem Stuck.ready (h : s.Stuck n) (hn : n < 1000) (i : ℕ)
    (hnone : inflightForOwner s.accountStore (stuckOwner i).val = none) : s.Ready (stuckOwner i) n := by
  refine ⟨h.sound, h.idle, h.noHolds, hnone, ?_, ?_, ?_, h.earned i⟩
  · rw [Option.eq_none_iff_forall_ne_some]
    intro row hrow
    obtain ⟨k, hk, hid, -⟩ := h.rows _ row hrow
    have := stuckId_inj hn (by omega) hid
    omega
  · rw [h.events]
    rintro ⟨k, hk, heq | heq⟩
    · exact withdrawalEvent_ne_earning _ _ _ heq.symm
    · have href : "job-" ++ digits3 n = "job-" ++ digits3 k := append_left_cancel heq
      have := digits3_inj hn (by omega) (append_left_cancel href)
      omega
  · rw [h.events]
    rintro ⟨k, hk, heq | heq⟩
    · have := stuckId_inj hn (by omega) (withdrawalEvent_inj.mp heq).2
      omega
    · exact withdrawalEvent_ne_earning _ _ _ heq

theorem Stuck.notFound (h : s.Stuck n) (hn : n < 1000) :
    inflightForOwner s.accountStore (stuckOwner n).val = none := by
  apply inflightForOwner_eq_none
  intro status row hrow howner
  obtain ⟨hmem, -⟩ := SettlementStore.mem_of_mem_listSettlements hrow
  obtain ⟨id, hid⟩ := (Dict.mem_values_iff _ row).mp hmem
  obtain ⟨k, hk, -, hretry⟩ := h.rows id row hid
  have := stuckOwner_inj (by omega) hn (hretry.owner.symm.trans howner)
  omega

/-- **One more round, one more owner stuck.** -/
theorem Stuck.round (h : s.Stuck n) (hn : n < 1000) :
    (Run.exec next s (stuckRound (stuckOwner n) n)).Stuck (n + 1) := by
  obtain ⟨row, hdone⟩ := (h.ready hn n (h.notFound hn)).round
  refine ⟨hdone.sound, hdone.idle, hdone.noHolds, ?_, ?_, ?_, ?_, ?_⟩
  · intro id row' hrow'
    rw [hdone.store] at hrow'
    rcases Dict.get?_set_eq_some.mp hrow' with ⟨hid, rfl⟩ | ⟨-, hrow'⟩
    · exact ⟨n, by omega, hid, hdone.retry⟩
    · obtain ⟨k, hk, hid, hretry⟩ := h.rows id row' hrow'
      exact ⟨k, by omega, hid, hretry⟩
  · intro k hk
    rw [hdone.store, Dict.get?_set]
    split
    · exact ⟨row, rfl⟩
    · rename_i hne
      refine h.has k ?_
      have : k ≠ n := fun heq => hne (by rw [heq])
      omega
  · intro e
    rw [hdone.events, h.events]
    constructor
    · rintro (heq | heq | ⟨k, hk, heq⟩)
      · exact ⟨n, by omega, .inl heq⟩
      · exact ⟨n, by omega, .inr heq⟩
      · exact ⟨k, by omega, heq⟩
    · rintro ⟨k, hk, heq⟩
      rcases Nat.lt_succ_iff_lt_or_eq.mp hk with hlt | rfl
      · exact .inr (.inr ⟨k, hlt, heq⟩)
      · rcases heq with heq | heq
        · exact .inl heq
        · exact .inr (.inl heq)
  · intro k
    unfold Ledger.bucketBalance
    rw [hdone.balance _ (head_ownerBucketAccount _ _),
      if_neg (pendingAccountOf_ne_ownerBucketAccount _ _ _), add_zero]
    exact h.earned k
  · intro k hk
    rw [hdone.balance _ (head_pendingAccountOf _), h.pending k hk]
    by_cases hkn : k = n
    · subst hkn
      rw [if_neg (lt_irrefl k), if_pos rfl, if_pos (Nat.lt_succ_self k), zero_add]
    · have hne : pendingAccountOf (stuckOwner n).val ≠ pendingAccountOf (stuckOwner k).val := fun heq =>
        hkn (stuckOwner_inj hk hn (pendingAccountOf_inj heq).symm)
      rw [if_neg hne, add_zero]
      congr 1
      exact propext (by omega)

/-- The owners up to `n` ask for a withdrawal, one after the other. -/
def stuckSteps (n : ℕ) : List OwnerStep := (List.range n).flatMap fun k => stuckRound (stuckOwner k) k

/-- **The owners are stuck**, after any number of rounds. -/
theorem stuck_owners (cls : LedgerClass) (networkFeeBps : ℤ) (wallet : String) (n : ℕ) (hn : n ≤ 1000) :
    (Run.exec next (start cls networkFeeBps wallet) (stuckSteps n)).Stuck n := by
  induction n with
  | zero =>
    refine ⟨sound_start cls networkFeeBps wallet, ⟨none, rfl⟩, rfl, ?_, ?_, ?_, fun _ => rfl, fun _ _ => rfl⟩
    · intro id row hrow
      cases hrow
    · intro k hk
      omega
    · intro e
      constructor
      · intro he
        cases he
      · rintro ⟨k, hk, -⟩
        omega
  | succ n ih =>
    have hsteps : stuckSteps (n + 1) = stuckSteps n ++ stuckRound (stuckOwner n) n := by
      simp [stuckSteps, range_succ]
    rw [hsteps, Run.exec_append]
    exact (ih (by omega)).round (by omega)

/-- **The first of 501 stuck owners is not found**: the listing is full of newer settlements. -/
theorem first_is_not_found (h : s.Stuck 501) : inflightForOwner s.accountStore (stuckOwner 0).val = none := by
  apply inflightForOwner_eq_none
  intro status row hrow howner
  obtain ⟨hmem, hstatus⟩ := SettlementStore.mem_of_mem_listSettlements hrow
  obtain ⟨id, hid⟩ := (Dict.mem_values_iff _ row).mp hmem
  obtain ⟨k, hk, -, hretry⟩ := h.rows id row hid
  have hfirst := stuckOwner_inj (by omega) (by omega) (hretry.owner.symm.trans howner)
  subst hfirst
  -- the rows of the other 500 owners
  choose newer hnewer using fun k : Fin 500 => h.has (k + 1) (by omega)
  have hretries : ∀ k, IsRetryRow (newer k) (stuckOwner (k + 1)) (stuckInput (stuckOwner (k + 1)) (k + 1))
      minimumPayoutMicroUnits := by
    intro k
    obtain ⟨j, hj, hid, hretry⟩ := h.rows _ _ (hnewer k)
    rwa [← stuckId_inj (by omega) (by omega) hid] at hretry
  have hnodup : (ofFn newer).Nodup := by
    apply nodup_ofFn.mpr
    intro k j hkj
    have howner' := (hretries k).owner.symm.trans ((congrArg _ hkj).trans (hretries j).owner)
    have := stuckOwner_inj (by omega) (by omega) howner'
    omega
  refine SettlementStore.not_mem_listSettlements hnodup ?_ ?_ hrow
  · intro r hr
    obtain ⟨k, rfl⟩ := mem_ofFn.mp hr
    refine ⟨Dict.mem_values_of_get? (hnewer k), ?_, ?_⟩
    · rw [(hretries k).status, ← hstatus, hretry.status]
    · rw [(hretries k).created, hretry.created]
      exact stamp_zero_lt (by omega) (by omega)
  · rw [length_ofFn]
    decide

end OwnerSettlements

end ComputeMesh.Billing
