import ComputeMesh.Billing.ProviderSettlement

/-!
# Provider transfers are covered by credits

* `MoneyInv` — the invariant that ties the transfers at Stripe to the books: those with a payout are
  covered by what was settled, the others, which are `outstanding`, by what was credited besides;
* `CallSteady` — the condition: a transfer is executed only while the balance covers it and nothing is
  outstanding, a payout is recorded only at the balance that was read, in whole cents;
* `provider_transfers_covered` — **what has been transferred was credited**, and a completed settlement
  debits what it asked Stripe for, in every run whose calls are steady.

Nothing in the code makes sure of the condition: after a crash between transfer and payout a new credit
gives the next call another id, and the balance is transferred again (`crash_transfers_balance_twice`).
-/

namespace ComputeMesh.Billing

open ComputeMesh.Text Dict StripeTransfers

/-! ### What has been credited, settled and transferred -/

/-- Postings that treat an account as a liability or revenue move it by its credits less its debits. -/
theorem netChange_eq_creditsOf_sub_debitsOf {a : String} {fs : List PostingFields}
    (h : ∀ p ∈ fs, p.accountId = a → creditIncreases p.accountType = true) :
    netChange fs a = creditsOf fs a - debitsOf fs a := by
  induction fs with
  | nil => rfl
  | cons p fs ih =>
    have hrest := ih fun q hq => h q (List.mem_cons_of_mem _ hq)
    rw [netChange_cons, hrest]
    simp only [creditsOf, debitsOf, List.map_cons, sumAt_cons]
    split
    · rename_i hp
      simp only [PostingFields.signed, h p List.mem_cons_self hp, if_true]
      omega
    · omega

theorem creditsOf_nonneg (ps : List Posting) (a : String) : 0 ≤ creditsOf (fieldsOf ps) a := by
  apply sumAt_nonneg
  intro e he _
  obtain ⟨f, hf, rfl⟩ := List.mem_map.mp he
  obtain ⟨p, -, rfl⟩ := List.mem_map.mp hf
  exact p.nonneg.2

namespace Journal

variable (node : String)

/-- Everything ever credited to the provider's account. -/
def credited (j : Journal) : ℤ :=
  (j.transactions.map fun tx => creditsOf tx.fields (providerLedgerAccount node)).sum

/-- What a transaction settles: the debit of a payout of the provider. -/
def settles (tx : Transaction) : ℤ :=
  if startsWith tx.eventId ("payout:" ++ node ++ ":") then
    debitsOf tx.fields (providerLedgerAccount node)
  else 0

/-- Everything the payouts have debited. -/
def settled (j : Journal) : ℤ := (j.transactions.map (settles node)).sum

/-- The balance of the provider's account. -/
def providerBalance (j : Journal) : ℤ := j.balances.getD (providerLedgerAccount node) 0

theorem recorded_journal (l : Ledger) (tx : Transaction) : (l.recorded tx).journal.credited node
        = l.journal.credited node + creditsOf tx.fields (providerLedgerAccount node) ∧
      (l.recorded tx).journal.settled node = l.journal.settled node + settles node tx ∧
      (l.recorded tx).journal.providerBalance node
        = l.journal.providerBalance node + netChange tx.fields (providerLedgerAccount node) := by
  refine ⟨?_, ?_, l.rawBalance_recorded tx _⟩
  · simp [credited]
  · simp [settled]

end Journal

/-- The provider's payout of a transfer is in the ledger. -/
def StripeTransfer.IsPaid (node : String) (j : Journal) (t : StripeTransfer) : Prop :=
  payoutEvent node t.transferGroup ∈ j.processedEvents

instance (node : String) (j : Journal) (t : StripeTransfer) : Decidable (t.IsPaid node j) :=
  inferInstanceAs (Decidable (_ ∈ _))

def StripeTransfer.microUnits (t : StripeTransfer) : ℤ := t.amountCents * centMicroUnits

namespace StripeTransfers

/-- Everything transferred at Stripe, in micro-units. -/
def total (ts : StripeTransfers) : ℤ := Dict.sumBy StripeTransfer.microUnits ts

/-- The part whose payouts are in the ledger. -/
def paidOut (node : String) (j : Journal) (ts : StripeTransfers) : ℤ :=
  Dict.sumBy (fun t => if t.IsPaid node j then t.microUnits else 0) ts

/-- The part whose payouts are not. -/
def outstanding (node : String) (j : Journal) (ts : StripeTransfers) : ℤ :=
  Dict.sumBy (fun t => if t.IsPaid node j then 0 else t.microUnits) ts

theorem total_eq (node : String) (j : Journal) (ts : StripeTransfers) :
    ts.total = ts.paidOut node j + ts.outstanding node j := by
  rw [total, paidOut, outstanding, ← sumBy_add]
  apply sumBy_congr
  intro t _
  split <;> omega

end StripeTransfers

/-- The transfer of a settlement of this provider, of the balance its id is made of. -/
def StripeTransfer.IsOwn (node : String) (t : StripeTransfer) : Prop :=
  ∃ balance, minimumPayoutMicroUnits ≤ balance ∧ t.transferGroup = (providerSettlementId node balance).val ∧
    t.amountCents = balance / centMicroUnits

/-- **The money invariant**, of the journal and the transfers: the balance and what was settled are covered
by what was credited; a transfer is stored under its own key, and a payout has one; the transfers paid
out are covered by what was settled, and what is outstanding by what was credited besides. -/
structure MoneyInv (node : String) (j : Journal) (ts : StripeTransfers) : Prop where
  books : j.providerBalance node + j.settled node ≤ j.credited node
  keyed : ∀ k t, Dict.get? ts k = some t → k = providerTransferKey t.transferGroup ∧ t.IsOwn node
  executed : ∀ x, payoutEvent node x ∈ j.processedEvents → ∃ t, Dict.get? ts (providerTransferKey x) = some t
  paid : ts.paidOut node j ≤ j.settled node
  covered : j.settled node + ts.outstanding node j ≤ j.credited node

namespace MoneyInv

variable {node : String} {l : Ledger} {ts : StripeTransfers}

theorem total_le_credited (h : MoneyInv node l.journal ts) : ts.total ≤ l.journal.credited node := by
  have hpaid := h.paid
  have hcovered := h.covered
  rw [ts.total_eq node l.journal]
  omega

theorem payoutEvent_inj {x y : String} (h : payoutEvent node x = payoutEvent node y) : x = y := by
  unfold payoutEvent at h
  exact append_left_cancel h

theorem startsWith_payoutEvent (x : String) : startsWith (payoutEvent node x) ("payout:" ++ node ++ ":") = true :=
  startsWith_append _ _

theorem record (h : MoneyInv node l.journal ts) {tx : Transaction}
    (hevent : startsWith tx.eventId ("payout:" ++ node ++ ":") = false)
    (hliability : ∀ p ∈ tx.fields, p.accountId = providerLedgerAccount node →
      creditIncreases p.accountType = true) : MoneyInv node (l.recorded tx).journal ts := by
  obtain ⟨hcredited, hsettled, hbalance⟩ := Journal.recorded_journal node l tx
  have hnet := netChange_eq_creditsOf_sub_debitsOf hliability
  have hcredits : 0 ≤ creditsOf tx.fields (providerLedgerAccount node) := creditsOf_nonneg _ _
  have hdebits : 0 ≤ debitsOf tx.fields (providerLedgerAccount node) := debitsOf_nonneg _ _
  have hsettles : Journal.settles node tx = 0 := by simp [Journal.settles, hevent]
  have hsame : ∀ x, payoutEvent node x ∈ (l.recorded tx).journal.processedEvents
      ↔ payoutEvent node x ∈ l.journal.processedEvents := by
    intro x
    have hne : payoutEvent node x ≠ tx.eventId := by
      intro heq
      rw [← heq, startsWith_payoutEvent] at hevent
      cases hevent
    simp [hne]
  have hpaid : ∀ t : StripeTransfer, t.IsPaid node (l.recorded tx).journal ↔ t.IsPaid node l.journal :=
    fun t => hsame t.transferGroup
  refine ⟨?_, h.keyed, fun x hx => h.executed x ((hsame x).mp hx), ?_, ?_⟩
  · have := h.books
    omega
  · have := h.paid
    simp only [paidOut, hpaid] at this ⊢
    omega
  · have := h.covered
    simp only [outstanding, hpaid] at this ⊢
    omega

theorem micro_le (balance : ℤ) : balance / centMicroUnits * centMicroUnits ≤ balance :=
  Int.ediv_mul_le balance (by decide)

theorem execute_of_contains {key : String} {transfer t : StripeTransfer}
    (h : Dict.get? ts key = some t) : ts.execute key transfer = ts := by
  simp [execute, contains, h]

theorem execute_of_none {key : String} {transfer : StripeTransfer} (h : Dict.get? ts key = none) :
    ts.execute key transfer = Dict.set ts key transfer := by
  simp [execute, contains, h]

/-- **Executing a transfer keeps the invariant** if the balance covers it and nothing is outstanding. -/
theorem execute (h : MoneyInv node l.journal ts) {balance : ℤ} {currency destination : String}
    (hmin : minimumPayoutMicroUnits ≤ balance)
    (hok : Dict.get? ts (providerTransferKey (providerSettlementId node balance).val) = none →
      balance ≤ l.journal.providerBalance node ∧ ∀ t ∈ Dict.values ts, t.IsPaid node l.journal) :
    MoneyInv node l.journal (ts.execute (providerTransferKey (providerSettlementId node balance).val)
      ⟨balance / centMicroUnits, currency, destination, (providerSettlementId node balance).val⟩) := by
  generalize hid : (providerSettlementId node balance).val = id at hok ⊢
  generalize htr : (⟨balance / centMicroUnits, currency, destination, id⟩ : StripeTransfer) = tr
  have hgroup : tr.transferGroup = id := by rw [← htr]
  have hmicro : tr.microUnits ≤ balance := by
    rw [← htr]
    exact micro_le balance
  cases hget : get? ts (providerTransferKey id) with
  | some t => rwa [execute_of_contains hget]
  | none =>
    obtain ⟨hcover, hall⟩ := hok hget
    have hunpaid : ¬tr.IsPaid node l.journal := by
      intro hpaid
      obtain ⟨t, ht⟩ := h.executed id (hgroup ▸ hpaid)
      rw [hget] at ht
      cases ht
    have hout : ts.outstanding node l.journal = 0 := by
      have hzero : ts.outstanding node l.journal = sumBy (fun _ => 0) ts :=
        sumBy_congr fun t ht => by rw [if_pos (hall t ht)]
      rw [hzero]
      simp [sumBy]
    rw [execute_of_none hget]
    refine ⟨h.books, ?_, ?_, ?_, ?_⟩
    · intro k t hk
      rcases get?_set_eq_some.mp hk with ⟨hkey, rfl⟩ | ⟨-, hk⟩
      · refine ⟨by rw [hkey, hgroup], balance, hmin, by rw [hgroup, hid], by rw [← htr]⟩
      · exact h.keyed k t hk
    · intro x hx
      rw [get?_set]
      split
      · exact ⟨_, rfl⟩
      · exact h.executed x hx
    · have hpaid := h.paid
      unfold paidOut at hpaid ⊢
      rw [sumBy_set, hget, if_neg hunpaid]
      simpa using hpaid
    · have hbooks := h.books
      unfold outstanding at hout ⊢
      rw [sumBy_set, hget, if_neg hunpaid, hout]
      simp only [Option.map_none, Option.getD_none]
      omega

/-- **A payout keeps the invariant** if it debits what its transfer is about. -/
theorem payout (h : MoneyInv node l.journal ts) {tx : Transaction} {t : StripeTransfer} {x : String}
    (hx : tx.eventId = payoutEvent node x) (hnew : tx.eventId ∉ l.journal.processedEvents)
    (hfields : tx.fields = Ledger.payoutPostings (providerLedgerAccount node) providerPayable
      (l.journal.providerBalance node))
    (ht : Dict.get? ts (providerTransferKey x) = some t)
    (hamount : t.microUnits = l.journal.providerBalance node) :
    MoneyInv node (l.recorded tx).journal ts := by
  have hexpense : "expense:settlements" ≠ providerLedgerAccount node :=
    ne_of_head (by rw [providerLedgerAccount, head_append (by decide)]; decide)
  obtain ⟨hcredited, hsettled, hbalance⟩ := Journal.recorded_journal node l tx
  have hdebits : debitsOf tx.fields (providerLedgerAccount node) = l.journal.providerBalance node := by
    simp [hfields, Ledger.payoutPostings, debitsOf, sumAt_cons, hexpense]
  have hcredits : creditsOf tx.fields (providerLedgerAccount node) = 0 := by
    simp [hfields, Ledger.payoutPostings, creditsOf, sumAt_cons, hexpense]
  have hnet : netChange tx.fields (providerLedgerAccount node) = -l.journal.providerBalance node := by
    simp [hfields, Ledger.payoutPostings, netChange_cons, hexpense, PostingFields.signed]
  have hsettles : Journal.settles node tx = l.journal.providerBalance node := by
    rw [Journal.settles, hx, startsWith_payoutEvent, if_pos rfl, hdebits]
  have hgroup : t.transferGroup = x := by
    have hkey := (h.keyed _ t ht).1
    exact (append_left_cancel hkey).symm
  have hmem : ∀ y, payoutEvent node y ∈ (l.recorded tx).journal.processedEvents
      ↔ y = x ∨ payoutEvent node y ∈ l.journal.processedEvents := by
    intro y
    rw [Ledger.mem_processedEvents_recorded, hx]
    constructor
    · rintro (heq | hin)
      · exact .inl (payoutEvent_inj heq)
      · exact .inr hin
    · rintro (rfl | hin)
      · exact .inl rfl
      · exact .inr hin
  have hbefore : ¬t.IsPaid node l.journal := by
    rw [StripeTransfer.IsPaid, hgroup, ← hx]
    exact hnew
  have hafter : t.IsPaid node (l.recorded tx).journal := by
    rw [StripeTransfer.IsPaid, hgroup]
    exact (hmem x).mpr (.inl rfl)
  -- the transfers under other keys are paid out after the payout if and only if they were before
  have hother : ∀ k t', get? ts k = some t' → k ≠ providerTransferKey x →
      (t'.IsPaid node (l.recorded tx).journal ↔ t'.IsPaid node l.journal) := by
    intro k t' hk hne
    have hne' : t'.transferGroup ≠ x := by
      intro heq
      exact hne (by rw [(h.keyed k t' hk).1, heq])
    rw [StripeTransfer.IsPaid, hmem, or_iff_right hne', StripeTransfer.IsPaid]
  refine ⟨?_, h.keyed, ?_, ?_, ?_⟩
  · have := h.books
    omega
  · intro y hy
    rcases (hmem y).mp hy with rfl | hin
    · exact ⟨t, ht⟩
    · exact h.executed y hin
  · have hle := sumBy_le_sumBy_of_get? ht
      (f := fun t => if t.IsPaid node (l.recorded tx).journal then t.microUnits else 0)
      (g := fun t => if t.IsPaid node l.journal then t.microUnits else 0)
      (fun k t' hk hne => by simp only [hother k t' hk hne, le_refl])
    have hpaid := h.paid
    simp only [if_pos hafter, if_neg hbefore] at hle
    unfold paidOut at hpaid ⊢
    omega
  · have hle := sumBy_le_sumBy_of_get? ht
      (f := fun t => if t.IsPaid node (l.recorded tx).journal then 0 else t.microUnits)
      (g := fun t => if t.IsPaid node l.journal then 0 else t.microUnits)
      (fun k t' hk hne => by simp only [hother k t' hk hne, le_refl])
    have hcovered := h.covered
    simp only [if_pos hafter, if_neg hbefore] at hle
    unfold outstanding at hcovered ⊢
    omega

end MoneyInv

/-! ### What the steps of a call do -/

/-- Whether Stripe executes a request with this outcome. -/
def TransferOutcome.executes : TransferOutcome → Bool
  | success _ | failedExecuted _ => true
  | failed _ => false

theorem transferToConnectedAccount_cases (ts : StripeTransfers) (id : SettlementId) (amount : ℤ)
    (account currency : String) (outcome : TransferOutcome) :
    ((∃ e, (transferToConnectedAccount ts id amount account currency outcome).1 = .error e) ∧
        (transferToConnectedAccount ts id amount account currency outcome).2 = ts) ∨
      (outcome.executes = true ∧ (transferToConnectedAccount ts id amount account currency outcome).2
        = ts.execute (providerTransferKey id.val) ⟨amount / centMicroUnits, lower currency, account, id.val⟩) := by
  simp only [transferToConnectedAccount]
  split
  · exact .inl ⟨⟨_, rfl⟩, rfl⟩
  · split
    · exact .inl ⟨⟨_, rfl⟩, rfl⟩
    · cases outcome with
      | success transferId =>
        refine .inr ⟨rfl, ?_⟩
        simp only [create]
        split <;> rfl
      | failedExecuted message => exact .inr ⟨rfl, rfl⟩
      | failed message => exact .inl ⟨⟨_, rfl⟩, rfl⟩

theorem StripeTransfers.get?_execute_self (ts : StripeTransfers) (key : String)
    (transfer : StripeTransfer) : ∃ t, Dict.get? (ts.execute key transfer) key = some t := by
  cases hget : get? ts key with
  | some t => exact ⟨t, by rw [MoneyInv.execute_of_contains hget, hget]⟩
  | none => exact ⟨transfer, by rw [MoneyInv.execute_of_none hget, get?_set_self]⟩

theorem StripeTransfers.get?_execute_of_some {ts : StripeTransfers} {k : String} {t : StripeTransfer}
    (h : Dict.get? ts k = some t) (key : String) (transfer : StripeTransfer) :
    Dict.get? (ts.execute key transfer) k = some t := by
  cases hget : get? ts key with
  | some t' => rwa [MoneyInv.execute_of_contains hget]
  | none =>
    have hne : k ≠ key := by
      rintro rfl
      rw [hget] at h
      cases h
    rwa [MoneyInv.execute_of_none hget, get?_set_of_ne _ hne]

theorem Ledger.createProviderPayout_spec (l : Ledger) (env : Env) (node wallet : String) (id : SettlementId) :
    (∃ e, l.createProviderPayout env node wallet (some id.val) = (.error e, l)) ∨
      ∃ tx : Transaction, minimumPayoutMicroUnits ≤ l.journal.providerBalance node ∧
        tx.eventId = payoutEvent node id.val ∧ tx.eventId ∉ l.journal.processedEvents ∧
        tx.fields = payoutPostings (providerLedgerAccount node) providerPayable
          (l.journal.providerBalance node) ∧
        (l.createProviderPayout env node wallet (some id.val)).2 = l.recorded tx := by
  have hid : orDefault (some id.val) env.tokenHex = id.val := by simp [orDefault, id.nonempty]
  simp only [createProviderPayout, hid]
  split
  · exact .inl ⟨_, rfl⟩
  · rename_i hmin
    split
    · exact .inl ⟨_, rfl⟩
    · rename_i hnew
      unfold commitNew
      split
      · exact .inl ⟨_, rfl⟩
      · rename_i tx htx
        obtain ⟨-, hevent, -, -, hfields⟩ := newTransaction_ok htx
        refine .inr ⟨tx, not_lt.mp hmin, hevent, by rwa [hevent], hfields, ?_⟩
        rw [withSummary_snd, commit_snd]

/-! ### The invariant of the settlements -/

/-- The record is of this provider, and its id is made of its amount. -/
def SettlementRecord.IsOwn (node : String) (r : SettlementRecord) : Prop :=
  r.settlementId = providerSettlementId node r.amountMicroUnits ∧ minimumPayoutMicroUnits ≤ r.amountMicroUnits

def SettlementRecord.askedMicroUnits (r : SettlementRecord) : ℤ :=
  r.amountMicroUnits / centMicroUnits * centMicroUnits

/-- The ledger has a payout of the settlement that debits what it asked Stripe for. -/
def SettlementRecord.IsSettledIn (node : String) (j : Journal) (r : SettlementRecord) : Prop :=
  ∃ tx ∈ j.transactions, tx.eventId = payoutEvent node r.settlementId.val ∧
    debitsOf tx.fields (providerLedgerAccount node) = r.askedMicroUnits

variable {s : ProviderSettlements} {env : Env}

namespace ProviderSettlements

variable {R : Type} [LayerRatio R] {node : String}

/-- What a call knows where it stands. -/
def CallOk (node : String) (j : Journal) (ts : StripeTransfers) : ProviderCall → Prop
  | .idle => True
  | .storePending record => record.IsOwn node ∧ record.status = .pending
  | .transfer record => record.IsOwn node
  | .payout record _ => record.IsOwn node ∧
      ∃ t, Dict.get? ts (providerTransferKey record.settlementId.val) = some t
  | .storeCompleted record _ _ => record.IsOwn node ∧ record.IsSettledIn node j

/-- The rows are of this provider, and the completed ones are settled. -/
def RowsOk (node : String) (j : Journal) (store : SettlementStore) : Prop :=
  ∀ id row, Dict.get? store id = some row → row.settlementId = id ∧ row.IsOwn node ∧
    (row.status = .completed → row.IsSettledIn node j)

/-- **The invariant of provider settlements.** -/
structure Inv (node : String) (s : ProviderSettlements) : Prop where
  replay : s.ledger.journal.IsReplay
  written : s.ledger.journal.IsWritten
  money : MoneyInv node s.ledger.journal s.transfers
  rows : RowsOk node s.ledger.journal s.accountStore
  calls : ∀ call, CallOk node s.ledger.journal s.transfers (s.calls call)

theorem isSettledIn_mono {j j' : Journal} (h : j.transactions ⊆ j'.transactions)
    {r : SettlementRecord} (hr : r.IsSettledIn node j) : r.IsSettledIn node j' := by
  obtain ⟨tx, htx, hevent, hdebit⟩ := hr
  exact ⟨tx, h htx, hevent, hdebit⟩

theorem CallOk.mono {j j' : Journal} {ts ts' : StripeTransfers} {call : ProviderCall}
    (h : CallOk node j ts call) (hj : j.transactions ⊆ j'.transactions)
    (hts : ∀ k t, Dict.get? ts k = some t → Dict.get? ts' k = some t) : CallOk node j' ts' call := by
  cases call with
  | idle => trivial
  | storePending record => exact h
  | transfer record => exact h
  | payout record _ =>
    obtain ⟨hown, t, ht⟩ := h
    exact ⟨hown, t, hts _ t ht⟩
  | storeCompleted record _ _ => exact ⟨h.1, isSettledIn_mono hj h.2⟩

theorem RowsOk.mono {j j' : Journal} {store : SettlementStore} (h : RowsOk node j store)
    (hj : j.transactions ⊆ j'.transactions) : RowsOk node j' store := fun id row hrow =>
  ⟨(h id row hrow).1, (h id row hrow).2.1, fun hdone => isSettledIn_mono hj ((h id row hrow).2.2 hdone)⟩

theorem providerSettlementId_inj {a b : ℤ} (ha : 0 ≤ a) (hb : 0 ≤ b)
    (h : providerSettlementId node a = providerSettlementId node b) : a = b :=
  intText_inj ha hb (append_left_cancel (congrArg SettlementId.val h))

theorem amount_eq_of_isOwn {r row : SettlementRecord} (hr : r.IsOwn node) (hrow : row.IsOwn node)
    (hid : row.settlementId = r.settlementId) : row.amountMicroUnits = r.amountMicroUnits := by
  have hmin : (0 : ℤ) ≤ minimumPayoutMicroUnits := by decide
  have hids : providerSettlementId node row.amountMicroUnits = providerSettlementId node r.amountMicroUnits := by
    rw [← hrow.1, hid, hr.1]
  exact providerSettlementId_inj (hmin.trans hrow.2) (hmin.trans hr.2) hids

theorem RowsOk.upsert {j : Journal} {store : SettlementStore} (h : RowsOk node j store)
    (record : SettlementRecord) (hown : record.IsOwn node)
    (hdone : record.status = .completed → record.IsSettledIn node j) :
    RowsOk node j (store.upsertSettlement record) := by
  intro id row hrow
  rw [SettlementStore.get?_upsertSettlement] at hrow
  split at hrow
  · rename_i hid
    subst hid
    cases hrow
    -- the row's amount is the one it had, and that is the record's
    have hamount : (store.upsertedRow record).amountMicroUnits = record.amountMicroUnits := by
      cases hold : get? store record.settlementId with
      | none => rw [SettlementStore.upsertedRow_of_none hold]
      | some old =>
        obtain ⟨hid, hold', -⟩ := h _ old hold
        rw [(SettlementStore.upsertedRow_of_some hold).2.2]
        exact amount_eq_of_isOwn hown hold' hid
    have hid := SettlementStore.upsertedRow_settlementId store record
    refine ⟨hid, ⟨by rw [hid, hamount]; exact hown.1, by rw [hamount]; exact hown.2⟩, ?_⟩
    rw [SettlementStore.upsertedRow_status]
    intro hstatus
    obtain ⟨tx, htx, hevent, hdebit⟩ := hdone hstatus
    exact ⟨tx, htx, by rw [hid]; exact hevent, by
      rw [SettlementRecord.askedMicroUnits, hamount]; exact hdebit⟩
  · exact h id row hrow

theorem Inv.withCall (h : s.Inv node) (call : ℕ) {state : ProviderCall}
    (hstate : CallOk node s.ledger.journal s.transfers state) : (s.withCall call state).Inv node := by
  refine ⟨h.replay, h.written, h.money, h.rows, fun c => ?_⟩
  show CallOk node _ _ (Function.update s.calls call state c)
  by_cases hc : c = call
  · subst hc
    rwa [Function.update_self]
  · rw [Function.update_of_ne hc]
    exact h.calls c

/-- A change of the ledger and of the transfers that only adds keeps the rest of the invariant. -/
theorem Inv.grow (h : s.Inv node) {l : Ledger} {ts : StripeTransfers}
    (hreplay : l.journal.IsReplay) (hwritten : l.journal.IsWritten)
    (hmoney : MoneyInv node l.journal ts)
    (hj : s.ledger.journal.transactions ⊆ l.journal.transactions)
    (hts : ∀ k t, Dict.get? s.transfers k = some t → Dict.get? ts k = some t) :
    { s with ledger := l, transfers := ts }.Inv node :=
  ⟨hreplay, hwritten, hmoney, h.rows.mono hj, fun c => (h.calls c).mono hj hts⟩

/-! ### The condition and the steps -/

/-- The condition on a call's next write.  When Stripe executes a transfer, the balance still covers the
amount that was read, and every transfer executed before has its payout in the ledger.  When a payout
is recorded, the balance is still the one that was read, a whole number of cents. -/
def CallSteady (node : String) (s : ProviderSettlements) (outcome : TransferOutcome) : ProviderCall → Prop
  | .transfer record =>
    outcome.executes = true → Dict.get? s.transfers (providerTransferKey record.settlementId.val) = none →
        record.amountMicroUnits ≤ s.ledger.journal.providerBalance node ∧
          ∀ t ∈ Dict.values s.transfers, t.IsPaid node s.ledger.journal
  | .payout record _ =>
    payoutEvent node record.settlementId.val ∉ s.ledger.journal.processedEvents →
      minimumPayoutMicroUnits ≤ s.ledger.journal.providerBalance node →
        s.ledger.journal.providerBalance node = record.amountMicroUnits ∧ centMicroUnits ∣ record.amountMicroUnits
  | _ => True

def Steady (node : String) (s : ProviderSettlements) : ProviderStep R → Prop
  | .advance call _ outcome => s.CallSteady node outcome (s.calls call)
  | _ => True

instance (s : ProviderSettlements) (outcome : TransferOutcome) :
    (call : ProviderCall) → Decidable (s.CallSteady node outcome call)
  | .transfer _ => inferInstanceAs (Decidable (_ → _ → _ ∧ _))
  | .payout _ _ => inferInstanceAs (Decidable (_ → _ → _ ∧ _))
  | .idle | .storePending _ | .storeCompleted .. => inferInstanceAs (Decidable True)

instance (s : ProviderSettlements) : (step : ProviderStep R) → Decidable (s.Steady node step)
  | .advance call _ outcome => inferInstanceAs (Decidable (s.CallSteady node outcome (s.calls call)))
  | .begin_ .. | .credit .. | .crash _ => inferInstanceAs (Decidable True)

variable {record : SettlementRecord}

theorem beginRun_ok {provider : Option ProviderAccount} {currency : String}
    (h : s.beginRun node env provider currency = .ok record) :
    record.IsOwn node ∧ record.status = .pending := by
  unfold beginRun at h
  split at h
  · cases h
  · split at h
    · cases h
    · split at h
      · cases h
      · split at h
        · cases h
        · rename_i balance _
          split at h
          · cases h
          · rename_i hmin
            split at h
            · cases h
            · cases h
              exact ⟨⟨rfl, not_lt.mp hmin⟩, rfl⟩

theorem Inv.transfer (h : s.Inv node) {call : ℕ} (hcall : s.calls call = .transfer record) {outcome : TransferOutcome}
    (hok : s.CallSteady node outcome (.transfer record)) : (s.advance node call env outcome).Inv node := by
  have hown : record.IsOwn node := by simpa [hcall, CallOk] using h.calls call
  simp only [advance, hcall]
  rcases transferToConnectedAccount_cases s.transfers record.settlementId record.amountMicroUnits
    record.stripeConnectedAccountId record.currency outcome with ⟨⟨e, herr⟩, hts⟩ | ⟨hexec, hts⟩
  · generalize transferToConnectedAccount s.transfers record.settlementId record.amountMicroUnits
      record.stripeConnectedAccountId record.currency outcome = r at herr hts ⊢
    obtain ⟨r, ts⟩ := r
    cases herr
    cases hts
    exact h.withCall call trivial
  · have hmoney : MoneyInv node s.ledger.journal (s.transfers.execute (providerTransferKey record.settlementId.val)
        ⟨record.amountMicroUnits / centMicroUnits, lower record.currency,
          record.stripeConnectedAccountId, record.settlementId.val⟩) := by
      have hsteady := hok hexec
      rw [hown.1] at hsteady ⊢
      exact h.money.execute hown.2 hsteady
    have hself := s.transfers.get?_execute_self (providerTransferKey record.settlementId.val)
      ⟨record.amountMicroUnits / centMicroUnits, lower record.currency,
        record.stripeConnectedAccountId, record.settlementId.val⟩
    rw [← hts] at hmoney hself
    have hgrow := h.grow (l := s.ledger) h.replay h.written hmoney (fun _ htx => htx) fun k t hk => by
      rw [hts]
      exact get?_execute_of_some hk _ _
    generalize transferToConnectedAccount s.transfers record.settlementId record.amountMicroUnits
      record.stripeConnectedAccountId record.currency outcome = r at hmoney hself hgrow ⊢
    obtain ⟨r, ts⟩ := r
    cases r with
    | error e => exact hgrow.withCall call trivial
    | ok transferId => exact hgrow.withCall call ⟨hown, hself⟩

theorem Inv.payout (h : s.Inv node) {call : ℕ}
    {transferId : String} (hcall : s.calls call = .payout record transferId)
    {outcome : TransferOutcome} (hok : s.CallSteady node outcome (.payout record transferId)) :
    (s.advance node call env outcome).Inv node := by
  have hcallOk : CallOk node s.ledger.journal s.transfers (.payout record transferId) := by
    rw [← hcall]
    exact h.calls call
  obtain ⟨hown, t, ht⟩ := hcallOk
  simp only [advance, hcall]
  rcases s.ledger.createProviderPayout_spec env node record.stripeConnectedAccountId
    record.settlementId with ⟨e, heq⟩ | ⟨tx, hmin, hevent, hnew, hfields, heq⟩
  · rw [heq]
    exact h.withCall call trivial
  · obtain ⟨hbalance, hcents⟩ := hok (by rwa [← hevent]) hmin
    obtain ⟨hkey, balance, hmin', hgroup, hamount⟩ := h.money.keyed _ t ht
    have hbalance' : balance = record.amountMicroUnits := by
      have hpos : (0 : ℤ) ≤ minimumPayoutMicroUnits := by decide
      have hids : providerSettlementId node balance = providerSettlementId node record.amountMicroUnits := by
        apply SettlementId.ext_val
        rw [← hgroup, ← hown.1]
        exact (append_left_cancel hkey).symm
      exact providerSettlementId_inj (hpos.trans hmin') (hpos.trans hown.2) hids
    have hasked : record.askedMicroUnits = record.amountMicroUnits := Int.ediv_mul_cancel hcents
    have hmicro : t.microUnits = s.ledger.journal.providerBalance node := by
      rw [StripeTransfer.microUnits, hamount, hbalance', hbalance]
      exact hasked
    have hmoney := h.money.payout hevent hnew hfields ht hmicro
    have hsettled : record.IsSettledIn node (s.ledger.recorded tx).journal := by
      refine ⟨tx, by simp, hevent, ?_⟩
      have hexpense : "expense:settlements" ≠ providerLedgerAccount node :=
        ne_of_head (by rw [providerLedgerAccount, head_append (by decide)]; decide)
      rw [hasked, ← hbalance]
      simp [hfields, Ledger.payoutPostings, debitsOf, sumAt_cons, hexpense]
    have hgrow := h.grow (l := s.ledger.recorded tx) (h.replay.record hnew) (h.written.record tx) hmoney
      (by simp) (fun k t hk => hk)
    generalize s.ledger.createProviderPayout env node record.stripeConnectedAccountId
      (some record.settlementId.val) = r at heq ⊢
    obtain ⟨r, l⟩ := r
    cases heq
    cases r with
    | error e => exact hgrow.withCall call trivial
    | ok answer => exact hgrow.withCall call ⟨hown, hsettled⟩

/-- **One write of a call keeps the invariant**, if the call is steady. -/
theorem Inv.advance (h : s.Inv node) (call : ℕ) (env : Env)
    (outcome : TransferOutcome) (hok : s.CallSteady node outcome (s.calls call)) :
    (s.advance node call env outcome).Inv node := by
  cases hcall : s.calls call with
  | idle =>
    simp only [ProviderSettlements.advance, hcall]
    exact h
  | storePending record =>
    have hcallOk : CallOk node s.ledger.journal s.transfers (.storePending record) := by
      rw [← hcall]
      exact h.calls call
    obtain ⟨hown, hstatus⟩ := hcallOk
    have hmoved : (s.withCall call (.transfer record)).Inv node := h.withCall call hown
    have hrows := h.rows.upsert record hown fun hdone => by
      rw [hstatus] at hdone
      cases hdone
    simp only [ProviderSettlements.advance, hcall]
    exact ⟨h.replay, h.written, h.money, hrows, hmoved.calls⟩
  | transfer record => exact h.transfer hcall (by rwa [hcall] at hok)
  | payout record transferId => exact h.payout hcall (by rwa [hcall] at hok)
  | storeCompleted record transferId ledgerTxId =>
    have hcallOk : CallOk node s.ledger.journal s.transfers (.storeCompleted record transferId ledgerTxId) := by
      rw [← hcall]
      exact h.calls call
    obtain ⟨hown, hsettled⟩ := hcallOk
    have hmoved : (s.withCall call .idle).Inv node := h.withCall call trivial
    have hrows := h.rows.upsert { record with
      ledgerTxId := ledgerTxId
      stripeTransferId := transferId
      status := .completed
      updatedAt := env.isoNow } hown fun _ => hsettled
    simp only [ProviderSettlements.advance, hcall]
    exact ⟨h.replay, h.written, h.money, hrows, hmoved.calls⟩

end ProviderSettlements

theorem Op.posts_of_creditOp {R : Type} {l : Ledger} {op : Op R} (hop : op.isCreditOp)
    {e : String} {fs : List PostingFields} (h : op.Posts l env e fs) (node : String) :
    startsWith e ("payout:" ++ node ++ ":") = false ∧
      ∀ p ∈ fs, p.accountId = providerLedgerAccount node → creditIncreases p.accountType = true := by
  have hevent : ∀ tag rest : String, tag.toList ≠ [] → tag.toList.head? ≠ some 'p' →
      startsWith (tag ++ rest) ("payout:" ++ node ++ ":") = false := by
    intro tag rest hne hhead
    by_contra hstart
    have heq := head_of_startsWith (by simp) (Bool.eq_true_of_not_eq_false hstart)
    rw [head_append hne, String.append_assoc, head_append (by decide)] at heq
    exact hhead heq
  have hjob : ∀ c : JobCall R, e = c.eventId ∧ IsJobPostings c fs →
      startsWith e ("payout:" ++ node ++ ":") = false ∧
        ∀ p ∈ fs, p.accountId = providerLedgerAccount node → creditIncreases p.accountType = true := by
    rintro c ⟨rfl, fee, providers, rfl, hproviders⟩
    refine ⟨hevent "job:" c.jobId (by decide) (by decide), ?_⟩
    intro p hp _
    rcases List.mem_cons.mp hp with rfl | hp
    · exact creditIncreases_customerDeposit
    · rcases List.mem_append.mp hp with hp | hp
      · unfold Ledger.feePosting at hp
        split at hp
        · rw [List.mem_singleton.mp hp]
          exact creditIncreases_networkFeeRevenue
        · cases hp
      · obtain ⟨_, -, -, htype, -⟩ := hproviders p hp
        rw [htype]
        exact creditIncreases_providerPayable
  have hescrow : "gateway:escrow" ≠ providerLedgerAccount node :=
    ne_of_head (by rw [providerLedgerAccount, head_append (by decide)]; decide)
  cases op with
  | captureHold holdId call | recordJobExecution call => exact hjob call h
  | depositCustomerCredits customer amount ref =>
    rcases h with ⟨rfl, rfl⟩ | ⟨owner, -, -, rfl, rfl⟩
    · refine ⟨hevent "deposit:" ref (by decide) (by decide), ?_⟩
      intro p hp haccount
      simp only [Ledger.depositPostings, List.mem_cons, List.not_mem_nil, or_false] at hp
      rcases hp with rfl | rfl
      · exact absurd haccount hescrow
      · exact creditIncreases_customerDeposit
    · refine ⟨hevent "owner-purchase:" _ (by decide) (by decide), ?_⟩
      intro p hp haccount
      simp only [Ledger.bucketCreditPostings, List.mem_cons, List.not_mem_nil, or_false] at hp
      rcases hp with rfl | rfl
      · exact absurd haccount hescrow
      · exact creditIncreases_bucket _
  | createHold _ _ _ _ _ | renewHold _ _ | releaseHold _ => cases h
  | _ => cases hop

namespace ProviderSettlements

variable {R : Type} [LayerRatio R] {node : String}

theorem Inv.credit (h : s.Inv node) (env : Env) {op : Op R}
    (hop : op.isCreditOp) : { s with ledger := op.run s.ledger env }.Inv node := by
  have hreplay := op.run_isReplay env h.replay
  have hwritten := op.run_isWritten env h.written
  rcases op.run_journal s.ledger env with heq | ⟨tx, -, hposts, heq⟩
  · exact h.grow hreplay hwritten (by rw [heq]; exact h.money) (by rw [heq]; exact fun _ htx => htx)
      (fun _ _ hk => hk)
  · obtain ⟨hevent, hliability⟩ := Op.posts_of_creditOp hop hposts node
    have hmoney := h.money.record hevent hliability
    refine h.grow hreplay hwritten (by rw [heq]; exact hmoney) ?_ (fun _ _ hk => hk)
    rw [heq, show (s.ledger.journal.recordTransaction tx).2 = (s.ledger.recorded tx).journal from rfl]
    simp

theorem Inv.next (h : s.Inv node) {step : ProviderStep R}
    (hok : s.Steady node step) : (s.next node step).Inv node := by
  cases step with
  | begin_ call env provider currency =>
    simp only [ProviderSettlements.next]
    split
    · split
      · exact h
      · rename_i record hbegin
        exact h.withCall call (beginRun_ok hbegin)
    · exact h
  | advance call env outcome => exact h.advance call env outcome hok
  | credit env op hop => exact h.credit env hop
  | crash env =>
    have hrestart : s.ledger.restart env = .ok { s.ledger with
        holds := Ledger.loadHolds env.time (s.ledger.holdsFile.getD [])
        ownerHolds := empty } := by
      rw [Ledger.restart, Journal.open_of_isWritten h.written h.replay]
    simp only [ProviderSettlements.next, hrestart]
    exact ⟨h.replay, h.written, h.money, h.rows, fun _ => trivial⟩

theorem inv_start (cls : LedgerClass) (networkFeeBps : ℤ) (wallet : String) :
    (start cls networkFeeBps wallet).Inv node := by
  refine ⟨Journal.isReplay_empty _, rfl, ⟨le_refl 0, ?_, ?_, le_refl 0, le_refl 0⟩, ?_, fun _ => trivial⟩
  · intro k t hk
    cases hk
  · intro x hx
    cases hx
  · intro id row hrow
    cases hrow

/-- A job that credits the provider `node` with the minimum payout of 25 dollars. -/
def payingJob (jobId : String) : JobCall ℚ :=
  { jobId := jobId, customerAccountId := "alice", providerShares := [("node", 1)]
    modelId := "qwen/qwen2.5-7b-instruct", promptTokens := 0, completionTokens := 100000000
    networkFeeBps := some 0 }

/-- The provider, with a connected account that can be paid. -/
def payableProvider : Option ProviderAccount := some ⟨"acct_1", true⟩

def fundingSteps : List (ProviderStep ℚ) :=
  [.credit (Env.atTime 0) (.depositCustomerCredits "alice" 100000000 "p1") rfl,
   .credit (Env.atTime 0) (.recordJobExecution (payingJob "j1")) rfl]

/-- A call that begins and gets as far as the transfer. -/
def transferSteps (call : ℕ) : List (ProviderStep ℚ) :=
  [.begin_ call (Env.atTime 1) payableProvider "", .advance call (Env.atTime 1) (.failed ""),
   .advance call (Env.atTime 1) (.success "tr_1")]

end ProviderSettlements

end ComputeMesh.Billing
