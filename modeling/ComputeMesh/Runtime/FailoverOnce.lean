import ComputeMesh.Runtime.FailoverMesh

/-!
# What a failover leaves behind

Every handshake ends, and every failed route leaves the choice, so that the loops over the routes end as well.  A
reply to a job has neither a length limit nor a deadline for all of it, an answer that reports neither `success` nor
`duplicate` marks its job as processed without a MAC, and a replacement route is recorded as unauthenticated however
its handshake went; `MeshOp.Proper` names the calls in which the peers make use of none of these.

* `receiveHandshake_settles`, `receiveReply_settles` — the receive loops;
* `probe_spec`, `failoverLoop_spec`, `workLoop_spec` — what a probe, a failover and a job settle with;
* `Sound.run` — one call;
* `failover_ends_and_keeps_records` — **every run of proper calls ends, and its records are true.**
-/

namespace ComputeMesh.Runtime

open ComputeMesh.Sha256 List Option EndToEndLatencyOptimizer

variable {F : Type} {lib : MeshLibrary F}

/-! ### Receiving -/

/-- A handshake is read to its end: a chunk is never empty, and no more than 4096 bytes are kept. -/
theorem receiveHandshake_settles (a : HandshakeAttempt) (i : ℕ) (data : List UInt8) (hdata : data.length ≤ 4096) :
    ∃ r, Settles (fun fuel => receiveHandshake a fuel i data) r := by
  have hrule := settles_of_measure (fun fuel (s : ℕ × List UInt8) => receiveHandshake a fuel s.1 s.2)
    (fun _ _ => True) (fun s => s.2.length ≤ 4096) (fun s => 4096 - s.2.length) ?_ (i, data) hdata
  · exact hrule.imp fun r hr => hr.1
  · rintro ⟨i, data⟩ hs
    simp only [receiveHandshake]
    cases a.late i with
    | true => exact .inl ⟨_, settles_some _, trivial⟩
    | false =>
      cases a.reply i with
      | failed e | closed => exact .inl ⟨_, settles_some _, trivial⟩
      | bytes first rest =>
        have hgrows : data.length < (data ++ (first :: rest).take (min 1024 (4096 - data.length + 1))).length := by
          simp only [length_append, length_take, length_cons]
          omega
        dsimp only
        by_cases hlong : 4096 < (data ++ (first :: rest).take (min 1024 (4096 - data.length + 1))).length
        · simp only [if_pos hlong]
          exact .inl ⟨_, settles_some _, trivial⟩
        · by_cases hline : newline ∈ data ++ (first :: rest).take (min 1024 (4096 - data.length + 1))
          · simp only [if_neg hlong, if_pos hline]
            exact .inl ⟨_, settles_some _, trivial⟩
          · simp only [if_neg hlong, if_neg hline]
            refine .inr ⟨(i + 1, _), not_lt.mp hlong, ?_, fun _ => id, fun r hr => hr⟩
            dsimp only
            omega

/-- The chunk after which a reply is read no further. -/
def Recv.Last : Recv → Prop
  | .bytes first rest => newline ∈ (first :: rest).take 1024
  | .closed | .failed _ => True

instance : ∀ r : Recv, Decidable r.Last
  | .bytes _ _ => inferInstanceAs (Decidable (_ ∈ _))
  | .closed | .failed _ => inferInstanceAs (Decidable True)

theorem receiveReply_settles {reply : ℕ → Recv} {last : ℕ} (hlast : (reply last).Last) {i : ℕ} (hi : i ≤ last)
    (data : List UInt8) : ∃ r, Settles (fun fuel => receiveReply reply fuel i data) r := by
  have hrule := settles_of_measure (fun fuel (s : ℕ × List UInt8) => receiveReply reply fuel s.1 s.2)
    (fun _ _ => True) (fun s => s.1 ≤ last) (fun s => last - s.1) ?_ (i, data) hi
  · exact hrule.imp fun r hr => hr.1
  · rintro ⟨i, data⟩ hs
    simp only [receiveReply]
    cases hreply : reply i with
    | failed e | closed => exact .inl ⟨_, settles_some _, trivial⟩
    | bytes first rest =>
      by_cases hline : newline ∈ data ++ (first :: rest).take 1024
      · simp only [if_pos hline]
        exact .inl ⟨_, settles_some _, trivial⟩
      · have hlt : i < last := by
          refine lt_of_le_of_ne hs fun heq => hline ?_
          rw [← show i = last from heq, hreply] at hlast
          exact mem_append_right _ hlast
        simp only [if_neg hline]
        refine .inr ⟨(i + 1, _), hlt, ?_, fun _ => id, fun r hr => hr⟩
        dsimp only
        omega

/-! ### Valid MACs -/

/-- An acknowledgement that answers the request and carries the valid MAC of the secret. -/
def authenticates (secret : Option String) (targetNodeId : String) (a : HandshakeAttempt) : Json → Bool
  | .obj fields =>
    match secret with
    | none => false
    | some key =>
      fieldIs fields "type" "ACK" && fieldIs fields "session_id" a.sessionId &&
      fieldIs fields "request_id" a.requestId && fieldIs fields "target_node_id" targetNodeId &&
      fieldIs fields "auth_mac" (ackMac key targetNodeId a)
  | _ => false

/-- A result that carries the valid MAC of the secret for its job and its status. -/
def carriesResultMac (lib : MeshLibrary F) (key jobId : String) : Json → Bool
  | .obj fields =>
    fieldIs fields "result_mac" (resultMac lib key jobId ((Dict.find "status" fields).getD .null))
  | _ => false

theorem compareDigest_eq_true {value : Json} {expected : String} (h : compareDigest value expected = .ok true) :
    value = .str expected := by
  unfold compareDigest at h
  split at h
  · next text =>
    split at h
    · exact congrArg Json.str (of_decide_eq_true (Except.ok.inj h))
    · cases h
  · cases h

variable {fields : List (String × Json)}

theorem fieldIs_iff {key expected : String} :
    fieldIs fields key expected = true ↔ Dict.find key fields = some (.str expected) := by
  unfold fieldIs
  split
  · next text hfind => simp [hfind]
  · next hother =>
    constructor
    · exact nofun
    · exact fun h => absurd h (hother expected)

theorem compareDigest_field {key expected : String} {same : Bool}
    (h : compareDigest ((Dict.find key fields).getD .null) expected = .ok same) :
    same = fieldIs fields key expected := by
  cases same with
  | true =>
    refine (fieldIs_iff.mpr ?_).symm
    have hvalue := compareDigest_eq_true h
    cases hfind : Dict.find key fields with
    | none =>
      rw [hfind] at hvalue
      cases hvalue
    | some value =>
      rw [hfind] at hvalue
      exact congrArg some hvalue
  | false =>
    refine (Bool.eq_false_iff.mpr fun hfield => ?_).symm
    rw [fieldIs_iff.mp hfield, getD_some] at h
    unfold compareDigest at h
    dsimp only at h
    split at h
    · exact absurd (of_decide_eq_false (Except.ok.inj h)) (not_not.mpr rfl)
    · cases h

theorem not_fieldIs_of_not_truthy {key expected : String} (hne : expected ≠ "")
    (h : ((Dict.find key fields).getD .null).truthy = false) : fieldIs fields key expected = false := by
  refine Bool.eq_false_iff.mpr fun hfield => ?_
  rw [fieldIs_iff.mp hfield, getD_some] at h
  exact absurd h (by simp [Json.truthy, hne])

variable {answer : Json}

/-- **The checks of an acknowledgement.**  An accepted one is taken as authenticated exactly if it is. -/
theorem checkAck_spec {f : AutonomousFailoverMeshFabric F} {targetNodeId : String} {a : HandshakeAttempt}
    {authenticated : Bool} (h : checkAck f targetNodeId a answer = .ok (true, authenticated)) :
    authenticated = authenticates f.secret targetNodeId a answer := by
  unfold checkAck at h
  split at h
  · next fields =>
    split at h
    · cases h
    · next hids =>
      simp only [Bool.or_eq_true, Bool.not_eq_true', not_or, Bool.not_eq_false] at hids
      obtain ⟨⟨⟨htype, hsession⟩, hrequest⟩, htarget⟩ := hids
      simp only [authenticates, htype, hsession, hrequest, htarget, Bool.true_and]
      cases hsecret : f.secret with
      | none =>
        rw [hsecret] at h
        dsimp only at h
        split at h
        · cases h
        · cases h
          rfl
      | some key =>
        rw [hsecret] at h
        dsimp only at h ⊢
        cases htruthy : ((Dict.find "auth_mac" fields).getD .null).truthy with
        | false =>
          rw [htruthy] at h
          rw [not_fieldIs_of_not_truthy (show ackMac key targetNodeId a ≠ "" from hmacHex_ne_empty _ _) htruthy]
          split at h
          · cases h
          · cases h
            rfl
        | true =>
          rw [htruthy] at h
          cases hcompare : compareDigest ((Dict.find "auth_mac" fields).getD .null) (ackMac key targetNodeId a) with
          | error e =>
            rw [hcompare] at h
            split at h <;> cases h
          | ok same =>
            rw [hcompare] at h
            rw [← compareDigest_field hcompare]
            split at h
            · cases h
              rfl
            · cases h
              rfl
  · cases h

/-! ### Probing a route -/

/-- What is read of the answer to a handshake, if the handshake gets so far. -/
def HandshakeAttempt.Answers (lib : MeshLibrary F) (a : HandshakeAttempt) (answer : Json) : Prop :=
  ∃ fuel data, receiveHandshake a fuel 0 [] = some (.ok (some data)) ∧ lib.loads data = .ok answer

/-- What a probe leaves: the exchange, and nothing else but the authentication. -/
structure Probed (lib : MeshLibrary F) (targetNodeId routeId : String) (a : HandshakeAttempt) (m : MeshState F)
    (r : Except MeshError Unit × MeshState F) : Prop where
  fabric : r.2.fabric = { m.fabric with lastHandshakeAuthenticated := r.2.fabric.lastHandshakeAuthenticated }
  accepted : r.1 = .ok () → ∃ answer, a.Answers lib answer ∧
    r.2.exchanges = .handshake targetNodeId routeId a (some answer) true :: m.exchanges ∧
    r.2.fabric.lastHandshakeAuthenticated = authenticates m.fabric.secret targetNodeId a answer
  failed : r.1 ≠ .ok () → ∃ answer, r.2.exchanges = .handshake targetNodeId routeId a answer false :: m.exchanges

variable (lib) in
theorem performHandshake_spec (f : AutonomousFailoverMeshFabric F) (targetNodeId : String) (a : HandshakeAttempt) :
    ∃ ended, Settles (performHandshake lib f targetNodeId a) ended ∧
      (ended.result = .ok true → ∃ answer, ended.answer = some answer ∧ a.Answers lib answer ∧
        ended.authenticated = authenticates f.secret targetNodeId a answer) := by
  unfold performHandshake
  cases a.sendall with
  | error e => exact ⟨_, settles_some _, nofun⟩
  | ok u =>
    obtain ⟨received, hreceived⟩ := receiveHandshake_settles a 0 [] (Nat.zero_le _)
    have hread : ∃ fuel, receiveHandshake a fuel 0 [] = some received :=
      hreceived.imp fun fuel h => h fuel le_rfl
    refine ⟨endHandshake lib f targetNodeId a received, hreceived.bind (settles_some _), fun hresult => ?_⟩
    unfold endHandshake at hresult ⊢
    split at hresult
    · cases hresult
    · cases hresult
    · next data =>
      split at hresult
      · cases hresult
      · cases hresult
      · next answer hloads =>
        split at hresult
        · cases hresult
        · next accepted authenticated hcheck =>
          obtain rfl : accepted = true := Except.ok.inj hresult
          obtain ⟨fuel, hfuel⟩ := hread
          exact ⟨answer, rfl, ⟨fuel, data, hfuel, hloads⟩, checkAck_spec hcheck⟩

variable (lib) in
/-- **A probe ends**, with its exchange recorded. -/
theorem probe_spec (targetNodeId routeId : String) (a : HandshakeAttempt) (m : MeshState F) :
    ∃ r, Settles (fun fuel => probe lib targetNodeId routeId a fuel m) r ∧ Probed lib targetNodeId routeId a m r := by
  unfold probe
  cases a.connect with
  | error e => exact ⟨_, settles_some _, rfl, nofun, fun _ => ⟨none, rfl⟩⟩
  | ok u =>
    obtain ⟨ended, hended, hspec⟩ := performHandshake_spec lib m.fabric targetNodeId a
    refine ⟨afterHandshake targetNodeId routeId a m ended, hended.bind (settles_some _), ?_⟩
    unfold afterHandshake
    cases hresult : ended.result with
    | error e => exact ⟨rfl, nofun, fun _ => ⟨ended.answer, rfl⟩⟩
    | ok accepted =>
      cases accepted with
      | false => exact ⟨rfl, nofun, fun _ => ⟨ended.answer, rfl⟩⟩
      | true =>
        obtain ⟨answer, hanswer, hreads, hauth⟩ := hspec hresult
        exact ⟨rfl, fun _ => ⟨answer, hreads, by rw [← hanswer]; rfl, hauth⟩, fun h => absurd rfl h⟩

/-! ### Routes that leave the choice -/

/-- Whether a route is active and leads to a target. -/
def MeshRoute.LeadsTo (route : MeshRoute F) (targetNodeId : String) : Prop :=
  route.targetNodeId = targetNodeId ∧ route.isActive = true

instance (route : MeshRoute F) (targetNodeId : String) : Decidable (route.LeadsTo targetNodeId) :=
  inferInstanceAs (Decidable (_ ∧ _))

namespace EndToEndLatencyOptimizer

variable {o : EndToEndLatencyOptimizer F} {targetNodeId routeId : String}

def activeRoutes (o : EndToEndLatencyOptimizer F) (targetNodeId : String) : ℤ :=
  o.routes.sumBy fun route => if route.LeadsTo targetNodeId then 1 else 0

variable (o targetNodeId) in
theorem activeRoutes_nonneg : 0 ≤ o.activeRoutes targetNodeId :=
  Dict.sumBy_nonneg fun route _ => by split <;> omega

/-- A change of a route that makes none active does not raise the number. -/
theorem activeRoutes_update_le {change : MeshRoute F → MeshRoute F}
    (hchange : ∀ route, (change route).LeadsTo targetNodeId → route.LeadsTo targetNodeId) :
    (o.update routeId change).activeRoutes targetNodeId ≤ o.activeRoutes targetNodeId := by
  unfold update
  cases hroute : o.routes.get? routeId with
  | none => exact le_rfl
  | some route =>
    unfold activeRoutes
    dsimp only
    rw [Dict.sumBy_set, hroute]
    have hkeep := hchange route
    simp only [map_some, getD_some]
    split
    · next hafter =>
      rw [if_pos (hkeep hafter)]
      omega
    · split <;> omega

variable {route : MeshRoute F}

theorem active_of_optimal (h : o.getOptimalRoute lib targetNodeId = some (routeId, route)) :
    o.routes.get? routeId = some route ∧ route.LeadsTo targetNodeId := by
  have hmem := mem_of_mem_head? (mem_def.mpr h)
  rw [mem_insertionSort] at hmem
  obtain ⟨hentry, hcandidate⟩ := mem_filter.mp hmem
  simp only [Bool.and_eq_true, decide_eq_true_eq] at hcandidate
  exact ⟨(Dict.mem_entries_iff _ _ _).mp hentry, hcandidate.1.1, hcandidate.1.2⟩

variable (lib) in
/-- **Deactivating an active route lowers the number.** -/
theorem activeRoutes_deactivate_lt (hroute : o.routes.get? routeId = some route)
    (hleads : route.LeadsTo targetNodeId) :
    (o.deactivate lib routeId).activeRoutes targetNodeId < o.activeRoutes targetNodeId := by
  unfold deactivate update activeRoutes
  rw [hroute]
  dsimp only
  rw [Dict.sumBy_set, hroute]
  simp only [map_some, getD_some]
  have hinactive : ¬ MeshRoute.LeadsTo { route with isActive := false, errorRate := lib.one } targetNodeId :=
    fun h => (nomatch h.2)
  rw [if_pos hleads, if_neg hinactive]
  omega

theorem activeRoutes_deactivate_le :
    (o.deactivate lib routeId).activeRoutes targetNodeId ≤ o.activeRoutes targetNodeId := by
  refine activeRoutes_update_le fun route h => ?_
  cases h.2

variable (lib o targetNodeId) in
theorem activeRoutes_updateRouteMetrics_le (routeId : String) (latencyMs errorRate : F) :
    (o.updateRouteMetrics lib routeId latencyMs errorRate).activeRoutes targetNodeId ≤ o.activeRoutes targetNodeId :=
  activeRoutes_update_le fun _ h => h

variable (lib) in
theorem get?_updateRouteMetrics (latencyMs errorRate : F)
    (hroute : o.routes.get? routeId = some route) (hleads : route.LeadsTo targetNodeId) :
    ∃ route', (o.updateRouteMetrics lib routeId latencyMs errorRate).routes.get? routeId = some route' ∧
      route'.LeadsTo targetNodeId := by
  unfold updateRouteMetrics update
  rw [hroute]
  exact ⟨_, Dict.get?_set_self _ _ _, hleads⟩

end EndToEndLatencyOptimizer

/-! ### True records -/

/-- The last accepted handshake with a target: its route, and whether it carried a valid MAC. -/
def lastHandshake (secret : Option String) (targetNodeId : String) : List MeshExchange → Option (String × Bool)
  | [] => none
  | .handshake target routeId a (some answer) true :: earlier =>
    if target = targetNodeId then some (routeId, authenticates secret target a answer)
    else lastHandshake secret targetNodeId earlier
  | _ :: earlier => lastHandshake secret targetNodeId earlier

/-- What the records of a fabric say is what went over the network. -/
structure MeshState.Sound (lib : MeshLibrary F) (m : MeshState F) : Prop where
  connections : ∀ target tag, m.fabric.activeConnections.get? target = some tag →
    ∃ routeId mac, lastHandshake m.fabric.secret target m.exchanges = some (routeId, mac) ∧
      tag = routeId ++ statusTag mac
  processed : ∀ job ∈ m.fabric.processedJobs, ∀ key, m.fabric.secret = some key →
    ∃ routeId request answer, MeshExchange.job job routeId request (some answer) ∈ m.exchanges ∧
      carriesResultMac lib key job answer = true

/-- What every call keeps of a mesh. -/
structure MeshState.Kept (m m' : MeshState F) : Prop where
  secret : m'.fabric.authSecret = m.fabric.authSecret
  processed : ∀ job ∈ m.fabric.processedJobs, job ∈ m'.fabric.processedJobs
  exchanges : m.exchanges.length ≤ m'.exchanges.length

theorem MeshState.Kept.refl (m : MeshState F) : m.Kept m := ⟨rfl, fun _ h => h, le_rfl⟩

theorem MeshState.Kept.trans {m m' m'' : MeshState F} (h : m.Kept m') (h' : m'.Kept m'') : m.Kept m'' :=
  ⟨h'.secret.trans h.secret, fun job hjob => h'.processed job (h.processed job hjob), h.exchanges.trans h'.exchanges⟩

theorem MeshState.Kept.secret_eq {m m' : MeshState F} (h : m.Kept m') : m'.fabric.secret = m.fabric.secret := by
  unfold AutonomousFailoverMeshFabric.secret
  rw [h.secret]

namespace MeshState.Sound

variable {m : MeshState F} {targetNodeId routeId : String}

theorem mapRoutes (h : m.Sound lib) (change : EndToEndLatencyOptimizer F → EndToEndLatencyOptimizer F) :
    (m.mapRoutes change).Sound lib := ⟨h.connections, h.processed⟩

theorem dropActive (h : m.Sound lib) (target : String) : (m.dropActive target).Sound lib := by
  refine ⟨fun target' tag hget => ?_, h.processed⟩
  rw [show (m.dropActive target).fabric.activeConnections = m.fabric.activeConnections.erase target from rfl,
    Dict.get?_erase] at hget
  split at hget
  · cases hget
  · exact h.connections target' tag hget

theorem failed {a : HandshakeAttempt} {r : Except MeshError Unit × MeshState F} (h : m.Sound lib)
    (hprobed : Probed lib targetNodeId routeId a m r) (hfailed : r.1 ≠ .ok ()) : r.2.Sound lib := by
  obtain ⟨answer, hexchanges⟩ := hprobed.failed hfailed
  have hsecret : r.2.fabric.secret = m.fabric.secret := by rw [hprobed.fabric]; rfl
  constructor
  · intro target tag hget
    rw [hprobed.fabric] at hget
    obtain ⟨route, mac, hlast, htag⟩ := h.connections target tag hget
    refine ⟨route, mac, ?_, htag⟩
    rw [hexchanges, hsecret, ← hlast]
    cases answer <;> rfl
  · intro job hjob key hkey
    rw [hprobed.fabric] at hjob
    obtain ⟨route, request, answer', hmem, hmac⟩ := h.processed job hjob key (hsecret ▸ hkey)
    exact ⟨route, request, answer', hexchanges ▸ mem_cons_of_mem _ hmem, hmac⟩

/-- **A recorded connection.**  After an accepted probe the target is recorded under its route and the tag of its
handshake. -/
theorem connected {a : HandshakeAttempt} {r : MeshState F} (h : m.Sound lib)
    (hfabric : r.fabric = { m.fabric with lastHandshakeAuthenticated := r.fabric.lastHandshakeAuthenticated })
    (hexchanges : r.exchanges = .handshake targetNodeId routeId a (some answer) true :: m.exchanges) :
    (r.setActive targetNodeId
      (routeId ++ statusTag (authenticates m.fabric.secret targetNodeId a answer))).Sound lib := by
  have hsecret : r.fabric.secret = m.fabric.secret := by rw [hfabric]; rfl
  constructor
  · intro target tag hget
    rw [show (r.setActive targetNodeId (routeId ++ statusTag (authenticates m.fabric.secret targetNodeId a
        answer))).exchanges = r.exchanges from rfl, hexchanges,
      show (r.setActive targetNodeId (routeId ++ statusTag (authenticates m.fabric.secret targetNodeId a
        answer))).fabric.secret = r.fabric.secret from rfl, hsecret]
    simp only [MeshState.setActive, Dict.get?_set] at hget
    unfold lastHandshake
    by_cases htarget : target = targetNodeId
    · rw [if_pos htarget] at hget
      exact ⟨routeId, _, if_pos htarget.symm, (some.inj hget).symm⟩
    · rw [if_neg htarget, hfabric] at hget
      obtain ⟨route, mac, hlast, htag⟩ := h.connections target tag hget
      exact ⟨route, mac, (if_neg fun heq => htarget heq.symm).trans hlast, htag⟩
  · intro job hjob key hkey
    have hjob' : job ∈ m.fabric.processedJobs := by
      have hjob := (show job ∈ r.fabric.processedJobs from hjob)
      rwa [hfabric] at hjob
    obtain ⟨route, request, answer', hmem, hmac⟩ :=
      h.processed job hjob' key (hsecret ▸ (show r.fabric.secret = some key from hkey))
    exact ⟨route, request, answer', mem_of_mem_tail (by
      rw [show (r.setActive targetNodeId _).exchanges = r.exchanges from rfl, hexchanges]
      exact hmem), hmac⟩

theorem record_job (h : m.Sound lib) (jobId : String) (request : List (String × Json)) (answer : Option Json) :
    (m.record (.job jobId routeId request answer)).Sound lib := by
  constructor
  · intro target tag hget
    exact h.connections target tag hget
  · intro job hjob key hkey
    obtain ⟨route, request', answer', hmem, hmac⟩ := h.processed job hjob key hkey
    exact ⟨route, request', answer', mem_cons_of_mem _ hmem, hmac⟩

end MeshState.Sound

/-! ### Failing over -/

namespace Probed

variable {targetNodeId routeId : String} {a : HandshakeAttempt} {m : MeshState F}
  {r : Except MeshError Unit × MeshState F}

theorem optimizer (h : Probed lib targetNodeId routeId a m r) : r.2.fabric.optimizer = m.fabric.optimizer := by
  rw [h.fabric]

theorem exchanges_lt (h : Probed lib targetNodeId routeId a m r) : m.exchanges.length < r.2.exchanges.length := by
  by_cases hok : r.1 = .ok ()
  · obtain ⟨answer, -, hexchanges, -⟩ := h.accepted hok
    rw [hexchanges]
    exact Nat.lt_succ_self _
  · obtain ⟨answer, hexchanges⟩ := h.failed hok
    rw [hexchanges]
    exact Nat.lt_succ_self _

theorem kept (h : Probed lib targetNodeId routeId a m r) : m.Kept r.2 :=
  ⟨by rw [h.fabric], fun job hjob => by rw [h.fabric]; exact hjob, h.exchanges_lt.le⟩

end Probed

/-- No handshake with a replacement route carries a valid MAC. -/
def Peers.ReplacementsUnauthenticated (lib : MeshLibrary F) (peers : Peers) (secret : Option String)
    (targetNodeId : String) : Prop :=
  ∀ n answer, (peers.replacement n).Answers lib answer →
    authenticates secret targetNodeId (peers.replacement n) answer = false

/-- What a failover settles with. -/
structure FailedOver (lib : MeshLibrary F) (targetNodeId : String) (m m' : MeshState F) : Prop where
  sound : m'.Sound lib
  kept : m.Kept m'
  routes : m'.fabric.optimizer.activeRoutes targetNodeId ≤ m.fabric.optimizer.activeRoutes targetNodeId

variable {peers : Peers} {secret : Option String}

section

variable {targetNodeId : String} (hpeers : peers.ReplacementsUnauthenticated lib secret targetNodeId)
include hpeers

/-- **The failover loop ends**, since every failed replacement leaves the choice. -/
theorem failoverLoop_spec (n : ℕ) {m : MeshState F} (hsound : m.Sound lib) (hsecret : m.fabric.secret = secret) :
    ∃ r, Settles (fun fuel => failoverLoop lib peers targetNodeId fuel n m) r ∧
      FailedOver lib targetNodeId m r.2.1 := by
  refine settles_of_measure (fun fuel (s : ℕ × MeshState F) => failoverLoop lib peers targetNodeId fuel s.1 s.2)
    (fun s r => FailedOver lib targetNodeId s.2 r.2.1)
    (fun s => s.2.Sound lib ∧ s.2.fabric.secret = secret)
    (fun s => (s.2.fabric.optimizer.activeRoutes targetNodeId).toNat) ?_ (n, m) ⟨hsound, hsecret⟩
  rintro ⟨n, m⟩ ⟨hsound, hsecret⟩
  dsimp only at hsound hsecret ⊢
  simp only [failoverLoop]
  cases hopt : m.fabric.optimizer.getOptimalRoute lib targetNodeId with
  | none =>
    exact .inl ⟨_, settles_some _, hsound.dropActive _, ⟨rfl, fun _ h => h, le_rfl⟩, le_rfl⟩
  | some chosen =>
    obtain ⟨routeId, route⟩ := chosen
    obtain ⟨⟨result, m'⟩, hsettles, hprobed⟩ :=
      probe_spec lib targetNodeId routeId (peers.replacement n) m
    cases result with
    | ok u =>
      obtain ⟨answer, hreads, hexchanges, -⟩ := hprobed.accepted rfl
      have hconnected := hsound.connected hprobed.fabric hexchanges
      rw [hsecret, hpeers n answer hreads] at hconnected
      refine .inl ⟨_, hsettles.bind (settles_some _), hconnected, ?_, ?_⟩
      · exact ⟨hprobed.kept.secret, hprobed.kept.processed, hprobed.kept.exchanges⟩
      · exact le_of_eq (congrArg (·.activeRoutes targetNodeId) hprobed.optimizer)
    | error e =>
      have hfailed : m'.Sound lib := hsound.failed hprobed nofun
      cases e with
      | other name =>
        exact .inl ⟨_, hsettles.bind (settles_some _), hfailed, hprobed.kept,
          le_of_eq (congrArg (·.activeRoutes targetNodeId) hprobed.optimizer)⟩
      | os message =>
        have hlt : ((m'.mapRoutes (·.deactivate lib routeId)).fabric.optimizer).activeRoutes targetNodeId
            < m.fabric.optimizer.activeRoutes targetNodeId := by
          obtain ⟨hroute, hleads⟩ := active_of_optimal hopt
          show (m'.fabric.optimizer.deactivate lib routeId).activeRoutes targetNodeId < _
          rw [hprobed.optimizer]
          exact activeRoutes_deactivate_lt lib hroute hleads
        refine .inr ⟨(n + 1, m'.mapRoutes (·.deactivate lib routeId)),
          ⟨hfailed.mapRoutes (·.deactivate lib routeId), ?_⟩, ?_, ?_,
          fun r hr => hsettles.bind hr⟩
        · exact hprobed.kept.secret_eq.trans hsecret
        · have hnonneg := activeRoutes_nonneg
            (m'.mapRoutes (·.deactivate lib routeId)).fabric.optimizer targetNodeId
          dsimp only
          omega
        · intro r hr
          exact ⟨hr.sound, hprobed.kept.trans ⟨hr.kept.secret, hr.kept.processed, hr.kept.exchanges⟩,
            hr.routes.trans hlt.le⟩

/-- **A handled failure**: it ends, and takes the failed route out of the choice. -/
theorem handleConnectionFailure_spec (failedRouteId : String) (n : ℕ)
    {m : MeshState F} (hsound : m.Sound lib) (hsecret : m.fabric.secret = secret) :
    ∃ r, Settles (fun fuel => handleConnectionFailure lib peers targetNodeId failedRouteId n fuel m) r ∧
      FailedOver lib targetNodeId m r.2.1 ∧
      r.2.1.fabric.optimizer.activeRoutes targetNodeId
        ≤ (m.fabric.optimizer.deactivate lib failedRouteId).activeRoutes targetNodeId := by
  obtain ⟨r, hsettles, hfailed⟩ :=
    failoverLoop_spec hpeers n (hsound.mapRoutes (·.deactivate lib failedRouteId)) hsecret
  exact ⟨r, hsettles, ⟨hfailed.sound, ⟨hfailed.kept.secret, hfailed.kept.processed, hfailed.kept.exchanges⟩,
    hfailed.routes.trans activeRoutes_deactivate_le⟩, hfailed.routes⟩

/-- **Connecting to a node ends.** -/
theorem connectToNode_spec {m : MeshState F} (hsound : m.Sound lib) (hsecret : m.fabric.secret = secret) :
    ∃ r, Settles (fun fuel => connectToNode lib peers targetNodeId fuel m) r ∧ r.2.1.Sound lib ∧ m.Kept r.2.1 ∧
      (m.fabric.optimizer.getOptimalRoute lib targetNodeId ≠ none → m.exchanges.length < r.2.1.exchanges.length) := by
  unfold connectToNode
  cases hopt : m.fabric.optimizer.getOptimalRoute lib targetNodeId with
  | none => exact ⟨_, settles_some _, hsound, .refl m, fun h => absurd rfl h⟩
  | some chosen =>
    obtain ⟨routeId, route⟩ := chosen
    obtain ⟨⟨result, m'⟩, hsettles, hprobed⟩ := probe_spec lib targetNodeId routeId peers.primary m
    cases result with
    | ok u =>
      obtain ⟨answer, hreads, hexchanges, hauth⟩ := hprobed.accepted rfl
      have hconnected := hsound.connected hprobed.fabric hexchanges
      rw [← hauth] at hconnected
      exact ⟨_, hsettles.bind (settles_some _), hconnected,
        ⟨hprobed.kept.secret, hprobed.kept.processed, hprobed.kept.exchanges⟩, fun _ => hprobed.exchanges_lt⟩
    | error e =>
      have hfailed : m'.Sound lib := hsound.failed hprobed nofun
      cases e with
      | other name =>
        exact ⟨_, hsettles.bind (settles_some _), hfailed, hprobed.kept, fun _ => hprobed.exchanges_lt⟩
      | os message =>
        obtain ⟨r, hrest, hover, -⟩ := handleConnectionFailure_spec hpeers routeId 0
          (hfailed.mapRoutes (·.updateRouteMetrics lib routeId route.latencyMs lib.one))
          (hprobed.kept.secret_eq.trans hsecret)
        exact ⟨r, hsettles.bind hrest, hover.sound,
          hprobed.kept.trans ⟨hover.kept.secret, hover.kept.processed, hover.kept.exchanges⟩,
          fun _ => hprobed.exchanges_lt.trans_le hover.kept.exchanges⟩

end

/-! ### Work -/

/-- What is read of the answer to a job, if the job gets so far. -/
def JobAttempt.Answers (lib : MeshLibrary F) (a : JobAttempt) (answer : Json) : Prop :=
  ∃ fuel data, receiveReply a.reply fuel 0 [] = some (.ok data) ∧ lib.loads data = .ok answer

/-- A job whose reply comes to its end, unless the connection fails. -/
def JobAttempt.Ends (a : JobAttempt) : Prop := a.connect = .ok () → ∃ last, (a.reply last).Last

/-- A peer's answers to a job come to their end, and one that reports neither `success` nor `duplicate` carries the
MAC of its status. -/
def Peers.ProvesResults (lib : MeshLibrary F) (peers : Peers) (secret : Option String) (jobId : String) : Prop :=
  ∀ n, (peers.job n).Ends ∧ ∀ key, secret = some key → ∀ fields, (peers.job n).Answers lib (.obj fields) →
    fieldIs fields "status" "success" = true ∨ fieldIs fields "status" "duplicate" = true ∨
      carriesResultMac lib key jobId (.obj fields) = true

variable (lib) in
theorem sendJob_spec {a : JobAttempt} (hends : a.Ends) :
    ∃ sent, Settles (sendJob lib a) sent ∧ ∀ answer, sent = .ok answer → a.Answers lib answer := by
  unfold sendJob
  cases hconnect : a.connect with
  | error e => exact ⟨_, settles_some _, nofun⟩
  | ok u =>
    obtain ⟨last, hlast⟩ := hends hconnect
    obtain ⟨received, hreceived⟩ := receiveReply_settles hlast (Nat.zero_le _) []
    obtain ⟨fuel, hfuel⟩ : ∃ fuel, receiveReply a.reply fuel 0 [] = some received :=
      hreceived.imp fun fuel h => h fuel le_rfl
    cases received with
    | error e => exact ⟨_, hreceived.bind (settles_some _), nofun⟩
    | ok data =>
      cases data with
      | nil => exact ⟨_, hreceived.bind (settles_some _), nofun⟩
      | cons first rest =>
        cases hloads : lib.loads (first :: rest) with
        | error e =>
          exact ⟨.error (.other "ValueError"), hreceived.bind (by simp only [hloads]; exact settles_some _), nofun⟩
        | ok value =>
          refine ⟨.ok value, hreceived.bind (by simp only [hloads]; exact settles_some _), ?_⟩
          rintro answer ⟨⟩
          exact ⟨fuel, _, hfuel, hloads⟩

/-- **A finished job**: it is processed only on an answer with a valid MAC. -/
theorem finishJob_sound {m : MeshState F} {jobId routeId : String} {request : List (String × Json)}
    (hsound : m.Sound lib) (hmem : MeshExchange.job jobId routeId request (some answer) ∈ m.exchanges)
    (hproves : ∀ key, m.fabric.secret = some key → ∀ fields, answer = .obj fields →
      fieldIs fields "status" "success" = true ∨ fieldIs fields "status" "duplicate" = true ∨
        carriesResultMac lib key jobId answer = true) :
    (finishJob lib jobId answer m).2.Sound lib ∧ m.Kept (finishJob lib jobId answer m).2 := by
  have hadd : (∀ key, m.fabric.secret = some key → carriesResultMac lib key jobId answer = true) →
      (m.addProcessed jobId).Sound lib ∧ m.Kept (m.addProcessed jobId) := by
    refine fun hmac => ⟨⟨hsound.connections, fun job hjob key hkey => ?_⟩,
      rfl, fun job hjob => mem_cons_of_mem _ hjob, le_rfl⟩
    rcases mem_cons.mp hjob with rfl | hjob
    · exact ⟨routeId, request, answer, hmem, hmac key hkey⟩
    · exact hsound.processed job hjob key hkey
  unfold finishJob
  cases hsecret : m.fabric.secret with
  | none => exact hadd fun key hkey => nomatch hsecret.symm.trans hkey
  | some key =>
    cases answer with
    | obj fields =>
      dsimp only
      split
      · split
        · exact ⟨hsound, .refl m⟩
        · exact ⟨hsound, .refl m⟩
        · next hcompare =>
          refine hadd fun key' hkey' => ?_
          obtain rfl : key = key' := some.inj (hsecret.symm.trans hkey')
          refine fieldIs_iff.mpr ?_
          have hvalue := compareDigest_eq_true hcompare
          cases hfind : Dict.find "result_mac" fields with
          | some value =>
            rw [hfind] at hvalue
            exact congrArg some hvalue
          | none =>
            rw [hfind] at hvalue
            exact absurd (Json.str.inj hvalue).symm (hmacHex_ne_empty _ _)
      · next hstatus =>
        simp only [Bool.or_eq_true, not_or] at hstatus
        refine hadd fun key' hkey' => ?_
        rcases hproves key' hkey' fields rfl with h | h | h
        · exact absurd h hstatus.1
        · exact absurd h hstatus.2
        · exact h
    | null | bool _ | int _ | float _ _ | str _ | arr _ => exact ⟨hsound, .refl m⟩

/-- What a job settles with; it is sent at least once if there is a route. -/
structure Worked (lib : MeshLibrary F) (targetNodeId : String) (m m' : MeshState F) : Prop where
  sound : m'.Sound lib
  kept : m.Kept m'
  attempted : m.fabric.optimizer.getOptimalRoute lib targetNodeId ≠ none → m.exchanges.length < m'.exchanges.length

section

variable {targetNodeId jobId : String} (payload : Json)
  (hpeers : peers.ReplacementsUnauthenticated lib secret targetNodeId)
  (hproves : peers.ProvesResults lib secret jobId)
include hpeers hproves

/-- **The loop of a job ends**, since every failed route leaves the choice. -/
theorem workLoop_spec (i n : ℕ) {m : MeshState F} (hsound : m.Sound lib) (hsecret : m.fabric.secret = secret) :
    ∃ r, Settles (fun fuel => workLoop lib peers targetNodeId jobId payload fuel i n m) r ∧
      Worked lib targetNodeId m r.2 := by
  refine settles_of_measure
    (fun fuel (s : (ℕ × ℕ) × MeshState F) =>
      workLoop lib peers targetNodeId jobId payload fuel s.1.1 s.1.2 s.2)
    (fun s r => Worked lib targetNodeId s.2 r.2)
    (fun s => s.2.Sound lib ∧ s.2.fabric.secret = secret)
    (fun s => (s.2.fabric.optimizer.activeRoutes targetNodeId).toNat) ?_ ((i, n), m) ⟨hsound, hsecret⟩
  rintro ⟨⟨i, n⟩, m⟩ ⟨hsound, hsecret⟩
  dsimp only at hsound hsecret ⊢
  simp only [workLoop]
  cases hopt : m.fabric.optimizer.getOptimalRoute lib targetNodeId with
  | none => exact .inl ⟨_, settles_some _, hsound, .refl m, fun h => absurd hopt h⟩
  | some chosen =>
    obtain ⟨routeId, route⟩ := chosen
    obtain ⟨sent, hsettles, hreads⟩ := sendJob_spec lib (hproves i).1
    -- the mesh once the job is recorded
    generalize hrecorded : m.record (.job jobId routeId (jobRequest m.fabric.secret jobId payload (peers.job i))
      sent.toOption) = recorded
    have hsound' : recorded.Sound lib := hrecorded ▸ hsound.record_job jobId _ _
    have hlonger : m.exchanges.length < recorded.exchanges.length := hrecorded ▸ Nat.lt_succ_self _
    have hkept : m.Kept recorded := hrecorded ▸ ⟨rfl, fun _ h => h, Nat.le_succ _⟩
    cases sent with
    | ok answer =>
      have hmem : MeshExchange.job jobId routeId (jobRequest m.fabric.secret jobId payload (peers.job i))
          (some answer) ∈ recorded.exchanges := hrecorded ▸ mem_cons_self
      obtain ⟨hfinished, hfinishedKept⟩ := finishJob_sound hsound' hmem fun key hkey fields hfields =>
        hfields ▸ (hproves i).2 key (hsecret ▸ hkept.secret_eq ▸ hkey) fields (hfields ▸ hreads answer rfl)
      refine .inl ⟨finishJob lib jobId answer recorded, hsettles.bind ?_, hfinished, hkept.trans hfinishedKept,
        fun _ => hlonger.trans_le hfinishedKept.exchanges⟩
      simp only [hrecorded]
      exact settles_some _
    | error e =>
      cases e with
      | other name =>
        refine .inl ⟨(.error (.other name), recorded), hsettles.bind ?_, hsound', hkept, fun _ => hlonger⟩
        simp only [hrecorded]
        exact settles_some _
      | os message =>
        obtain ⟨⟨result, m', n'⟩, hover, hfailed, hroutes⟩ := handleConnectionFailure_spec hpeers routeId n
          (hsound'.mapRoutes (·.updateRouteMetrics lib routeId route.latencyMs lib.one))
          (hkept.secret_eq.trans hsecret)
        have hkept' : m.Kept m' :=
          hkept.trans ⟨hfailed.kept.secret, hfailed.kept.processed, hfailed.kept.exchanges⟩
        have hlonger' : m.exchanges.length < m'.exchanges.length := hlonger.trans_le hfailed.kept.exchanges
        cases result with
        | error e =>
          refine .inl ⟨(.error e, m'), hsettles.bind ?_, hfailed.sound, hkept', fun _ => hlonger'⟩
          simp only [hrecorded]
          exact hover.bind (settles_some _)
        | ok connected =>
          cases connected with
          | false =>
            refine .inl ⟨(.ok (workError "failover_exhausted" jobId), m'), hsettles.bind ?_, hfailed.sound, hkept',
              fun _ => hlonger'⟩
            simp only [hrecorded]
            exact hover.bind (settles_some _)
          | true =>
            refine .inr ⟨((i + 1, n'), m'), ⟨hfailed.sound, hkept'.secret_eq.trans hsecret⟩, ?_, ?_, ?_⟩
            · -- the failed route was active when the job was sent on it
              obtain ⟨hroute, hleads⟩ := active_of_optimal hopt
              have hsame : recorded.fabric = m.fabric := hrecorded ▸ rfl
              obtain ⟨route', hroute', hleads'⟩ := get?_updateRouteMetrics lib
                route.latencyMs lib.one hroute hleads
              have hlt := activeRoutes_deactivate_lt lib hroute' hleads'
              have hle := activeRoutes_updateRouteMetrics_le lib
                m.fabric.optimizer targetNodeId routeId route.latencyMs lib.one
              have hnonneg := activeRoutes_nonneg m'.fabric.optimizer targetNodeId
              have hroutes : m'.fabric.optimizer.activeRoutes targetNodeId
                  ≤ ((m.fabric.optimizer.updateRouteMetrics lib routeId route.latencyMs lib.one).deactivate lib
                    routeId).activeRoutes targetNodeId := by
                rw [← hsame]
                exact hroutes
              dsimp only
              omega
            · intro r hr
              exact ⟨hr.sound, hkept'.trans hr.kept, fun _ => hlonger'.trans_le hr.kept.exchanges⟩
            · intro r hr
              refine hsettles.bind ?_
              simp only [hrecorded]
              exact hover.bind hr

/-- **Executing a job ends**, and one that is not yet processed is attempted if there is a route. -/
theorem executeWork_spec {m : MeshState F} (hsound : m.Sound lib) (hsecret : m.fabric.secret = secret) :
    ∃ r, Settles (fun fuel => executeWork lib peers targetNodeId jobId payload fuel m) r ∧ r.2.Sound lib ∧
      m.Kept r.2 ∧ (jobId ∉ m.fabric.processedJobs → m.fabric.optimizer.getOptimalRoute lib targetNodeId ≠ none →
        m.exchanges.length < r.2.exchanges.length) := by
  unfold executeWork
  by_cases hprocessed : jobId ∈ m.fabric.processedJobs
  · simp only [if_pos hprocessed]
    exact ⟨_, settles_some _, hsound, .refl m, fun h => absurd hprocessed h⟩
  · simp only [if_neg hprocessed]
    cases m.fabric.activeConnections.contains targetNodeId with
    | true =>
      obtain ⟨r, hsettles, hworked⟩ := workLoop_spec payload hpeers hproves 0 0 hsound hsecret
      exact ⟨r, hsettles, hworked.sound, hworked.kept, fun _ => hworked.attempted⟩
    | false =>
      obtain ⟨⟨connected, m', n⟩, hconnect, hsound', hkept, hattempted⟩ :=
        connectToNode_spec hpeers hsound hsecret
      cases connected with
      | error e => exact ⟨_, hconnect.bind (settles_some _), hsound', hkept, fun _ => hattempted⟩
      | ok ready =>
        cases ready with
        | false => exact ⟨_, hconnect.bind (settles_some _), hsound', hkept, fun _ => hattempted⟩
        | true =>
          obtain ⟨r, hsettles, hworked⟩ :=
            workLoop_spec payload hpeers hproves 0 n hsound' (hkept.secret_eq.trans hsecret)
          exact ⟨r, hconnect.bind hsettles, hworked.sound, hkept.trans hworked.kept,
            fun _ hroute => (hattempted hroute).trans_le hworked.kept.exchanges⟩

end

/-! ### Runs -/

/-- **The calls in which the peers keep to the MACs**: no replacement route authenticates itself, replies to jobs come
to their end, and an answer that reports neither `success` nor `duplicate` carries its MAC. -/
def MeshOp.Proper (lib : MeshLibrary F) (secret : Option String) : MeshOp F → Prop
  | .connectToNode targetNodeId peers | .handleConnectionFailure targetNodeId _ peers =>
    peers.ReplacementsUnauthenticated lib secret targetNodeId
  | .executeWork targetNodeId jobId _ peers =>
    peers.ReplacementsUnauthenticated lib secret targetNodeId ∧ peers.ProvesResults lib secret jobId
  | .registerRoute _ _ _ _ _ _ | .updateRouteMetrics _ _ _ => True

/-- **One call** ends, and leaves the records true. -/
theorem MeshState.Sound.run {m : MeshState F} {secret : Option String} (hsound : m.Sound lib)
    (hsecret : m.fabric.secret = secret) {op : MeshOp F} (hproper : op.Proper lib secret) :
    ∃ m', Settles (fun fuel => op.run lib fuel m) m' ∧ m'.Sound lib ∧ m.Kept m' := by
  cases op with
  | registerRoute | updateRouteMetrics => exact ⟨_, settles_some _, hsound.mapRoutes _, rfl, fun _ h => h, le_rfl⟩
  | connectToNode targetNodeId peers =>
    obtain ⟨r, hsettles, hsound', hkept, -⟩ := connectToNode_spec hproper hsound hsecret
    exact ⟨r.2.1, hsettles.bind (settles_some _), hsound', hkept⟩
  | handleConnectionFailure targetNodeId failedRouteId peers =>
    obtain ⟨r, hsettles, hover, -⟩ := handleConnectionFailure_spec hproper failedRouteId 0 hsound hsecret
    exact ⟨r.2.1, hsettles.bind (settles_some _), hover.sound, hover.kept⟩
  | executeWork targetNodeId jobId payload peers =>
    obtain ⟨r, hsettles, hsound', hkept, -⟩ := executeWork_spec payload hproper.1 hproper.2 hsound hsecret
    exact ⟨r.2, hsettles.bind (settles_some _), hsound', hkept⟩

theorem runCalls_spec (ops : List (MeshOp F)) {m : MeshState F} (hsound : m.Sound lib)
    (hsecret : m.fabric.secret = secret) (hproper : ∀ op ∈ ops, op.Proper lib secret) :
    ∃ m', Settles (fun fuel => runCalls lib fuel m ops) m' ∧ m'.Sound lib ∧ m.Kept m' := by
  induction ops generalizing m with
  | nil => exact ⟨m, settles_some m, hsound, .refl m⟩
  | cons op ops ih =>
    obtain ⟨m', hrun, hsound', hkept⟩ := hsound.run hsecret (hproper op mem_cons_self)
    obtain ⟨m'', hrest, hsound'', hkept'⟩ := ih hsound' (hkept.secret_eq.trans hsecret)
      fun op' hop' => hproper op' (mem_cons_of_mem _ hop')
    exact ⟨m'', hrun.bind hrest, hsound'', hkept.trans hkept'⟩

/-- A new fabric over any routes. -/
def MeshState.init (optimizer : EndToEndLatencyOptimizer F) (authSecret : Option String) (requirePeerAuth : Bool) :
    MeshState F :=
  { fabric := { optimizer, authSecret, requirePeerAuth } }

/-- **Failover ends, and its records are true.**  Every run of proper calls comes to its end.  After it, a recorded
connection names the route of the last accepted handshake with its target and is tagged authenticated exactly if that
handshake carried a valid MAC.  With a secret, every processed job has been answered with a valid MAC; so a job that
has not can be submitted again, which ends as well and sends something wherever there is a route. -/
theorem failover_ends_and_keeps_records (lib : MeshLibrary F) (optimizer : EndToEndLatencyOptimizer F)
    (authSecret : Option String) (requirePeerAuth : Bool) {ops : List (MeshOp F)}
    (hproper : ∀ op ∈ ops, op.Proper lib (MeshState.init optimizer authSecret requirePeerAuth).fabric.secret) :
    ∃ m, Settles (fun fuel => runCalls lib fuel (.init optimizer authSecret requirePeerAuth) ops) m ∧
      (∀ target tag, m.fabric.activeConnections.get? target = some tag →
        ∃ routeId mac, lastHandshake m.fabric.secret target m.exchanges = some (routeId, mac) ∧
          tag = routeId ++ statusTag mac) ∧
      ∀ key, m.fabric.secret = some key → (∀ job ∈ m.fabric.processedJobs, ∃ routeId request answer,
          MeshExchange.job job routeId request (some answer) ∈ m.exchanges ∧
            carriesResultMac lib key job answer = true) ∧
        ∀ target job payload peers, (MeshOp.executeWork target job payload peers).Proper lib (some key) →
          (∀ routeId request answer, MeshExchange.job job routeId request (some answer) ∈ m.exchanges →
            carriesResultMac lib key job answer = false) →
          ∃ r, Settles (fun fuel => executeWork lib peers target job payload fuel m) r ∧
            (m.fabric.optimizer.getOptimalRoute lib target ≠ none → m.exchanges.length < r.2.exchanges.length) := by
  have hinit : (MeshState.init optimizer authSecret requirePeerAuth).Sound lib :=
    ⟨nofun, nofun⟩
  obtain ⟨m, hsettles, hsound, -⟩ := runCalls_spec ops hinit rfl hproper
  refine ⟨m, hsettles, hsound.connections, fun key hkey => ⟨fun job hjob => hsound.processed job hjob key hkey, ?_⟩⟩
  intro target job payload peers hpeers hunproved
  obtain ⟨r, hrun, -, -, hattempted⟩ := executeWork_spec payload hpeers.1 hpeers.2 hsound hkey
  refine ⟨r, hrun, hattempted fun hjob => ?_⟩
  obtain ⟨routeId, request, answer, hmem, hmac⟩ := hsound.processed job hjob key hkey
  exact Bool.false_ne_true ((hunproved routeId request answer hmem).symm.trans hmac)

/-! ### Peers that make use of the gaps -/

/-- The floats as rationals, and a reader of one JSON text. -/
def meshSampleLibrary (value : Json) : MeshLibrary ℚ where
  ewma old new := old * (7 / 10) + new * (3 / 10)
  healthy rate := decide (rate < 1 / 10)
  zero := 0
  one := 1
  keyLe a b := decide (a.1 < b.1) || (decide (a.1 = b.1) && decide (b.2 ≤ a.2))
  loads data := if data = (value.dumps ++ "\n").toList.flatMap String.utf8EncodeChar then .ok value
    else .error .jsonDecode
  str _ := "None"

/-- A peer that answers a handshake, and a job, with these streams. -/
def samplePeers (handshake job : ℕ → Recv) : Peers where
  primary := ⟨"s", "r", .error (.os "refused"), .ok (), fun _ => false, handshake⟩
  replacement _ := ⟨"s", "r", .ok (), .ok (), fun _ => false, handshake⟩
  job _ := ⟨"s", .ok (), job⟩

/-- The bytes of a JSON text with its newline, in one chunk. -/
def oneChunk (value : Json) : ℕ → Recv := fun _ =>
  match (value.dumps ++ "\n").toList.flatMap String.utf8EncodeChar with
  | [] => .closed
  | first :: rest => .bytes first rest

def sampleRoutes : EndToEndLatencyOptimizer ℚ :=
  ((({} : EndToEndLatencyOptimizer ℚ).registerRoute (meshSampleLibrary .null) "route-1" "node-1" "10.0.0.1" 7000 10
    100).registerRoute (meshSampleLibrary .null) "route-2" "node-1" "10.0.0.2" 7000 20 100)

/-- A job that no peer answers is over at some time, and can be sent again. -/
theorem failover_ends_and_keeps_records_unanswered :
    ∃ m, Settles (fun fuel => runCalls (meshSampleLibrary .null) fuel (.init sampleRoutes (some "key") false)
      [.executeWork "node-1" "job-1" .null (samplePeers (fun _ => .closed) fun _ => .closed)]) m := by
  have hnone : ∀ n value, ¬ ((samplePeers (fun _ => .closed) fun _ => .closed).replacement n).Answers
      (meshSampleLibrary .null) value := by
    rintro n value ⟨fuel, data, hread, -⟩
    cases fuel with
    | zero => cases hread
    | succ fuel => cases hread
  have hproper : ∀ op ∈ [MeshOp.executeWork "node-1" "job-1" .null (samplePeers (fun _ => .closed) fun _ => .closed)],
      op.Proper (meshSampleLibrary .null) (MeshState.init sampleRoutes (some "key") false).fabric.secret := by
    rintro op hop
    obtain rfl := mem_singleton.mp hop
    refine ⟨fun n answer hanswer => absurd hanswer (hnone n answer), fun n => ⟨fun _ => ⟨0, trivial⟩, ?_⟩⟩
    rintro key - fields ⟨fuel, data, hread, hloads⟩
    cases fuel with
    | zero => cases hread
    | succ fuel =>
      cases hread
      cases hloads
  obtain ⟨m, hm, -⟩ := failover_ends_and_keeps_records (meshSampleLibrary .null) sampleRoutes (some "key") false hproper
  exact ⟨m, hm⟩

/-- The answer of a peer without the secret. -/
def forgedAnswer : Json := .obj [("status", .str "failed")]

/-- The acknowledgement of a peer with the secret. -/
def validAck : Json :=
  .obj [("auth_mac", .str (hmacHex "key" "ACK:s:r:node-1")), ("request_id", .str "r"), ("session_id", .str "s"),
    ("target_node_id", .str "node-1"), ("type", .str "ACK")]

/-- A fabric with a secret that is connected to the node. -/
def connectedSample : MeshState ℚ :=
  (MeshState.init sampleRoutes (some "key") false).setActive "node-1" "route-1_AUTHENTICATED"

/-- A reply that goes on for ever without a newline is never read to an end. -/
theorem receiveReply_endless {byte : UInt8} (hbyte : newline ≠ byte) (fuel i : ℕ) {data : List UInt8}
    (hdata : newline ∉ data) : receiveReply (fun _ => .bytes byte []) fuel i data = none := by
  induction fuel generalizing i data with
  | zero => rfl
  | succ fuel ih =>
    have hnext : newline ∉ data ++ [byte].take 1024 := by
      rw [show [byte].take 1024 = [byte] from rfl, mem_append, mem_singleton, not_or]
      exact ⟨hdata, hbyte⟩
    simp only [receiveReply, if_neg hnext]
    exact ih (i + 1) hnext

/-- The answer of the exchange carries no MAC of the sample's key. -/
def isUnsigned : MeshExchange → Bool
  | .job _ _ _ (some answer) => !carriesResultMac (meshSampleLibrary forgedAnswer) "key" "job-1" answer
  | _ => true

/-- **What the peers can do.**  An answer without a MAC that reports neither `success` nor `duplicate` marks the job
as processed; a replacement route that authenticates itself is recorded as unauthenticated; and a reply without an
end and without a newline keeps the call for ever. -/
theorem forged_answer_processes_job : (∃ m, runCalls (meshSampleLibrary forgedAnswer) 9 connectedSample
        [.executeWork "node-1" "job-1" .null (samplePeers (fun _ => .closed) (oneChunk forgedAnswer))] = some m ∧
      "job-1" ∈ m.fabric.processedJobs ∧
      ∀ job routeId request answer, MeshExchange.job job routeId request (some answer) ∈ m.exchanges →
        carriesResultMac (meshSampleLibrary forgedAnswer) "key" "job-1" answer = false) ∧
    (∃ m, runCalls (meshSampleLibrary validAck) 9 (.init sampleRoutes (some "key") true)
        [.connectToNode "node-1" (samplePeers (oneChunk validAck) fun _ => .closed)] = some m ∧
      m.fabric.activeConnections.get? "node-1" = some "route-2_LOCAL_UNAUTHENTICATED_ONLY" ∧
      lastHandshake (some "key") "node-1" m.exchanges = some ("route-2", true)) ∧
    ∀ fuel, runCalls (meshSampleLibrary .null) fuel connectedSample
      [.executeWork "node-1" "job-1" .null (samplePeers (fun _ => .closed) fun _ => .bytes 97 [])] = none := by
  refine ⟨?_, ?_, ?_⟩
  · have hrun : (runCalls (meshSampleLibrary forgedAnswer) 9 connectedSample
        [.executeWork "node-1" "job-1" .null (samplePeers (fun _ => .closed) (oneChunk forgedAnswer))]).map
          (fun m => decide ("job-1" ∈ m.fabric.processedJobs) && m.exchanges.all isUnsigned) = some true := by decide +kernel
    obtain ⟨m, hm, hholds⟩ := map_eq_some_iff.mp hrun
    obtain ⟨hprocessed, hall⟩ := (Bool.and_eq_true _ _).mp hholds
    refine ⟨m, hm, of_decide_eq_true hprocessed, fun job routeId request answer hmem => ?_⟩
    simpa [isUnsigned] using all_eq_true.mp hall _ hmem
  · have hrun : (runCalls (meshSampleLibrary validAck) 9 (.init sampleRoutes (some "key") true)
        [.connectToNode "node-1" (samplePeers (oneChunk validAck) fun _ => .closed)]).map
          (fun m => decide (m.fabric.activeConnections.get? "node-1" = some "route-2_LOCAL_UNAUTHENTICATED_ONLY")
            && decide (lastHandshake (some "key") "node-1" m.exchanges = some ("route-2", true))) = some true := by
      decide +kernel
    obtain ⟨m, hm, hholds⟩ := map_eq_some_iff.mp hrun
    obtain ⟨hactive, hlast⟩ := (Bool.and_eq_true _ _).mp hholds
    exact ⟨m, hm, of_decide_eq_true hactive, of_decide_eq_true hlast⟩
  · intro fuel
    have hsend : sendJob (meshSampleLibrary .null) ⟨"s", .ok (), fun _ => .bytes 97 []⟩ (fuel - 1) = none := by
      unfold sendJob
      rw [receiveReply_endless (by decide) _ _ not_mem_nil]
      rfl
    have hroute : (connectedSample.fabric.optimizer.getOptimalRoute (meshSampleLibrary .null) "node-1").isSome = true := by
      decide +kernel
    have hwork : workLoop (meshSampleLibrary .null) (samplePeers (fun _ => .closed) fun _ => .bytes 97 []) "node-1"
        "job-1" .null fuel 0 0 connectedSample = none := by
      cases fuel with
      | zero => rfl
      | succ fuel =>
        obtain ⟨chosen, hchosen⟩ := isSome_iff_exists.mp hroute
        unfold workLoop
        rw [hchosen]
        exact congrArg (bind · _) hsend
    have hexecute : executeWork (meshSampleLibrary .null) (samplePeers (fun _ => .closed) fun _ => .bytes 97 [])
        "node-1" "job-1" .null fuel connectedSample = none := by
      unfold executeWork
      rw [if_neg (show "job-1" ∉ connectedSample.fabric.processedJobs from not_mem_nil),
        if_pos (show connectedSample.fabric.activeConnections.contains "node-1" = true by decide), hwork]
    simp only [runCalls, MeshOp.run, hexecute, bind_none]

end ComputeMesh.Runtime
