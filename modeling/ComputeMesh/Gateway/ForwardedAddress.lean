import ComputeMesh.Gateway.LoginGrants

/-!
# Which address a caller is identified by

A trusted proxy appends the address of its own peer to the `X-Forwarded-For` text that the client sent, and the gateway
reads the first item of the whole.  That item is the client's.

* `caller_address_iff` — two calls without token and session are identified by the address of the proxy's peer, and
  answered alike, **exactly if neither text begins with another address**;
* `forwarded_text_names_node` — a text that begins with the address of a provider node makes the caller that node.
-/

namespace ComputeMesh.Gateway

open ComputeMesh.Text

/-- The header that the proxy forwards for its peer at `address`. -/
def forwardedFor (address : String) : Option String → String
  | none => address
  | some sent => sent ++ ", " ++ address

/-- The headers that reach the gateway. -/
def RequestHeaders.through (headers : RequestHeaders) (address : String) (sent : Option String) : RequestHeaders :=
  { headers with xForwardedFor := forwardedFor address sent }

def firstItem (cs : List Char) : List Char := cs.takeWhile fun c => c != ','

/-- The first item of what the client sent names its own address, or names none and what is asked next is its own. -/
def NamesOwn (env : AuthEnv) (headers : RequestHeaders) (proxyIp address : String) : Option String → Prop
  | none => True
  | some sent =>
    match env.ipAddress (strip (String.ofList (firstItem sent.toList))) with
    | some ip => ip = address
    | none => (env.ipAddress (strip headers.xRealIp)).getD proxyIp = address

theorem firstItem_append (cs rest : List Char) : firstItem (cs ++ ',' :: rest) = firstItem cs := by
  induction cs with
  | nil => rfl
  | cons c cs ih =>
    unfold firstItem at ih ⊢
    rw [List.cons_append, List.takeWhile_cons, List.takeWhile_cons, ih]

section

variable {env : AuthEnv} {headers : RequestHeaders} {proxyIp address : String}

/-- **The address is the peer's** exactly if the client's text does not name another. -/
theorem resolveClientIp_through_iff (hproxy : proxyIp ∈ trustedProxies) (haddress : env.ipAddress address = some address)
    (hstrip : strip address = address) (hcomma : ',' ∉ address.toList) (sent : Option String) :
    resolveClientIp env (some (headers.through address sent)) (some proxyIp) = address ↔
      NamesOwn env headers proxyIp address sent := by
  unfold resolveClientIp RequestHeaders.through forwardedFor
  dsimp only
  rw [if_neg (not_not.mpr hproxy)]
  cases sent with
  | none =>
    have hitem : address.toList.takeWhile (fun c => c != ',') = address.toList := by
      rw [List.takeWhile_eq_self_iff]
      intro c hc
      exact bne_iff_ne.mpr fun heq => hcomma (heq ▸ hc)
    dsimp only
    rw [hitem, String.ofList_toList, hstrip, haddress]
    exact iff_of_true rfl trivial
  | some sent =>
    have hitem : (sent ++ ", " ++ address).toList.takeWhile (fun c => c != ',') = firstItem sent.toList := by
      rw [String.toList_append, String.toList_append, List.append_assoc]
      exact firstItem_append _ _
    dsimp only [NamesOwn]
    rw [hitem]
    -- The client's item comes before the second header, and that before the proxy's own address.
    cases env.ipAddress (strip (String.ofList (firstItem sent.toList))) with
    | some ip => rfl
    | none => cases env.ipAddress (strip headers.xRealIp) <;> rfl

/-- A call without token and session is answered by its address alone. -/
theorem login_anonymous {call : AuthCall} (htoken : extractBearerToken call.headers = "")
    (hsession : sessionLogin env call.headers = .passes) :
    login env call = (providerNodeLogin env call).orElse (teaserLogin env call) := by
  rw [login, htoken, hsession]
  rfl

theorem authenticateRequest_congr {call call' : AuthCall} (htoken : extractBearerToken call.headers = "")
    (hsession : sessionLogin env call.headers = .passes) (htoken' : extractBearerToken call'.headers = "")
    (hsession' : sessionLogin env call'.headers = .passes) (hteaser : call.allowTeaser = call'.allowTeaser)
    (haddress : resolveClientIp env call.headers call.clientAddress = resolveClientIp env call'.headers call'.clientAddress)
    (s : AuthState) : authenticateRequest env s call = authenticateRequest env s call' := by
  unfold authenticateRequest
  rw [login_anonymous htoken hsession, login_anonymous htoken' hsession']
  unfold providerNodeLogin teaserLogin
  rw [haddress, hteaser]

/-- **Two calls without token and session through a proxy are answered alike, by the address of the proxy's peer, exactly
if neither client names another address first.** -/
theorem caller_address_iff (hproxy : proxyIp ∈ trustedProxies) (haddress : env.ipAddress address = some address)
    (hstrip : strip address = address) (hcomma : ',' ∉ address.toList)
    (htoken : extractBearerToken (some headers) = "")
    (hsession : ∀ sent, sessionLogin env (some (headers.through address sent)) = .passes) (allowTeaser : Bool)
    (s : AuthState) (sent sent' : Option String) :
    (resolveClientIp env (some (headers.through address sent)) (some proxyIp) = address ∧
      resolveClientIp env (some (headers.through address sent')) (some proxyIp) = address ∧
      authenticateRequest env s ⟨some (headers.through address sent), some proxyIp, allowTeaser⟩ =
        authenticateRequest env s ⟨some (headers.through address sent'), some proxyIp, allowTeaser⟩) ↔
    NamesOwn env headers proxyIp address sent ∧ NamesOwn env headers proxyIp address sent' := by
  have hiff : ∀ sent, _ ↔ NamesOwn env headers proxyIp address sent :=
    resolveClientIp_through_iff hproxy haddress hstrip hcomma
  have hbare : ∀ sent, extractBearerToken (some (headers.through address sent)) = "" := fun _ => htoken
  constructor
  · rintro ⟨hfirst, hsecond, -⟩
    exact ⟨(hiff sent).mp hfirst, (hiff sent').mp hsecond⟩
  · rintro ⟨hfirst, hsecond⟩
    have hsame := ((hiff sent).mpr hfirst).trans ((hiff sent').mpr hsecond).symm
    refine ⟨(hiff sent).mpr hfirst, (hiff sent').mpr hsecond, ?_⟩
    apply authenticateRequest_congr
    · exact hbare sent
    · exact hsession sent
    · exact hbare sent'
    · exact hsession sent'
    · rfl
    · exact hsame

end

def sampleNodeEnv : AuthEnv where
  __ := sampleAuthEnv
  nodes := .ok [⟨"rig", false, none, some "203.0.113.7"⟩]
  ipAddress text := if text ∈ ["198.51.100.2", "203.0.113.7"] then some text else none

/-- A client that sends no header, and one that sends its own address. -/
theorem caller_address_iff_sample :
    authenticateRequest sampleNodeEnv ⟨sampleAuthLedger, []⟩
        ⟨some (({} : RequestHeaders).through "198.51.100.2" none), some "127.0.0.1", true⟩ =
      authenticateRequest sampleNodeEnv ⟨sampleAuthLedger, []⟩
        ⟨some (({} : RequestHeaders).through "198.51.100.2" (some "198.51.100.2")), some "127.0.0.1", true⟩ :=
  ((@caller_address_iff sampleNodeEnv {} "127.0.0.1" "198.51.100.2" (by decide) (by decide) (by decide)
    (by decide) (by decide) (fun _ => rfl) true ⟨sampleAuthLedger, []⟩ none
    (some "198.51.100.2")).mpr ⟨trivial, show _ = _ by decide⟩).2.2

/-- **A client that sends the address of a provider node is that node to the gateway**, not the teaser that it is. -/
theorem forwarded_text_names_node :
    let account sent := ((authenticateRequest sampleNodeEnv ⟨sampleAuthLedger, []⟩
      ⟨some (({} : RequestHeaders).through "198.51.100.2" sent), some "127.0.0.1", true⟩).1.toOption.map
        fun r => (r.accountId, r.isProviderSelfCompute, r.isTeaser))
    account none = some (some "teaser_198_51_100_2", false, true) ∧
      account (some "203.0.113.7") = some (some "provider_rig", true, false) := by
  decide

end ComputeMesh.Gateway
