import BenefitScreen.Proofs.CachedAnswers
import BenefitScreen.Simulation.Engine

/-!
# Calls of a private engine

A call looks at the token twice at most, and each time the cache serves the one at hand or asks for
a new one. All that matters of the cache is its only entry, so a call takes one entry to another one
and exchanges requests and replies in between.
-/

namespace BenefitScreen.Simulation.Engine

section Replies

/-- The request for a token. -/
def tokenRequest (credentials : Credentials) : Request :=
  ⟨.post, credentials.url, none, some (.object [
    ("client_id", .text credentials.clientId),
    ("client_secret", .text credentials.clientSecret),
    ("audience", .text credentials.audience),
    ("grant_type", .text "client_credentials")])⟩

/-- The token in a reply to the request for one. -/
def tokenIn : Reply → Except Failure String
  | .unreachable reason => .error (.unreachable reason)
  | .answered status body =>
    if isSuccess status then
      match (Json.parseParts? (.fields ["access_token"] .everything) body).bind decodeToken with
      | some token => .ok token
      | none => .error (.unreadable (.malformed undecodable))
    else .error (.ofStatus status body)

/-- The request to run a simulation. -/
def simulationRequest (url : String) (d : Document) (token : Option String) : Request :=
  ⟨.post, url, token, some (.object [("household", Encode.document d)])⟩

/-- What a reply to the request to run a simulation comes to. -/
def outcomeOf (period : String) : Reply → Except Failure Response
  | .unreachable reason => .error (.unreachable reason)
  | .answered status body =>
    if isSuccess status then
      match Response.ofBody body period with
      | .ok r => .ok r
      | .error e => .error (.unreadable e)
    else .error (.ofStatus status body)

/-- Exchanges in their order, each with the reply of the service in view of all before it. -/
def Replied (service : Service) : List Exchange → List Exchange → Prop
  | _, [] => True
  | log, x :: rest => x.reply = service log x.request ∧ Replied service (x :: log) rest

/-- A reply that refuses the token. -/
def Refuses (r : Reply) : Prop := ∃ body, r = .answered 401 body

variable {service : Service} {log : List Exchange} {period : String} {reply : Reply}

lemma replied_append {sent again : List Exchange} (h : Replied service log sent)
    (h' : Replied service (sent.reverse ++ log) again) : Replied service log (sent ++ again) := by
  induction sent generalizing log with
  | nil => exact h'
  | cons x sent ih =>
    rw [List.reverse_cons, List.append_assoc] at h'
    exact ⟨h.1, ih h.2 h'⟩

lemma requestToken_eq (credentials : Credentials) :
    let reply := service log (tokenRequest credentials)
    requestToken credentials service log =
      (tokenIn reply, ⟨tokenRequest credentials, reply⟩ :: log) := rfl

lemma post_eq (url : String) (d : Document) (token : Option String) :
    let reply := service log (simulationRequest url d token)
    post url service d token period log =
      (outcomeOf period reply, ⟨simulationRequest url d token, reply⟩ :: log) := rfl

lemma outcome_of_refuses (period : String) (h : Refuses reply) :
    ∃ body, outcomeOf period reply = .error (.status 401 body) := by
  obtain ⟨body, rfl⟩ := h
  exact ⟨_, rfl⟩

lemma refuses_of_outcome {body : String} (h : outcomeOf period reply = .error (.status 401 body)) :
    Refuses reply := by
  cases reply with
  | unreachable reason => cases h
  | answered status text =>
    unfold outcomeOf at h
    dsimp only at h
    split at h
    · split at h <;> cases h
    · have hfailure : Failure.ofStatus status text = .status 401 body := Except.error.inj h
      obtain rfl : status = 401 := (Failure.status.inj hfailure).1
      exact ⟨text, rfl⟩

end Replies

section Token

variable (credentials : Credentials) (ttl now : Nat)

/-- A look at the token, by the entry before it, the exchanges and the entry after it. -/
inductive Looks (e : CacheEntry String) : List Exchange → CacheEntry String → Prop
  | served (hserved : e.isFresh ttl now = true ∨ e.refreshing = true) : Looks e [] e
  | renewed {reply : Reply} {token : String} (hstale : e.isFresh ttl now = false)
    (hidle : e.refreshing = false) (htoken : tokenIn reply = .ok token) :
    Looks e [⟨tokenRequest credentials, reply⟩] ⟨token, some now, false⟩
  | kept {reply : Reply} {failure : Failure} (hstale : e.isFresh ttl now = false)
    (hidle : e.refreshing = false) (hfailed : tokenIn reply = .error failure) :
    Looks e [⟨tokenRequest credentials, reply⟩] e

/-- An empty text is no token. -/
def tokenAt (e : CacheEntry String) : Except Failure String :=
  if e.value = "" then .error .missingCredentials else .ok e.value

lemma currentToken_spec (service : Service) (tokens : TokenCache) (log : List Exchange) :
    ∃ asked tokens', currentToken credentials service now tokens log =
        (tokenAt (tokens'.entry ()), tokens', asked.reverse ++ log) ∧
      Replied service log asked ∧ tokens'.ttl = tokens.ttl ∧
      Looks credentials tokens.ttl now (tokens.entry ()) asked (tokens'.entry ()) := by
  unfold currentToken
  by_cases hserved : (tokens.entry ()).isFresh tokens.ttl now = true ∨
      (tokens.entry ()).refreshing = true
  · have hwrites := Cache.writes_put tokens () (tokens.entry ())
    have hentry := hwrites.entry ()
    refine ⟨[], tokens.put () (tokens.entry ()), ?_, trivial, hwrites.ttl,
      hentry ▸ .served hserved⟩
    rw [Cache.fetch_of_served hserved, hentry]
    rfl
  · rw [not_or, Bool.not_eq_true, Bool.not_eq_true] at hserved
    obtain ⟨hstale, hidle⟩ := hserved
    obtain ⟨tokens', hfetch, hwrites⟩ :=
      Cache.fetch_of_stale hstale hidle (requestToken credentials service) log
    have hentry := (hwrites.entry ()).trans (if_pos rfl)
    let reply := service log (tokenRequest credentials)
    have hreply : requestToken credentials service log =
        (tokenIn reply, ⟨tokenRequest credentials, reply⟩ :: log) := requestToken_eq credentials
    rw [hreply] at hfetch hentry
    refine ⟨[⟨tokenRequest credentials, reply⟩], tokens', ?_, ⟨rfl, trivial⟩, hwrites.ttl, ?_⟩
    · rw [hfetch]
      rfl
    · cases htoken : tokenIn reply with
      | ok token =>
        rw [htoken] at hentry
        exact hentry ▸ .renewed hstale hidle htoken
      | error failure =>
        rw [htoken] at hentry
        exact hentry ▸ .kept hstale hidle htoken

lemma Looks.refreshing {ttl now : Nat} {credentials : Credentials} {e e' : CacheEntry String}
    {asked : List Exchange} (h : Looks credentials ttl now e asked e') :
    e'.refreshing = e.refreshing := by
  cases h with
  | served => rfl
  | renewed _ hidle => rw [hidle]
  | kept => rfl

end Token

section Attempt

variable (url : String) (credentials : Credentials) (d : Document) (period : String)
variable (ttl now : Nat)

/-- The document sent with a token, and the reply to it. -/
def posted (token : String) (reply : Reply) : Exchange :=
  ⟨simulationRequest url d (some token), reply⟩

/-- One attempt of a call: a look at the token, and a post if there is one. -/
inductive Attempt (e : CacheEntry String) :
    Except Failure Response → CacheEntry String → List Exchange → Prop
  | unarmed {asked : List Exchange} {e' : CacheEntry String}
    (hlook : Looks credentials ttl now e asked e') (hnone : e'.value = "") :
    Attempt e (.error .missingCredentials) e' asked
  | sent {asked : List Exchange} {e' : CacheEntry String} {reply : Reply}
    (hlook : Looks credentials ttl now e asked e') (htoken : e'.value ≠ "") :
    Attempt e (outcomeOf period reply) e' (asked ++ [posted url d e'.value reply])

def attempt (service : Service) (tokens : TokenCache) (log : List Exchange) :
    Except Failure Response × TokenCache × List Exchange :=
  match currentToken credentials service now tokens log with
  | (.error e, tokens, log) => (.error e, tokens, log)
  | (.ok token, tokens, log) =>
    let (answer, log) := post url service d (some token) period log
    (answer, tokens, log)

lemma attempt_spec (service : Service) (tokens : TokenCache) (log : List Exchange) :
    ∃ answer tokens' sent,
      attempt url credentials d period now service tokens log =
        (answer, tokens', sent.reverse ++ log) ∧
      Replied service log sent ∧ tokens'.ttl = tokens.ttl ∧
      Attempt url credentials d period tokens.ttl now (tokens.entry ()) answer (tokens'.entry ())
        sent := by
  obtain ⟨asked, tokens', hcurrent, hreplied, httl, hlook⟩ :=
    currentToken_spec credentials now service tokens log
  unfold attempt
  rw [hcurrent]
  by_cases htoken : (tokens'.entry ()).value = ""
  · rw [tokenAt, if_pos htoken]
    exact ⟨_, tokens', asked, rfl, hreplied, httl, .unarmed hlook htoken⟩
  · rw [tokenAt, if_neg htoken]
    dsimp only
    set token := (tokens'.entry ()).value
    let reply := service (asked.reverse ++ log) (simulationRequest url d (some token))
    refine ⟨outcomeOf period reply, tokens', asked ++ [posted url d token reply], ?_,
      replied_append hreplied ⟨rfl, trivial⟩, httl, .sent hlook htoken⟩
    rw [post_eq, List.reverse_append]
    rfl

end Attempt

section Call

variable (url : String) (credentials : Credentials) (d : Document) (period : String)
variable (ttl now : Nat)

/-- A call of a private engine: one attempt, or a second one after a refusal, for which the entry
counts as old. -/
inductive Calls (e : CacheEntry String) :
    Except Failure Response → CacheEntry String → List Exchange → Prop
  | once {answer : Except Failure Response} {e' : CacheEntry String} {sent : List Exchange}
    (hattempt : Attempt url credentials d period ttl now e answer e' sent)
    (hsettled : ∀ body, answer ≠ .error (.status 401 body)) : Calls e answer e' sent
  | twice {answer : Except Failure Response} {body : String} {e₁ e' : CacheEntry String}
    {sent again : List Exchange}
    (hrefused : Attempt url credentials d period ttl now e (.error (.status 401 body)) e₁ sent)
    (hagain :
      Attempt url credentials d period ttl now { e₁ with refreshedAt := none } answer e' again) :
    Calls e answer e' (sent ++ again)

lemma calculate_private_eq (service : Service) (tokens : TokenCache) (log : List Exchange) :
    calculate service now d period (.private_ url credentials) tokens log =
      match attempt url credentials d period now service tokens log with
      | (.error (.status 401 _), tokens, log) =>
        attempt url credentials d period now service (tokens.invalidate ()) log
      | settled => settled := by
  unfold calculate attempt
  dsimp only
  obtain ⟨asked, tokens', hcurrent, -⟩ := currentToken_spec credentials now service tokens log
  rw [hcurrent]
  by_cases htoken : (tokens'.entry ()).value = ""
  · -- The lack of a token is no refusal, so there is no second attempt.
    rw [tokenAt, if_pos htoken]
  · rw [tokenAt, if_neg htoken]
    dsimp only
    split
    · rename_i hpost
      rw [hpost]
      rfl
    · rename_i hsettled hpost
      rw [hpost]
      dsimp only
      split
      · rename_i body _ _ heq
        exact absurd (Prod.mk.inj heq).1 (hsettled body)
      · rfl

theorem calculate_private (service : Service) (tokens : TokenCache) (log : List Exchange) :
    ∃ answer tokens' sent,
      calculate service now d period (.private_ url credentials) tokens log =
        (answer, tokens', sent.reverse ++ log) ∧
      Replied service log sent ∧
      Calls url credentials d period tokens.ttl now (tokens.entry ()) answer (tokens'.entry ())
        sent := by
  obtain ⟨answer, tokens₁, sent, hattempt, hreplied, httl, hfirst⟩ :=
    attempt_spec url credentials d period now service tokens log
  rw [calculate_private_eq, hattempt]
  by_cases hrefused : ∃ body, answer = .error (.status 401 body)
  · obtain ⟨body, rfl⟩ := hrefused
    obtain ⟨answer, tokens', again, hretry, hrepliedAgain, -, hagain⟩ :=
      attempt_spec url credentials d period now service (tokens₁.invalidate ())
        (sent.reverse ++ log)
    have hwrites := Cache.writes_invalidate tokens₁ ()
    rw [hwrites.ttl, httl, hwrites.entry, if_pos rfl] at hagain
    refine ⟨answer, tokens', sent ++ again, ?_, replied_append hreplied hrepliedAgain,
      .twice hfirst hagain⟩
    rw [List.reverse_append, List.append_assoc]
    exact hretry
  · rw [not_exists] at hrefused
    refine ⟨answer, tokens₁, sent, ?_, hreplied, .once hfirst hrefused⟩
    split
    · rename_i body _ _ heq
      exact absurd (Prod.mk.inj heq).1 (hrefused body)
    · rfl

end Call

end BenefitScreen.Simulation.Engine
