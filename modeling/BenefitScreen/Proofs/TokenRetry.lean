import BenefitScreen.Proofs.EngineFallback

/-!
# The token after a refusal

When a private engine refuses a token, the document is posted once more. If a token is issued after
the refusal, the second post carries it, or there is none where the new token is empty. If none is
issued, because the request for one fails or another caller is at it, the cache keeps the token that
was refused, and it is sent again.
-/

namespace BenefitScreen.Simulation.Engine

section FirstPost

variable {α : Type} {p : α → Prop} {l l' r r' : List α} {a b : α}

/-- There is one first element with a property. -/
lemma eq_of_split (h : l ++ a :: r = l' ++ b :: r') (hl : ∀ x ∈ l, ¬p x) (hl' : ∀ x ∈ l', ¬p x)
    (ha : p a) (hb : p b) : l = l' ∧ a = b ∧ r = r' := by
  induction l generalizing l' with
  | nil =>
    cases l' with
    | nil => exact ⟨rfl, List.cons.inj h⟩
    | cons x l' =>
      obtain ⟨rfl, -⟩ := List.cons.inj h
      exact absurd ha (hl' a List.mem_cons_self)
  | cons x l ih =>
    cases l' with
    | nil =>
      obtain ⟨rfl, -⟩ := List.cons.inj h
      exact absurd hb (hl x List.mem_cons_self)
    | cons y l' =>
      obtain ⟨rfl, htail⟩ := List.cons.inj h
      obtain ⟨rfl, hrest⟩ := ih htail (fun z hz => hl z (List.mem_cons_of_mem _ hz))
        (fun z hz => hl' z (List.mem_cons_of_mem _ hz))
      exact ⟨rfl, hrest⟩

end FirstPost

variable {url : String} {credentials : Credentials} {d : Document} {period : String}
  {ttl now : Nat} {e e' : CacheEntry String} {answer : Except Failure Response}

/-- What follows the refusal of a token, by whether another caller is getting a new one. -/
inductive Retry (url : String) (credentials : Credentials) (d : Document) (period : String)
    (held : Bool) (refused : String) : Except Failure Response → List Exchange → Prop
  | renewed {reply last : Reply} {token : String} (htoken : tokenIn reply = .ok token)
    (hsome : token ≠ "") :
    Retry url credentials d period held refused (outcomeOf period last)
      [⟨tokenRequest credentials, reply⟩, posted url d token last]
  | emptied {reply : Reply} (htoken : tokenIn reply = .ok "") :
    Retry url credentials d period held refused (.error .missingCredentials)
      [⟨tokenRequest credentials, reply⟩]
  | reused {reply last : Reply} {failure : Failure} (hfailed : tokenIn reply = .error failure) :
    Retry url credentials d period held refused (outcomeOf period last)
      [⟨tokenRequest credentials, reply⟩, posted url d refused last]
  | unchanged {last : Reply} (hheld : held = true) :
    Retry url credentials d period held refused (outcomeOf period last)
      [posted url d refused last]

lemma Attempt.retry {again : List Exchange} (htoken : e.value ≠ "")
    (h : Attempt url credentials d period ttl now { e with refreshedAt := none } answer e' again) :
    Retry url credentials d period e.refreshing e.value answer again := by
  cases h with
  | unarmed hlook hnone =>
    -- Only a new token can be empty: the one that was refused is not.
    cases hlook with
    | served _ => exact absurd hnone htoken
    | renewed _ _ hissued =>
      obtain rfl := hnone
      exact .emptied hissued
    | kept _ _ _ => exact absurd hnone htoken
  | sent hlook hsome =>
    cases hlook with
    | served hserved =>
      have hheld : e.refreshing = true := hserved.resolve_left (by simp [CacheEntry.isFresh])
      exact .unchanged hheld
    | renewed _ _ hissued => exact .renewed hissued hsome
    | kept _ _ hfailed => exact .reused hfailed

lemma Attempt.refreshing {sent : List Exchange}
    (h : Attempt url credentials d period ttl now e answer e' sent) :
    e'.refreshing = e.refreshing := by
  cases h with
  | unarmed hlook => exact hlook.refreshing
  | sent hlook => exact hlook.refreshing

lemma Attempt.of_split {before rest : List Exchange} {first : Exchange}
    (h : Attempt url credentials d period ttl now e answer e' (before ++ first :: rest))
    (hbefore : ∀ x ∈ before, ¬isPost x = true) (hfirst : isPost first = true) :
    e'.value ≠ "" ∧ first.request = simulationRequest url d (some e'.value) ∧
      answer = outcomeOf period first.reply := by
  generalize hsent : before ++ first :: rest = sent at h
  cases h with
  | unarmed hlook _ =>
    have hmem : first ∈ sent := hsent ▸ List.mem_append_right before List.mem_cons_self
    exact absurd hfirst (hlook.not_isPost first hmem)
  | sent hlook htoken =>
    obtain ⟨-, rfl, -⟩ := eq_of_split hsent hbefore hlook.not_isPost hfirst rfl
    exact ⟨htoken, rfl, rfl⟩

lemma Attempt.exists_post {sent : List Exchange}
    (h : Attempt url credentials d period ttl now e answer e' sent)
    (hanswer : answer ≠ .error .missingCredentials) :
    ∃ asked last, sent = asked ++ [last] ∧ (∀ x ∈ asked, ¬isPost x = true) ∧
      isPost last = true := by
  cases h with
  | unarmed _ _ => exact absurd rfl hanswer
  | sent hlook _ => exact ⟨_, _, rfl, hlook.not_isPost, rfl⟩

lemma Calls.retry {before rest : List Exchange} {first : Exchange}
    (h : Calls url credentials d period ttl now e answer e' (before ++ first :: rest))
    (hbefore : ∀ x ∈ before, ¬isPost x = true) (hfirst : isPost first = true)
    (hrefused : Refuses first.reply) :
    ∃ token, first.request = simulationRequest url d (some token) ∧
      Retry url credentials d period e.refreshing token answer rest := by
  generalize hsent : before ++ first :: rest = sent at h
  cases h with
  | once hattempt hsettled =>
    rw [← hsent] at hattempt
    obtain ⟨-, -, rfl⟩ := hattempt.of_split hbefore hfirst
    obtain ⟨body, hbody⟩ := outcome_of_refuses period hrefused
    exact absurd hbody (hsettled body)
  | twice hattempt hagain =>
    obtain ⟨asked, last, rfl, hasked, hlast⟩ := hattempt.exists_post (by simp)
    rw [List.append_assoc, List.singleton_append] at hsent
    obtain ⟨rfl, rfl, rfl⟩ := eq_of_split hsent hbefore hasked hfirst hlast
    obtain ⟨htoken, hrequest, -⟩ := hattempt.of_split hbefore hfirst
    rw [← hattempt.refreshing]
    exact ⟨_, hrequest, hagain.retry htoken⟩

/-- After the refusal of a token the call goes on in one of four ways: as it should, with the token
that is issued then, or without another post if that is empty; or else with the token that was
refused, if the request for a new one fails or another caller is at it. -/
theorem retry_after_refusal {service : Service} {tokens tokens' : TokenCache}
    {log before rest : List Exchange} {first : Exchange}
    (hcall : calculate service now d period (.private_ url credentials) tokens log =
      (answer, tokens', (before ++ first :: rest).reverse ++ log))
    (hbefore : ∀ x ∈ before, ¬isPost x = true) (hfirst : isPost first = true)
    (hrefused : Refuses first.reply) :
    ∃ token, first.request = simulationRequest url d (some token) ∧
      Retry url credentials d period (tokens.entry ()).refreshing token answer rest := by
  obtain ⟨answer₁, tokens₁, sent, hspec, -, hcalls⟩ :=
    calculate_private url credentials d period now service tokens log
  obtain ⟨rfl, -, hlog⟩ : answer₁ = answer ∧ tokens₁ = tokens' ∧
      sent.reverse ++ log = (before ++ first :: rest).reverse ++ log := by
    simpa using hspec.symm.trans hcall
  obtain rfl := List.reverse_injective (List.append_cancel_right hlog)
  exact hcalls.retry hbefore hfirst hrefused

def householdCredentials : Credentials :=
  ⟨"https://household/token", "id", "secret", "household"⟩

def householdApi : Engine := .private_ "https://household/calculate" householdCredentials

/-- The token of an earlier call. -/
def earlierToken : TokenCache := ⟨3600, "", [((), ⟨"earlier", some 0, false⟩)]⟩

/-- A service on which that token has expired. -/
def renewing : Service := fun _ r =>
  match r.token with
  | none => .answered 200 "\x7b\"access_token\":\"later\"\x7d"
  | some token => if token = "earlier" then .answered 401 "expired" else .answered 503 "busy"

theorem expired_token_renewed : ∃ answer tokens' first rest,
    calculate renewing 1 .empty "2025" householdApi earlierToken [] =
      (answer, tokens', ([] ++ first :: rest).reverse ++ []) ∧
    first.request.token = some "earlier" ∧
    rest.map (·.request.token) = [none, some "later"] ∧
    ∃ token, first.request = simulationRequest "https://household/calculate" .empty (some token) ∧
      Retry "https://household/calculate" householdCredentials .empty "2025" false token answer
        rest := by
  have hlog : ((calculate renewing 1 .empty "2025" householdApi earlierToken []).2.2.reverse.map
      fun x => (x.request.token, x.reply == .answered 401 "expired")) =
        [(some "earlier", true), (none, false), (some "later", false)] := by
    decide +kernel
  obtain ⟨first, rest, hsent, hfirst, hrest⟩ := List.map_eq_cons_iff.mp hlog
  have hcall : calculate renewing 1 .empty "2025" householdApi earlierToken [] =
      ((calculate renewing 1 .empty "2025" householdApi earlierToken []).1,
        (calculate renewing 1 .empty "2025" householdApi earlierToken []).2.1,
        ([] ++ first :: rest).reverse ++ []) := by
    rw [List.nil_append, List.append_nil, ← hsent, List.reverse_reverse]
  obtain ⟨htoken, hreply⟩ := Prod.mk.inj hfirst
  have hpost : isPost first = true := by rw [isPost, htoken]; rfl
  have hrefused : Refuses first.reply := ⟨"expired", by simpa using hreply⟩
  refine ⟨_, _, first, rest, hcall, htoken, ?_,
    retry_after_refusal hcall (by simp) hpost hrefused⟩
  have htokens := congrArg (List.map Prod.fst) hrest
  rwa [List.map_map] at htokens

/-- A service that refuses every token, and has none to issue. -/
def revoking : Service := fun _ r =>
  if r.token.isSome then .answered 401 "expired" else .answered 500 "down"

/-- The only request after the refusal issues no token, and the refused one is posted again. The log
has the latest exchange first. -/
theorem refused_token_reused : ∃ answer tokens' first request second,
    calculate revoking 1 .empty "2025" householdApi earlierToken [] =
      (answer, tokens', [second, request, first]) ∧
    isPost first = true ∧ Refuses first.reply ∧ isPost second = true ∧
    (∀ token, tokenIn request.reply ≠ .ok token) ∧
    second.request.token = first.request.token := by
  let refused : Exchange :=
    posted "https://household/calculate" .empty "earlier" (.answered 401 "expired")
  let request : Exchange := ⟨tokenRequest householdCredentials, .answered 500 "down"⟩
  have hfailed : tokenIn request.reply = .error (.ofStatus 500 "down") := rfl
  refine ⟨.error (.status 401 "expired"), ⟨3600, "", [((), ⟨"earlier", none, false⟩)]⟩, refused,
    request, refused, rfl, rfl, ⟨"expired", rfl⟩, rfl, fun token h => ?_, rfl⟩
  rw [hfailed] at h
  cases h

end BenefitScreen.Simulation.Engine
