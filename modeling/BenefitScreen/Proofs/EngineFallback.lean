import BenefitScreen.Proofs.PrivateCall

/-!
# Falling back on the next engine

A chain of engines answers with its first engine that succeeds, and the engines after it are not
asked. Each call of a private engine keeps to one protocol, whatever state its token is in and
whatever the service replies.
-/

namespace BenefitScreen.Simulation.Engine

section Chain

variable (service : Service) (now : Nat) (d : Document) (period : String)

/-- Engines with their caches and the log, each engine failing after the one before it. -/
inductive AllFail : List (Engine × TokenCache) → List Exchange →
    List (Engine × TokenCache) → List Exchange → Prop
  | nil {log : List Exchange} : AllFail [] log [] log
  | cons {engine : Engine} {tokens tokens' : TokenCache} {failure : Failure}
    {rest rest' : List (Engine × TokenCache)} {log log₁ log' : List Exchange}
    (hfails : calculate service now d period engine tokens log = (.error failure, tokens', log₁))
    (hrest : AllFail rest log₁ rest' log') :
    AllFail ((engine, tokens) :: rest) log ((engine, tokens') :: rest') log'

/-- What a chain comes to. -/
inductive FirstAnswer (log : List Exchange) : List (Engine × TokenCache) →
    Except Failure Response → List (Engine × TokenCache) → List Exchange → Prop
  | answered {before before' after : List (Engine × TokenCache)} {engine : Engine}
    {tokens tokens' : TokenCache} {log₁ log' : List Exchange} {r : Response}
    (hbefore : AllFail service now d period before log before' log₁)
    (hanswer : calculate service now d period engine tokens log₁ = (.ok r, tokens', log')) :
    FirstAnswer log (before ++ (engine, tokens) :: after) (.ok r)
      (before' ++ (engine, tokens') :: after) log'
  | exhausted {engines engines' : List (Engine × TokenCache)} {log' : List Exchange}
    (hall : AllFail service now d period engines log engines' log') :
    FirstAnswer log engines (.error .allEnginesFailed) engines' log'

variable {service now d period}
variable {engines engines' before before' : List (Engine × TokenCache)}
  {log log₁ log' : List Exchange} {answer : Except Failure Response}

/-- Engines that fail leave the chain to those after them. -/
lemma AllFail.calculateFirst_append (h : AllFail service now d period before log before' log₁)
    (after : List (Engine × TokenCache)) :
    let rest := calculateFirst service now d period after log₁
    calculateFirst service now d period (before ++ after) log =
      (rest.1, before' ++ rest.2.1, rest.2.2) := by
  induction h with
  | nil => rfl
  | cons hfails _ ih =>
    rw [List.cons_append, calculateFirst, hfails]
    dsimp only at ih ⊢
    rw [ih]
    rfl

variable (service now d period) in
lemma exists_firstAnswer (engines : List (Engine × TokenCache)) (log : List Exchange) :
    ∃ answer engines' log',
      FirstAnswer service now d period log engines answer engines' log' := by
  induction engines generalizing log with
  | nil => exact ⟨_, _, _, .exhausted .nil⟩
  | cons x rest ih =>
    obtain ⟨engine, tokens⟩ := x
    rcases hcall : calculate service now d period engine tokens log with
      ⟨_ | _, tokens', log₁⟩
    · obtain ⟨answer, rest', log', hrest⟩ := ih log₁
      cases hrest with
      | answered hbefore hanswer => exact ⟨_, _, _, .answered (.cons hcall hbefore) hanswer⟩
      | exhausted hall => exact ⟨_, _, _, .exhausted (.cons hcall hall)⟩
    · have hfirst : FirstAnswer service now d period log ([] ++ (engine, tokens) :: rest) _ _ _ :=
        .answered .nil hcall
      exact ⟨_, _, _, hfirst⟩

lemma FirstAnswer.eq (h : FirstAnswer service now d period log engines answer engines' log') :
    calculateFirst service now d period engines log = (answer, engines', log') := by
  cases h with
  | answered hbefore hanswer =>
    rw [hbefore.calculateFirst_append, calculateFirst, hanswer]
  | exhausted hall =>
    have happend := hall.calculateFirst_append []
    rw [List.append_nil] at happend
    rw [happend, calculateFirst]
    simp

lemma calculateFirst_eq_iff :
    calculateFirst service now d period engines log = (answer, engines', log') ↔
      FirstAnswer service now d period log engines answer engines' log' := by
  refine ⟨fun h => ?_, FirstAnswer.eq⟩
  obtain ⟨answer₁, engines₁, log₁, hfirst⟩ := exists_firstAnswer service now d period engines log
  obtain ⟨rfl, rfl, rfl⟩ : answer₁ = answer ∧ engines₁ = engines' ∧ log₁ = log' := by
    simpa using hfirst.eq.symm.trans h
  exact hfirst

/-- Only a chain whose engines all fail has nothing to answer, also one without engines. -/
lemma calculateFirst_fails_iff :
    (calculateFirst service now d period engines log).1 = .error .allEnginesFailed ↔
      ∃ engines' log', AllFail service now d period engines log engines' log' := by
  constructor
  · intro h
    obtain ⟨answer, engines', log', hfirst⟩ := exists_firstAnswer service now d period engines log
    rw [hfirst.eq] at h
    cases hfirst with
    | answered _ _ => cases h
    | exhausted hall => exact ⟨engines', log', hall⟩
  · rintro ⟨engines', log', hall⟩
    rw [(FirstAnswer.exhausted hall).eq]

end Chain

section Protocol

/-- The posts of a private engine are its requests with a token. -/
def isPost (x : Exchange) : Bool := x.request.token.isSome

/-- The token at hand after an exchange: the one that is issued then, or else the one before. -/
def heldNext (held : String) (x : Exchange) : String :=
  if isPost x then held else (tokenIn x.reply).toOption.getD held

/-- The token at hand after exchanges; an empty text is none. -/
def heldAfter (held : String) (sent : List Exchange) : String := sent.foldl heldNext held

/-- Requests in their order, each one for a token or a post with the token at hand. -/
def Carries (url : String) (credentials : Credentials) (d : Document) :
    String → List Exchange → Prop
  | _, [] => True
  | held, x :: rest =>
    (isPost x = true → held ≠ "" ∧ x.request = simulationRequest url d (some held)) ∧
      (isPost x = false → x.request = tokenRequest credentials) ∧
      Carries url credentials d (heldNext held x) rest

/-- What the exchanges of a call keep to that begins with the token `held` and ends with `answer`:
`limit` posts and requests for a token at most, no post without a token, and none after one that was
not refused. A call that ends without a token says so, and any other ends with a post and its
outcome. -/
structure KeepsProtocol (url : String) (credentials : Credentials) (d : Document) (period : String)
    (limit : Nat) (held : String) (answer : Except Failure Response) (sent : List Exchange) :
    Prop where
  requests : Carries url credentials d held sent
  posts : sent.countP isPost ≤ limit
  tokenRequests : sent.countP (fun x => !isPost x) ≤ limit
  retries : sent.Pairwise fun first second =>
    isPost first = true → isPost second = true → Refuses first.reply
  unarmed : heldAfter held sent = "" → answer = .error .missingCredentials ∧
    ∀ x ∈ sent, isPost x = true → Refuses x.reply
  armed : heldAfter held sent ≠ "" → ∃ before last, sent = before ++ [last] ∧
    isPost last = true ∧ answer = outcomeOf period last.reply

variable {url : String} {credentials : Credentials} {d : Document} {period : String}
  {ttl now : Nat} {e e' : CacheEntry String} {asked sent again : List Exchange}
  {answer : Except Failure Response}

lemma heldAfter_append (held : String) :
    heldAfter held (sent ++ again) = heldAfter (heldAfter held sent) again :=
  List.foldl_append

lemma heldAfter_tokenRequest (held : String) (reply : Reply) :
    heldAfter held [⟨tokenRequest credentials, reply⟩] = (tokenIn reply).toOption.getD held :=
  rfl

lemma Carries.append {held : String} (h : Carries url credentials d held sent)
    (h' : Carries url credentials d (heldAfter held sent) again) :
    Carries url credentials d held (sent ++ again) := by
  induction sent generalizing held with
  | nil => exact h'
  | cons x sent ih => exact ⟨h.1, h.2.1, ih h.2.2 h'⟩

lemma Looks.asked_cases (h : Looks credentials ttl now e asked e') :
    asked = [] ∨ ∃ reply, asked = [⟨tokenRequest credentials, reply⟩] := by
  cases h with
  | served => exact .inl rfl
  | renewed => exact .inr ⟨_, rfl⟩
  | kept => exact .inr ⟨_, rfl⟩

lemma Looks.not_isPost (h : Looks credentials ttl now e asked e') :
    ∀ x ∈ asked, ¬isPost x = true := by
  intro x hx
  obtain rfl | ⟨reply, rfl⟩ := h.asked_cases
  · cases hx
  · rw [List.mem_singleton.mp hx]
    exact Bool.false_ne_true

lemma Looks.countP_isPost (h : Looks credentials ttl now e asked e') : asked.countP isPost = 0 :=
  List.countP_eq_zero.mpr h.not_isPost

lemma Looks.countP_not_isPost_le (h : Looks credentials ttl now e asked e') :
    asked.countP (fun x => !isPost x) ≤ 1 := by
  have hlength : asked.length ≤ 1 := by
    obtain rfl | ⟨reply, rfl⟩ := h.asked_cases <;> simp
  exact Nat.le_trans List.countP_le_length hlength

lemma Looks.pairwise (h : Looks credentials ttl now e asked e') :
    asked.Pairwise fun first second =>
      isPost first = true → isPost second = true → Refuses first.reply :=
  List.pairwise_of_forall_mem_list fun first hfirst _ _ hpost _ =>
    absurd hpost (h.not_isPost first hfirst)

lemma Looks.carries (h : Looks credentials ttl now e asked e') (held : String) :
    Carries url credentials d held asked := by
  obtain rfl | ⟨reply, rfl⟩ := h.asked_cases
  · trivial
  · exact ⟨fun hpost => absurd hpost Bool.false_ne_true, fun _ => rfl, trivial⟩

/-- The token at hand is the one in the cache. -/
lemma Looks.heldAfter_eq (h : Looks credentials ttl now e asked e') :
    heldAfter e.value asked = e'.value := by
  cases h with
  | served => rfl
  | renewed _ _ htoken =>
    rw [heldAfter_tokenRequest, htoken]
    rfl
  | kept _ _ hfailed =>
    rw [heldAfter_tokenRequest, hfailed]
    rfl

lemma Attempt.heldAfter_eq (h : Attempt url credentials d period ttl now e answer e' sent) :
    heldAfter e.value sent = e'.value := by
  cases h with
  | unarmed hlook _ => exact hlook.heldAfter_eq
  | sent hlook _ =>
    rw [heldAfter_append, hlook.heldAfter_eq]
    rfl

lemma Attempt.keepsProtocol (h : Attempt url credentials d period ttl now e answer e' sent) :
    KeepsProtocol url credentials d period 1 e.value answer sent := by
  have hheld := h.heldAfter_eq
  cases h with
  | unarmed hlook hnone =>
    have hposts := hlook.countP_isPost
    refine ⟨hlook.carries _, by omega, hlook.countP_not_isPost_le, hlook.pairwise,
      fun _ => ⟨rfl, ?_⟩, fun hsome => absurd (hheld.trans hnone) hsome⟩
    exact fun x hx hpost => absurd hpost (hlook.not_isPost x hx)
  | @sent asked _ reply hlook htoken =>
    have hposts := hlook.countP_isPost
    have hasked := hlook.countP_not_isPost_le
    have hlast : isPost (posted url d e'.value reply) = true := rfl
    refine ⟨(hlook.carries _).append ?_, ?_, ?_, ?_,
      fun hnone => absurd (hheld.symm.trans hnone) htoken, fun _ => ⟨asked, _, rfl, hlast, rfl⟩⟩
    · rw [hlook.heldAfter_eq]
      exact ⟨fun _ => ⟨htoken, rfl⟩, fun hno => absurd (hlast.symm.trans hno) (by decide), trivial⟩
    · simp [List.countP_append, hposts, hlast]
    · rw [List.countP_append, List.countP_singleton, hlast]
      simpa using hasked
    · refine List.pairwise_append.mpr ⟨hlook.pairwise, List.pairwise_singleton _ _, ?_⟩
      exact fun first hfirst _ _ hpost _ => absurd hpost (hlook.not_isPost first hfirst)

lemma KeepsProtocol.refused {limit : Nat} {held body : String}
    (h : KeepsProtocol url credentials d period limit held (.error (.status 401 body)) sent) :
    ∀ x ∈ sent, isPost x = true → Refuses x.reply := by
  intro x hx hpost
  by_cases hnone : heldAfter held sent = ""
  · exact (h.unarmed hnone).2 x hx hpost
  · obtain ⟨before, last, rfl, hlast, houtcome⟩ := h.armed hnone
    rcases List.mem_append.mp hx with hx | hx
    · obtain ⟨-, -, hacross⟩ := List.pairwise_append.mp h.retries
      exact hacross x hx last (List.mem_singleton_self last) hpost hlast
    · rw [List.mem_singleton.mp hx]
      exact refuses_of_outcome houtcome.symm

/-- A refusal at the end leaves room for more, which begins with the token at hand then. -/
lemma KeepsProtocol.append {limit more : Nat} {held body : String}
    (h : KeepsProtocol url credentials d period limit held (.error (.status 401 body)) sent)
    (h' : KeepsProtocol url credentials d period more (heldAfter held sent) answer again) :
    KeepsProtocol url credentials d period (limit + more) held answer (sent ++ again) where
  requests := h.requests.append h'.requests
  posts := by
    rw [List.countP_append]
    exact Nat.add_le_add h.posts h'.posts
  tokenRequests := by
    rw [List.countP_append]
    exact Nat.add_le_add h.tokenRequests h'.tokenRequests
  retries := List.pairwise_append.mpr
    ⟨h.retries, h'.retries, fun first hfirst _ _ hpost _ => h.refused first hfirst hpost⟩
  unarmed hnone := by
    rw [heldAfter_append] at hnone
    obtain ⟨hmissing, hrefused⟩ := h'.unarmed hnone
    exact ⟨hmissing, fun x hx => (List.mem_append.mp hx).elim (h.refused x) (hrefused x)⟩
  armed hsome := by
    rw [heldAfter_append] at hsome
    obtain ⟨before, last, rfl, hlast, houtcome⟩ := h'.armed hsome
    exact ⟨sent ++ before, last, (List.append_assoc _ _ _).symm, hlast, houtcome⟩

lemma KeepsProtocol.mono {limit limit' : Nat} {held : String} (hlimit : limit ≤ limit')
    (h : KeepsProtocol url credentials d period limit held answer sent) :
    KeepsProtocol url credentials d period limit' held answer sent :=
  { h with
    posts := Nat.le_trans h.posts hlimit
    tokenRequests := Nat.le_trans h.tokenRequests hlimit }

lemma Calls.keepsProtocol (h : Calls url credentials d period ttl now e answer e' sent) :
    KeepsProtocol url credentials d period 2 e.value answer sent := by
  cases h with
  | once hattempt _ => exact hattempt.keepsProtocol.mono (by decide)
  | twice hrefused hagain =>
    -- The refused token stays in the cache until another one is issued.
    have hretried := hagain.keepsProtocol
    dsimp only at hretried
    rw [← hrefused.heldAfter_eq] at hretried
    exact hrefused.keepsProtocol.append hretried

end Protocol

/-- A chain comes to the answer of its first engine that succeeds, without a request to those after
it, and fails when each engine does. A call of a private engine is one attempt, and a second one
exactly after a refusal. It keeps to the protocol with two posts and two requests for a token at
most, whatever token it begins with and whatever the replies. -/
theorem fallback_and_retry_protocol (service : Service) (now : Nat) (d : Document)
    (period : String) :
    (∀ engines log answer engines' log',
      calculateFirst service now d period engines log = (answer, engines', log') ↔
        FirstAnswer service now d period log engines answer engines' log') ∧
    (∀ engines log,
      (calculateFirst service now d period engines log).1 = .error .allEnginesFailed ↔
        ∃ engines' log', AllFail service now d period engines log engines' log') ∧
    ∀ url credentials tokens log, ∃ answer tokens' sent,
      calculate service now d period (.private_ url credentials) tokens log =
        (answer, tokens', sent.reverse ++ log) ∧
      Replied service log sent ∧
      Calls url credentials d period tokens.ttl now (tokens.entry ()) answer (tokens'.entry ())
        sent ∧
      KeepsProtocol url credentials d period 2 (tokens.value ()) answer sent := by
  refine ⟨fun _ _ _ _ _ => calculateFirst_eq_iff, fun _ _ => calculateFirst_fails_iff, ?_⟩
  intro url credentials tokens log
  obtain ⟨answer, tokens', sent, hcall, hreplied, hcalls⟩ :=
    calculate_private url credentials d period now service tokens log
  exact ⟨answer, tokens', sent, hcall, hreplied, hcalls, hcalls.keepsProtocol⟩

end BenefitScreen.Simulation.Engine
