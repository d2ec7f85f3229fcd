import BenefitScreen.Cache.Basic
import BenefitScreen.Exchange
import BenefitScreen.Json.Decode
import BenefitScreen.Wire.Response

/-!
Services that run simulations: a public one, a private one that wants a token, and a chain of them.
-/

namespace BenefitScreen.Simulation

/-- Why a simulation gave no result. -/
inductive Failure where
  /-- No reply, for a reason that the connection gives. -/
  | unreachable (reason : String)
  | status (code : Nat) (body : String)
  | unreadable (error : BodyError)
  | missingCredentials
  | allEnginesFailed
  deriving DecidableEq, Repr

namespace Failure

def text : Failure → String
  | unreachable reason => "PolicyEngine request failed: " ++ reason
  | status code body => "PolicyEngine returned status " ++ toString code ++ ": " ++ body
  | unreadable error => "Failed to decode PolicyEngine response: " ++ error.text
  | missingCredentials => "PolicyEngine credentials are not configured"
  | allEnginesFailed => "No PolicyEngine endpoint succeeded"

/-- A failure by status keeps the first characters of the body. -/
def ofStatus (code : Nat) (body : String) : Failure :=
  status code (String.ofList (body.toList.take 500))

end Failure

/-- What a token is asked for with. -/
structure Credentials where
  url : String
  clientId : String
  clientSecret : String
  audience : String
  deriving DecidableEq, Repr

/-- One service. -/
inductive Engine where
  | public_ (url : String)
  | private_ (url : String) (credentials : Credentials)
  deriving DecidableEq, Repr

def Engine.name : Engine → String
  | public_ _ => "public"
  | private_ .. => "private"

/-- The token of a private engine; an empty text is none. -/
abbrev TokenCache := Cache Unit String

def decodeToken : Decoder String := fun j => do
  let [token] ← Decode.slots ["access_token"] j | none
  token.required Decode.text

namespace Engine

def requestToken (credentials : Credentials) (service : Service) (log : List Exchange) :
    Except Failure String × List Exchange :=
  let body : Json := .object [
    ("client_id", .text credentials.clientId),
    ("client_secret", .text credentials.clientSecret),
    ("audience", .text credentials.audience),
    ("grant_type", .text "client_credentials")]
  let (reply, log) := service.send ⟨.post, credentials.url, none, some body⟩ log
  let answer : Except Failure String := match reply with
    | .unreachable reason => .error (.unreachable reason)
    | .answered status body =>
      if isSuccess status then
        match (Json.parseParts? (.fields ["access_token"] .everything) body).bind decodeToken with
        | some token => .ok token
        | none => .error (.unreadable (.malformed undecodable))
      else .error (.ofStatus status body)
  (answer, log)

def currentToken (credentials : Credentials) (service : Service) (now : Nat) (tokens : TokenCache)
    (log : List Exchange) : Except Failure String × TokenCache × List Exchange :=
  let (token, tokens, log) := tokens.fetch now () (requestToken credentials service) log
  (if token = "" then .error .missingCredentials else .ok token, tokens, log)

def post (url : String) (service : Service) (d : Document) (token : Option String)
    (period : String) (log : List Exchange) : Except Failure Response × List Exchange :=
  let body : Json := .object [("household", Encode.document d)]
  let (reply, log) := service.send ⟨.post, url, token, some body⟩ log
  let answer : Except Failure Response := match reply with
    | .unreachable reason => .error (.unreachable reason)
    | .answered status body =>
      if isSuccess status then
        match Response.ofBody body period with
        | .ok r => .ok r
        | .error e => .error (.unreadable e)
      else .error (.ofStatus status body)
  (answer, log)

/-- Runs a simulation. A token that is refused is dropped, and the document sent once more with a
new one. -/
def calculate (service : Service) (now : Nat) (d : Document) (period : String) (engine : Engine)
    (tokens : TokenCache) (log : List Exchange) :
    Except Failure Response × TokenCache × List Exchange :=
  match engine with
  | public_ url =>
    let (answer, log) := post url service d none period log
    (answer, tokens, log)
  | private_ url credentials =>
    match currentToken credentials service now tokens log with
    | (.error e, tokens, log) => (.error e, tokens, log)
    | (.ok token, tokens, log) =>
      match post url service d (some token) period log with
      | (.error (.status 401 _), log) =>
        match currentToken credentials service now (tokens.invalidate ()) log with
        | (.error e, tokens, log) => (.error e, tokens, log)
        | (.ok token, tokens, log) =>
          let (answer, log) := post url service d (some token) period log
          (answer, tokens, log)
      | (answer, log) => (answer, tokens, log)

/-- Asks one engine after the other until one succeeds. -/
def calculateFirst (service : Service) (now : Nat) (d : Document) (period : String) :
    List (Engine × TokenCache) → List Exchange →
    Except Failure Response × List (Engine × TokenCache) × List Exchange
  | [], log => (.error .allEnginesFailed, [], log)
  | (engine, tokens) :: rest, log =>
    match engine.calculate service now d period tokens log with
    | (.ok r, tokens, log) => (.ok r, (engine, tokens) :: rest, log)
    | (.error _, tokens, log) =>
      let (answer, rest, log) := calculateFirst service now d period rest log
      (answer, (engine, tokens) :: rest, log)

def noToken (ttl : Nat) : TokenCache := .new ttl ""

end Engine

end BenefitScreen.Simulation
