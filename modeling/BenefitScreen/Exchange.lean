import BenefitScreen.Json.Basic

/-!
Requests to services and their replies.

A service is a function from what was exchanged with it so far to its reply to the next request, so
that it may answer the same request differently each time.
-/

namespace BenefitScreen

inductive Verb where
  | get
  | post
  deriving DecidableEq, Repr

def Verb.name : Verb → String
  | get => "GET"
  | post => "POST"

structure Request where
  verb : Verb
  url : String
  /-- A bearer token. -/
  token : Option String
  body : Option Json

inductive Reply where
  /-- The request did not arrive, or its reply did not, for a reason that the connection gives. -/
  | unreachable (reason : String)
  | answered (status : Nat) (body : String)
  deriving DecidableEq, Repr

def Reply.arrived : Reply → Bool
  | unreachable _ => false
  | answered .. => true

def isSuccess (status : Nat) : Bool := 200 ≤ status && status < 300

structure Exchange where
  request : Request
  reply : Reply

/-- Replies to a request in view of the exchanges before it, the latest first. -/
abbrev Service := List Exchange → Request → Reply

namespace Service

/-- Nothing arrives, always for the same reason. -/
def down (reason : String) : Service := fun _ _ => .unreachable reason

/-- A service that replies to a request always in the same way. -/
def fixed (reply : Request → Reply) : Service := fun _ r => reply r

def send (service : Service) (r : Request) (log : List Exchange) : Reply × List Exchange :=
  let reply := service log r
  (reply, ⟨r, reply⟩ :: log)

end Service

/-- What is said of a body that is not JSON of the expected shape. -/
def undecodable : String := "error decoding response body"

def arrivedRequests (log : List Exchange) : List Request :=
  (log.reverse.filter fun x => x.reply.arrived).map (·.request)

end BenefitScreen
