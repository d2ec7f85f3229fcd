import BenefitScreen.Binary64.Shortest

/-!
JSON values.

A number is whole and exact or a binary floating point number, by the way it was written. The
members of an object stand in the order in which they were written; `canonical` orders them by
their keys and keeps the last of those with one key.
-/

namespace BenefitScreen

/-- A JSON number. -/
inductive Json.Number where
  | int (value : Int)
  | double (value : Binary64)
  deriving DecidableEq

/-- A JSON value. -/
inductive Json where
  | null
  | bool (value : Bool)
  | number (value : Json.Number)
  | text (value : String)
  | array (items : List Json)
  | object (members : List (String × Json))

namespace Json

instance : Inhabited Json := ⟨null⟩

/-- Whether a whole number is written without becoming a binary number. -/
def fitsInt (n : Int) : Bool := Int64.minValue.toInt ≤ n && n < UInt64.size

def Number.same : Number → Number → Bool
  | .int a, .int b => a == b
  | .double x, .double y => x.sameValue y
  | _, _ => false

mutual

/-- Equality of values: the two zeros among binary numbers are one. -/
def same : Json → Json → Bool
  | null, null => true
  | bool a, bool b => a == b
  | number m, number n => m.same n
  | text s, text t => s == t
  | array xs, array ys => sameItems xs ys
  | object ms, object ns => sameMembers ms ns
  | _, _ => false

def sameItems : List Json → List Json → Bool
  | [], [] => true
  | x :: xs, y :: ys => same x y && sameItems xs ys
  | _, _ => false

def sameMembers : List (String × Json) → List (String × Json) → Bool
  | [], [] => true
  | (k, x) :: ms, (l, y) :: ns => k == l && same x y && sameMembers ms ns
  | _, _ => false

end

/-- Puts a member at the place of its key and replaces one that is there already. -/
def insertMember (k : String) (v : Json) : List (String × Json) → List (String × Json)
  | [] => [(k, v)]
  | e :: es =>
    if k = e.1 then (k, v) :: es
    else if k < e.1 then (k, v) :: e :: es
    else e :: insertMember k v es

mutual

/-- The value with the members of each object in the order of their keys, the last of equal keys
alone kept. -/
def canonical : Json → Json
  | array xs => array (canonicalItems xs)
  | object ms => object (canonicalMembers ms [])
  | v => v

def canonicalItems : List Json → List Json
  | [] => []
  | x :: xs => canonical x :: canonicalItems xs

def canonicalMembers : List (String × Json) → List (String × Json) → List (String × Json)
  | [], done => done
  | (k, v) :: ms, done => canonicalMembers ms (insertMember k (canonical v) done)

end

def isNull : Json → Bool
  | null => true
  | _ => false

def ofNat (n : Nat) : Json := number (.int n)

def ofInt (n : Int) : Json := number (.int n)

def get? : Json → String → Option Json
  | object ms, k => (ms.find? fun m => m.1 == k).map (·.2)
  | _, _ => none

def text? : Json → Option String
  | text s => some s
  | _ => none

end Json

end BenefitScreen
