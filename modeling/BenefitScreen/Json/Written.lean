import BenefitScreen.Json.Literal

/-!
JSON values as they are written: `Written.read` splits a text into literals, texts, arrays and
objects, and `Written.toJson?` takes their values.

What is never read for its value has to be well written only. Its numbers may be too large, its
texts may hold escapes that stand for no character, and it may be nested without a limit; so a
`Selection` says which parts of a value are read, and drops the rest.
-/

namespace BenefitScreen.Json

/-- A value as it is written; a text is missing where its escapes stand for no character. -/
inductive Written where
  | null
  | bool (value : Bool)
  | number (literal : Literal)
  | text (value : Option String)
  | array (items : List Written)
  | object (members : List (Option String × Written))

/-- How the texts of a notation are written. Both readers start after an opening quote. -/
structure Lexis where
  text : Reader (Option String)
  /-- A key up to the colon after it. -/
  key : Reader (Option String)

def skipBlanks (cs : List Char) : List Char :=
  cs.dropWhile fun c => c == ' ' || c == '\n' || c == '\t' || c == '\r'

namespace Written

def readItems (item : Reader Written) : (fuel : Nat) → List Written → Reader (List Written)
  | 0, _, _ => none
  | fuel + 1, done, cs => do
    let (x, cs) ← item (skipBlanks cs)
    match skipBlanks cs with
    | ',' :: cs => readItems item fuel (x :: done) cs
    | ']' :: cs => some ((x :: done).reverse, cs)
    | _ => none

def readMembers (key : Reader (Option String)) (item : Reader Written) :
    (fuel : Nat) → List (Option String × Written) → Reader (List (Option String × Written))
  | 0, _, _ => none
  | fuel + 1, done, cs => do
    match skipBlanks cs with
    | '"' :: cs => do
      let (k, cs) ← key cs
      let (v, cs) ← item (skipBlanks cs)
      match skipBlanks cs with
      | ',' :: cs => readMembers key item fuel ((k, v) :: done) cs
      | '\x7d' :: cs => some (((k, v) :: done).reverse, cs)
      | _ => none
    | _ => none

/-- A value without blanks in front, in a text of fewer than `size` characters. -/
def read (lexis : Lexis) (size : Nat) : (fuel : Nat) → Reader Written
  | _, 'n' :: 'u' :: 'l' :: 'l' :: cs => some (null, cs)
  | _, 't' :: 'r' :: 'u' :: 'e' :: cs => some (bool true, cs)
  | _, 'f' :: 'a' :: 'l' :: 's' :: 'e' :: cs => some (bool false, cs)
  | _, '"' :: cs => do
    let (s, cs) ← lexis.text cs
    some (text s, cs)
  | fuel + 1, '[' :: cs =>
    match skipBlanks cs with
    | ']' :: cs => some (array [], cs)
    | cs => do
      let (xs, cs) ← readItems (read lexis size fuel) size [] cs
      some (array xs, cs)
  | fuel + 1, '\x7b' :: cs =>
    match skipBlanks cs with
    | '\x7d' :: cs => some (object [], cs)
    | cs => do
      let (ms, cs) ← readMembers lexis.key (read lexis size fuel) size [] cs
      some (object ms, cs)
  | _, cs => do
    let (l, cs) ← readLiteral cs
    some (number l, cs)

mutual

/-- The value, with at most `depth` arrays and objects inside one another. -/
def toJson? : (depth : Nat) → Written → Option Json
  | _, null => some .null
  | _, bool b => some (.bool b)
  | _, number l => l.number?.map .number
  | _, text s => s.map .text
  | 0, array _ => none
  | 0, object _ => none
  | depth + 1, array xs => (itemsToJson? depth xs).map .array
  | depth + 1, object ms => (membersToJson? depth ms).map .object

def itemsToJson? : (depth : Nat) → List Written → Option (List Json)
  | _, [] => some []
  | depth, x :: xs => do return (← toJson? depth x) :: (← itemsToJson? depth xs)

def membersToJson? : (depth : Nat) → List (Option String × Written) →
    Option (List (String × Json))
  | _, [] => some []
  | depth, (k, v) :: ms => do
    return (← k, ← toJson? depth v) :: (← membersToJson? depth ms)

end

end Written

/-- Which parts of a value are read. -/
inductive Selection where
  | everything
  /-- Of an array, these parts of each item. -/
  | items (part : Selection)
  /-- Of a record, these parts of the fields with the given names. -/
  | fields (names : List String) (part : Selection)

/-- The selected parts. A record's keys are read even where their values are not. -/
def Selection.of : Selection → Written → Option Written
  | everything, w => some w
  | items part, .array xs => (xs.mapM part.of).map .array
  | items _, w => some w
  | fields names part, .object ms => do
    let members ← ms.mapM fun (m : Option String × Written) => m.1.map fun k => (k, m.2)
    let kept ← (members.filter fun m => names.contains m.1).mapM fun m =>
      (part.of m.2).map fun v => (some m.1, v)
    return .object kept
  | fields _ part, .array xs => (xs.mapM part.of).map .array
  | fields _ _, w => some w

end BenefitScreen.Json
