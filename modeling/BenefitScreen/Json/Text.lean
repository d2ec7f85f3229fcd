import BenefitScreen.Json.Written

/-!
The text of JSON values: `Json.render` writes a value without blanks, `Json.parse?` reads one.

Reading refuses a value with 128 arrays or objects inside one another, and a number too large for a
binary number. `Json.parseParts?` reads selected parts of a value alone, and refuses only what
stands in these.
-/

namespace BenefitScreen.Json

def hex4 (n : Nat) : List Char :=
  let digits := Nat.toDigits 16 n
  List.replicate (4 - digits.length) '0' ++ digits

def escapeChar (c : Char) : List Char :=
  match c with
  | '"' => ['\\', '"']
  | '\\' => ['\\', '\\']
  | '\n' => ['\\', 'n']
  | '\r' => ['\\', 'r']
  | '\t' => ['\\', 't']
  | '\x08' => ['\\', 'b']
  | '\x0c' => ['\\', 'f']
  | c => if c.toNat < 32 then '\\' :: 'u' :: hex4 c.toNat else [c]

def renderString (s : String) : String :=
  String.ofList ('"' :: s.toList.flatMap escapeChar ++ ['"'])

def Number.render : Number → String
  | .int n => toString n
  | .double x => x.jsonText

mutual

def render : Json → String
  | null => "null"
  | bool b => if b then "true" else "false"
  | number n => n.render
  | text s => renderString s
  | array xs => "[" ++ renderItems xs ++ "]"
  | object ms => "\x7b" ++ renderMembers ms ++ "\x7d"

def renderItems : List Json → String
  | [] => ""
  | [x] => render x
  | x :: xs => render x ++ "," ++ renderItems xs

def renderMembers : List (String × Json) → String
  | [] => ""
  | [(k, v)] => renderString k ++ ":" ++ render v
  | (k, v) :: ms => renderString k ++ ":" ++ render v ++ "," ++ renderMembers ms

end

def hexValue? (c : Char) : Option Nat :=
  if '0' ≤ c ∧ c ≤ '9' then some (c.toNat - 48)
  else if 'a' ≤ c ∧ c ≤ 'f' then some (c.toNat - 87)
  else if 'A' ≤ c ∧ c ≤ 'F' then some (c.toNat - 55)
  else none

def readHex4 : Reader Nat
  | a :: b :: c :: d :: cs => do
    let n := (← hexValue? a) * 4096 + (← hexValue? b) * 256 + (← hexValue? c) * 16 + (← hexValue? d)
    some (n, cs)
  | _ => none

/-- The second half of a character beyond the basic plane, whose first half is `n`. -/
def readLowHalf (n : Nat) : Reader Char
  | '\\' :: 'u' :: cs => do
    let (m, cs) ← readHex4 cs
    if 0xDC00 ≤ m ∧ m ≤ 0xDFFF then
      some (Char.ofNat (0x10000 + (n - 0xD800) * 0x400 + (m - 0xDC00)), cs)
    else none
  | _ => none

/-- The character of a `u` escape; one beyond the basic plane takes two escapes, and a half of such
a pair alone is no character. -/
def readUnicode : Reader (Option Char) := fun cs => do
  let (n, cs) ← readHex4 cs
  if n < 0xD800 ∨ 0xDFFF < n then some (some (Char.ofNat n), cs)
  else if 0xDC00 ≤ n then some (none, cs)
  else
    match readLowHalf n cs with
    | some (c, cs) => some (some c, cs)
    | none => some (none, cs)

/-- The rest of a string after its opening quote; `done` holds its characters in reverse, unless
an escape stood for none. -/
def readString : (fuel : Nat) → Option (List Char) → Reader (Option String)
  | 0, _, _ => none
  | fuel + 1, done, cs =>
    match cs with
    | '"' :: cs => some (done.map fun s => String.ofList s.reverse, cs)
    | '\\' :: c :: cs =>
      match c with
      | '"' => readString fuel (done.map ('"' :: ·)) cs
      | '\\' => readString fuel (done.map ('\\' :: ·)) cs
      | '/' => readString fuel (done.map ('/' :: ·)) cs
      | 'b' => readString fuel (done.map ('\x08' :: ·)) cs
      | 'f' => readString fuel (done.map ('\x0c' :: ·)) cs
      | 'n' => readString fuel (done.map ('\n' :: ·)) cs
      | 'r' => readString fuel (done.map ('\r' :: ·)) cs
      | 't' => readString fuel (done.map ('\t' :: ·)) cs
      | 'u' => do
        let (c, cs) ← readUnicode cs
        readString fuel (done.bind fun s => c.map (· :: s)) cs
      | _ => none
    | c :: cs => if c.toNat < 32 then none else readString fuel (done.map (c :: ·)) cs
    | [] => none

/-- The texts of JSON, in a text of fewer than `size` characters. -/
def lexis (size : Nat) : Lexis where
  text := readString size (some [])
  key cs := do
    let (k, cs) ← readString size (some []) cs
    match skipBlanks cs with
    | ':' :: cs => some (k, cs)
    | _ => none

/-- Splits a text that holds one value with blanks around it. -/
def split? (s : String) : Option Written := do
  let cs := s.toList
  let size := cs.length + 1
  let (w, cs) ← Written.read (lexis size) size size (skipBlanks cs)
  if (skipBlanks cs).isEmpty then some w else none

def parseParts? (part : Selection) (s : String) : Option Json := do
  let w ← part.of (← split? s)
  w.toJson? 127

def parse? (s : String) : Option Json := parseParts? .everything s

end BenefitScreen.Json
