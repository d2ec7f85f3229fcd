import BenefitScreen.Json.Text

/-!
Text in double quotes as YAML has it.

Line breaks are folded: a single one stands for a space, of several ones the first is dropped, and
blanks around them do not count. Escapes name characters, never halves of a pair.
-/

namespace BenefitScreen.Yaml

/-- What a line break stands for: the separators of lines and paragraphs for themselves. -/
def breakChar? (c : Char) : Option Char :=
  match c with
  | '\n' => some '\n'
  | '\r' => some '\n'
  | '\u0085' => some '\n'
  | '\u2028' => some c
  | '\u2029' => some c
  | _ => none

def isBreak (c : Char) : Bool := (breakChar? c).isSome

def isBlank (c : Char) : Bool := c == ' ' || c == '\t'

/-- The text that blanks and breaks between words stand for. -/
def foldedGap (blanks breaks : List Char) : List Char :=
  match breaks with
  | [] => blanks
  | ['\n'] => [' ']
  | '\n' :: rest => rest
  | all => all

/-- The blanks and breaks at the head as folded text, and the characters after them. Blanks count
only up to the first break. -/
def readGap : List Char → (blanks breaks : List Char) → List Char × List Char
  | '\r' :: '\n' :: cs, blanks, breaks => readGap cs blanks (breaks ++ ['\n'])
  | c :: cs, blanks, breaks =>
    if isBlank c then readGap cs (if breaks.isEmpty then blanks ++ [c] else blanks) breaks
    else match breakChar? c with
      | some b => readGap cs blanks (breaks ++ [b])
      | none => (foldedGap blanks breaks, c :: cs)
  | [], blanks, breaks => (foldedGap blanks breaks, [])

def escaped? (c : Char) : Option Char :=
  match c with
  | '0' => some '\x00'
  | 'a' => some '\x07'
  | 'b' => some '\x08'
  | 't' => some '\t'
  | '\t' => some '\t'
  | 'n' => some '\n'
  | 'v' => some '\x0b'
  | 'f' => some '\x0c'
  | 'r' => some '\r'
  | 'e' => some '\x1b'
  | ' ' => some ' '
  | '"' => some '"'
  | '/' => some '/'
  | '\\' => some '\\'
  | 'N' => some '\u0085'
  | '_' => some '\u00a0'
  | 'L' => some '\u2028'
  | 'P' => some '\u2029'
  | _ => none

/-- The number of hexadecimal digits of an escape by code point. -/
def escapeWidth? (c : Char) : Option Nat :=
  match c with
  | 'x' => some 2
  | 'u' => some 4
  | 'U' => some 8
  | _ => none

/-- The character with a code point in so many hexadecimal digits. -/
def readCodePoint (width : Nat) : Json.Reader Char := fun cs => do
  let digits ← (cs.take width).mapM Json.hexValue?
  let n := digits.foldl (fun n d => n * 16 + d) 0
  if digits.length = width ∧ n.isValidChar then some (Char.ofNat n, cs.drop width) else none

/-- The rest of a text after its opening quote; `done` holds its characters in reverse. -/
def readQuoted : (fuel : Nat) → (done : List Char) → Json.Reader String
  | 0, _, _ => none
  | fuel + 1, done, cs =>
    match cs with
    | [] => none
    | '"' :: cs => some (String.ofList done.reverse, cs)
    | '\\' :: c :: cs =>
      match escaped? c with
      | some e => readQuoted fuel (e :: done) cs
      | none => do
        let (e, cs) ← readCodePoint (← escapeWidth? c) cs
        readQuoted fuel (e :: done) cs
    | c :: cs =>
      if isBlank c || isBreak c then
        let (gap, cs) := readGap (c :: cs) [] []
        readQuoted fuel (gap.reverse ++ done) cs
      else readQuoted fuel (c :: done) cs

end BenefitScreen.Yaml
