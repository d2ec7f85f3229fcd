/-!
The order in which programs run that read each other's results.

Programs are numbered by their place in the list. Each waits for as many references as it has to
listed programs; one that waits for none is ready, and ready programs run first come, first served.
-/

namespace BenefitScreen.RunOrder

/-- A program code with the codes whose results it reads. -/
abbrev Entry := String × List String

/-- The last place of a code in the list. -/
def place? (programs : List Entry) (code : String) : Option Nat :=
  (List.range programs.length).reverse.find? fun i => (programs[i]?.map (·.1)) == some code

/-- The places that a program refers to, repeated as often as it does. Unlisted codes are left
out. -/
def targets (programs : List Entry) (i : Nat) : List Nat :=
  match programs[i]? with
  | some entry => entry.2.filterMap (place? programs)
  | none => []

/-- The programs that refer to place `j`, each as often as it does. -/
def dependents (programs : List Entry) (j : Nat) : List Nat :=
  (List.range programs.length).flatMap fun i =>
    ((targets programs i).filter (· == j)).map fun _ => i

/-- How far a run has come. -/
structure State where
  /-- References that each program still waits for. -/
  waiting : Nat → Nat
  /-- Programs that wait for nothing, in the order in which they became ready. -/
  ready : List Nat
  /-- Programs that have run, the latest first. -/
  finished : List Nat

def start (programs : List Entry) : State :=
  let waiting := fun i => (targets programs i).length
  ⟨waiting, (List.range programs.length).filter fun i => waiting i == 0, []⟩

/-- One reference of program `d` has been served. -/
def release (s : State) (d : Nat) : State :=
  let left := s.waiting d - 1
  { s with
    waiting := fun i => if i = d then left else s.waiting i
    ready := if left = 0 then s.ready ++ [d] else s.ready }

/-- Runs the program that is ready first, if there is one. -/
def step? (programs : List Entry) (s : State) : Option State :=
  match s.ready with
  | [] => none
  | i :: rest =>
    let taken := { s with ready := rest, finished := i :: s.finished }
    some ((dependents programs i).foldl release taken)

/-- Runs programs while one is ready, at most `fuel` of them. -/
def run (programs : List Entry) : (fuel : Nat) → State → State
  | 0, s => s
  | fuel + 1, s =>
    match step? programs s with
    | none => s
    | some s' => run programs fuel s'

/-- The state when nothing is ready any more. -/
def final (programs : List Entry) : State := run programs programs.length (start programs)

def codeAt (programs : List Entry) (i : Nat) : String := (programs[i]?.map (·.1)).getD ""

/-- Follows first references between waiting programs until one repeats; `path` is the way so far,
latest first. -/
def walk (programs : List Entry) (waiting : Nat → Nat) : (fuel : Nat) → List Nat → List Nat
  | 0, path => path.reverse
  | fuel + 1, path =>
    match path.head?.bind fun i => (targets programs i).find? fun j => 0 < waiting j with
    | none => path.reverse
    | some j =>
      if path.contains j then (path.takeWhile (· != j) ++ [j]).reverse ++ [j]
      else walk programs waiting fuel (j :: path)

/-- A cycle of references among the programs that still wait, from the first of them on. -/
def cycle (programs : List Entry) (waiting : Nat → Nat) : List String :=
  match (List.range programs.length).find? fun i => 0 < waiting i with
  | none => []
  | some i => (walk programs waiting programs.length [i]).map (codeAt programs)

/-- The codes with every program after those it refers to, or a cycle of references. -/
def order (programs : List Entry) : Except (List String) (List String) :=
  let s := final programs
  if s.finished.length < programs.length then .error (cycle programs s.waiting)
  else .ok (s.finished.reverse.map (codeAt programs))

end BenefitScreen.RunOrder
