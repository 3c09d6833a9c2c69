import DocAssembly.Text.Basic

namespace DocAssembly

namespace Diff

-- The lines of a text for comparison. Here a line feed, a carriage return, or both together end a
-- line.
def lines : Text → List Text
  | [] => []
  | c :: rest =>
    if c = '\n' ∨ (c = '\r' ∧ rest.head? ≠ some '\n') then [c] :: lines rest
    else match lines rest with
      | [] => [[c]]
      | line :: others => (c :: line) :: others

inductive Run where
  | keep (lines : List Text)
  | delete (lines : List Text)
  | insert (lines : List Text)
deriving DecidableEq, Repr

structure Reach where
  columns : Array Nat
  offset : Nat

namespace Reach

def new (limit : Nat) : Reach := ⟨Array.replicate (2 * limit + 3) 0, limit + 1⟩

def get (reach : Reach) (diagonal : Int) : Nat :=
  reach.columns.getD (diagonal + reach.offset).toNat 0

def set (reach : Reach) (diagonal : Int) (column : Nat) : Reach :=
  { reach with columns := reach.columns.setIfInBounds (diagonal + reach.offset).toNat column }

end Reach

-- The number of equal lines from two places on; `fuel` bounds it.
def common (fuel : Nat) (a b : Array Text) (x y : Nat) : Nat :=
  match fuel with
  | 0 => 0
  | fuel + 1 =>
    match a[x]?, b[y]? with
    | some left, some right => if left = right then common fuel a b (x + 1) (y + 1) + 1 else 0
    | _, _ => 0

def startColumn (reach : Reach) (depth diagonal : Int) : Nat :=
  if diagonal = -depth ∨ (diagonal ≠ depth ∧ reach.get (diagonal - 1) < reach.get (diagonal + 1))
  then reach.get (diagonal + 1)
  else reach.get (diagonal - 1) + 1

def slide (a b : Array Text) (diagonal : Int) (x : Nat) : Nat :=
  let y := x - diagonal
  if 0 ≤ y ∧ x < a.size then x + common a.size a b x y.toNat else x

-- The two texts, and the same with their lines in reverse, in which the search from the end is a
-- search from the start.
structure Ends where
  a : Array Text
  b : Array Text
  reversedA : Array Text
  reversedB : Array Text

namespace Ends

def delta (ends : Ends) : Int := (ends.a.size : Int) - ends.b.size

-- One round of the search from the start, over the diagonals from `diagonal` down; `count` is the
-- number of them that are left. Stops where it meets the search from the end.
def forward (ends : Ends) (depth : Int) (back : Reach) :
    (count : Nat) → (diagonal : Int) → Reach → Reach × Option (Nat × Nat)
  | 0, _, reach => (reach, none)
  | count + 1, diagonal, reach =>
    let x := startColumn reach depth diagonal
    let column := slide ends.a ends.b diagonal x
    let reach := reach.set diagonal column
    let other := diagonal - ends.delta
    if ends.delta % 2 ≠ 0 ∧ other.natAbs ≤ depth - 1 ∧ ends.a.size ≤ column + back.get (-other) then
      (reach, some (x, (x - diagonal).toNat))
    else forward ends depth back count (diagonal - 2) reach

def backward (ends : Ends) (depth : Int) (ahead : Reach) :
    (count : Nat) → (diagonal : Int) → Reach → Reach × Option (Nat × Nat)
  | 0, _, reach => (reach, none)
  | count + 1, diagonal, reach =>
    let x := startColumn reach depth diagonal
    let column := slide ends.reversedA ends.reversedB diagonal x
    let reach := reach.set diagonal column
    let other := diagonal - ends.delta
    if ends.delta % 2 = 0 ∧ other.natAbs ≤ depth ∧ ends.a.size ≤ column + ahead.get (-other) then
      (reach, some (ends.a.size - column, ends.b.size - (column - diagonal).toNat))
    else backward ends depth ahead count (diagonal - 2) reach

def rounds (ends : Ends) : (count depth : Nat) → (ahead back : Reach) → Option (Nat × Nat)
  | 0, _, _, _ => none
  | count + 1, depth, ahead, back =>
    match forward ends depth back (depth + 1) depth ahead with
    | (_, some place) => some place
    | (ahead, none) =>
      match backward ends depth ahead (depth + 1) depth back with
      | (_, some place) => some place
      | (back, none) => rounds ends count (depth + 1) ahead back

end Ends

-- A place that a shortest way from the first text to the second goes through, as numbers of lines
-- before it.
def middle? (a b : List Text) : Option (Nat × Nat) :=
  let limit := (a.length + b.length + 1) / 2 + 1
  let ends : Ends := ⟨a.toArray, b.toArray, a.reverse.toArray, b.reverse.toArray⟩
  ends.rounds limit 0 (.new limit) (.new limit)

def commonPrefix : List Text → List Text → List Text
  | a :: as, b :: bs => if a = b then a :: commonPrefix as bs else []
  | _, _ => []

def commonSuffix (a b : List Text) : List Text := (commonPrefix a.reverse b.reverse).reverse

def run (make : List Text → Run) (lines : List Text) : List Run :=
  if lines.isEmpty then [] else [make lines]

-- The runs that lead from some lines to others: what they share at both ends is kept, and the rest
-- is cut in two where the search says so. `fuel` bounds the number of cuts on top of each other.
def compare : (fuel : Nat) → (a b : List Text) → List Run
  | 0, a, b => run .delete a ++ run .insert b
  | fuel + 1, a, b =>
    let start := commonPrefix a b
    let a := a.drop start.length
    let b := b.drop start.length
    let stop := commonSuffix a b
    let a := a.take (a.length - stop.length)
    let b := b.take (b.length - stop.length)
    let changes :=
      if a.isEmpty ∨ b.isEmpty then run .delete a ++ run .insert b
      else match middle? a b with
        | some (x, y) => compare fuel (a.take x) (b.take y) ++ compare fuel (a.drop x) (b.drop y)
        | none => run .delete a ++ run .insert b
    run .keep start ++ changes ++ run .keep stop

-- Some runs with a place among them: those before, the last one first, the run at the place, and
-- those after.
structure Place where
  before : List Run
  here : Run
  after : List Run

def keepBefore (lines : List Text) : List Run → List Run
  | .keep others :: rest => .keep (lines ++ others) :: rest
  | runs => .keep lines :: runs

-- Adds kept lines after some runs, of which the last one comes first.
def keepAfter (lines : List Text) : List Run → List Run
  | .keep others :: rest => .keep (others ++ lines) :: rest
  | runs => .keep lines :: runs

def stepUp? (place : Place) : Option Place :=
  match place.here, place.before with
  | .insert lines, .keep kept :: before =>
    let shared := commonSuffix kept lines
    if shared.isEmpty then if kept.isEmpty then some { place with before } else none
    else some {
      before := run .keep (kept.take (kept.length - shared.length)) ++ before
      here := .insert (shared ++ lines.take (lines.length - shared.length))
      after := keepBefore shared place.after }
  | .delete _, .keep kept :: before => if kept.isEmpty then some { place with before } else none
  | .insert _, .delete lines :: before => some { place with before, after := .delete lines :: place.after }
  | .delete _, .insert lines :: before => some { place with before, after := .insert lines :: place.after }
  | .insert lines, .insert others :: before => some { place with before, here := .insert (others ++ lines) }
  | .delete lines, .delete others :: before => some { place with before, here := .delete (others ++ lines) }
  | _, _ => none

def stepDown? (place : Place) : Option Place :=
  match place.here, place.after with
  | .insert lines, .keep kept :: after =>
    let shared := commonPrefix kept lines
    if shared.isEmpty then if kept.isEmpty then some { place with after } else none
    else some {
      before := keepAfter shared place.before
      here := .insert (lines.drop shared.length ++ shared)
      after := run .keep (kept.drop shared.length) ++ after }
  | .delete _, .keep kept :: after => if kept.isEmpty then some { place with after } else none
  | .insert _, .delete lines :: after => some { place with before := .delete lines :: place.before, after }
  | .delete _, .insert lines :: after => some { place with before := .insert lines :: place.before, after }
  | .insert lines, .insert others :: after => some { place with here := .insert (lines ++ others), after }
  | .delete lines, .delete others :: after => some { place with here := .delete (lines ++ others), after }
  | _, _ => none

def moveWhile (step? : Place → Option Place) : (fuel : Nat) → Place → Place
  | 0, place => place
  | fuel + 1, place =>
    match step? place with
    | some place => moveWhile step? fuel place
    | none => place

def Run.isInsert : Run → Bool
  | .insert _ => true
  | _ => false

def Run.isDelete : Run → Bool
  | .delete _ => true
  | _ => false

-- Shifts the runs of one kind, each up and then down. `before` are the runs that have been looked
-- at, the last one first; `steps` bounds the number of steps of a run and `fuel` that of runs.
def shiftFrom (chosen : Run → Bool) (steps : Nat) : (fuel : Nat) → (before after : List Run) → List Run
  | 0, before, after => before.reverse ++ after
  | _ + 1, before, [] => before.reverse
  | fuel + 1, before, here :: after =>
    if chosen here then
      let place := moveWhile stepDown? steps (moveWhile stepUp? steps ⟨before, here, after⟩)
      shiftFrom chosen steps fuel (place.here :: place.before) place.after
    else shiftFrom chosen steps fuel (here :: before) after

def Run.size : Run → Nat
  | .keep lines => lines.length + 1
  | .delete lines => lines.length + 1
  | .insert lines => lines.length + 1

def sizeOfRuns : List Run → Nat
  | [] => 0
  | run :: rest => run.size + sizeOfRuns rest

-- No run can take more steps than there are lines and runs.
def shift (chosen : Run → Bool) (runs : List Run) : List Run :=
  let size := sizeOfRuns runs
  shiftFrom chosen size (2 * size) [] runs

inductive Change where
  | keep (line : Text)
  | delete (line : Text)
  | insert (line : Text)
deriving DecidableEq, Repr

-- The changes of some runs, deletions before insertions between kept lines. `deleted` and
-- `inserted` are the lines since the last kept one.
def changesFrom (deleted inserted : List Text) : List Run → List Change
  | [] => deleted.map .delete ++ inserted.map .insert
  | .keep lines :: rest =>
    deleted.map .delete ++ inserted.map .insert ++ lines.map .keep ++ changesFrom [] [] rest
  | .delete lines :: rest => changesFrom (deleted ++ lines) inserted rest
  | .insert lines :: rest => changesFrom deleted (inserted ++ lines) rest

def changes (current expected : Text) : List Change :=
  let a := lines current
  let b := lines expected
  changesFrom [] [] (shift Run.isInsert (shift Run.isDelete (compare (a.length + b.length) a b)))

def terminated (line : Text) : Text :=
  if line.endsWith "\n" || line.endsWith "\r" then line else line ++ "\n"

def Change.render (colored : Bool) : Change → Text
  | .keep line => "   " ++ terminated line
  | .delete line => "  " ++ Text.tint colored "31" ("-" ++ terminated line)
  | .insert line => "  " ++ Text.tint colored "32" ("+" ++ terminated line)

def render (colored : Bool) (current expected : Text) : Text :=
  (changes current expected).flatMap (Change.render colored)

end Diff
end DocAssembly
