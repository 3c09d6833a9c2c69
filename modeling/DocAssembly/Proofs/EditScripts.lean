import DocAssembly.Diff
import Mathlib.Data.List.Infix

namespace DocAssembly.Diff

inductive Leads : List Text → List Text → List Change → Prop where
  | done : Leads [] [] []
  | keep : Leads a b script → Leads (line :: a) (line :: b) (.keep line :: script)
  | delete : Leads a b script → Leads (line :: a) b (.delete line :: script)
  | insert : Leads a b script → Leads a (line :: b) (.insert line :: script)

namespace Leads

variable {a b c d : List Text} {first second : List Change}

theorem append (one : Leads a b first) (two : Leads c d second) :
    Leads (a ++ c) (b ++ d) (first ++ second) := by
  induction one with
  | done => exact two
  | keep _ ih => exact .keep ih
  | delete _ ih => exact .delete ih
  | insert _ ih => exact .insert ih

theorem keeps (lines : List Text) : Leads lines lines (lines.map .keep) := by
  induction lines with
  | nil => exact .done
  | cons line rest ih => exact .keep ih

theorem deletes (lines : List Text) : Leads lines [] (lines.map .delete) := by
  induction lines with
  | nil => exact .done
  | cons line rest ih => exact .delete ih

theorem inserts (lines : List Text) : Leads [] lines (lines.map .insert) := by
  induction lines with
  | nil => exact .done
  | cons line rest ih => exact .insert ih

theorem replaces (a b : List Text) : Leads a b (a.map .delete ++ b.map .insert) := by
  simpa using (deletes a).append (inserts b)

end Leads

def Run.source : Run → List Text
  | .keep lines | .delete lines => lines
  | .insert _ => []

def Run.target : Run → List Text
  | .keep lines | .insert lines => lines
  | .delete _ => []

structure Joins (a b : List Text) (runs : List Run) : Prop where
  source : runs.flatMap Run.source = a
  target : runs.flatMap Run.target = b

structure Same (runs others : List Run) : Prop where
  source : runs.flatMap Run.source = others.flatMap Run.source
  target : runs.flatMap Run.target = others.flatMap Run.target

section Comparing

variable {a b c d lines : List Text} {runs others more : List Run}

theorem Same.refl (runs : List Run) : Same runs runs := ⟨rfl, rfl⟩

theorem Same.trans (one : Same runs others) (two : Same others more) : Same runs more :=
  ⟨one.source.trans two.source, one.target.trans two.target⟩

theorem Joins.of_same (joins : Joins a b others) (same : Same runs others) : Joins a b runs :=
  ⟨same.source.trans joins.source, same.target.trans joins.target⟩

theorem Joins.append (one : Joins a b runs) (two : Joins c d others) :
    Joins (a ++ c) (b ++ d) (runs ++ others) := by
  constructor
  · rw [List.flatMap_append, one.source, two.source]
  · rw [List.flatMap_append, one.target, two.target]

theorem joins_eq (joins : Joins a b runs) (source : a = c) (target : b = d) : Joins c d runs :=
  ⟨joins.source.trans source, joins.target.trans target⟩

theorem source_run {make : List Text → Run} (empty : (make []).source = []) :
    (run make lines).flatMap Run.source = (make lines).source := by
  unfold run
  split
  · next none => rw [List.isEmpty_iff.mp none, empty]; rfl
  · simp

theorem target_run {make : List Text → Run} (empty : (make []).target = []) :
    (run make lines).flatMap Run.target = (make lines).target := by
  unfold run
  split
  · next none => rw [List.isEmpty_iff.mp none, empty]; rfl
  · simp

theorem joins_keep (lines : List Text) : Joins lines lines (run .keep lines) :=
  ⟨source_run rfl, target_run rfl⟩

theorem joins_replace (a b : List Text) : Joins a b (run .delete a ++ run .insert b) := by
  constructor
  · rw [List.flatMap_append, source_run rfl, source_run rfl]
    exact List.append_nil a
  · rw [List.flatMap_append, target_run rfl, target_run rfl]
    rfl

theorem commonPrefix_begins (a b : List Text) :
    commonPrefix a b <+: a ∧ commonPrefix a b <+: b := by
  induction a generalizing b with
  | nil => exact ⟨List.nil_prefix, List.nil_prefix⟩
  | cons line rest ih =>
    cases b with
    | nil => exact ⟨List.nil_prefix, List.nil_prefix⟩
    | cons other others =>
      unfold commonPrefix
      split
      · next same =>
        subst same
        simpa using ih others
      · exact ⟨List.nil_prefix, List.nil_prefix⟩

theorem commonSuffix_ends (a b : List Text) :
    commonSuffix a b <:+ a ∧ commonSuffix a b <:+ b := by
  obtain ⟨first, second⟩ := commonPrefix_begins a.reverse b.reverse
  exact ⟨List.reverse_prefix.mp (by simpa [commonSuffix] using first),
    List.reverse_prefix.mp (by simpa [commonSuffix] using second)⟩

theorem prefix_parts (begins : c <+: a) : c ++ a.drop c.length = a :=
  (List.prefix_iff_eq_append.mp begins)

theorem suffix_parts (ends : c <:+ a) : a.take (a.length - c.length) ++ c = a :=
  (List.suffix_iff_eq_append.mp ends)

theorem Joins.halves {x y : Nat} (first : Joins (a.take x) (b.take y) runs)
    (second : Joins (a.drop x) (b.drop y) others) : Joins a b (runs ++ others) := by
  apply joins_eq (first.append second)
  · exact List.take_append_drop x a
  · exact List.take_append_drop y b

-- What two texts share at both ends is kept, whatever is made of the rest.
theorem Joins.between {start stop : List Text} (startA : start <+: a) (startB : start <+: b)
    (stopA : stop <:+ a.drop start.length) (stopB : stop <:+ b.drop start.length)
    (joins : Joins ((a.drop start.length).take ((a.drop start.length).length - stop.length))
      ((b.drop start.length).take ((b.drop start.length).length - stop.length)) runs) :
    Joins a b (run .keep start ++ runs ++ run .keep stop) := by
  apply joins_eq (((joins_keep start).append joins).append (joins_keep stop))
  · rw [List.append_assoc, suffix_parts stopA, prefix_parts startA]
  · rw [List.append_assoc, suffix_parts stopB, prefix_parts startB]

-- By induction on the number of cuts. The middle may be anywhere, as each text is the two parts that
-- it is cut in.
theorem compare_joins (fuel : Nat) (a b : List Text) : Joins a b (compare fuel a b) := by
  induction fuel generalizing a b with
  | zero => exact joins_replace a b
  | succ fuel ih =>
    obtain ⟨startA, startB⟩ := commonPrefix_begins a b
    obtain ⟨stopA, stopB⟩ := commonSuffix_ends (a.drop (commonPrefix a b).length)
      (b.drop (commonPrefix a b).length)
    unfold compare
    dsimp only
    apply Joins.between startA startB stopA stopB
    split
    · exact joins_replace _ _
    · split
      · exact Joins.halves (ih _ _) (ih _ _)
      · exact joins_replace _ _

end Comparing

def Place.runs (place : Place) : List Run := place.before.reverse ++ place.here :: place.after

theorem Place.runs_cons (place : Place) :
    (place.here :: place.before).reverse ++ place.after = place.runs := by
  rw [List.reverse_cons, List.append_assoc]
  rfl

variable {place next : Place}

theorem keepBefore_same (lines : List Text) (runs : List Run) :
    Same (keepBefore lines runs) (.keep lines :: runs) := by
  unfold keepBefore
  split
  · constructor <;> simp [Run.source, Run.target]
  · exact Same.refl _

theorem keepAfter_same (lines : List Text) (runs : List Run) :
    Same (keepAfter lines runs).reverse (runs.reverse ++ [.keep lines]) := by
  unfold keepAfter
  split
  · constructor <;> simp [Run.source, Run.target]
  · rw [List.reverse_cons]
    exact Same.refl _

theorem run_reverse (make : List Text → Run) (lines : List Text) :
    (run make lines).reverse = run make lines := by
  unfold run
  split <;> rfl

theorem insertUp_same (kept lines shared : List Text) (before after : List Run) :
    Same (Place.runs ⟨run .keep kept ++ before, .insert (shared ++ lines), keepBefore shared after⟩)
      (Place.runs ⟨.keep (kept ++ shared) :: before, .insert (lines ++ shared), after⟩) := by
  have later := keepBefore_same shared after
  have first := joins_keep kept
  constructor
  · simp [Place.runs, run_reverse, later.source, first.source, Run.source]
  · simp [Place.runs, run_reverse, later.target, first.target, Run.target]

theorem insertDown_same (kept lines shared : List Text) (before after : List Run) :
    Same (Place.runs ⟨keepAfter shared before, .insert (lines ++ shared), run .keep kept ++ after⟩)
      (Place.runs ⟨before, .insert (shared ++ lines), .keep (shared ++ kept) :: after⟩) := by
  have earlier := keepAfter_same shared before
  have last := joins_keep kept
  constructor
  · simp [Place.runs, earlier.source, last.source, Run.source]
  · simp [Place.runs, earlier.target, last.target, Run.target]

theorem emptyBefore_same {kept : List Text} (none : kept.isEmpty) (before after : List Run)
    (here : Run) : Same (Place.runs ⟨before, here, after⟩)
      (Place.runs ⟨.keep kept :: before, here, after⟩) := by
  rw [List.isEmpty_iff.mp none]
  constructor <;> simp [Place.runs, Run.source, Run.target]

theorem emptyAfter_same {kept : List Text} (none : kept.isEmpty) (before after : List Run)
    (here : Run) : Same (Place.runs ⟨before, here, after⟩)
      (Place.runs ⟨before, here, .keep kept :: after⟩) := by
  rw [List.isEmpty_iff.mp none]
  constructor <;> simp [Place.runs, Run.source, Run.target]

theorem stepUp?_same (moved : stepUp? place = some next) : Same next.runs place.runs := by
  obtain ⟨before, here, after⟩ := place
  unfold stepUp? at moved
  dsimp only at moved
  split at moved
  · next lines kept before =>
    obtain ⟨inKept, inLines⟩ := commonSuffix_ends kept lines
    split at moved
    · split at moved
      · next none =>
        cases Option.some.inj moved
        exact emptyBefore_same none before after _
      · cases moved
    · cases Option.some.inj moved
      have same := insertUp_same (kept.take (kept.length - (commonSuffix kept lines).length))
        (lines.take (lines.length - (commonSuffix kept lines).length)) (commonSuffix kept lines)
        before after
      rw [suffix_parts inKept, suffix_parts inLines] at same
      exact same
  · next kept before =>
    split at moved
    · next none =>
      cases Option.some.inj moved
      exact emptyBefore_same none before after _
    · cases moved
  all_goals cases moved
  all_goals constructor <;> simp [Place.runs, Run.source, Run.target]

theorem stepDown?_same (moved : stepDown? place = some next) : Same next.runs place.runs := by
  obtain ⟨before, here, after⟩ := place
  unfold stepDown? at moved
  dsimp only at moved
  split at moved
  · next lines kept after =>
    obtain ⟨inKept, inLines⟩ := commonPrefix_begins kept lines
    split at moved
    · split at moved
      · next none =>
        cases Option.some.inj moved
        exact emptyAfter_same none before after _
      · cases moved
    · cases Option.some.inj moved
      have same := insertDown_same (kept.drop (commonPrefix kept lines).length)
        (lines.drop (commonPrefix kept lines).length) (commonPrefix kept lines) before after
      rw [prefix_parts inKept, prefix_parts inLines] at same
      exact same
  · next kept after =>
    split at moved
    · next none =>
      cases Option.some.inj moved
      exact emptyAfter_same none before after _
    · cases moved
  all_goals cases moved
  all_goals constructor <;> simp [Place.runs, Run.source, Run.target]

theorem moveWhile_same {step? : Place → Option Place}
    (keeps : ∀ {place next}, step? place = some next → Same next.runs place.runs)
    (fuel : Nat) (place : Place) : Same (moveWhile step? fuel place).runs place.runs := by
  induction fuel generalizing place with
  | zero => exact Same.refl _
  | succ fuel ih =>
    unfold moveWhile
    cases moved : step? place with
    | none => exact Same.refl _
    | some next => exact (ih next).trans (keeps moved)

theorem moved_same (steps : Nat) (place : Place) :
    Same (moveWhile stepDown? steps (moveWhile stepUp? steps place)).runs place.runs := by
  have up := moveWhile_same @stepUp?_same steps place
  have down := moveWhile_same @stepDown?_same steps (moveWhile stepUp? steps place)
  exact down.trans up

theorem shiftFrom_same (chosen : Run → Bool) (steps fuel : Nat) (before after : List Run) :
    Same (shiftFrom chosen steps fuel before after) (before.reverse ++ after) := by
  induction fuel generalizing before after with
  | zero => exact Same.refl _
  | succ fuel ih =>
    cases after with
    | nil =>
      rw [List.append_nil]
      exact Same.refl _
    | cons here after =>
      unfold shiftFrom
      split
      · have moved := moved_same steps ⟨before, here, after⟩
        dsimp only
        generalize moveWhile stepDown? steps (moveWhile stepUp? steps ⟨before, here, after⟩) = place
          at moved ⊢
        have later := ih (place.here :: place.before) place.after
        rw [Place.runs_cons] at later
        exact later.trans moved
      · have later := ih (here :: before) after
        rw [List.reverse_cons, List.append_assoc] at later
        exact later

theorem shift_same (chosen : Run → Bool) (runs : List Run) : Same (shift chosen runs) runs :=
  shiftFrom_same chosen _ _ [] runs

-- By induction on the runs, whatever was deleted and inserted since the last kept line.
theorem changesFrom_leads (deleted inserted : List Text) (runs : List Run) :
    Leads (deleted ++ runs.flatMap Run.source) (inserted ++ runs.flatMap Run.target)
      (changesFrom deleted inserted runs) := by
  induction runs generalizing deleted inserted with
  | nil =>
    simp only [List.flatMap_nil, List.append_nil]
    exact .replaces deleted inserted
  | cons run rest ih =>
    cases run with
    | keep lines =>
      have all := ((Leads.replaces deleted inserted).append (.keeps lines)).append (ih [] [])
      simpa [Run.source, Run.target, changesFrom] using all
    | delete lines =>
      have all := ih (deleted ++ lines) inserted
      simpa [Run.source, Run.target, changesFrom] using all
    | insert lines =>
      have all := ih deleted (inserted ++ lines)
      simpa [Run.source, Run.target, changesFrom] using all

theorem Joins.leads {a b : List Text} {runs : List Run} (joins : Joins a b runs) :
    Leads a b (changesFrom [] [] runs) := by
  have all := changesFrom_leads [] [] runs
  rw [joins.source, joins.target] at all
  exact all

theorem changes_leads (current expected : Text) :
    Leads (lines current) (lines expected) (changes current expected) := by
  have compared := compare_joins ((lines current).length + (lines expected).length)
    (lines current) (lines expected)
  have shifted := (compared.of_same (shift_same Run.isDelete _)).of_same (shift_same Run.isInsert _)
  exact shifted.leads

end DocAssembly.Diff
