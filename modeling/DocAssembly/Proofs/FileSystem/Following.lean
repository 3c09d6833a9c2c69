import DocAssembly.Proofs.FileSystem.Growth
import DocAssembly.Proofs.Path.Names

namespace DocAssembly.FileSystem

variable {fs : FileSystem} {links : Nat} {location place there : Location} {first rest : List Step}
  {p : Path} {name other : Name}

theorem follow_append (reached : fs.follow links location first = .ok (.occupied place)) :
    ∃ left ≤ links, ∀ rest, fs.follow links location (first ++ rest) = fs.follow left place rest := by
  fun_induction FileSystem.follow fs links location first with
  | case1 links location =>
    cases reached
    exact ⟨links, Nat.le_refl _, fun _ => rfl⟩
  | case2 => cases reached
  | case3 _ _ _ there ih =>
    obtain ⟨left, fewer, goesOn⟩ := ih reached
    refine ⟨left, fewer, ?_⟩
    intro rest
    rw [List.cons_append, follow_self (Decidable.not_not.mp there), goesOn]
  | case4 _ _ _ there ih =>
    obtain ⟨left, fewer, goesOn⟩ := ih reached
    refine ⟨left, fewer, ?_⟩
    intro rest
    rw [List.cons_append, follow_up (Decidable.not_not.mp there), goesOn]
  | case5 => cases reached
  | case6 => cases reached
  | case7 => cases reached
  | case8 => cases reached
  | case9 _ _ there _ _ named _ entry _ ih =>
    obtain ⟨left, fewer, goesOn⟩ := ih reached
    refine ⟨left, Nat.le_succ_of_le fewer, ?_⟩
    intro rest
    rw [List.cons_append, follow_link (Decidable.not_not.mp there) named entry,
      ← List.append_assoc, goesOn]
  | case10 _ _ _ there _ _ named _ noLink entry ih =>
    obtain ⟨left, fewer, goesOn⟩ := ih reached
    refine ⟨left, fewer, ?_⟩
    intro rest
    rw [List.cons_append, follow_entry (Decidable.not_not.mp there) named entry noLink, goesOn]

-- Steps can only follow others when those end at a node.
theorem follow_before {ending : Place} (goesOn : rest ≠ [])
    (reached : fs.follow links location (first ++ rest) = .ok ending) :
    ∃ place, fs.follow links location first = .ok (.occupied place) := by
  fun_induction FileSystem.follow fs links location first with
  | case1 _ location => exact ⟨location, rfl⟩
  | case2 _ _ _ _ lost =>
    rw [List.cons_append, follow.eq_def] at reached
    simp [lost] at reached
  | case3 _ _ _ there ih =>
    rw [List.cons_append, follow_self (Decidable.not_not.mp there)] at reached
    exact ih reached
  | case4 _ _ _ there ih =>
    rw [List.cons_append, follow_up (Decidable.not_not.mp there)] at reached
    exact ih reached
  | case5 _ _ _ there _ _ refused =>
    rw [List.cons_append, follow.eq_def] at reached
    simp [Decidable.not_not.mp there, refused] at reached
  | case6 _ _ there _ _ named free =>
    rw [List.cons_append, follow.eq_def] at reached
    simp [Decidable.not_not.mp there, named, free, goesOn] at reached
  | case7 _ _ _ there _ _ named free _ =>
    rw [List.cons_append, follow.eq_def] at reached
    simp [Decidable.not_not.mp there, named, free, goesOn] at reached
  | case8 _ _ there _ _ named _ entry =>
    rw [List.cons_append, follow.eq_def] at reached
    simp [Decidable.not_not.mp there, named, entry] at reached
  | case9 _ _ there _ _ named _ entry _ ih =>
    rw [List.cons_append, follow_link (Decidable.not_not.mp there) named entry,
      ← List.append_assoc] at reached
    exact ih reached
  | case10 _ _ _ there _ _ named _ noLink entry ih =>
    rw [List.cons_append, follow_entry (Decidable.not_not.mp there) named entry noLink] at reached
    exact ih reached

theorem follow_mono {wider : Nat} {ending : Place} (more : links ≤ wider)
    (reached : fs.follow links location first = .ok ending) :
    fs.follow wider location first = .ok ending := by
  fun_induction FileSystem.follow fs links location first generalizing wider with
  | case1 =>
    cases reached
    exact follow_nil
  | case2 => cases reached
  | case3 _ _ _ there ih =>
    rw [follow_self (Decidable.not_not.mp there)]
    exact ih more reached
  | case4 _ _ _ there ih =>
    rw [follow_up (Decidable.not_not.mp there)]
    exact ih more reached
  | case5 => cases reached
  | case6 _ _ there _ _ named free =>
    rw [follow.eq_def]
    simpa [Decidable.not_not.mp there, named, free] using reached
  | case7 => cases reached
  | case8 => cases reached
  | case9 _ _ there _ _ named _ entry _ ih =>
    obtain ⟨wider, rfl⟩ := Nat.exists_eq_add_of_le' (Nat.le_trans (Nat.le_add_left 1 _) more)
    rw [follow_link (Decidable.not_not.mp there) named entry]
    exact ih (Nat.le_of_succ_le_succ more) reached
  | case10 _ _ _ there _ _ named _ noLink entry ih =>
    rw [follow_entry (Decidable.not_not.mp there) named entry noLink]
    exact ih more reached

theorem lookups_self (rest : List Step) :
    fs.lookups links location (.self :: rest) = fs.lookups links location rest := by
  rw [lookups]

theorem lookups_append_self (todo : List Step) :
    fs.lookups links location (todo ++ [.self]) = fs.lookups links location todo := by
  fun_induction FileSystem.lookups fs links location todo with
  | case1 => rw [List.nil_append, lookups_self, lookups]
  | case2 links location rest ih => rw [List.cons_append, lookups_self, ih]
  | case3 links location rest ih => rw [List.cons_append, lookups, ih]
  | case4 links location piece rest error refused =>
    rw [List.cons_append, lookups]
    simp only [refused]
  | case5 location piece rest name named target entry =>
    rw [List.cons_append, lookups]
    simp only [named, entry]
  | case6 location piece rest name named target entry links ih =>
    rw [List.cons_append, lookups]
    simp only [named, entry]
    rw [← List.append_assoc, ih]
  | case7 links location piece rest name named noLink ih =>
    rw [List.cons_append, lookups]
    simp only [named]
    rw [ih]

theorem lookups_steps (p : Path) :
    fs.lookups links location (steps p) = fs.lookups links location (namedSteps p) := by
  unfold steps
  split
  · exact lookups_append_self _
  · rw [List.append_nil]

theorem node?_mem {node : Node} (there : fs.node? (name :: place) = some node) :
    (name :: place, node) ∈ fs.nodes := by
  obtain ⟨before, after, listed, _⟩ := List.lookup_eq_some_iff.mp there
  simp [listed]

theorem mem_names : name ∈ fs.names place ↔ ∃ node, fs.node? (name :: place) = some node := by
  rw [names, List.mem_eraseDups, ← Option.isSome_iff_exists, node?, if_neg (List.cons_ne_nil _ _),
    List.lookup_isSome_iff, List.mem_filterMap]
  refine exists_congr fun entry => and_congr_right fun _ => ?_
  obtain ⟨location, node⟩ := entry
  cases location with
  | nil => simp
  | cons own parent => grind

theorem directoryAt?_eq_some : fs.directoryAt? p = some location ↔
    fs.locate p = .ok location ∧ fs.node? location = some .directory := by
  rw [← canonical?_eq_some, directoryAt?]
  cases fs.canonical? p with
  | none => simp
  | some own =>
    by_cases directory : fs.node? own = some .directory
    · simp only [directory, if_true, Option.some.injEq]
      exact ⟨fun same => ⟨same, same ▸ directory⟩, And.left⟩
    · simp only [directory, if_false, reduceCtorEq, Option.some.injEq, false_iff, not_and]
      rintro rfl
      exact directory

theorem follow_namedSteps (leads : fs.directoryAt? p = some place) :
    fs.follow maxLinks (start p fs.workingDirectory) (namedSteps p) = .ok (.occupied place) := by
  have reached := (locate_eq_ok.mp (directoryAt?_eq_some.mp leads).1).2
  unfold steps at reached
  split at reached
  · obtain ⟨middle, before⟩ := follow_before (List.cons_ne_nil _ _) reached
    obtain ⟨left, _, goesOn⟩ := follow_append before
    rw [goesOn] at reached
    by_cases directory : fs.node? middle = some .directory
    · rw [follow_self directory, follow_nil] at reached
      exact before.trans reached
    · rw [follow.eq_def] at reached
      simp [directory] at reached
  · simpa using reached

theorem follow_join (leads : fs.directoryAt? p = some place) (name : Name) :
    ∃ left ≤ maxLinks,
      fs.follow maxLinks (start (p.join name) fs.workingDirectory) (steps (p.join name)) =
        fs.follow left place [.down name.text] := by
  obtain ⟨left, fewer, goesOn⟩ := follow_append (follow_namedSteps leads)
  rw [start_join, steps_join]
  exact ⟨left, fewer, goesOn _⟩

def Unlinked (fs : FileSystem) (place : Location) (name : Name) : Prop :=
  ∀ target location, fs.node? (name :: place) = some (.link target) →
    fs.follow maxLinks place [.down name.text] = .ok (.occupied location) →
    fs.node? location ≠ some .directory

theorem directoryAt?_join (leads : fs.directoryAt? p = some place)
    (unlinked : fs.Unlinked place name) : fs.directoryAt? (p.join name) = some there ↔
      there = name :: place ∧ fs.node? (name :: place) = some .directory ∧
        (p.join name).spelling.utf8.length < pathLengthLimit := by
  obtain ⟨located, directory⟩ := directoryAt?_eq_some.mp leads
  obtain ⟨left, fewer, goesOn⟩ := follow_join leads name
  rw [directoryAt?_eq_some, locate_eq_ok, checkSpelling_join name (locate_eq_ok.mp located).1,
    goesOn]
  cases entry : fs.node? (name :: place) with
  | none =>
    rw [follow.eq_def]
    simp [directory, entry]
  | some node =>
    cases node with
    | file content =>
      rw [follow_entry directory name.ofPiece_text entry nofun, follow_nil]
      simp only [Except.ok.injEq, Place.occupied.injEq, Option.some.injEq, reduceCtorEq, false_and,
        and_false, iff_false, not_and, and_imp]
      rintro _ rfl
      simp [entry]
    | directory =>
      rw [follow_entry directory name.ofPiece_text entry nofun, follow_nil]
      simp only [Except.ok.injEq, Place.occupied.injEq, true_and]
      constructor
      · rintro ⟨⟨limited, rfl⟩, _⟩
        exact ⟨rfl, limited⟩
      · rintro ⟨rfl, limited⟩
        exact ⟨⟨limited, rfl⟩, entry⟩
    | link target =>
      simp only [Option.some.injEq, reduceCtorEq, false_and, and_false, iff_false, not_and, and_imp]
      intro _ reached
      exact unlinked target there entry (follow_mono fewer reached)

-- The system cannot tell where a directory is just when a place on the way is too far down.
theorem resolve?_eq_none (leads : fs.directoryAt? p = some place) : fs.resolve? p = none ↔
    ∃ looked ∈ fs.lookups maxLinks (start p fs.workingDirectory) (steps p),
      isAddressable looked = false := by
  have located := canonical?_eq_some.mpr (directoryAt?_eq_some.mp leads).1
  rw [resolve?, located]
  simp

-- A path as the name of an entry after the path of its directory, with the place of the directory.
structure Spells (fs : FileSystem) (p directory : Path) (place : Location) (name : Name) : Prop where
  spelled : p = directory.join name
  leads : fs.directoryAt? directory = some place

-- The directory can only be spelled with or without a separator at its end. That changes neither
-- its place nor whether the system can tell it.
theorem Spells.unique {directory directoryToo : Path} (spells : fs.Spells p directory place name)
    (spellsToo : fs.Spells p directoryToo there other) :
    place = there ∧ name = other ∧ fs.resolve? directory = fs.resolve? directoryToo := by
  obtain ⟨rfl, leads⟩ := spells
  obtain ⟨spelled, leadsToo⟩ := spellsToo
  have names : name = other := by
    have last := congrArg Path.fileName? spelled
    rw [Path.fileName?_join name.isPiece, Path.fileName?_join other.isPiece] at last
    exact Name.ext (Option.some.inj last)
  subst names
  have started : start directory fs.workingDirectory = start directoryToo fs.workingDirectory := by
    rw [← start_join directory name, spelled, start_join]
  have goes : namedSteps directory = namedSteps directoryToo := by
    have all := congrArg steps spelled
    rw [steps_join, steps_join] at all
    exact List.append_cancel_right all
  have reached := follow_namedSteps leads
  rw [started, goes, follow_namedSteps leadsToo] at reached
  cases reached
  refine ⟨rfl, rfl, ?_⟩
  have located := canonical?_eq_some.mpr (directoryAt?_eq_some.mp leads).1
  have locatedToo := canonical?_eq_some.mpr (directoryAt?_eq_some.mp leadsToo).1
  rw [resolve?, resolve?, lookups_steps, lookups_steps, started, goes, located, locatedToo]

end DocAssembly.FileSystem
