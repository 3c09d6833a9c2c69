import DocAssembly.Proofs.FileSystem.Following

namespace DocAssembly.FileSystem

variable {before after : FileSystem} {p : Path} {content : Content}

theorem locateForWriting_parts {place : Place} (leads : before.locateForWriting p = .ok place) :
    checkSpelling p = .ok () ∧
      before.follow maxLinks (start p before.workingDirectory) (steps p) = .ok place := by
  unfold locateForWriting at leads
  obtain ⟨_, spelled, found⟩ := bind_eq_ok.mp leads
  split at found
  · -- Such a path means a directory; nothing is written under it.
    obtain ⟨_, _, ends⟩ := bind_eq_ok.mp found
    exact absurd ends throw_ne_ok
  · exact ⟨spelled, found⟩

theorem placeToWrite_parts {location : Location} (leads : before.placeToWrite p = .ok location) :
    location ≠ [] ∧ checkSpelling p = .ok () ∧ ∃ place : Place, place.location = location ∧
      before.follow maxLinks (start p before.workingDirectory) (steps p) = .ok place ∧
      (before.node? location = none ∨ ∃ old, before.node? location = some (.file old)) := by
  unfold placeToWrite at leads
  obtain ⟨place, found, ends⟩ := bind_eq_ok.mp leads
  obtain ⟨spelled, reached⟩ := locateForWriting_parts found
  cases place with
  | vacant directory name =>
    cases pure_eq_ok.mp ends
    exact ⟨List.cons_ne_nil _ _, spelled, _, rfl, reached, .inl (follow_vacant reached).2⟩
  | occupied place =>
    dsimp only at ends
    split at ends
    · next old there =>
      cases pure_eq_ok.mp ends
      refine ⟨?_, spelled, _, rfl, reached, .inr ⟨old, there⟩⟩
      -- The root is a directory.
      rintro rfl
      cases there
    · exact absurd ends throw_ne_ok

-- Whether a path leads to a file with some content, and no other file has been touched.
def Stores (p : Path) (content : Content) (before after : FileSystem) : Prop :=
  ∃ location, Grows (· = location) before after ∧ after.locate p = .ok location ∧
    after.node? location = some (.file content)

theorem Stores.of_way {middle : FileSystem} (stores : Stores p content middle after)
    (way : Grows (fun _ => False) before middle) : Stores p content before after := by
  obtain ⟨location, grown, leads, there⟩ := stores
  exact ⟨location, (way.mono nofun).trans grown, leads, there⟩

theorem placeToWrite_put {location : Location} (leads : before.placeToWrite p = .ok location)
    (content : Content) : Stores p content before (before.put location (.file content)) := by
  obtain ⟨inside, spelled, place, rfl, reached, free⟩ := placeToWrite_parts leads
  have there : (before.put place.location (.file content)).node? place.location =
      some (.file content) := by
    rw [node?_put _ inside, if_pos rfl]
  have grown : Grows (· = place.location) before
      (before.put place.location (.file content)) := by
    refine Grows.put inside ?_
    rcases free with free | ⟨old, file⟩
    · exact free ▸ .filed content rfl
    · exact file ▸ .rewritten old content rfl
  refine ⟨place.location, grown, locate_eq_ok.mpr ⟨spelled, ?_⟩, there⟩
  rw [grown.home]
  refine grown.follow reached ?_
  rintro directory name rfl
  exact ⟨content, there⟩

-- How writing a file can end: with nothing done, with all that was to be written in its place, or
-- with a first part of it there.
inductive Writes (fs : FileSystem) (p : Path) (content : Content) : Outcome FileError → Prop where
  | refused {error : FileError} : fs.placeToWrite p = .error error →
      Writes fs p content { fs, error := some error }
  | done {location : Location} : fs.placeToWrite p = .ok location →
      (fs.openFile location).shortage? location content = none →
      Writes fs p content { fs := fs.put location (.file content) }
  | cut {location : Location} {kept : List UInt8} : fs.placeToWrite p = .ok location →
      (fs.openFile location).shortage? location content = some kept.length →
      kept <+: content.bytes → kept ≠ content.bytes →
      Writes fs p content { fs := fs.put location (.file (.ofBytes kept)), error := some .noSpace }

theorem write_writes (fs : FileSystem) (p : Path) (content : Content) :
    Writes fs p content (fs.write p content) := by
  unfold write
  cases leads : fs.placeToWrite p with
  | error error => exact .refused leads
  | ok location =>
    dsimp only
    unfold fill
    split
    · next fits =>
      rw [openFile, put_put]
      exact .done leads fits
    · next room short =>
      have beyond : room < content.bytes.length := by
        simpa using (Option.filter_eq_some_iff.mp short).2
      have length : (content.bytes.take room).length = room := by
        rw [List.length_take, Nat.min_eq_left (Nat.le_of_lt beyond)]
      rw [openFile, put_put]
      refine .cut leads (length.symm ▸ short) (List.take_prefix _ _) ?_
      intro whole
      rw [whole] at length
      exact Nat.ne_of_gt beyond length

theorem write_stores (done : (before.write p content).error = none) :
    Stores p content before (before.write p content).fs := by
  have ends := write_writes before p content
  generalize before.write p content = outcome at done ends
  cases ends with
  | refused | cut => cases done
  | done leads _ => exact placeToWrite_put leads content

theorem write_stops {error : FileError} (failed : (before.write p content).error = some error) :
    (before.write p content).fs = before ∨ ∃ kept, kept <+: content.bytes ∧ kept ≠ content.bytes ∧
      Stores p (.ofBytes kept) before (before.write p content).fs := by
  have ends := write_writes before p content
  generalize before.write p content = outcome at failed ends
  cases ends with
  | refused => exact .inl rfl
  | done => cases failed
  | cut leads _ begins less => exact .inr ⟨_, begins, less, placeToWrite_put leads _⟩

theorem write_grows (before : FileSystem) (p : Path) (content : Content) :
    Grows (fun _ => True) before (before.write p content).fs := by
  have ends := write_writes before p content
  generalize before.write p content = outcome at ends
  cases ends with
  | refused => exact .refl _
  | done leads | cut leads =>
    obtain ⟨_, grown, _⟩ := placeToWrite_put leads _
    exact grown.mono fun _ _ => trivial

theorem locateParent_eq_ok {steps : List Step} {parent : Location} :
    before.locateParent p steps = .ok parent ↔
      before.follow maxLinks (start p before.workingDirectory) steps = .ok (.occupied parent) ∧
        before.node? parent = some .directory := by
  unfold locateParent
  rw [bind_eq_ok]
  constructor
  · rintro ⟨place, reached, ends⟩
    cases place with
    | vacant directory name => exact absurd ends throw_ne_ok
    | occupied location =>
      by_cases there : before.node? location = some .directory
      · simp only [there, if_true, pure_eq_ok] at ends
        exact ends ▸ ⟨reached, there⟩
      · simp [there] at ends
  · rintro ⟨reached, there⟩
    exact ⟨_, reached, by simp [there]⟩

theorem create_parts {node : Node} (made : before.create p node = .ok after) :
    ∃ parent, ∃ name : Name, checkSpelling p = .ok () ∧
      before.locateParent p (namedSteps p).dropLast = .ok parent ∧
      (namedSteps p).getLast? = some (.down name.text) ∧
      before.node? (name :: parent) = none ∧ before.put (name :: parent) node = after := by
  unfold create at made
  obtain ⟨_, spelled, found⟩ := bind_eq_ok.mp made
  obtain ⟨parent, leads, entered⟩ := bind_eq_ok.mp found
  split at entered
  · next piece last =>
    obtain ⟨name, named, added⟩ := bind_eq_ok.mp entered
    split at added
    · exact absurd added throw_ne_ok
    · next free =>
      cases Name.ofPiece_eq_ok.mp named
      refine ⟨parent, name, spelled, leads, last, ?_, pure_eq_ok.mp added⟩
      simpa using free
  · exact absurd entered throw_ne_ok

theorem makeDirectory_parts (made : before.makeDirectory p = .ok after) :
    ∃ location, location ≠ [] ∧ before.node? location = none ∧
      before.put location .directory = after := by
  obtain ⟨parent, name, _, _, _, free, done⟩ := create_parts made
  exact ⟨name :: parent, List.cons_ne_nil _ _, free, done⟩

theorem makeDirectory_grows {written : Location → Prop}
    (made : before.makeDirectory p = .ok after) : Grows written before after := by
  obtain ⟨location, inside, free, rfl⟩ := makeDirectory_parts made
  exact Grows.put inside (free ▸ .made)

theorem makeFirst_grows (written : Location → Prop) (before : FileSystem) (paths : List Path) :
    Grows written before (before.makeFirst paths).fs := by
  induction paths generalizing before with
  | nil => exact Grows.refl _
  | cons p shorter ih =>
    unfold makeFirst
    split
    · exact Grows.refl _
    · split
      · next made => exact makeDirectory_grows made
      · -- Some directory on the way was missing, so the shorter paths are made first.
        have way := ih before
        split
        · next same => rwa [same] at way
        · next same =>
          rw [same] at way
          split
          · next made => exact way.trans (makeDirectory_grows made)
          · exact way
      · exact Grows.refl _

theorem makeDirectories_grows (written : Location → Prop) (before : FileSystem) (p : Path) :
    Grows written before (before.makeDirectories p).fs :=
  makeFirst_grows written before (ancestors p)

-- Whether all directories that are new are at the places of some paths.
def Made (paths : List Path) (before after : FileSystem) : Prop :=
  ∀ place, before.node? place = none → after.node? place = some .directory →
    ∃ p ∈ paths, after.locate p = .ok place

variable {middle : FileSystem} {paths wider : List Path}

namespace Made

theorem refl (fs : FileSystem) : Made paths fs fs := by
  intro place free there
  cases free.symm.trans there

theorem mono (among : paths ⊆ wider) (made : Made paths before after) : Made wider before after := by
  intro place free there
  obtain ⟨p, member, leads⟩ := made place free there
  exact ⟨p, among member, leads⟩

theorem trans {written : Location → Prop} (first : Made paths before middle)
    (grown : Grows written middle after) (last : Made paths middle after) :
    Made paths before after := by
  intro place free there
  cases between : middle.node? place with
  | none => exact last place between there
  | some node =>
    cases node with
    | directory =>
      obtain ⟨p, member, leads⟩ := first place free between
      exact ⟨p, member, grown.locate leads⟩
    | file content =>
      obtain ⟨new, file⟩ := grown.file between
      cases file.symm.trans there
    | link target => cases (grown.link between).symm.trans there

end Made

theorem makeDirectory_leads (made : before.makeDirectory p = .ok after) :
    ∃ location, location ≠ [] ∧ before.put location .directory = after ∧
      after.locate p = .ok location := by
  have grown : Grows (fun _ => True) before after := makeDirectory_grows made
  obtain ⟨parent, name, spelled, leads, last, free, rfl⟩ := create_parts made
  obtain ⟨reached, there⟩ := locateParent_eq_ok.mp leads
  refine ⟨name :: parent, List.cons_ne_nil _ _, rfl, locate_eq_ok.mpr ⟨spelled, ?_⟩⟩
  have entry : (before.put (name :: parent) .directory).node? (name :: parent) =
      some .directory := by
    rw [node?_put _ (List.cons_ne_nil _ _), if_pos rfl]
  have way : namedSteps p = (namedSteps p).dropLast ++ [.down name.text] :=
    (List.dropLast_append_getLast? _ last).symm
  obtain ⟨left, _, goesOn⟩ := follow_append (grown.follow reached (by simp))
  rw [put_workingDirectory, steps, way, List.append_assoc]
  rw [goesOn, Place.location, List.singleton_append,
    follow_entry (grown.directory there) name.ofPiece_text entry (by simp)]
  split
  · rw [follow_self entry, follow_nil]
  · exact follow_nil

theorem makeDirectory_made (made : before.makeDirectory p = .ok after) :
    Made [p] before after := by
  obtain ⟨location, inside, rfl, leads⟩ := makeDirectory_leads made
  intro place free there
  rw [node?_put _ inside] at there
  split at there
  · next same => exact ⟨p, List.mem_singleton_self p, same ▸ leads⟩
  · cases free.symm.trans there

theorem makeFirst_made (before : FileSystem) (paths : List Path) :
    Made paths before (before.makeFirst paths).fs := by
  induction paths generalizing before with
  | nil => exact .refl _
  | cons p shorter ih =>
    have own : [p] ⊆ p :: shorter := by simp
    have others : shorter ⊆ p :: shorter := List.subset_cons_self _ _
    unfold makeFirst
    split
    · exact .refl _
    · split
      · next made => exact (makeDirectory_made made).mono own
      · have way := (ih before).mono others
        split
        · next same => rwa [same] at way
        · next same =>
          rw [same] at way
          split
          · next made =>
            have grown : Grows (fun _ => False) _ _ := makeDirectory_grows made
            exact way.trans grown ((makeDirectory_made made).mono own)
          · exact way
      · exact .refl _

theorem makeDirectories_made (before : FileSystem) (p : Path) :
    Made (ancestors p) before (before.makeDirectories p).fs :=
  makeFirst_made before (ancestors p)

theorem put_file_made {location : Location} (inside : location ≠ []) (content : Content) :
    Made [] before (before.put location (.file content)) := by
  intro place free there
  rw [node?_put _ inside] at there
  split at there
  · cases there
  · cases free.symm.trans there

theorem write_made (before : FileSystem) (p : Path) (content : Content) :
    Made [] before (before.write p content).fs := by
  have ends := write_writes before p content
  generalize before.write p content = outcome at ends
  cases ends with
  | refused => exact .refl _
  | done leads | cut leads => exact put_file_made (placeToWrite_parts leads).1 _

end DocAssembly.FileSystem
