import DocAssembly.Proofs.Agreement
import DocAssembly.Proofs.FileSystem.Writing
import DocAssembly.Session

namespace DocAssembly

namespace Project

def wayTo (output : Path) : List Path :=
  match output.parent? with
  | some parent => FileSystem.ancestors parent
  | none => []

variable {fs before middle after : FileSystem} {document : RenderedDocument}
  {documents : List RenderedDocument}

theorem makeWay_made (before : FileSystem) (output : Path) :
    FileSystem.Made (wayTo output) before (makeWay before output).fs := by
  unfold makeWay wayTo
  cases output.parent? with
  | none => exact .refl _
  | some parent =>
    dsimp only
    split
    · exact .refl _
    · exact FileSystem.makeDirectories_made _ _

theorem writeDocument_on_way (way : makeWay before document.pair.output = { fs := middle })
    (wrote : middle.write document.pair.output (.text document.content) = { fs := after }) :
    writeDocument before document = { fs := after } := by
  simp only [writeDocument, way, wrote]

theorem writeDocument_off_way {error : FileError}
    (stopped : makeWay before document.pair.output = { fs := after, error := some error }) :
    writeDocument before document = { fs := after, error := some error } := by
  simp only [writeDocument, stopped]

structure Puts (document : RenderedDocument) (before after : FileSystem) : Prop where
  file : FileSystem.Stores document.pair.output (.text document.content) before after
  directories : FileSystem.Made (wayTo document.pair.output) before after

-- What it is to fail to write a document: no file is touched, or the output is left with a first
-- part of the content, where there was no room for more.
structure Stops (document : RenderedDocument) (before after : FileSystem) : Prop where
  files : FileSystem.Grows (fun _ => False) before after ∨
    ∃ kept, kept <+: document.content.utf8 ∧ kept ≠ document.content.utf8 ∧
      FileSystem.Stores document.pair.output (.ofBytes kept) before after
  directories : FileSystem.Made (wayTo document.pair.output) before after

theorem writeDocument_made (before : FileSystem) (document : RenderedDocument) :
    FileSystem.Made (wayTo document.pair.output) before (writeDocument before document).fs := by
  have way := makeWay_made before document.pair.output
  rcases writeDocument_cases before document with ⟨error, _, same⟩ | ⟨_, same⟩
  · rw [same]
    exact way
  · have grown := FileSystem.write_grows (makeWay before document.pair.output).fs
      document.pair.output (.text document.content)
    have made := FileSystem.write_made (makeWay before document.pair.output).fs
      document.pair.output (.text document.content)
    rw [same]
    exact way.trans grown (made.mono (List.nil_subset _))

theorem writeDocument_puts (done : (writeDocument before document).error = none) :
    Puts document before (writeDocument before document).fs :=
  ⟨writeDocument_stores done, writeDocument_made before document⟩

theorem writeDocument_stops {error : FileError}
    (failed : (writeDocument before document).error = some error) :
    Stops document before (writeDocument before document).fs := by
  refine ⟨?_, writeDocument_made before document⟩
  have grown := makeWay_grows (fun _ => False) before document.pair.output
  rcases writeDocument_cases before document with ⟨error, _, same⟩ | ⟨_, same⟩
  · rw [same]
    exact .inl grown
  · rw [same] at failed ⊢
    rcases FileSystem.write_stops failed with unchanged | ⟨kept, begins, less, stores⟩
    · rw [unchanged]
      exact .inl grown
    · exact .inr ⟨kept, begins, less, stores.of_way grown⟩

inductive PutsAll : List RenderedDocument → FileSystem → FileSystem → Prop where
  | nil (fs : FileSystem) : PutsAll [] fs fs
  | cons {document : RenderedDocument} {rest : List RenderedDocument}
      {before middle after : FileSystem} : Puts document before middle → PutsAll rest middle after →
      PutsAll (document :: rest) before after

-- How writing some documents can end: with all of them written, or at one that cannot be, when the
-- documents before it were written and nothing was done about those after it.
inductive Ends (documents : List RenderedDocument) (before : FileSystem) (written : Written) :
    Prop where
  | done : written.error = none → written.outputs = documents.map (·.pair.output) →
      PutsAll documents before written.fs → Ends documents before written
  | stopped {error : FileError} {earlier later : List RenderedDocument} {failed : RenderedDocument}
      {middle : FileSystem} : written.error = some error → documents = earlier ++ failed :: later →
      written.outputs = earlier.map (·.pair.output) → PutsAll earlier before middle →
      Stops failed middle written.fs → Ends documents before written

theorem writeDocuments_ends (before : FileSystem) (documents : List RenderedDocument) :
    Ends documents before (writeDocuments before documents) := by
  induction documents generalizing before with
  | nil => exact .done rfl rfl (.nil _)
  | cons document rest ih =>
    rw [writeDocuments_cons]
    have puts := @writeDocument_puts before document
    have stops := @writeDocument_stops before document
    generalize writeDocument before document = first at puts stops
    obtain ⟨middle, error⟩ := first
    cases error with
    | some error => exact .stopped rfl (List.nil_append _).symm rfl (.nil _) (stops rfl)
    | none =>
      dsimp only
      cases ih middle with
      | done finished outputs all =>
        exact .done finished (congrArg (document.pair.output :: ·) outputs) (.cons (puts rfl) all)
      | @stopped error earlier later last middle failed whole outputs all stopsLast =>
        have outputs : _ = (document :: earlier).map (·.pair.output) :=
          congrArg (document.pair.output :: ·) outputs
        exact .stopped failed (congrArg (document :: ·) whole) outputs (.cons (puts rfl) all) stopsLast

structure Frame (documents : List RenderedDocument) (before after : FileSystem) : Prop where
  files : FileSystem.Grows
    (fun location => ∃ document ∈ documents, after.locate document.pair.output = .ok location)
    before after
  directories : FileSystem.Made (documents.flatMap fun document => wayTo document.pair.output)
    before after

theorem frame_stored {content : Content}
    (stores : FileSystem.Stores document.pair.output content before after)
    (made : FileSystem.Made (wayTo document.pair.output) before after) :
    Frame [document] before after := by
  obtain ⟨location, grown, leads, _⟩ := stores
  refine ⟨grown.mono ?_, made.mono ?_⟩
  · rintro _ rfl
    exact ⟨document, List.mem_singleton_self document, leads⟩
  · rw [List.flatMap_singleton]
    exact List.Subset.refl _

theorem Puts.frame (puts : Puts document before after) : Frame [document] before after :=
  frame_stored puts.file puts.directories

theorem Stops.frame (stops : Stops document before after) : Frame [document] before after := by
  obtain ⟨grown | ⟨kept, _, _, stores⟩, made⟩ := stops
  · refine ⟨grown.mono nofun, made.mono ?_⟩
    rw [List.flatMap_singleton]
    exact List.Subset.refl _
  · exact frame_stored stores made

theorem Frame.trans {rest : List RenderedDocument} (first : Frame documents before middle)
    (last : Frame rest middle after) : Frame (documents ++ rest) before after := by
  refine ⟨(first.files.mono ?_).trans (last.files.mono ?_), ?_⟩
  · rintro location ⟨document, member, leads⟩
    exact ⟨document, List.mem_append_left _ member, last.files.locate leads⟩
  · rintro location ⟨document, member, leads⟩
    exact ⟨document, List.mem_append_right _ member, leads⟩
  · refine (first.directories.mono ?_).trans last.files (last.directories.mono ?_)
    · rw [List.flatMap_append]
      exact List.subset_append_left _ _
    · rw [List.flatMap_append]
      exact List.subset_append_right _ _

theorem Frame.mono {wider : List RenderedDocument} (among : documents ⊆ wider)
    (frame : Frame documents before after) : Frame wider before after := by
  refine ⟨frame.files.mono ?_, frame.directories.mono ?_⟩
  · rintro location ⟨document, member, leads⟩
    exact ⟨document, among member, leads⟩
  · intro p member
    obtain ⟨document, listed, on⟩ := List.mem_flatMap.mp member
    exact List.mem_flatMap.mpr ⟨document, among listed, on⟩

theorem PutsAll.frame (all : PutsAll documents before after) : Frame documents before after := by
  induction all with
  | nil fs => exact ⟨.refl _, .refl _⟩
  | cons puts _ ih => exact puts.frame.trans ih

theorem Ends.frame {written : Written} (ends : Ends documents before written) :
    Frame documents before written.fs := by
  cases ends with
  | done _ _ all => exact all.frame
  | stopped _ whole _ all last =>
    rw [whole, List.append_cons]
    exact (all.frame.trans last.frame).mono (List.subset_append_left _ _)

end Project

namespace Command

variable {fs : FileSystem}

theorem runOn_update (project : Project) (verbose : Bool) :
    (runOn fs project verbose (.update false)).fs = (Project.write fs (project.render fs)).fs :=
  Project.runUpdate_fs

theorem runOn_other {command : Command} (project : Project) (verbose : Bool)
    (other : command ≠ .update false) : (runOn fs project verbose command).fs = fs := by
  cases command with
  | list =>
    dsimp only [runOn, Project.runList]
    split <;> rfl
  | check diff =>
    dsimp only [runOn, Project.runCheck]
    rw [Run.after_fs]
    split <;> rfl
  | update dryRun =>
    cases dryRun with
    | false => exact absurd rfl other
    | true =>
      dsimp only [runOn, Project.runUpdate]
      rw [Run.after_fs]
      split <;> rfl

end Command

namespace Session

def Updates (fs : FileSystem) (arguments : List Text) (project : Project) : Prop :=
  ∃ invocation, Arguments.read arguments = .ok invocation ∧
    invocation.command = some (.update false) ∧
    Project.load fs (invocation.rootPath fs) = .ok project

variable {fs : FileSystem} {arguments : List Text} {project : Project}

theorem start_other (environment : Environment)
    (idle : ¬ ∃ project, Updates fs arguments project) :
    (start fs environment arguments).fs = fs := by
  unfold start
  cases read : Arguments.read arguments with
  | error refusal => cases refusal <;> rfl
  | ok invocation =>
    change (invocation.run fs).fs = fs
    unfold Invocation.run
    cases given : invocation.command with
    | none => rfl
    | some command =>
      cases loaded : Project.load fs (invocation.rootPath fs) with
      | error failure =>
        dsimp only
        rw [Command.run, loaded]
        rfl
      | ok project =>
        dsimp only
        rw [Command.run_loaded loaded, Run.after_fs]
        refine Command.runOn_other project _ ?_
        rintro rfl
        exact idle ⟨project, invocation, read, given, loaded⟩

theorem start_update (environment : Environment) (updates : Updates fs arguments project) :
    (start fs environment arguments).fs = (Project.write fs (project.render fs)).fs := by
  obtain ⟨invocation, read, given, loaded⟩ := updates
  rw [start, read]
  change (invocation.run fs).fs = _
  rw [Invocation.run, given]
  dsimp only
  rw [Command.run_loaded loaded, Run.after_fs, Command.runOn_update]

theorem start_frame (fs : FileSystem) :
    (∀ environment arguments, (¬ ∃ project, Updates fs arguments project) →
      (start fs environment arguments).fs = fs) ∧
    (∀ environment arguments project, Updates fs arguments project →
      (start fs environment arguments).fs = (Project.write fs (project.render fs)).fs) ∧
    ∀ rendering, Project.Ends rendering.stale fs (Project.write fs rendering) ∧
      Project.Frame rendering.stale fs (Project.write fs rendering).fs := by
  refine ⟨?_, ?_, ?_⟩
  · intro environment arguments idle
    exact start_other environment idle
  · intro environment arguments project updates
    exact start_update environment updates
  · intro rendering
    have ends := Project.writeDocuments_ends fs rendering.stale
    exact ⟨ends, ends.frame⟩

-- The second of three outputs is to lie in a directory whose place is taken by a file.
def blocked : FileSystem where
  nodes := [([.of "f"], .file (.text []))]

def blockedDocument (output : Text) : RenderedDocument :=
  { pair := ⟨⟨"t.src.md"⟩, ⟨output⟩⟩, content := ['T'], current := none }

def blockedRendering : Rendering :=
  { documents := [blockedDocument "x/a.md", blockedDocument "f/b.md", blockedDocument "c.md"] }

def blockedAfter : FileSystem where
  nodes := blocked.nodes ++ ([
    ([.of "x"], .directory),
    ([.of "a.md", .of "x"], .file (.text ['T']))] : List (Location × Node))

theorem blocked_write : Project.write blocked blockedRendering =
    { fs := blockedAfter, outputs := [⟨"x/a.md"⟩], error := some .alreadyExists } := by
  have way : Project.makeWay blocked ⟨"x/a.md"⟩ =
      { fs := blocked.put [.of "x"] .directory } := by cbv
  have wrote : (blocked.put [.of "x"] .directory).write ⟨"x/a.md"⟩ (.text ['T']) =
      { fs := blockedAfter } := by cbv
  have noWay : Project.makeWay blockedAfter ⟨"f/b.md"⟩ =
      { fs := blockedAfter, error := some .alreadyExists } := by cbv
  have first : Project.writeDocument blocked (blockedDocument "x/a.md") = { fs := blockedAfter } :=
    Project.writeDocument_on_way way wrote
  have second : Project.writeDocument blockedAfter (blockedDocument "f/b.md") =
      { fs := blockedAfter, error := some .alreadyExists } := Project.writeDocument_off_way noWay
  have rest : Project.writeDocuments blockedAfter [blockedDocument "f/b.md", blockedDocument "c.md"] =
      { fs := blockedAfter, error := some .alreadyExists } := by
    rw [Project.writeDocuments_cons, second]
  change Project.writeDocuments blocked [_, _, _] = _
  rw [Project.writeDocuments_cons, first]
  dsimp only
  rw [rest]
  rfl

theorem start_frame_blocked :
    (start blocked {} ["check"]).fs = blocked ∧
    (start Command.mixed {} ["-p", ".", "update"]).fs =
      (Project.write Command.mixed (Command.mixedProject.render Command.mixed)).fs ∧
    ∃ middle, Project.PutsAll [blockedDocument "x/a.md"] blocked middle ∧
      Project.Stops (blockedDocument "f/b.md") middle blockedAfter := by
  have checks : Arguments.read ["check"] = .ok { command := some (.check false) } := rfl
  have updates : Arguments.read ["-p", ".", "update"] =
      .ok { command := some (.update false), root := some ['.'] } := rfl
  obtain ⟨idle, _, ends⟩ := start_frame blocked
  refine ⟨idle _ _ ?_, (start_frame Command.mixed).2.1 _ _ _ ⟨_, updates, rfl, Command.mixed_load⟩, ?_⟩
  · rintro ⟨project, invocation, read, given, _⟩
    cases checks.symm.trans read
    cases given
  · obtain ⟨ends, _⟩ := ends blockedRendering
    rw [blocked_write] at ends
    cases ends with
    | done finished => cases finished
    | @stopped error earlier later failed middle _ whole outputs all stops =>
      obtain ⟨document, rfl⟩ : ∃ document, earlier = [document] := by
        refine List.length_eq_one_iff.mp ?_
        rw [← List.length_map, ← outputs]
        rfl
      cases whole
      exact ⟨middle, all, stops⟩

end Session
end DocAssembly
