import DocAssembly.Proofs.Collisions
import DocAssembly.Proofs.Path.Relative
import DocAssembly.Proofs.Reports

namespace DocAssembly

def Message.outputNames : Message → List Text
  | .dryRun outputs => outputs
  | .updatedOutput output => [output]
  | .staleOutput output _ _ => [output]
  | .document _ output => [output]
  | _ => []

def Run.outputNames (run : Run) : List Text := run.messages.flatMap Message.outputNames

namespace Project

variable {fs : FileSystem} {root p q : Path} {project : Project} {rendering : Rendering}
  {templates : List Path} {verbose dryRun diff : Bool}

def paths (project : Project) : List Path :=
  project.documents.flatMap fun pair => [pair.template, pair.output]

theorem Discovered.seen (all : Discovered root templates) {pair : DocumentPair}
    (member : pair ∈ templates.map pairOf) : root.Seen pair.template ∧ root.Seen pair.output := by
  obtain ⟨template, listed, rfl⟩ := List.mem_map.mp member
  obtain ⟨above, stem, output, _, single, spelled, made, beside⟩ := all.parts listed
  have isPiece : IsPiece (stem ++ Template.nameTail) :=
    Template.isPiece_tail single (by decide) (by decide)
  constructor
  · right
    change root.components <+: template.components
    rw [spelled, Path.components_join isPiece, Path.components_descend, List.append_assoc]
    exact List.prefix_append _ _
  · right
    rw [pairOf_output made, beside, Path.components_descend, List.append_assoc]
    exact List.prefix_append _ _

theorem seen_documents {config : Config} {documents : List DocumentPair}
    (found : documentsFor fs root config = .ok documents) :
    ∀ pair ∈ documents, root.Seen pair.template ∧ root.Seen pair.output := by
  cases entries : config.documents with
  | nil =>
      cases search : Discovery.discover fs root config.excluded config.disableGitignore with
      | error failure =>
          simp only [documentsFor, entries, search] at found
          cases found
      | ok templates =>
          have all := discovered search
          have isTemplate : ∀ p ∈ templates, Template.isTemplate p = true := by
            intro p listed
            obtain ⟨output, made⟩ := all.makes listed
            exact Option.isSome_of_mem made
          rw [documentsFor_discovered entries search isTemplate] at found
          cases found
          exact fun pair member => all.seen member
  | cons entry rest =>
      simp only [documentsFor, entries] at found
      cases found
      intro pair member
      obtain ⟨entry, _, rfl⟩ := List.mem_map.mp member
      exact ⟨Path.seen_join root entry.template, Path.seen_join root entry.output⟩

theorem seen_load (loaded : load fs root = .ok project) :
    ∀ p ∈ project.paths, root.Seen p := by
  obtain ⟨config, documents, _, found, _, rfl⟩ := load_parts loaded
  intro p member
  obtain ⟨pair, listed, among⟩ := List.mem_flatMap.mp member
  obtain ⟨template, output⟩ := seen_documents found pair listed
  rcases List.mem_pair.mp among with rfl | rfl
  · exact template
  · exact output

theorem load_root (loaded : load fs root = .ok project) : project.root = root := by
  obtain ⟨_, _, _, _, _, rfl⟩ := load_parts loaded
  rfl

theorem display_identifies (loaded : load fs root = .ok project)
    (first : p ∈ project.paths) (second : q ∈ project.paths)
    (alike : project.display p = project.display q) : p.same q = true := by
  unfold display at alike
  rw [load_root loaded] at alike
  apply Path.same_iff.mpr
  exact Path.relativeTo_injective (seen_load loaded p first) (seen_load loaded q second)
    alike

def outputNames (project : Project) : List Text :=
  project.documents.map fun pair => project.display pair.output

theorem outputNames_nodup (loaded : load fs root = .ok project) :
    project.outputNames.Nodup := by
  obtain ⟨_, apart⟩ := checkOutputs_ok.mp (load_checked loaded)
  have among : ∀ pair ∈ project.documents, pair.output ∈ project.paths := by
    intro pair listed
    exact List.mem_flatMap.mpr ⟨pair, listed, List.mem_cons_of_mem _ (List.mem_singleton_self _)⟩
  unfold outputNames
  apply List.pairwise_map.mpr
  apply apart.imp_of_mem
  intro a b listed listedToo differ alike
  have same := display_identifies loaded (among b listedToo) (among a listed) alike.symm
  exact absurd (differ.symm.trans same) nofun

theorem stale_listed (fs : FileSystem) (project : Project) :
    ((project.render fs).stale.map (·.pair)).Sublist project.documents := by
  have kept : ((project.render fs).stale.map (·.pair)).Sublist
      ((project.render fs).documents.map (·.pair)) := List.filter_sublist.map _
  have divided := (renderAll_divided fs project.contents project.documents).documents
  apply kept.trans
  unfold render
  rw [divided]
  exact List.filter_sublist

theorem staleNames_subperm :
    (project.staleNames (project.render fs)).Subperm project.outputNames := by
  have names := (stale_listed fs project).map fun pair => project.display pair.output
  rw [List.map_map] at names
  exact (List.mergeSort_perm _ _).subperm.trans names.subperm

theorem silent_records (records : List LogRecord) :
    (records.map Message.record).flatMap Message.outputNames = [] := by
  simp [List.flatMap_map, Message.outputNames]

theorem silent_reports : (project.failureReports rendering).flatMap Message.outputNames = [] := by
  simp [failureReports, List.flatMap_map, Message.outputNames]

theorem silent_introduction {verbose : Bool} :
    (project.introduction verbose).flatMap Message.outputNames = [] := by
  cases verbose <;> rfl

theorem staleNews_names : (project.staleNews diff rendering).flatMap Message.outputNames =
    project.staleNames rendering := by
  have one : ∀ document : RenderedDocument,
      (project.staleMessages diff document).flatMap Message.outputNames =
        [project.display document.pair.output] := by
    intro document
    cases diff <;> rfl
  have all : ((project.sortedStale rendering).flatMap (project.staleMessages diff)).flatMap
      Message.outputNames = project.staleNames rendering := by
    rw [List.flatMap_assoc, ← sortedStale_names]
    simp only [one, List.map_eq_flatMap]
  unfold staleNews
  split
  · next fresh =>
      have none : project.staleNames rendering = [] :=
        List.isEmpty_iff.mp (staleNames_isEmpty.trans fresh)
      rw [none]
      rfl
  · rw [List.flatMap_append, List.flatMap_cons, all]
    exact List.append_nil _

theorem updateNews_names :
    ((updateNews fs project verbose dryRun rendering).flatMap Message.outputNames).Sublist
      (project.staleNames rendering) := by
  unfold updateNews
  split
  · split <;> exact List.nil_sublist _
  · split
    · rw [List.flatMap_singleton]
      exact List.Sublist.refl _
    · rw [List.flatMap_append, silent_records, List.flatMap_cons]
      cases verbose with
      | false => exact List.nil_sublist _
      | true => simp [Message.outputNames, List.flatMap_map]

theorem runList_names : (project.runList fs).outputNames = project.outputNames := by
  have entries : (project.documents.map fun pair =>
      Message.document (project.display pair.template) (project.display pair.output)).flatMap
        Message.outputNames = project.outputNames := by
    rw [List.flatMap_map, outputNames, List.map_eq_flatMap]
    rfl
  unfold runList
  split
  · next none =>
      rw [outputNames, List.isEmpty_iff.mp none]
      rfl
  · exact entries

theorem runCheck_names :
    (project.runCheck fs diff).outputNames = project.staleNames (project.render fs) := by
  have closing : (checkClosing (project.render fs)).outputNames = [] := by
    unfold checkClosing
    split <;> rfl
  unfold Run.outputNames
  rw [runCheck_messages, renderRecords]
  simp only [List.flatMap_append, silent_records, staleNews_names, silent_reports,
    List.flatMap_singleton, closing, List.nil_append, List.append_nil]

theorem runUpdate_names : (project.runUpdate fs verbose dryRun).outputNames.Sublist
    (project.staleNames (project.render fs)) := by
  unfold Run.outputNames
  by_cases done : dryRun = true ∨ (write fs (project.render fs)).error = none
  · rw [runUpdate_messages done, renderRecords, List.flatMap_append, silent_records,
      List.flatMap_append, silent_reports, List.append_nil]
    exact updateNews_names
  · obtain ⟨writes, failed⟩ := not_or.mp done
    obtain ⟨error, failed⟩ := Option.ne_none_iff_exists'.mp failed
    cases eq_false_of_ne_true writes
    rw [runUpdate_stopped failed, renderRecords]
    simp only [List.flatMap_append, silent_records]
    exact List.nil_sublist _

-- Every output that a run names is one of the project, and is named for it alone.
theorem runOn_names (fs : FileSystem) (project : Project) (verbose : Bool) (command : Command) :
    (command.runOn fs project verbose).outputNames.Subperm project.outputNames := by
  cases command with
  | list =>
      change (project.runList fs).outputNames.Subperm _
      rw [runList_names]
  | check diff =>
      change (project.runCheck fs diff).outputNames.Subperm _
      rw [runCheck_names]
      exact staleNames_subperm
  | update dryRun => exact runUpdate_names.subperm.trans staleNames_subperm

end Project

theorem Command.run_names {fs : FileSystem} {root : Path} {project : Project}
    (loaded : Project.load fs root = .ok project) (verbose : Bool) (command : Command) :
    (run fs root verbose command).outputNames.Subperm project.outputNames := by
  rw [run_loaded loaded]
  unfold Run.outputNames Run.after
  rw [List.flatMap_append, List.flatMap_append, Project.silent_records,
    Project.silent_introduction]
  exact Project.runOn_names fs project verbose command

open Project in
theorem names_identify {fs : FileSystem} {root : Path} {project : Project}
    (loaded : Project.load fs root = .ok project) :
    (∀ p ∈ project.paths, (root.join ⟨project.display p⟩).same p = true) ∧
    (∀ p ∈ project.paths, ∀ q ∈ project.paths,
      project.display p = project.display q → p.same q = true) ∧
    ∀ verbose command, (Command.run fs root verbose command).outputNames.Nodup ∧
      ∀ name ∈ (Command.run fs root verbose command).outputNames,
        ∃ pair ∈ project.documents, project.display pair.output = name := by
  refine ⟨?_, ?_, ?_⟩
  · intro p member
    apply Path.same_iff.mpr
    have seen := Path.join_relativeTo (seen_load loaded p member)
    rw [← load_root loaded] at seen ⊢
    exact seen
  · intro p first q second alike
    exact display_identifies loaded first second alike
  · intro verbose command
    have names := Command.run_names loaded verbose command
    constructor
    · obtain ⟨listed, perm, among⟩ := names
      exact perm.nodup_iff.mp ((outputNames_nodup loaded).sublist among)
    · intro name member
      exact List.mem_map.mp (names.subset member)

-- A configuration that names paths below the root, above it, apart from it and the root itself.
def scattered : FileSystem where
  nodes := [
    ([.of "p"], .directory),
    ([.of "mdsplice.toml", .of "p"], .file (.text
      "documents = [['a.src.md', './a.md'], ['/b.src.md', '../p/b.md'], ['c.src.md', '']]\n"))]

def scatteredProject : Project where
  root := ⟨"./p//"⟩
  configFile := some ⟨"./p//mdsplice.toml"⟩
  documents := [⟨⟨"./p//a.src.md"⟩, ⟨"./p//./a.md"⟩⟩, ⟨⟨"/b.src.md"⟩, ⟨"./p//../p/b.md"⟩⟩,
    ⟨⟨"./p//c.src.md"⟩, ⟨"./p//"⟩⟩]
  contents := {}

theorem scattered_load : Project.load scattered ⟨"./p//"⟩ = .ok scatteredProject := by
  have config : Config.load? scattered ⟨"./p//"⟩ = .ok (some { documents := [
      ⟨⟨"a.src.md"⟩, ⟨"./a.md"⟩⟩, ⟨⟨"/b.src.md"⟩, ⟨"../p/b.md"⟩⟩, ⟨⟨"c.src.md"⟩, ⟨""⟩⟩] }) := by cbv
  have found : Config.find? scattered ⟨"./p//"⟩ = some ⟨"./p//mdsplice.toml"⟩ := by cbv
  rw [Project.load_of_parts config rfl rfl, found]
  rfl

theorem names_identify_scattered :
    Project.load scattered ⟨"./p//"⟩ = .ok scatteredProject ∧
    scatteredProject.outputNames = ["a.md".toList, "../p/b.md".toList, []] ∧
    (∀ p ∈ scatteredProject.paths,
      (Path.join ⟨"./p//"⟩ ⟨scatteredProject.display p⟩).same p = true) ∧
    (Command.run scattered ⟨"./p//"⟩ true .list).outputNames.Nodup := by
  obtain ⟨joined, _, runs⟩ := names_identify scattered_load
  exact ⟨scattered_load, rfl, joined, (runs true .list).1⟩

end DocAssembly
