import DocAssembly.Proofs.Agreement
import DocAssembly.Session

namespace DocAssembly

def Message.report? : Message → Option (Text × Failure)
  | .failedDocument template failure => some (template, failure)
  | _ => none

def Message.ofReport (report : Text × Failure) : Message := .failedDocument report.1 report.2

def Report.failedDocument (colored : Bool) (report : Text × Failure) : Text :=
  Report.render colored (some ("failed to render `" ++ report.1 ++ "`")) report.2

theorem Message.ofReport_injective : Function.Injective Message.ofReport := by
  intro first second alike
  cases first
  cases second
  cases alike
  rfl

-- How reports stand among messages: in one piece, with no other report before or after them.
structure Reported (reports : List (Text × Failure)) (before after messages : List Message) :
    Prop where
  whole : messages = before ++ reports.map Message.ofReport ++ after
  others : ∀ message ∈ before ++ after, message.report? = none

namespace Project

variable {fs : FileSystem} {options : ContentsOptions} {pairs : List DocumentPair}
  {project : Project} {rendering : Rendering} {message : Message} {verbose dryRun diff : Bool}

def failing (fs : FileSystem) (project : Project) : List (Text × Failure) :=
  project.documents.filterMap fun pair =>
    match Document.renderFile fs project.contents pair.template with
    | .ok _ => none
    | .error failure => some (project.display pair.template, failure)

theorem renderAll_failed : (renderAll fs options pairs).failures = pairs.filterMap fun pair =>
    match Document.renderFile fs options pair.template with
    | .ok _ => none
    | .error failure => some ⟨pair, failure⟩ := by
  induction pairs with
  | nil => rfl
  | cons pair rest ih =>
      rw [renderAll_cons, renderDocument]
      cases made : Document.renderFile fs options pair.template with
      | ok content => simp [made, ih]
      | error failure => simp [made, ih]

theorem failureReports_render (fs : FileSystem) (project : Project) :
    project.failureReports (project.render fs) = (project.failing fs).map Message.ofReport := by
  unfold failureReports failing render
  rw [renderAll_failed, List.map_filterMap, List.map_filterMap]
  apply List.filterMap_congr
  intro pair listed
  cases Document.renderFile fs project.contents pair.template <;> rfl

def staleNews (project : Project) (diff : Bool) (rendering : Rendering) : List Message :=
  if rendering.stale.isEmpty then []
  else .staleHeading :: (project.sortedStale rendering).flatMap (project.staleMessages diff)
    ++ [.staleEnd]

def checkClosing (rendering : Rendering) : Message :=
  if rendering.isClean then .checkPassed
  else .checkSummary rendering.stale.length rendering.failures.length

def updateNews (fs : FileSystem) (project : Project) (verbose dryRun : Bool)
    (rendering : Rendering) : List Message :=
  if (project.staleNames rendering).isEmpty then
    if rendering.hasFailures then [] else [.upToDate]
  else if dryRun then [.dryRun (project.staleNames rendering)]
  else (writeLog (write fs rendering)).map .record ++
    .updated (write fs rendering).outputs.length ::
      if verbose then (project.staleNames rendering).map .updatedOutput else []

theorem runCheck_messages : (project.runCheck fs diff).messages = renderRecords fs project ++
    (project.staleNews diff (project.render fs) ++ project.failureReports (project.render fs) ++
      [checkClosing (project.render fs)]) := by
  dsimp only [runCheck, Run.after]
  split
  · next clean =>
      have fresh : (project.render fs).stale.isEmpty = true := (Bool.and_eq_true_iff.mp clean).1
      have none : (project.render fs).failures = [] := by
        simpa [Rendering.isClean, Rendering.hasFailures, fresh] using clean
      simp [staleNews, checkClosing, clean, fresh, failureReports, none, Run.saying]
  · next unclean => simp [staleNews, checkClosing, unclean, Run.saying]

theorem runUpdate_messages (done : dryRun = true ∨ (write fs (project.render fs)).error = none) :
    (project.runUpdate fs verbose dryRun).messages = renderRecords fs project ++
      (updateNews fs project verbose dryRun (project.render fs) ++
        project.failureReports (project.render fs)) := by
  dsimp only [runUpdate, Run.after, updateNews]
  split
  · rfl
  · split
    · rfl
    · next writes =>
        have written : (write fs (project.render fs)).error = none := done.resolve_left writes
        simp [runWrite, written]

-- Without stale outputs there is nothing that cannot be written.
theorem staleNames_of_error (project : Project) {error : FileError}
    (failed : (write fs rendering).error = some error) :
    (project.staleNames rendering).isEmpty = false := by
  rw [staleNames_isEmpty]
  cases stale : rendering.stale with
  | nil =>
      rw [write, stale] at failed
      cases failed
  | cons document rest => rfl

theorem runUpdate_stopped {error : FileError}
    (failed : (write fs (project.render fs)).error = some error) :
    (project.runUpdate fs verbose false).messages = renderRecords fs project ++
      ((writeLog (write fs (project.render fs))).map .record ++ [.stopped (.io error)]) := by
  have some := staleNames_of_error project failed
  simp [runUpdate, Run.after, some, runWrite, failed]

theorem others_records (records : List LogRecord) :
    ∀ message ∈ records.map Message.record, message.report? = none := by
  intro message member
  obtain ⟨entry, _, rfl⟩ := List.mem_map.mp member
  rfl

theorem others_introduction (verbose : Bool) :
    ∀ message ∈ project.introduction verbose, message.report? = none := by
  apply List.filterMap_eq_nil_iff.mp
  cases verbose <;> rfl

theorem others_staleNews :
    ∀ message ∈ project.staleNews diff rendering, message.report? = none := by
  have one : ∀ document : RenderedDocument,
      (project.staleMessages diff document).filterMap Message.report? = [] := by
    intro document
    cases diff <;> rfl
  have all : ((project.sortedStale rendering).flatMap (project.staleMessages diff)).filterMap
      Message.report? = [] := by
    rw [List.filterMap_flatMap]
    exact List.flatMap_eq_nil_iff.mpr fun document _ => one document
  apply List.filterMap_eq_nil_iff.mp
  unfold staleNews
  split
  · rfl
  · rw [List.filterMap_append, List.filterMap_cons, all]
    rfl

theorem others_checkClosing : (checkClosing rendering).report? = none := by
  unfold checkClosing
  split <;> rfl

theorem others_updateNews :
    ∀ message ∈ updateNews fs project verbose dryRun rendering, message.report? = none := by
  have logged := List.filterMap_eq_nil_iff.mpr (others_records (writeLog (write fs rendering)))
  apply List.filterMap_eq_nil_iff.mp
  unfold updateNews
  split
  · split <;> rfl
  · split
    · rfl
    · rw [List.filterMap_append, logged]
      cases verbose <;> simp [Message.report?]

-- The documents that a command reports: all that fail, unless an output cannot be written.
def reported (fs : FileSystem) (project : Project) : Command → List (Text × Failure)
  | .list => []
  | .check _ => project.failing fs
  | .update dryRun =>
    if dryRun = false ∧ (write fs (project.render fs)).error.isSome then [] else project.failing fs

end Project

theorem Reported.prepend {reports : List (Text × Failure)}
    {before after messages more : List Message}
    (reported : Reported reports before after messages)
    (others : ∀ message ∈ more, message.report? = none) :
    Reported reports (more ++ before) after (more ++ messages) := by
  constructor
  · rw [reported.whole]
    simp
  · intro message member
    rw [List.append_assoc] at member
    rcases List.mem_append.mp member with first | rest
    · exact others message first
    · exact reported.others message rest

theorem Reported.nothing {messages : List Message}
    (others : ∀ message ∈ messages, message.report? = none) : Reported [] messages [] messages := by
  constructor
  · simp
  · simpa using others

theorem Reported.filterMap_eq {reports : List (Text × Failure)} {before after messages : List Message}
    (reported : Reported reports before after messages) :
    messages.filterMap Message.report? = reports := by
  have others := List.filterMap_eq_nil_iff.mpr reported.others
  obtain ⟨first, last⟩ := List.append_eq_nil_iff.mp ((List.filterMap_append).symm.trans others)
  have own : Message.report? ∘ Message.ofReport = some := rfl
  rw [reported.whole, List.filterMap_append, List.filterMap_append, first, last, List.filterMap_map,
    own, List.filterMap_some]
  simp

namespace Project

variable {fs : FileSystem} {project : Project} {verbose dryRun diff : Bool}

theorem runList_reported : Reported [] (project.runList fs).messages []
    (project.runList fs).messages := by
  apply Reported.nothing
  apply List.filterMap_eq_nil_iff.mp
  unfold runList
  split
  · rfl
  · simp [Run.saying, Message.report?]

theorem runCheck_reported : Reported (project.failing fs)
    (renderRecords fs project ++ project.staleNews diff (project.render fs))
    [checkClosing (project.render fs)] (project.runCheck fs diff).messages := by
  rw [runCheck_messages, failureReports_render]
  apply Reported.prepend _ (others_records _)
  constructor
  · rfl
  · intro message member
    rcases List.mem_append.mp member with news | closing
    · exact others_staleNews message news
    · cases List.mem_singleton.mp closing
      exact others_checkClosing

theorem runUpdate_reported (done : dryRun = true ∨ (write fs (project.render fs)).error = none) :
    Reported (project.failing fs)
      (renderRecords fs project ++ updateNews fs project verbose dryRun (project.render fs)) []
      (project.runUpdate fs verbose dryRun).messages := by
  rw [runUpdate_messages done, failureReports_render]
  apply Reported.prepend _ (others_records _)
  constructor
  · exact (List.append_nil _).symm
  · intro message member
    rw [List.append_nil] at member
    exact others_updateNews message member

theorem runUpdate_unreported (failed : (write fs (project.render fs)).error.isSome) :
    Reported [] (project.runUpdate fs verbose false).messages []
      (project.runUpdate fs verbose false).messages := by
  obtain ⟨error, failed⟩ := Option.isSome_iff_exists.mp failed
  apply Reported.nothing
  intro message member
  rw [runUpdate_stopped failed] at member
  rcases List.mem_append.mp member with rendered | written
  · exact others_records _ message rendered
  · rcases List.mem_append.mp written with writes | stop
    · exact others_records _ message writes
    · cases List.mem_singleton.mp stop
      rfl

theorem runOn_reported (fs : FileSystem) (project : Project) (verbose : Bool) (command : Command) :
    ∃ before after, Reported (project.reported fs command) before after
      (command.runOn fs project verbose).messages := by
  cases command with
  | list => exact ⟨_, _, runList_reported⟩
  | check diff => exact ⟨_, _, runCheck_reported⟩
  | update dryRun =>
      by_cases stopped : dryRun = false ∧ (write fs (project.render fs)).error.isSome
      · obtain ⟨rfl, failed⟩ := stopped
        have none : project.reported fs (.update false) = [] := if_pos ⟨rfl, failed⟩
        rw [none]
        exact ⟨_, _, runUpdate_unreported failed⟩
      · have all : project.reported fs (.update dryRun) = project.failing fs := if_neg stopped
        rw [all]
        refine ⟨_, _, runUpdate_reported ?_⟩
        cases dryRun with
        | true => exact .inl rfl
        | false => exact .inr (Option.not_isSome_iff_eq_none.mp fun some => stopped ⟨rfl, some⟩)

end Project

theorem transcript_append {channel : Channel} {filter : LogFilter} {colored : Bool}
    {first second : List Message} : channel.transcript filter colored (first ++ second) =
      channel.transcript filter colored first ++ channel.transcript filter colored second := by
  unfold Channel.transcript
  rw [List.filter_append, List.flatMap_append]

theorem transcript_reports {filter : LogFilter} {colored : Bool}
    {reports : List (Text × Failure)} :
    Channel.error.transcript filter colored (reports.map Message.ofReport) =
      reports.flatMap (Report.failedDocument colored) := by
  have shown : ∀ message ∈ reports.map Message.ofReport,
      (message.channel = Channel.error && message.isShown filter) = true := by
    intro message member
    obtain ⟨report, _, rfl⟩ := List.mem_map.mp member
    rfl
  unfold Channel.transcript
  rw [List.filter_eq_self.mpr shown, List.flatMap_map]
  rfl

theorem Command.run_reported {fs : FileSystem} {root : Path} {project : Project}
    (loaded : Project.load fs root = .ok project) (verbose : Bool) (command : Command) :
    ∃ before after, Reported (project.reported fs command) before after
      (run fs root verbose command).messages := by
  obtain ⟨before, after, reported⟩ :=
    Project.runOn_reported fs project verbose command
  have opening : ∀ message ∈ (Project.loadLog fs root).map Message.record ++
      project.introduction verbose, message.report? = none := by
    intro message member
    rcases List.mem_append.mp member with logged | introduced
    · exact Project.others_records _ message logged
    · exact project.others_introduction verbose message introduced
  rw [run_loaded loaded]
  exact ⟨_, after, reported.prepend opening⟩

theorem transcript_stopped {filter : LogFilter} {colored : Bool} {failure : Failure} :
    Channel.error.transcript filter colored [.stopped failure] =
      Report.render colored none failure := List.append_nil _

theorem transcript_details {colored : Bool} {records : List LogRecord}
    (details : ∀ entry ∈ records, entry.level = .debug) :
    Channel.error.transcript .warnings colored (records.map Message.record) = [] := by
  have hidden : ∀ message ∈ records.map Message.record,
      ¬(message.channel = Channel.error && message.isShown .warnings) = true := by
    intro message member
    obtain ⟨entry, listed, rfl⟩ := List.mem_map.mp member
    have level := details entry listed
    simp [Message.isShown, LogFilter.shows, LogFilter.ruleFor?, LogFilter.warnings, level,
      LogLevel.rank, Text.startsWith]
  unfold Channel.transcript
  rw [List.filter_eq_nil_iff.mpr hidden]
  rfl

theorem start_reports {fs : FileSystem} (environment : Environment) {arguments : List Text}
    {invocation : Invocation} {command : Command} {project : Project}
    (read : Arguments.read arguments = .ok invocation)
    (named : invocation.command = some command)
    (loaded : Project.load fs (invocation.rootPath fs) = .ok project) :
    ∃ before after, Reported (project.reported fs command) before after
        (invocation.run fs).messages ∧
      let filter := environment.logFilter invocation.verbose
      let colored := !(invocation.noColor || environment.noColor)
      (Session.start fs environment arguments).errors =
        Channel.error.transcript filter colored before ++
          (project.reported fs command).flatMap (Report.failedDocument colored) ++
            Channel.error.transcript filter colored after := by
  obtain ⟨before, after, reported⟩ := Command.run_reported loaded invocation.verbose command
  have run : invocation.run fs =
      command.run fs (invocation.rootPath fs) invocation.verbose := by
    rw [Invocation.run, named]
  rw [← run] at reported
  refine ⟨before, after, reported, ?_⟩
  dsimp only
  rw [← transcript_reports, ← transcript_append, ← transcript_append, ← reported.whole]
  rw [Session.start, read]
  rfl

theorem start_reports_mixed :
    Arguments.read ["-p", ".", "check"] = .ok { command := some (.check false), root := some "." } ∧
    Project.load Command.mixed ⟨"."⟩ = .ok Command.mixedProject ∧
    ∃ before after,
      (Session.start Command.mixed { noColor := true } ["-p", ".", "check"]).errors =
        before ++ Report.failedDocument false
          ("c.src.md", .malformedDirective ⟨"./c.src.md"⟩ 1 "@import" .file) ++ after := by
  have read : Arguments.read ["-p", ".", "check"] =
      .ok { command := some (.check false), root := some "." } := rfl
  have reports := Project.failureReports_render Command.mixed Command.mixedProject
  have failing : Command.mixedProject.failing Command.mixed =
      [("c.src.md".toList, .malformedDirective ⟨"./c.src.md"⟩ 1 "@import" .file)] := by
    apply Message.ofReport_injective.list_map
    rw [← reports, Command.mixed_render]
    rfl
  obtain ⟨before, after, _, errors⟩ := start_reports { noColor := true } read rfl
    Command.mixed_load
  change _ = _ ++ (Command.mixedProject.failing Command.mixed).flatMap _ ++ _ at errors
  rw [failing, List.flatMap_singleton] at errors
  exact ⟨read, Command.mixed_load, _, _, errors⟩

-- A template that cannot be rendered, and another whose output is a directory.
def obstructed : FileSystem where
  nodes := [
    ([.of "mdsplice.toml"], .file (.text
      "documents = [['a.src.md', 'a.md'], ['b.src.md', 'b.md']]\n")),
    ([.of "a.src.md"], .file (.text "@import\n")),
    ([.of "b.src.md"], .file (.text "b\n")),
    ([.of "b.md"], .directory)]

def obstructedProject : Project where
  root := ⟨"."⟩
  configFile := some ⟨"./mdsplice.toml"⟩
  documents := [⟨⟨"./a.src.md"⟩, ⟨"./a.md"⟩⟩, ⟨⟨"./b.src.md"⟩, ⟨"./b.md"⟩⟩]
  contents := {}

theorem obstructed_load : Project.load obstructed ⟨"."⟩ = .ok obstructedProject := by
  have config : Config.load? obstructed ⟨"."⟩ = .ok (some { documents := [
      ⟨⟨"a.src.md"⟩, ⟨"a.md"⟩⟩, ⟨⟨"b.src.md"⟩, ⟨"b.md"⟩⟩] }) := by cbv
  have found : Config.find? obstructed ⟨"."⟩ = some ⟨"./mdsplice.toml"⟩ := by cbv
  rw [Project.load_of_parts config rfl rfl, found]
  rfl

theorem obstructed_render : obstructedProject.render obstructed = {
    documents := [⟨⟨⟨"./b.src.md"⟩, ⟨"./b.md"⟩⟩, "b\n", none⟩]
    failures := [⟨⟨⟨"./a.src.md"⟩, ⟨"./a.md"⟩⟩,
      .malformedDirective ⟨"./a.src.md"⟩ 1 "@import" .file⟩] } := by
  have failed : Document.renderFile obstructed {} ⟨"./a.src.md"⟩ =
      .error (.malformedDirective ⟨"./a.src.md"⟩ 1 "@import" .file) := by cbv
  have read : obstructed.readText ⟨"./b.src.md"⟩ = .ok "b\n" := by cbv
  have made : Document.renderFile obstructed {} ⟨"./b.src.md"⟩ = .ok "b\n" :=
    Document.renderFile_ok.mpr ⟨_, read, rfl⟩
  have now : obstructed.readText ⟨"./b.md"⟩ = .error .isADirectory := by cbv
  simp only [Project.render, obstructedProject, Project.renderAll, Project.renderDocument, failed,
    made, now]
  rfl

theorem obstructed_renderLog : obstructedProject.renderLog obstructed =
    [⟨.debug, "mdsplice_core::engine", "transforming document", [("path", "./a.src.md")]⟩,
      ⟨.debug, Project.projectTarget, "failed to render document", [("template", "./a.src.md"),
        ("error", (Failure.malformedDirective ⟨"./a.src.md"⟩ 1 "@import" .file).message)]⟩,
      ⟨.debug, "mdsplice_core::engine", "transforming document", [("path", "./b.src.md")]⟩] := by
  have readA : obstructed.readText ⟨"./a.src.md"⟩ = .ok "@import\n" := by cbv
  have readB : obstructed.readText ⟨"./b.src.md"⟩ = .ok "b\n" := by cbv
  have failed : Document.renderFile obstructed {} ⟨"./a.src.md"⟩ =
      .error (.malformedDirective ⟨"./a.src.md"⟩ 1 "@import" .file) := by cbv
  have made : Document.renderFile obstructed {} ⟨"./b.src.md"⟩ = .ok "b\n" :=
    Document.renderFile_ok.mpr ⟨_, readB, rfl⟩
  simp only [Project.renderLog, obstructedProject, List.flatMap_cons, Project.renderDocumentLog,
    Document.renderFileLog, readA, readB, failed, made]
  rfl

theorem start_unreported :
    Project.load obstructed ⟨"."⟩ = .ok obstructedProject ∧
    obstructedProject.failing obstructed =
      [("a.src.md".toList, .malformedDirective ⟨"./a.src.md"⟩ 1 "@import" .file)] ∧
    (Session.start obstructed { noColor := true } ["-p", ".", "update"]).errors =
      Report.render false none (.io .isADirectory) := by
  have read : Arguments.read ["-p", ".", "update"] =
      .ok { command := some (.update false), root := some "." } := rfl
  have reports := Project.failureReports_render obstructed obstructedProject
  have stopped : (Project.write obstructed (obstructedProject.render obstructed)).error =
      some .isADirectory := by
    rw [obstructed_render]
    cbv
  have written :
      Project.writeLog (Project.write obstructed (obstructedProject.render obstructed)) = [] := by
    rw [obstructed_render]
    cbv
  have loadLog : Project.loadLog obstructed ⟨"."⟩ =
      [⟨.debug, "mdsplice_core::config", "loaded config", [("path", "./mdsplice.toml")]⟩,
        ⟨.debug, Project.projectTarget, "loaded project", [("root", "."), ("documents", "2")]⟩] := by
    rw [Project.loadLog, obstructed_load]
    cbv
  have start : Session.start obstructed { noColor := true } ["-p", ".", "update"] =
      .ofRun .warnings false (Command.run obstructed ⟨"."⟩ false (.update false)) := by
    rw [Session.start, read]
    rfl
  refine ⟨obstructed_load, ?_, ?_⟩
  · apply Message.ofReport_injective.list_map
    rw [← reports, obstructed_render]
    rfl
  · rw [start, Command.run_loaded obstructed_load]
    change Channel.error.transcript .warnings false
      (_ ++ _ ++ (obstructedProject.runUpdate obstructed false false).messages) = _
    rw [Project.runUpdate_stopped stopped, Project.renderRecords, obstructed_renderLog, loadLog,
      written]
    simp only [transcript_append, List.map_nil, transcript_stopped]
    rw [transcript_details (by decide), transcript_details (by decide)]
    rfl

end DocAssembly
