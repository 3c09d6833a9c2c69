import DocAssembly.Command
import DocAssembly.Proofs.Overwriting
import DocAssembly.Proofs.Path.Order
import Mathlib

namespace DocAssembly

namespace Message

def staleOutput? : Message → Option Text
  | .staleOutput output _ _ => some output
  | _ => none

def announced : Message → List Text
  | .dryRun outputs => outputs
  | _ => []

def IsAside (message : Message) : Prop := message.staleOutput? = none ∧ message.announced = []

end Message

namespace Run

def staleOutputs (run : Run) : List Text := run.messages.filterMap Message.staleOutput?

def announced (run : Run) : List Text := run.messages.flatMap Message.announced

variable {run : Run} {messages : List Message}

@[simp] theorem after_code : (run.after messages).code = run.code := rfl

@[simp] theorem after_fs : (run.after messages).fs = run.fs := rfl

theorem staleOutputs_after (asides : ∀ message ∈ messages, message.IsAside) :
    (run.after messages).staleOutputs = run.staleOutputs := by
  have nothing : messages.filterMap Message.staleOutput? = [] :=
    List.filterMap_eq_nil_iff.mpr fun message member => (asides message member).1
  rw [staleOutputs, after, List.filterMap_append, nothing]
  rfl

theorem announced_after (asides : ∀ message ∈ messages, message.IsAside) :
    (run.after messages).announced = run.announced := by
  have nothing : messages.flatMap Message.announced = [] :=
    List.flatMap_eq_nil_iff.mpr fun message member => (asides message member).2
  rw [announced, after, List.flatMap_append, nothing]
  rfl

end Run

namespace Project

variable {fs : FileSystem} {options : ContentsOptions} {pairs : List DocumentPair}
  {project : Project} {rendering : Rendering} {message : Message}

theorem records_aside {records : List LogRecord}
    (member : message ∈ records.map Message.record) : message.IsAside := by
  obtain ⟨entry, _, rfl⟩ := List.mem_map.mp member
  exact ⟨rfl, rfl⟩

theorem renderRecords_aside (member : message ∈ renderRecords fs project) : message.IsAside :=
  records_aside member

theorem introduction_aside {verbose : Bool} (member : message ∈ project.introduction verbose) :
    message.IsAside := by
  unfold introduction at member
  split at member
  · rcases List.mem_pair.mp member with rfl | rfl
    · exact ⟨rfl, rfl⟩
    · exact ⟨rfl, rfl⟩
  · cases member

theorem failureReports_aside (member : message ∈ project.failureReports rendering) :
    message.IsAside := by
  obtain ⟨document, _, rfl⟩ := List.mem_map.mp member
  exact ⟨rfl, rfl⟩

def renders (fs : FileSystem) (options : ContentsOptions) (pair : DocumentPair) : Bool :=
  (Document.renderFile fs options pair.template).isOk

-- How rendering divides the documents of a project: each list is in the order of the project.
structure Divided (fs : FileSystem) (options : ContentsOptions) (pairs : List DocumentPair)
    (rendering : Rendering) : Prop where
  documents : rendering.documents.map (·.pair) = pairs.filter (renders fs options)
  failures : rendering.failures.map (·.pair) = pairs.filter fun pair => !renders fs options pair
  contents : ∀ document ∈ rendering.documents,
    Document.renderFile fs options document.pair.template = .ok document.content
  causes : ∀ document ∈ rendering.failures,
    Document.renderFile fs options document.pair.template = .error document.failure

theorem renderAll_divided (fs : FileSystem) (options : ContentsOptions)
    (pairs : List DocumentPair) : Divided fs options pairs (renderAll fs options pairs) := by
  induction pairs with
  | nil => exact ⟨rfl, rfl, nofun, nofun⟩
  | cons pair rest ih =>
    obtain ⟨documents, failures, contents, causes⟩ := ih
    rw [renderAll_cons, renderDocument]
    cases made : Document.renderFile fs options pair.template with
    | ok content =>
      have renders : renders fs options pair = true := by
        rw [Project.renders, made]
        rfl
      refine ⟨?_, ?_, ?_, causes⟩
      · simp [renders, documents]
      · simp [renders, failures]
      · exact List.forall_mem_cons.mpr ⟨made, contents⟩
    | error failure =>
      have renders : renders fs options pair = false := by
        rw [Project.renders, made]
        rfl
      refine ⟨?_, ?_, contents, ?_⟩
      · simp [renders, documents]
      · simp [renders, failures]
      · exact List.forall_mem_cons.mpr ⟨made, causes⟩

theorem hasFailures_iff : (project.render fs).hasFailures = true ↔
    ∃ pair ∈ project.documents, renders fs project.contents pair = false := by
  have failures := (renderAll_divided fs project.contents project.documents).failures
  change (!(renderAll fs project.contents project.documents).failures.isEmpty) = true ↔ _
  rw [← List.isEmpty_map, failures, Bool.not_eq_true', List.isEmpty_eq_false_iff_exists_mem]
  simp [List.mem_filter]

theorem fresh_or_stale {pair : DocumentPair} {content : Text} (listed : pair ∈ project.documents)
    (made : Document.renderFile fs project.contents pair.template = .ok content) :
    fs.readText pair.output = .ok content ∨
      ⟨pair, content, (fs.readText pair.output).toOption⟩ ∈ (project.render fs).stale := by
  have member : (⟨pair, content, (fs.readText pair.output).toOption⟩ : RenderedDocument) ∈
      (project.render fs).documents := mem_renderAll.mpr ⟨listed, made, rfl⟩
  by_cases fresh : fs.readText pair.output = .ok content
  · exact .inl fresh
  · refine .inr (List.mem_filter.mpr ⟨member, isStale_iff.mpr ?_⟩)
    intro same
    cases found : fs.readText pair.output with
    | error error => simp [found, Except.toOption] at same
    | ok text =>
      simp only [found, Except.toOption, Option.some.injEq] at same
      exact fresh (same ▸ found)

theorem staleNames_isEmpty : (project.staleNames rendering).isEmpty = rendering.stale.isEmpty := by
  rw [Bool.eq_iff_iff, List.isEmpty_iff_length_eq_zero, List.isEmpty_iff_length_eq_zero,
    staleNames, List.length_mergeSort, List.length_map]

theorem sortedStale_names :
    (project.sortedStale rendering).map (fun document => project.display document.pair.output) =
      project.staleNames rendering :=
  List.map_mergeSort fun _ _ _ _ => rfl

theorem runUpdate_dry {verbose : Bool} :
    (project.runUpdate fs verbose true).code = (renderStatus (project.render fs)).code ∧
      (project.runUpdate fs verbose true).announced = project.staleNames (project.render fs) := by
  have reports : (project.failureReports (project.render fs)).flatMap Message.announced = [] :=
    List.flatMap_eq_nil_iff.mpr fun message member => (failureReports_aside member).2
  dsimp only [runUpdate]
  rw [Run.after_code, Run.announced_after fun message => renderRecords_aside]
  cases names : project.staleNames (project.render fs) with
  | nil =>
    refine ⟨rfl, ?_⟩
    cases (project.render fs).hasFailures with
    | false => simp [Run.announced, Run.saying, Message.announced, reports]
    | true => simp [Run.announced, Run.saying, reports]
  | cons name others =>
    refine ⟨rfl, ?_⟩
    simp [Run.announced, Run.saying, Message.announced, reports]

theorem runWrite_fs {verbose : Bool} :
    (project.runWrite fs verbose rendering).fs = (write fs rendering).fs := by
  dsimp only [runWrite]
  cases (write fs rendering).error <;> rfl

theorem runUpdate_fs {verbose : Bool} :
    (project.runUpdate fs verbose false).fs = (write fs (project.render fs)).fs := by
  dsimp only [runUpdate]
  rw [Run.after_fs, staleNames_isEmpty]
  cases stale : (project.render fs).stale with
  | nil =>
    rw [write, stale]
    rfl
  | cons document others => exact runWrite_fs

theorem runUpdate_code {verbose : Bool}
    (done : (write fs (project.render fs)).error = none) :
    (project.runUpdate fs verbose false).code = (renderStatus (project.render fs)).code := by
  dsimp only [runUpdate]
  rw [Run.after_code, staleNames_isEmpty]
  cases (project.render fs).stale.isEmpty with
  | false => simp [runWrite, done]
  | true => rfl

theorem runCheck_code {diff : Bool} : (project.runCheck fs diff).code =
    if (project.render fs).hasFailures then 2 else if (project.render fs).stale = [] then 0 else 1 := by
  dsimp only [runCheck]
  rw [Run.after_code, Rendering.isClean]
  cases failed : (project.render fs).hasFailures with
  | true => simp [Run.saying, Status.code]
  | false =>
    cases stale : (project.render fs).stale <;> simp [Run.saying, Status.code]

theorem runCheck_listed {diff : Bool} :
    (project.runCheck fs diff).staleOutputs = project.staleNames (project.render fs) := by
  have reports : (project.failureReports (project.render fs)).filterMap Message.staleOutput? = [] :=
    List.filterMap_eq_nil_iff.mpr fun message member => (failureReports_aside member).1
  have one : ∀ document : RenderedDocument,
      (project.staleMessages diff document).filterMap Message.staleOutput? =
        [project.display document.pair.output] := by
    intro document
    cases diff <;> rfl
  have listed : ((project.sortedStale (project.render fs)).flatMap
      (project.staleMessages diff)).filterMap Message.staleOutput? =
        project.staleNames (project.render fs) := by
    rw [List.filterMap_flatMap, ← sortedStale_names]
    simp only [one, List.map_eq_flatMap]
  dsimp only [runCheck]
  rw [Run.staleOutputs_after fun message => renderRecords_aside, Rendering.isClean]
  cases stale : (project.render fs).stale with
  | nil =>
    have none : project.staleNames (project.render fs) = [] := by
      rw [← List.isEmpty_iff, staleNames_isEmpty, stale]
      rfl
    rw [none]
    cases (project.render fs).hasFailures with
    | false => simp [Run.staleOutputs, Run.saying, Message.staleOutput?]
    | true => simp [Run.staleOutputs, Run.saying, Message.staleOutput?, reports]
  | cons document others =>
    simp [Run.staleOutputs, Run.saying, List.filterMap_cons, Message.staleOutput?, reports, listed]

-- What a check, a dry run and an update of one project have to do with each other.
structure Agreement (fs : FileSystem) (project : Project) (check dry update : Run) : Prop where
  divided : Divided fs project.contents project.documents (project.render fs)
  checkFailed : check.code = 2 ↔
    ∃ pair ∈ project.documents, renders fs project.contents pair = false
  dryFailed : dry.code = 2 ↔
    ∃ pair ∈ project.documents, renders fs project.contents pair = false
  checkStale : check.code = 1 ↔
    (∀ pair ∈ project.documents, renders fs project.contents pair = true) ∧ dry.announced ≠ []
  checkFresh : check.code = 0 ↔
    (∀ pair ∈ project.documents, renders fs project.contents pair = true) ∧ dry.announced = []
  listed : check.staleOutputs = dry.announced
  sorted : dry.announced.Pairwise fun a b => a.le b = true
  written : (write fs (project.render fs)).error = none →
    update.fs = (write fs (project.render fs)).fs ∧ update.code = dry.code ∧
      dry.announced.Perm
        ((write fs (project.render fs)).outputs.map (·.relativeTo project.root)) ∧
      ∀ pair ∈ project.documents, ∀ content,
        Document.renderFile fs project.contents pair.template = .ok content →
          fs.readText pair.output = .ok content ∨
            pair.output ∈ (write fs (project.render fs)).outputs

theorem code_renderStatus : (renderStatus (project.render fs)).code =
    if (project.render fs).hasFailures then 2 else 0 := by
  cases failed : (project.render fs).hasFailures <;> simp [renderStatus, failed, Status.code]

theorem hasFailures_false : (project.render fs).hasFailures = false ↔
    ∀ pair ∈ project.documents, renders fs project.contents pair = true := by
  rw [Bool.eq_false_iff, Ne, hasFailures_iff]
  simp

theorem agreement {diff verboseDry verbose : Bool} : Agreement fs project
    (project.runCheck fs diff) (project.runUpdate fs verboseDry true)
    (project.runUpdate fs verbose false) := by
  obtain ⟨dryCode, announced⟩ := @runUpdate_dry fs project verboseDry
  have checkCode := @runCheck_code fs project diff
  have nothing : (project.runUpdate fs verboseDry true).announced = [] ↔
      (project.render fs).stale = [] := by
    rw [announced, ← List.isEmpty_iff, staleNames_isEmpty, List.isEmpty_iff]
  rw [code_renderStatus] at dryCode
  refine ⟨renderAll_divided _ _ _, ?_, ?_, ?_, ?_, ?_, ?_, ?_⟩
  · rw [checkCode, ← hasFailures_iff]
    grind
  · rw [dryCode, ← hasFailures_iff]
    grind
  · rw [checkCode, ← hasFailures_false, Ne, nothing]
    grind
  · rw [checkCode, ← hasFailures_false, nothing]
    grind
  · rw [runCheck_listed, announced]
  · rw [announced]
    exact Text.sorted_mergeSort _
  · intro done
    have code := @runUpdate_code fs project verbose done
    have outputs : (write fs (project.render fs)).outputs = _ := writeDocuments_outputs done
    refine ⟨runUpdate_fs, by rw [code, dryCode, code_renderStatus], ?_, ?_⟩
    · rw [announced, outputs, List.map_map]
      exact List.mergeSort_perm _ _
    · intro pair listed content made
      rw [outputs]
      rcases fresh_or_stale listed made with fresh | stale
      · exact .inl fresh
      · exact .inr (List.mem_map.mpr ⟨_, stale, rfl⟩)

theorem Agreement.after {check dry update : Run} {first second third : List Message}
    (agreement : Agreement fs project check dry update)
    (firstAsides : ∀ message ∈ first, message.IsAside)
    (secondAsides : ∀ message ∈ second, message.IsAside) :
    Agreement fs project (check.after first) (dry.after second) (update.after third) := by
  have listed := @Run.staleOutputs_after check first firstAsides
  have announced := @Run.announced_after dry second secondAsides
  obtain ⟨divided, checkFailed, dryFailed, checkStale, checkFresh, same, sorted, written⟩ := agreement
  rw [← announced] at checkStale checkFresh same sorted written
  rw [← listed] at same
  exact ⟨divided, checkFailed, dryFailed, checkStale, checkFresh, same, sorted, written⟩

end Project

namespace Command

variable {fs : FileSystem} {root : Path}

theorem run_loaded {project : Project} {verbose : Bool} {command : Command}
    (loaded : Project.load fs root = .ok project) : run fs root verbose command =
      .after ((Project.loadLog fs root).map .record ++ project.introduction verbose)
        (command.runOn fs project verbose) := by
  rw [run, loaded]

-- A project with a fresh document, a stale one, and one that cannot be rendered.
def mixed : FileSystem where
  nodes := [
    ([.of "mdsplice.toml"], .file (.text
      "documents = [['a.src.md', 'a.md'], ['b.src.md', 'b.md'], ['c.src.md', 'c.md']]\n")),
    ([.of "a.src.md"], .file (.text "# A\n")),
    ([.of "a.md"], .file (.text "# A\n")),
    ([.of "b.src.md"], .file (.text "# B\n")),
    ([.of "c.src.md"], .file (.text "@import\n"))]

def mixedProject : Project where
  root := ⟨"."⟩
  configFile := some ⟨"./mdsplice.toml"⟩
  documents := [⟨⟨"./a.src.md"⟩, ⟨"./a.md"⟩⟩, ⟨⟨"./b.src.md"⟩, ⟨"./b.md"⟩⟩,
    ⟨⟨"./c.src.md"⟩, ⟨"./c.md"⟩⟩]
  contents := {}

theorem mixed_load : Project.load mixed ⟨"."⟩ = .ok mixedProject := by
  have config : Config.load? mixed ⟨"."⟩ = .ok (some { documents := [
      ⟨⟨"a.src.md"⟩, ⟨"a.md"⟩⟩, ⟨⟨"b.src.md"⟩, ⟨"b.md"⟩⟩, ⟨⟨"c.src.md"⟩, ⟨"c.md"⟩⟩] }) := by cbv
  have found : Config.find? mixed ⟨"."⟩ = some ⟨"./mdsplice.toml"⟩ := by cbv
  rw [Project.load_of_parts config rfl rfl, found]
  rfl

theorem mixed_render : mixedProject.render mixed = {
    documents := [
      ⟨⟨⟨"./a.src.md"⟩, ⟨"./a.md"⟩⟩, "# A\n", some "# A\n"⟩,
      ⟨⟨⟨"./b.src.md"⟩, ⟨"./b.md"⟩⟩, "# B\n", none⟩]
    failures := [⟨⟨⟨"./c.src.md"⟩, ⟨"./c.md"⟩⟩,
      .malformedDirective ⟨"./c.src.md"⟩ 1 "@import" .file⟩] } := by
  have readA : mixed.readText ⟨"./a.src.md"⟩ = .ok "# A\n" := by cbv
  have readB : mixed.readText ⟨"./b.src.md"⟩ = .ok "# B\n" := by cbv
  have nowA : mixed.readText ⟨"./a.md"⟩ = .ok "# A\n" := by cbv
  have nowB : mixed.readText ⟨"./b.md"⟩ = .error .notFound := by cbv
  have madeA : Document.renderFile mixed {} ⟨"./a.src.md"⟩ = .ok "# A\n" :=
    Document.renderFile_ok.mpr ⟨_, readA, rfl⟩
  have madeB : Document.renderFile mixed {} ⟨"./b.src.md"⟩ = .ok "# B\n" :=
    Document.renderFile_ok.mpr ⟨_, readB, rfl⟩
  have failed : Document.renderFile mixed {} ⟨"./c.src.md"⟩ =
      .error (.malformedDirective ⟨"./c.src.md"⟩ 1 "@import" .file) := by cbv
  simp only [Project.render, mixedProject, Project.renderAll, Project.renderDocument, madeA, madeB,
    nowA, nowB, failed]
  rfl

end Command
end DocAssembly
