import DocAssembly.Proofs.Encoding
import DocAssembly.Proofs.Naming

namespace DocAssembly

inductive Verdict where
  | failed (failure : Failure)
  | missing
  | outdated
  | fresh
deriving DecidableEq, Repr

def Verdict.failure? : Verdict → Option Failure
  | .failed failure => some failure
  | _ => none

def Verdict.word? (illegible : Bool) : Verdict → Option Bool
  | .missing => some true
  | .outdated => some illegible
  | _ => none

namespace Node

def holds (node : Node) (content : Text) : Bool :=
  match node with
  | .file held => held.bytes == content.utf8
  | _ => false

def text? : Node → Option Text
  | .file held => held.text?
  | _ => none

end Node

def FileSystem.isIllegible (fs : FileSystem) (p : Path) : Bool :=
  (fs.nodeAt? p).any (·.text?.isNone)

def Verdict.ofOutput (there : Option Node) (content : Text) : Verdict :=
  match there with
  | none => .missing
  | some node => if node.holds content then .fresh else .outdated

def Project.verdict (fs : FileSystem) (project : Project) (pair : DocumentPair) : Verdict :=
  match Document.renderFile fs project.contents pair.template with
  | .error failure => .failed failure
  | .ok content => .ofOutput (fs.nodeAt? pair.output) content

namespace Project

-- Whether messages call the output of a document missing, or else out of date.
def Tells (project : Project) (messages : List Message) (pair : DocumentPair) (missing : Bool) :
    Prop :=
  .staleOutput (project.display pair.output) (project.display pair.template) missing ∈ messages

def Mentions (project : Project) (messages : List Message) (pair : DocumentPair) : Prop :=
  ∃ template missing, .staleOutput (project.display pair.output) template missing ∈ messages

end Project

variable {fs : FileSystem} {root p : Path} {project : Project} {pair : DocumentPair}
  {rendering : Rendering}

theorem Content.bytes_eq_utf8 {held : Content} {content : Text} :
    held.bytes = content.utf8 ↔ held = .text content := by
  cases held with
  | text own =>
      rw [Content.text.injEq]
      exact Text.utf8_injective.eq_iff
  | binary bytes notText =>
      constructor
      · intro same
        change bytes = content.utf8 at same
        rw [same, Text.ofUtf8?_utf8] at notText
        cases notText
      · intro same
        cases same

theorem Node.holds_iff {node : Node} {content : Text} :
    node.holds content = true ↔ node.text? = some content := by
  cases node with
  | directory => simp [holds, text?]
  | link target => simp [holds, text?]
  | file held =>
      unfold holds
      rw [beq_iff_eq, Content.bytes_eq_utf8]
      cases held <;> simp [text?, Content.text?]

theorem Node.text?_eq_some {node : Node} {text : Text} :
    node.text? = some text ↔ node = .file (.text text) := by
  cases node with
  | directory => simp [text?]
  | link target => simp [text?]
  | file held => cases held <;> simp [text?, Content.text?]

theorem FileSystem.readText_node : (fs.readText p).toOption = (fs.nodeAt? p).bind Node.text? := by
  apply Option.ext
  intro text
  have read : (fs.readText p).toOption = some text ↔ fs.readText p = .ok text := by
    cases fs.readText p <;> simp [Except.toOption]
  rw [read, readText_eq_ok, read_eq_ok, Option.bind_eq_some_iff]
  constructor
  · intro had
    obtain ⟨location, leads, there⟩ := had
    refine ⟨_, ?_, Node.text?_eq_some.mpr rfl⟩
    rw [nodeAt?, canonical?_eq_some.mpr leads]
    exact there
  · intro had
    obtain ⟨node, found, holds⟩ := had
    obtain ⟨location, leads, there⟩ := Option.bind_eq_some_iff.mp found
    rw [Node.text?_eq_some.mp holds] at there
    exact ⟨location, canonical?_eq_some.mp leads, there⟩

namespace Project

variable {diff missing : Bool} {messages : List Message} {output template : Text}

theorem verdict_failure {failure : Failure} : project.verdict fs pair = .failed failure ↔
    Document.renderFile fs project.contents pair.template = .error failure := by
  unfold verdict
  cases Document.renderFile fs project.contents pair.template with
  | error own => simp
  | ok content =>
      simp only [reduceCtorEq, iff_false]
      unfold Verdict.ofOutput
      split
      · nofun
      · split <;> nofun

theorem failing_verdict : project.failing fs = project.documents.filterMap fun pair =>
    (project.verdict fs pair).failure?.map fun failure =>
      (project.display pair.template, failure) := by
  unfold failing
  apply List.filterMap_congr
  intro pair listed
  cases made : Document.renderFile fs project.contents pair.template with
  | error failure =>
      rw [verdict_failure.mpr made]
      rfl
  | ok content =>
      cases judged : project.verdict fs pair with
      | failed failure =>
          rw [verdict_failure.mp judged] at made
          cases made
      | missing => rfl
      | outdated => rfl
      | fresh => rfl

theorem aside_ne {message : Message} (aside : message.IsAside) :
    .staleOutput output template missing ≠ message := by
  intro same
  cases same
  cases aside.1

theorem mem_staleMessages {document : RenderedDocument} :
    .staleOutput output template missing ∈ project.staleMessages diff document ↔
      output = project.display document.pair.output ∧
        template = project.display document.pair.template ∧
          missing = document.current.isNone := by
  unfold staleMessages
  cases diff <;> simp

theorem mem_staleNews : .staleOutput output template missing ∈ project.staleNews diff rendering ↔
    ∃ document ∈ rendering.stale, output = project.display document.pair.output ∧
      template = project.display document.pair.template ∧
        missing = document.current.isNone := by
  unfold staleNews
  split
  · next none => simp [List.isEmpty_iff.mp none]
  · simp [List.mem_flatMap, mem_staleMessages, sortedStale]

theorem mem_runCheck : .staleOutput output template missing ∈ (project.runCheck fs diff).messages ↔
    ∃ document ∈ (project.render fs).stale, output = project.display document.pair.output ∧
      template = project.display document.pair.template ∧
        missing = document.current.isNone := by
  have closing : .staleOutput output template missing ≠ checkClosing (project.render fs) := by
    unfold checkClosing
    split <;> nofun
  rw [runCheck_messages, ← mem_staleNews]
  simp only [List.mem_append, List.mem_singleton, closing, or_false]
  constructor
  · intro member
    rcases member with logged | news | reported
    · exact absurd rfl (aside_ne (renderRecords_aside logged))
    · exact news
    · exact absurd rfl (aside_ne (failureReports_aside reported))
  · intro news
    exact .inr (.inl news)

-- Outputs are told apart by their names, so what is said of a name is said of this document.
theorem mem_runCheck_document (loaded : load fs root = .ok project)
    (listed : pair ∈ project.documents) :
    .staleOutput (project.display pair.output) template missing ∈
        (project.runCheck fs diff).messages ↔
      template = project.display pair.template ∧
        ∃ content, Document.renderFile fs project.contents pair.template = .ok content ∧
          (fs.readText pair.output).toOption ≠ some content ∧
            missing = (fs.readText pair.output).toOption.isNone := by
  rw [mem_runCheck]
  constructor
  · intro said
    obtain ⟨document, member, alike, rfl, rfl⟩ := said
    obtain ⟨rendered, stale⟩ := List.mem_filter.mp member
    obtain ⟨among, made, now⟩ := mem_renderAll.mp rendered
    have same := List.inj_on_of_nodup_map (outputNames_nodup loaded) listed among alike
    subst same
    rw [← now]
    exact ⟨rfl, document.content, made, isStale_iff.mp stale, rfl⟩
  · intro said
    obtain ⟨rfl, content, made, differs, rfl⟩ := said
    have rendered : ⟨pair, content, (fs.readText pair.output).toOption⟩ ∈
        (project.render fs).documents := mem_renderAll.mpr ⟨listed, made, rfl⟩
    exact ⟨_, List.mem_filter.mpr ⟨rendered, isStale_iff.mpr differs⟩, rfl, rfl, rfl⟩

theorem word?_ofOutput {there : Option Node} {content : Text} :
    (Verdict.ofOutput there content).word? (there.any (·.text?.isNone)) = some missing ↔
      there.bind Node.text? ≠ some content ∧ missing = (there.bind Node.text?).isNone := by
  cases there with
  | none => simp [Verdict.ofOutput, Verdict.word?]
  | some node =>
      by_cases fresh : node.text? = some content
      · simp [Verdict.ofOutput, Verdict.word?, Node.holds_iff, fresh]
      · simp [Verdict.ofOutput, Verdict.word?, Node.holds_iff, fresh]
        exact eq_comm

theorem runCheck_word (loaded : load fs root = .ok project) (listed : pair ∈ project.documents) :
    .staleOutput (project.display pair.output) template missing ∈
        (project.runCheck fs diff).messages ↔
      template = project.display pair.template ∧
        (project.verdict fs pair).word? (fs.isIllegible pair.output) = some missing := by
  rw [mem_runCheck_document loaded listed, FileSystem.readText_node]
  unfold verdict
  cases Document.renderFile fs project.contents pair.template with
  | error failure => simp [Verdict.word?]
  | ok content =>
      simp only [Except.ok.injEq, exists_eq_left']
      exact and_congr_right fun _ => word?_ofOutput.symm

end Project

theorem Command.mem_run (loaded : Project.load fs root = .ok project) {verbose missing : Bool}
    {command : Command} {output template : Text} :
    .staleOutput output template missing ∈ (run fs root verbose command).messages ↔
      .staleOutput output template missing ∈ (command.runOn fs project verbose).messages := by
  rw [run_loaded loaded]
  constructor
  · intro said
    rcases List.mem_append.mp said with opening | said
    · rcases List.mem_append.mp opening with logged | introduced
      · exact absurd rfl (Project.aside_ne (Project.records_aside logged))
      · exact absurd rfl (Project.aside_ne (Project.introduction_aside introduced))
    · exact said
  · intro said
    exact List.mem_append_right _ said

theorem Command.check_word (loaded : Project.load fs root = .ok project)
    (listed : pair ∈ project.documents) {verbose diff missing : Bool} {template : Text} :
    .staleOutput (project.display pair.output) template missing ∈
        (run fs root verbose (.check diff)).messages ↔
      template = project.display pair.template ∧
        (project.verdict fs pair).word? (fs.isIllegible pair.output) = some missing :=
  (mem_run loaded).trans (Project.runCheck_word loaded listed)

structure Judged (fs : FileSystem) (project : Project) (messages : List Message)
    (pair : DocumentPair) : Prop where
  missing : project.Tells messages pair true ↔
    project.verdict fs pair = .missing ∨
      project.verdict fs pair = .outdated ∧ fs.isIllegible pair.output = true
  outdated : project.Tells messages pair false ↔
    project.verdict fs pair = .outdated ∧ fs.isIllegible pair.output = false
  silent : ¬ project.Mentions messages pair ↔
    project.verdict fs pair = .fresh ∨ ∃ failure, project.verdict fs pair = .failed failure

theorem Judged.of_word {messages : List Message}
    (word : ∀ template missing,
      .staleOutput (project.display pair.output) template missing ∈ messages ↔
        template = project.display pair.template ∧
          (project.verdict fs pair).word? (fs.isIllegible pair.output) = some missing) :
    Judged fs project messages pair := by
  constructor
  · rw [Project.Tells, word]
    cases project.verdict fs pair <;> simp [Verdict.word?]
  · rw [Project.Tells, word]
    cases project.verdict fs pair <;> simp [Verdict.word?]
  · simp only [Project.Mentions, word]
    cases project.verdict fs pair <;> simp [Verdict.word?]

theorem check_judges (loaded : Project.load fs root = .ok project) (verbose diff : Bool) :
    ((Command.run fs root verbose (.check diff)).messages.filterMap Message.report? =
      project.documents.filterMap fun pair =>
        (project.verdict fs pair).failure?.map fun failure =>
          (project.display pair.template, failure)) ∧
    ∀ pair ∈ project.documents,
      Judged fs project (Command.run fs root verbose (.check diff)).messages pair := by
  constructor
  · obtain ⟨before, after, reported⟩ := Command.run_reported loaded verbose (.check diff)
    rw [reported.filterMap_eq]
    exact Project.failing_verdict
  · intro pair listed
    apply Judged.of_word
    intro template missing
    exact Command.check_word loaded listed

theorem check_judges_mixed :
    Project.load Command.mixed ⟨"."⟩ = .ok Command.mixedProject ∧
    Command.mixedProject.verdict Command.mixed ⟨⟨"./b.src.md"⟩, ⟨"./b.md"⟩⟩ = .missing ∧
    Command.mixedProject.Tells (Command.run Command.mixed ⟨"."⟩ false (.check false)).messages
      ⟨⟨"./b.src.md"⟩, ⟨"./b.md"⟩⟩ true := by
  have read : Command.mixed.readText ⟨"./b.src.md"⟩ = .ok "# B\n" := by cbv
  have made : Document.renderFile Command.mixed {} ⟨"./b.src.md"⟩ = .ok "# B\n" :=
    Document.renderFile_ok.mpr ⟨_, read, rfl⟩
  have nothing : Command.mixed.nodeAt? ⟨"./b.md"⟩ = none := by cbv
  have missing : Command.mixedProject.verdict Command.mixed ⟨⟨"./b.src.md"⟩, ⟨"./b.md"⟩⟩ =
      .missing := by
    simp only [Project.verdict, Command.mixedProject, made, nothing, Verdict.ofOutput]
  obtain ⟨_, judged⟩ := check_judges Command.mixed_load false false
  exact ⟨Command.mixed_load, missing, (judged _ (by decide)).missing.mpr (.inl missing)⟩

-- A directory and a file of other bytes in the place of outputs.
def displaced : FileSystem where
  nodes := [
    ([.of "mdsplice.toml"], .file (.text
      "documents = [['a.src.md', 'a.md'], ['b.src.md', 'b.md']]\n")),
    ([.of "a.src.md"], .file (.text "# A\n")),
    ([.of "a.md"], .directory),
    ([.of "b.src.md"], .file (.text "# B\n")),
    ([.of "b.md"], .file (.ofBytes [255]))]

theorem displaced_load : Project.load displaced ⟨"."⟩ = .ok obstructedProject := by
  have config : Config.load? displaced ⟨"."⟩ = .ok (some { documents := [
      ⟨⟨"a.src.md"⟩, ⟨"a.md"⟩⟩, ⟨⟨"b.src.md"⟩, ⟨"b.md"⟩⟩] }) := by cbv
  have found : Config.find? displaced ⟨"."⟩ = some ⟨"./mdsplice.toml"⟩ := by cbv
  rw [Project.load_of_parts config rfl rfl, found]
  rfl

theorem displaced_verdicts :
    obstructedProject.verdict displaced ⟨⟨"./a.src.md"⟩, ⟨"./a.md"⟩⟩ = .outdated ∧
    obstructedProject.verdict displaced ⟨⟨"./b.src.md"⟩, ⟨"./b.md"⟩⟩ = .outdated := by
  have readA : displaced.readText ⟨"./a.src.md"⟩ = .ok "# A\n" := by cbv
  have madeA : Document.renderFile displaced {} ⟨"./a.src.md"⟩ = .ok "# A\n" :=
    Document.renderFile_ok.mpr ⟨_, readA, rfl⟩
  have nodeA : displaced.nodeAt? ⟨"./a.md"⟩ = some .directory := by cbv
  have readB : displaced.readText ⟨"./b.src.md"⟩ = .ok "# B\n" := by cbv
  have madeB : Document.renderFile displaced {} ⟨"./b.src.md"⟩ = .ok "# B\n" :=
    Document.renderFile_ok.mpr ⟨_, readB, rfl⟩
  have nodeB : displaced.nodeAt? ⟨"./b.md"⟩ = some (.file (.ofBytes [255])) := by cbv
  constructor
  · simp only [Project.verdict, obstructedProject, madeA, nodeA]
    rfl
  · simp only [Project.verdict, obstructedProject, madeB, nodeB]
    rfl

theorem check_misjudges :
    Project.load displaced ⟨"."⟩ = .ok obstructedProject ∧
    ∀ pair ∈ obstructedProject.documents,
      obstructedProject.verdict displaced pair = .outdated ∧
      obstructedProject.Tells (Command.run displaced ⟨"."⟩ false (.check false)).messages pair true ∧
      ¬ obstructedProject.Tells (Command.run displaced ⟨"."⟩ false (.check false)).messages pair
        false := by
  have illegible : ∀ pair ∈ obstructedProject.documents,
      displaced.isIllegible pair.output = true := by
    intro pair listed
    rcases List.mem_pair.mp listed with rfl | rfl <;> cbv
  refine ⟨displaced_load, ?_⟩
  intro pair listed
  have outdated : obstructedProject.verdict displaced pair = .outdated := by
    rcases List.mem_pair.mp listed with rfl | rfl
    · exact displaced_verdicts.1
    · exact displaced_verdicts.2
  have word : (obstructedProject.verdict displaced pair).word? (displaced.isIllegible pair.output) =
      some true := by
    rw [outdated, illegible pair listed]
    rfl
  refine ⟨outdated, (Command.check_word displaced_load listed).mpr ⟨rfl, word⟩, ?_⟩
  intro told
  obtain ⟨_, other⟩ := (Command.check_word displaced_load listed).mp told
  rw [word] at other
  cases other

end DocAssembly
