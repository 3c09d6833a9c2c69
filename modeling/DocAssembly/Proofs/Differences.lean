import DocAssembly.Proofs.EditScripts
import DocAssembly.Proofs.Lines
import DocAssembly.Proofs.Reports
import Mathlib

namespace DocAssembly

namespace Diff

def deletionMark : Text := "  -"
def insertionMark : Text := "  +"
def keepMark : Text := "   "

-- The text that the lines of a printed difference with some of the marks spell.
def spelled (marks : List Text) (printed : Text) : Text :=
  (printed.lines.filter fun line => marks.any line.startsWith).flatMap (List.drop 3)

structure Shows (printed current expected : Text) : Prop where
  before : spelled [deletionMark, keepMark] printed = current
  after : spelled [insertionMark, keepMark] printed = expected
  marked : ∀ line ∈ printed.lines,
    [deletionMark, insertionMark, keepMark].any line.startsWith = true
  differs : current ≠ expected →
    ∃ line ∈ printed.lines, [deletionMark, insertionMark].any line.startsWith = true

structure Plain (text : Text) : Prop where
  noReturn : '\r' ∉ text
  endsLine : text.EndsLine

theorem lines_noReturn {text : Text} (noReturn : '\r' ∉ text) : lines text = text.lines := by
  induction text with
  | nil => rfl
  | cons c rest ih =>
    rw [List.mem_cons, not_or] at noReturn
    have noBreak : c ≠ '\r' := Ne.symm noReturn.1
    by_cases feed : c = '\n'
    · simp [lines, Text.lines, feed, ih noReturn.2]
    · cases later : Text.lines rest <;>
        simp [lines, Text.lines, feed, noBreak, ih noReturn.2, later]

structure Whole (line : Text) : Prop where
  one : line.lines = [line]
  ended : line.endsWith "\n"

-- The last line of a text ends as the text does, the others end with line feeds in any case.
theorem whole_of_mem {text line : Text} (ends : text.EndsLine) (member : line ∈ text.lines) :
    Whole line := by
  refine ⟨Text.lines_of_mem member, ?_⟩
  obtain ⟨front, behind, cutAs⟩ := List.append_of_mem member
  obtain ⟨_, _, ended⟩ := Text.lines_cons_parts (Text.lines_flatten_parts cutAs).2
  rcases ended with ended | last
  · exact ended
  · subst last
    have parts : text = front.flatten ++ line := by
      simpa [cutAs] using (Text.flatten_lines text).symm
    have some : line ≠ [] := fun none => Text.nil_not_mem_lines text (none ▸ member)
    rcases ends with nothing | ends
    · exact absurd (List.append_eq_nil_iff.mp (parts.symm.trans nothing)).2 some
    · rw [Text.endsWith_newline] at ends ⊢
      rw [parts, List.getLast?_append] at ends
      cases last : line.getLast? with
      | none => exact absurd (List.getLast?_eq_none_iff.mp last) some
      | some c => simpa [last] using ends

theorem terminated_whole {line : Text} (whole : Whole line) : terminated line = line := by
  unfold terminated
  rw [whole.ended]
  rfl

namespace Change

def mark : Change → Text
  | .keep _ => keepMark
  | .delete _ => deletionMark
  | .insert _ => insertionMark

def line : Change → Text
  | .keep line | .delete line | .insert line => line

def printed (change : Change) : Text := change.mark ++ change.line

def marked (marks : List Text) (change : Change) : Bool := marks.contains change.mark

variable {change : Change}

theorem render_plain (change : Change) :
    change.render false = change.mark ++ terminated change.line := by
  cases change <;> rfl

theorem render_whole (whole : Whole change.line) : change.render false = change.printed := by
  rw [render_plain, terminated_whole whole]
  rfl

theorem lines_mark (mark : Text) {line : Text} (inside : '\n' ∉ mark) (one : line.lines = [line]) :
    Text.lines (mark ++ line) = [mark ++ line] := by
  induction mark with
  | nil => exact one
  | cons c rest ih =>
    rw [List.mem_cons, not_or] at inside
    exact Text.lines_front (Ne.symm inside.1) (ih inside.2)

def marks : List Text := [deletionMark, insertionMark, keepMark]

theorem mark_mem (change : Change) : change.mark ∈ marks := by
  cases change <;> simp [mark, marks]

theorem newline_not_mem_mark (change : Change) : '\n' ∉ change.mark := by
  have none : ∀ mark ∈ marks, '\n' ∉ mark := by decide
  exact none _ change.mark_mem

theorem length_mark (change : Change) : change.mark.length = 3 := by
  cases change <;> rfl

theorem printed_endsLine (whole : Whole change.line) : change.printed.EndsLine :=
  .inr (Text.endsWith_append change.mark whole.ended)

theorem lines_printed (whole : Whole change.line) : change.printed.lines = [change.printed] :=
  lines_mark change.mark (newline_not_mem_mark change) whole.one

end Change

variable {script : List Change} {a b : List Text}

theorem lines_script (whole : ∀ change ∈ script, Whole change.line) :
    Text.lines (script.flatMap (Change.render false)) = script.map Change.printed := by
  have plain : script.flatMap (Change.render false) = script.flatMap Change.printed :=
    List.flatMap_congr fun change member => Change.render_whole (whole change member)
  rw [plain, Text.lines_flatMap fun change member => Change.printed_endsLine (whole change member),
    List.map_eq_flatMap]
  exact List.flatMap_congr fun change member => Change.lines_printed (whole change member)

theorem startsWith_sameLength {front mark : Text} (same : front.length = mark.length)
    (rest : Text) : Text.startsWith (front ++ rest) mark = (mark == front) := by
  rw [Bool.eq_iff_iff, Text.startsWith, List.isPrefixOf_iff_prefix, beq_iff_eq]
  constructor
  · intro begins
    have both := List.prefix_of_prefix_length_le begins (List.prefix_append front rest) same.ge
    exact both.eq_of_length same.symm
  · rintro rfl
    exact List.prefix_append mark rest

-- All marks are of one length, so a line begins with its own mark and with no other.
theorem Change.any_startsWith {marks : List Text} (known : ∀ mark ∈ marks, mark.length = 3)
    (change : Change) : marks.any change.printed.startsWith = change.marked marks := by
  rw [marked, Bool.eq_iff_iff, List.any_eq_true, List.contains_iff_mem]
  constructor
  · intro begun
    obtain ⟨mark, listed, begins⟩ := begun
    have same : change.mark.length = mark.length := change.length_mark.trans (known mark listed).symm
    rw [printed, startsWith_sameLength same, beq_iff_eq] at begins
    exact begins ▸ listed
  · intro listed
    refine ⟨change.mark, listed, ?_⟩
    rw [printed, startsWith_sameLength rfl]
    exact beq_self_eq_true _

theorem spelled_script {marks : List Text} (known : ∀ mark ∈ marks, mark.length = 3)
    (whole : ∀ change ∈ script, Whole change.line) :
    spelled marks (script.flatMap (Change.render false)) =
      (script.filter (Change.marked marks)).flatMap Change.line := by
  have dropped : ∀ change : Change, change.printed.drop 3 = change.line := by
    intro change
    rw [← change.length_mark]
    exact List.drop_left
  rw [spelled, lines_script whole, List.filter_map, List.flatMap_map]
  simp only [dropped, Function.comp_def, Change.any_startsWith known]

namespace Leads

theorem before (leads : Leads a b script) :
    (script.filter (Change.marked [deletionMark, keepMark])).flatMap Change.line = a.flatten := by
  induction leads with
  | done => rfl
  | keep _ ih =>
    rw [List.filter_cons_of_pos rfl, List.flatMap_cons, ih]
    rfl
  | delete _ ih =>
    rw [List.filter_cons_of_pos rfl, List.flatMap_cons, ih]
    rfl
  | @insert _ _ _ line _ ih =>
    have other : ¬ Change.marked [deletionMark, keepMark] (.insert line) = true := by
      rw [Change.marked, Change.mark]
      decide
    rw [List.filter_cons_of_neg other]
    exact ih

theorem after (leads : Leads a b script) :
    (script.filter (Change.marked [insertionMark, keepMark])).flatMap Change.line = b.flatten := by
  induction leads with
  | done => rfl
  | keep _ ih =>
    rw [List.filter_cons_of_pos rfl, List.flatMap_cons, ih]
    rfl
  | @delete _ _ _ line _ ih =>
    have other : ¬ Change.marked [insertionMark, keepMark] (.delete line) = true := by
      rw [Change.marked, Change.mark]
      decide
    rw [List.filter_cons_of_neg other]
    exact ih
  | insert _ ih =>
    rw [List.filter_cons_of_pos rfl, List.flatMap_cons, ih]
    rfl

theorem line_mem (leads : Leads a b script) {change : Change} (member : change ∈ script) :
    change.line ∈ a ∨ change.line ∈ b := by
  induction leads with
  | done => cases member
  | keep _ ih =>
    rcases List.mem_cons.mp member with rfl | later
    · exact .inl List.mem_cons_self
    · exact (ih later).imp (List.mem_cons_of_mem _) (List.mem_cons_of_mem _)
  | delete _ ih =>
    rcases List.mem_cons.mp member with rfl | later
    · exact .inl List.mem_cons_self
    · exact (ih later).imp_left (List.mem_cons_of_mem _)
  | insert _ ih =>
    rcases List.mem_cons.mp member with rfl | later
    · exact .inr List.mem_cons_self
    · exact (ih later).imp_right (List.mem_cons_of_mem _)

theorem differs (leads : Leads a b script) (differ : a ≠ b) :
    ∃ change ∈ script, change.marked [deletionMark, insertionMark] = true := by
  induction leads with
  | done => exact absurd rfl differ
  | keep _ ih =>
    obtain ⟨change, member, marked⟩ := ih fun same => differ (congrArg _ same)
    exact ⟨change, List.mem_cons_of_mem _ member, marked⟩
  | delete _ _ => exact ⟨_, List.mem_cons_self, rfl⟩
  | insert _ _ => exact ⟨_, List.mem_cons_self, rfl⟩

end Leads

-- Whichever changes lead from one text to another, both texts can be read from them.
theorem shows_script {current expected : Text} (plain : Plain current) (plainToo : Plain expected)
    (leads : Leads (lines current) (lines expected) script) :
    Shows (script.flatMap (Change.render false)) current expected := by
  rw [lines_noReturn plain.noReturn, lines_noReturn plainToo.noReturn] at leads
  have whole : ∀ change ∈ script, Whole change.line := by
    intro change member
    rcases leads.line_mem member with old | new
    · exact whole_of_mem plain.endsLine old
    · exact whole_of_mem plainToo.endsLine new
  constructor
  · rw [spelled_script (by decide) whole, leads.before, Text.flatten_lines]
  · rw [spelled_script (by decide) whole, leads.after, Text.flatten_lines]
  · intro line member
    rw [lines_script whole] at member
    obtain ⟨change, _, rfl⟩ := List.mem_map.mp member
    rw [Change.any_startsWith (by decide)]
    exact List.contains_iff_mem.mpr change.mark_mem
  · intro differ
    obtain ⟨change, member, marked⟩ := leads.differs fun same => differ (by
      rw [← Text.flatten_lines current, same, Text.flatten_lines])
    refine ⟨change.printed, ?_, ?_⟩
    · rw [lines_script whole]
      exact List.mem_map_of_mem member
    · rw [Change.any_startsWith (by decide)]
      exact marked

end Diff

variable {fs : FileSystem} {project : Project} {document : RenderedDocument}

theorem Project.staleMessages_infix (stale : document ∈ (project.render fs).stale) :
    project.staleMessages true document <:+: (project.runCheck fs true).messages := by
  have listed : document ∈ project.sortedStale (project.render fs) := List.mem_mergeSort.mpr stale
  obtain ⟨front, behind, order⟩ := List.append_of_mem listed
  have some : (project.render fs).stale.isEmpty = false :=
    List.isEmpty_eq_false_iff.mpr (List.ne_nil_of_mem stale)
  have within : project.staleMessages true document <:+:
      project.staleNews true (project.render fs) := by
    refine ⟨.staleHeading :: front.flatMap (project.staleMessages true),
      behind.flatMap (project.staleMessages true) ++ [.staleEnd], ?_⟩
    simp [staleNews, some, order]
  rw [runCheck_messages]
  have later := within.trans (List.infix_append (renderRecords fs project) _
    (project.failureReports (project.render fs) ++ [checkClosing (project.render fs)]))
  simpa using later

theorem Command.staleMessages_infix {root : Path} (loaded : Project.load fs root = .ok project)
    (verbose : Bool) (stale : document ∈ (project.render fs).stale) :
    project.staleMessages true document <:+: (run fs root verbose (.check true)).messages := by
  rw [run_loaded loaded]
  exact (Project.staleMessages_infix stale).trans (List.suffix_append _ _).isInfix

theorem transcript_staleMessages (filter : LogFilter) :
    Channel.error.transcript filter false (project.staleMessages true document) =
      Message.render false (.staleOutput (project.display document.pair.output)
        (project.display document.pair.template) document.current.isNone) ++
      Diff.render false (document.current.getD []) document.content := by
  have shown : ∀ message ∈ project.staleMessages true document,
      (message.channel = Channel.error && message.isShown filter) = true := by
    intro message member
    rcases List.mem_pair.mp member with rfl | rfl <;> rfl
  rw [Channel.transcript, List.filter_eq_self.mpr shown, Project.staleMessages, if_pos rfl,
    List.flatMap_cons, List.flatMap_singleton]
  rfl

theorem check_shows (environment : Environment) {arguments : List Text} {invocation : Invocation}
    (read : Arguments.read arguments = .ok invocation)
    (checks : invocation.command = some (.check true))
    (uncolored : (invocation.noColor || environment.noColor) = true)
    (loaded : Project.load fs (invocation.rootPath fs) = .ok project)
    (stale : document ∈ (project.render fs).stale)
    (plain : Diff.Plain (document.current.getD [])) (plainToo : Diff.Plain document.content) :
    (∃ before after, (Session.start fs environment arguments).errors = before ++
      (Message.render false (.staleOutput (project.display document.pair.output)
        (project.display document.pair.template) document.current.isNone) ++
      Diff.render false (document.current.getD []) document.content) ++ after) ∧
    Diff.Shows (Diff.render false (document.current.getD []) document.content)
      (document.current.getD []) document.content ∧
    ∀ script, Diff.Leads (Diff.lines (document.current.getD [])) (Diff.lines document.content)
        script →
      Diff.Shows (script.flatMap (Diff.Change.render false)) (document.current.getD [])
        document.content := by
  refine ⟨?_, ?_, ?_⟩
  · obtain ⟨before, after, whole⟩ :=
      Command.staleMessages_infix loaded invocation.verbose stale
    have run : invocation.run fs =
        Command.run fs (invocation.rootPath fs) invocation.verbose (.check true) := by
      rw [Invocation.run, checks]
    refine ⟨Channel.error.transcript (environment.logFilter invocation.verbose) false before,
      Channel.error.transcript (environment.logFilter invocation.verbose) false after, ?_⟩
    rw [← transcript_staleMessages, ← transcript_append, ← transcript_append, whole, ← run,
      Session.start, read]
    simp only [uncolored]
    rfl
  · exact Diff.shows_script plain plainToo (Diff.changes_leads _ _)
  · intro script leads
    exact Diff.shows_script plain plainToo leads

def revised : FileSystem where
  nodes := [
    ([.of "mdsplice.toml"], .file (.text "documents = [['a.src.md', 'a.md']]\n")),
    ([.of "a.src.md"], .file (.text "- one\n+ two\n\n   three\n")),
    ([.of "a.md"], .file (.text "- one\n  -two\n   three\n"))]

def revisedProject : Project where
  root := ⟨"."⟩
  configFile := some ⟨"./mdsplice.toml"⟩
  documents := [⟨⟨"./a.src.md"⟩, ⟨"./a.md"⟩⟩]
  contents := {}

theorem revised_load : Project.load revised ⟨"."⟩ = .ok revisedProject := by
  have config : Config.load? revised ⟨"."⟩ =
      .ok (some { documents := [⟨⟨"a.src.md"⟩, ⟨"a.md"⟩⟩] }) := by cbv
  have found : Config.find? revised ⟨"."⟩ = some ⟨"./mdsplice.toml"⟩ := by cbv
  rw [Project.load_of_parts config rfl rfl, found]
  rfl

def revisedDocument : RenderedDocument :=
  ⟨⟨⟨"./a.src.md"⟩, ⟨"./a.md"⟩⟩, "- one\n+ two\n\n   three\n", some "- one\n  -two\n   three\n"⟩

theorem revised_stale : revisedDocument ∈ (revisedProject.render revised).stale := by
  have read : revised.readText ⟨"./a.src.md"⟩ = .ok "- one\n+ two\n\n   three\n" := by cbv
  have now : revised.readText ⟨"./a.md"⟩ = .ok "- one\n  -two\n   three\n" := by cbv
  have made : Document.renderFile revised {} ⟨"./a.src.md"⟩ = .ok "- one\n+ two\n\n   three\n" :=
    Document.renderFile_ok.mpr ⟨_, read, rfl⟩
  simp only [Project.render, revisedProject, Project.renderAll, Project.renderDocument, made, now]
  exact List.mem_singleton.mpr rfl

def revisedDifference : Text := "   - one\n  -  -two\n  ++ two\n  +\n      three\n"

theorem check_shows_revised :
    Project.load revised ⟨"."⟩ = .ok revisedProject ∧
    (∃ before after,
      (Session.start revised { noColor := true } ["-p", ".", "check", "--diff"]).errors =
        before ++ ("  a.md (from a.src.md) is out of date\n" ++ revisedDifference) ++ after) ∧
    Diff.Shows revisedDifference "- one\n  -two\n   three\n" "- one\n+ two\n\n   three\n" := by
  have read : Arguments.read ["-p", ".", "check", "--diff"] =
      .ok { command := some (.check true), root := some "." } := rfl
  have printed : Diff.render false (revisedDocument.current.getD []) revisedDocument.content =
      revisedDifference := by cbv
  have plain : Diff.Plain "- one\n  -two\n   three\n" := ⟨by decide, by decide⟩
  have plainToo : Diff.Plain "- one\n+ two\n\n   three\n" := ⟨by decide, by decide⟩
  obtain ⟨errors, shows, _⟩ :=
    check_shows { noColor := true } read rfl rfl revised_load revised_stale plain plainToo
  have named : Message.render false (.staleOutput
      (revisedProject.display revisedDocument.pair.output)
      (revisedProject.display revisedDocument.pair.template) revisedDocument.current.isNone) =
      "  a.md (from a.src.md) is out of date\n" := rfl
  rw [named, printed] at errors
  rw [printed] at shows
  exact ⟨revised_load, errors, shows⟩

end DocAssembly
