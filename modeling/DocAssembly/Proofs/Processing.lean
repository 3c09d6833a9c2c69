import DocAssembly.Proofs.FileSystem.Writing
import DocAssembly.Proofs.Rendering
import Mathlib

namespace DocAssembly

namespace FileSystem

variable {before after : FileSystem} {p : Path} {content : Content}

structure Replaces (p : Path) (content : Content) (before after : FileSystem) : Prop where
  home : after.workingDirectory = before.workingDirectory
  room : after.room = before.room
  file : ∃ location, after.locate p = .ok location ∧
    (∀ place, before.locate p = .ok place → place = location) ∧
    after.node? location = some (.file content) ∧
    ∀ other, other ≠ location → after.node? other = before.node? other

theorem Stores.replaces (stores : Stores p content before after) (made : Made [] before after) :
    Replaces p content before after := by
  obtain ⟨location, grown, leads, there⟩ := stores
  refine ⟨grown.home, grown.room, location, leads, ?_, there, ?_⟩
  · intro place leadsBefore
    exact Except.ok.inj ((grown.locate leadsBefore).symm.trans leads)
  · intro other elsewhere
    have becomes := grown.places other
    have noDirectory := made other
    generalize before.node? other = old at becomes noDirectory ⊢
    generalize after.node? other = new at becomes noDirectory ⊢
    cases becomes with
    | same => rfl
    | made =>
      obtain ⟨_, member, _⟩ := noDirectory rfl rfl
      cases member
    | filed _ here => exact absurd here elsewhere
    | rewritten _ _ here => exact absurd here elsewhere

theorem placeToWrite_replaces {location : Location} (leads : before.placeToWrite p = .ok location)
    (content : Content) : Replaces p content before (before.put location (.file content)) :=
  (placeToWrite_put leads content).replaces (put_file_made (placeToWrite_parts leads).1 content)

theorem Replaces.readText {text : Text} (replaces : Replaces p (.text text) before after) :
    after.readText p = .ok text := by
  obtain ⟨location, leads, _, there, _⟩ := replaces.file
  exact readText_eq_ok.mpr (read_eq_ok.mpr ⟨location, leads, there⟩)

end FileSystem

namespace Document

-- Steps that may change the file system and may fail, with what they changed before they failed.
abbrev Processing := EStateM Failure FileSystem

def readNow (path : Path) : Processing Text := do
  match (← get).readSource path with
  | .ok text => return text
  | .error failure => throw failure

def importNow (path : Path) (block : Text) : Processing Text := do
  return Block.extract (← readNow path) block

def processLine (document : Path) (options : ContentsOptions) (table : Text) (number : Nat)
    (line : Text) : Processing Text :=
  match LineKind.ofLine line with
  | .directive =>
    match Directive.parse line with
    | .ok directive => importNow (importedFile document directive) directive.block
    | .error missing => throw (.malformedDirective document number line.stripLineEnding missing)
  | .placeholder => return table
  | .header => return copyHeader options line
  | .text => return line

def processLines (document : Path) (options : ContentsOptions) (table : Text) :
    Nat → Text → List Text → Processing Text
  | _, done, [] => return done
  | number, done, line :: rest => do
    let text ← processLine document options table number line
    processLines document options table (number + 1) (done ++ text) rest

-- Renders a document, reading each file as it is when its line is reached.
def renderNow (options : ContentsOptions) (document : Path) : Processing Text := do
  let source ← readNow document
  processLines document options (Contents.ofLines source.lines) 1 [] source.lines

-- Empties the file that an output leads to, or makes a new one, and gives its place.
def openOutput (output : Path) : Processing Location := do
  match (← get).placeToWrite output with
  | .error error => throw (.io error)
  | .ok location =>
    modify (·.openFile location)
    return location

def fillOutput (location : Location) (content : Text) : Processing Unit := do
  let filled := (← get).fill location (.text content)
  set filled.fs
  match filled.error with
  | some error => throw (.io error)
  | none => return ()

def processFile (options : ContentsOptions) (document output : Path) : Processing Unit := do
  let content ← renderNow options document
  let location ← openOutput output
  fillOutput location content

variable {fs after : FileSystem} {document output : Path} {options : ContentsOptions} {table : Text}

def unchanged {α : Type} (fs : FileSystem) : Except Failure α → EStateM.Result Failure FileSystem α
  | .ok value => .ok value fs
  | .error failure => .error failure fs

theorem bind_unchanged {α β : Type} {step : Processing α} {result : Except Failure α}
    (next : α → Processing β) : step fs = unchanged fs result →
      (step >>= next) fs = match result with
        | .ok value => next value fs
        | .error failure => .error failure fs := by
  intro same
  simp only [bind, EStateM.bind, same]
  cases result <;> rfl

theorem readNow_eq (path : Path) : readNow path fs = unchanged fs (fs.readSource path) := by
  change (match fs.readSource path with
    | .ok text => pure text
    | .error failure => throw failure : Processing Text) fs = _
  cases fs.readSource path <;> rfl

theorem processLine_eq (number : Nat) (line : Text) :
    processLine document options table number line fs =
      unchanged fs (renderLine fs document options table number line) := by
  unfold processLine renderLine
  cases LineKind.ofLine line with
  | directive =>
    dsimp only
    cases Directive.parse line with
    | error missing => rfl
    | ok directive =>
      dsimp only
      rw [importNow, bind_unchanged _ (readNow_eq _), importBlock]
      cases fs.readSource (importedFile document directive) <;> rfl
  | placeholder | header | text => rfl

-- By induction on the lines: each is rendered in the file system that the first was rendered in.
theorem processLines_eq (number : Nat) (done : Text) (lines : List Text) :
    processLines document options table number done lines fs =
      unchanged fs ((renderLines fs document options table number lines).map (done ++ ·)) := by
  induction lines generalizing number done with
  | nil =>
    rw [processLines, renderLines, Except.map, List.append_nil]
    rfl
  | cons line rest ih =>
    rw [processLines, bind_unchanged _ (processLine_eq number line), renderLines]
    cases renderLine fs document options table number line with
    | error failure => rfl
    | ok text =>
      dsimp only
      rw [ih]
      cases renderLines fs document options table (number + 1) rest with
      | error failure => rfl
      | ok others => simp [Except.map, List.append_assoc]

theorem renderNow_eq :
    renderNow options document fs = unchanged fs (renderFile fs options document) := by
  rw [renderNow, bind_unchanged _ (readNow_eq document), renderFile]
  cases fs.readSource document with
  | error failure => rfl
  | ok source =>
    dsimp only
    rw [processLines_eq 1 [] source.lines, render]
    cases renderLines fs document options (Contents.ofLines source.lines) 1 source.lines <;> rfl

theorem openOutput_eq : openOutput output fs = match fs.placeToWrite output with
    | .error error => .error (.io error) fs
    | .ok location => .ok location (fs.openFile location) := by
  change (match fs.placeToWrite output with
    | .error error => throw (.io error)
    | .ok location => do
      modify (·.openFile location)
      return location : Processing Location) fs = _
  cases fs.placeToWrite output <;> rfl

def outcome (done : FileSystem.Outcome Failure) : EStateM.Result Failure FileSystem Unit :=
  match done.error with
  | none => .ok () done.fs
  | some failure => .error failure done.fs

theorem fillOutput_eq (location : Location) (content : Text) : fillOutput location content fs =
    outcome { fs := (fs.fill location (.text content)).fs,
              error := (fs.fill location (.text content)).error.map .io } := by
  change (match (fs.fill location (.text content)).error with
    | some error => throw (.io error)
    | none => return () : Processing Unit) (fs.fill location (.text content)).fs = _
  cases (fs.fill location (.text content)).error <;> rfl

theorem processFile_eq : processFile options document output fs =
    outcome (process fs options document output) := by
  rw [processFile, bind_unchanged _ renderNow_eq, process]
  cases renderFile fs options document with
  | error failure => rfl
  | ok content =>
    dsimp only
    simp only [bind, EStateM.bind, openOutput_eq, FileSystem.write]
    cases fs.placeToWrite output with
    | error error => rfl
    | ok location => exact fillOutput_eq location content

structure Opens (fs : FileSystem) (options : ContentsOptions) (document output : Path)
    (content : Text) (location : Location) : Prop where
  rendered : renderFile fs options document = .ok content
  place : fs.placeToWrite output = .ok location

-- How processing a document can end: before its output was opened, with nothing changed; with a first
-- part of the rendering in the output, which has no room for more; or with all of it there.
inductive Ends (fs : FileSystem) (options : ContentsOptions) (document output : Path) :
    EStateM.Result Failure FileSystem Unit → Prop where
  | refused {failure : Failure} :
      (¬ ∃ content location, Opens fs options document output content location) →
      Ends fs options document output (.error failure fs)
  | cut {content : Text} {location : Location} {kept : List UInt8} {after : FileSystem} :
      Opens fs options document output content location →
      (fs.openFile location).shortage? location (.text content) = some kept.length →
      kept <+: content.utf8 → kept ≠ content.utf8 →
      FileSystem.Replaces output (.ofBytes kept) fs after →
      Ends fs options document output (.error (.io .noSpace) after)
  | done {content : Text} {location : Location} {after : FileSystem} :
      Opens fs options document output content location →
      (fs.openFile location).shortage? location (.text content) = none →
      FileSystem.Replaces output (.text content) fs after →
      Ends fs options document output (.ok () after)

theorem processFile_ends :
    Ends fs options document output (processFile options document output fs) := by
  rw [processFile_eq, process]
  cases rendered : renderFile fs options document with
  | error failure =>
    refine .refused ?_
    rintro ⟨content, location, opens⟩
    cases rendered.symm.trans opens.rendered
  | ok content =>
    dsimp only
    have ends := FileSystem.write_writes fs output (.text content)
    generalize fs.write output (.text content) = wrote at ends
    cases ends with
    | refused refused =>
      refine .refused ?_
      rintro ⟨content, location, opens⟩
      cases refused.symm.trans opens.place
    | done leads fits =>
      exact .done ⟨rendered, leads⟩ fits (FileSystem.placeToWrite_replaces leads _)
    | cut leads short begins less =>
      exact .cut ⟨rendered, leads⟩ short begins less (FileSystem.placeToWrite_replaces leads _)

-- A failure leaves the file system as it was, unless there is no room for all of the rendering: then
-- the output is left with a first part of it. A success has replaced what the output leads to by the
-- rendering of the document as it was before, whatever other paths lead there.
theorem process_all_or_cut (fs : FileSystem) (options : ContentsOptions) (document output : Path) :
    (∀ failure after, processFile options document output fs = .error failure after →
      (after = fs ∧ ¬ ∃ content location, Opens fs options document output content location) ∨
      ∃ content location kept, Opens fs options document output content location ∧
        failure = .io .noSpace ∧ kept <+: content.utf8 ∧ kept ≠ content.utf8 ∧
        FileSystem.Replaces output (.ofBytes kept) fs after) ∧
    (∀ after, processFile options document output fs = .ok () after →
      ∃ content, renderFile fs options document = .ok content ∧
        FileSystem.Replaces output (.text content) fs after ∧
        ∀ path, after.canonical? path = after.canonical? output →
          after.readText path = .ok content) ∧
    ((∃ after, processFile options document output fs = .ok () after) ↔
      ∃ content location, Opens fs options document output content location ∧
        (fs.openFile location).shortage? location (.text content) = none) ∧
    processFile options document output fs = outcome (process fs options document output) := by
  have ends := @processFile_ends fs document output options
  refine ⟨?_, ?_, ?_, processFile_eq⟩
  · intro failure after failed
    rw [failed] at ends
    cases ends with
    | refused stuck => exact .inl ⟨rfl, stuck⟩
    | cut opens _ begins less replaces =>
      exact .inr ⟨_, _, _, opens, rfl, begins, less, replaces⟩
  · intro after done
    rw [done] at ends
    cases ends with
    | done opens _ replaces =>
      refine ⟨_, opens.rendered, replaces, ?_⟩
      intro path same
      exact FileSystem.readText_place same.symm replaces.readText
  · constructor
    · rintro ⟨after, done⟩
      rw [done] at ends
      cases ends with
      | done opens fits _ => exact ⟨_, _, opens, fits⟩
    · rintro ⟨content, location, opens, fits⟩
      generalize processFile options document output fs = result at ends
      cases ends with
      | refused stuck => exact absurd ⟨content, location, opens⟩ stuck
      | cut again short =>
        cases opens.rendered.symm.trans again.rendered
        cases opens.place.symm.trans again.place
        cases fits.symm.trans short
      | done => exact ⟨_, rfl⟩

-- The output is the file that the document imports from.
def overlapping : FileSystem where
  nodes := [
    ([.of "a.src.md"], .file (.text importingTemplate)),
    ([.of "b.h"], .file (.text "@@md#x\ncode\n"))]

-- The output is the document, whose second line is malformed.
def broken : FileSystem where
  nodes := [([.of "a.src.md"], .file (.text "# A\n@import\n"))]

def cramped : FileSystem where
  nodes := [
    ([.of "a.src.md"], .file (.text "# A\n")),
    ([.of "a.md"], .file (.text "old\n"))]
  room := fun _ _ => some 2

def crampedAfter : FileSystem where
  nodes := [
    ([.of "a.src.md"], .file (.text "# A\n")),
    ([.of "a.md"], .file (.text "# "))]
  room := fun _ _ => some 2

theorem cramped_fails : processFile {} ⟨"a.src.md"⟩ ⟨"a.md"⟩ cramped =
    .error (.io .noSpace) crampedAfter := by
  have source : cramped.readText ⟨"a.src.md"⟩ = .ok "# A\n" := by cbv
  have rendered : renderFile cramped {} ⟨"a.src.md"⟩ = .ok "# A\n" :=
    renderFile_ok.mpr ⟨_, source, rfl⟩
  have wrote : cramped.write ⟨"a.md"⟩ (.text "# A\n") =
      { fs := crampedAfter, error := some .noSpace } := by cbv
  rw [processFile_eq, process, rendered]
  dsimp only
  rw [wrote]
  rfl

theorem cramped_old : cramped.readText ⟨"a.md"⟩ = .ok "old\n" := by cbv

theorem cramped_new : crampedAfter.readText ⟨"a.md"⟩ = .ok "# " := by cbv

-- What the output held before is lost, although processing the document fails.
theorem process_cut_short :
    cramped.readText ⟨"a.md"⟩ = .ok "old\n" ∧
    processFile {} ⟨"a.src.md"⟩ ⟨"a.md"⟩ cramped = .error (.io .noSpace) crampedAfter ∧
    crampedAfter.readText ⟨"a.md"⟩ = .ok "# " :=
  ⟨cramped_old, cramped_fails, cramped_new⟩

theorem process_all_or_cut_overlapping :
    (∃ after, processFile {} ⟨"a.src.md"⟩ ⟨"b.h"⟩ overlapping = .ok () after ∧
      after.readText ⟨"b.h"⟩ = .ok "code\n# Title\n") ∧
    (∃ failure, processFile {} ⟨"a.src.md"⟩ ⟨"a.src.md"⟩ broken = .error failure broken) ∧
    ∃ after kept, processFile {} ⟨"a.src.md"⟩ ⟨"a.md"⟩ cramped = .error (.io .noSpace) after ∧
      FileSystem.Replaces ⟨"a.md"⟩ (.ofBytes kept) cramped after := by
  refine ⟨?_, ?_, ?_⟩
  · have template : overlapping.readText ⟨"a.src.md"⟩ = .ok importingTemplate := by cbv
    have block : overlapping.readText ⟨"b.h"⟩ = .ok "@@md#x\ncode\n" := by cbv
    have place : overlapping.placeToWrite ⟨"b.h"⟩ = .ok [.of "b.h"] := by cbv
    have rendered : renderFile overlapping {} ⟨"a.src.md"⟩ = .ok "code\n# Title\n" :=
      renderFile_ok.mpr ⟨_, template, importingTemplate_render block rfl⟩
    obtain ⟨_, holds, ends, _⟩ := process_all_or_cut overlapping {} ⟨"a.src.md"⟩ ⟨"b.h"⟩
    obtain ⟨after, done⟩ := ends.mpr ⟨_, _, ⟨rendered, place⟩, rfl⟩
    obtain ⟨content, own, _, reads⟩ := holds after done
    cases rendered.symm.trans own
    exact ⟨after, done, reads _ rfl⟩
  · have source : broken.readText ⟨"a.src.md"⟩ = .ok "# A\n@import\n" := by cbv
    have failed : renderFile broken {} ⟨"a.src.md"⟩ =
        .error (.malformedDirective ⟨"a.src.md"⟩ 2 "@import" .file) := by
      simp only [renderFile, FileSystem.readSource, source]
      rfl
    obtain ⟨fails, holds, _⟩ := process_all_or_cut broken {} ⟨"a.src.md"⟩ ⟨"a.src.md"⟩
    cases ended : processFile {} ⟨"a.src.md"⟩ ⟨"a.src.md"⟩ broken with
    | ok _ after =>
      obtain ⟨_, rendered, _⟩ := holds after ended
      cases failed.symm.trans rendered
    | error failure after =>
      rcases fails failure after ended with ⟨rfl, _⟩ | ⟨_, _, _, opens, _⟩
      · exact ⟨failure, rfl⟩
      · cases failed.symm.trans opens.rendered
  · obtain ⟨fails, _⟩ := process_all_or_cut cramped {} ⟨"a.src.md"⟩ ⟨"a.md"⟩
    rcases fails _ _ cramped_fails with ⟨same, _⟩ | ⟨_, _, kept, _, _, _, _, replaces⟩
    · have old := cramped_old
      rw [← same, cramped_new] at old
      cases old
    · exact ⟨_, kept, cramped_fails, replaces⟩

end Document
end DocAssembly
