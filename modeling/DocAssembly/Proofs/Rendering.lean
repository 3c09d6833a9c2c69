import DocAssembly.Document
import DocAssembly.Proofs.FileSystem.Paths
import DocAssembly.Proofs.Lines

namespace DocAssembly

def Failure.later (count : Nat) : Failure → Failure
  | .malformedDirective document line directive missing =>
    .malformedDirective document (line + count) directive missing
  | failure => failure

namespace LineKind

theorem ofLine_directive {line : Text} :
    ofLine line = .directive ↔ line.startsWith Directive.keyword = true := by
  unfold ofLine
  split
  · simp [*]
  · split
    · simp [*]
    · split <;> simp [*]

theorem startsWith_placeholder {line : Text} (found : ofLine line = .placeholder) :
    line.startsWith Contents.placeholder = true := by
  unfold ofLine at found
  split at found
  · cases found
  · split at found
    · assumption
    · split at found <;> cases found

theorem ofLine_header {line : Text} : ofLine line = .header ↔ Header.isLine line = true := by
  constructor
  · intro found
    unfold ofLine at found
    split at found
    · cases found
    · split at found
      · cases found
      · split at found
        · assumption
        · cases found
  · intro header
    cases line with
    | nil => cases header
    | cons c rest =>
      have mark : c = '#' := by
        have first : ['#'].isPrefixOf (c :: rest) = true := (Bool.and_eq_true_iff.mp header).1
        exact (by simpa using first : '#' = c).symm
      subst mark
      have noDirective : Text.startsWith ('#' :: rest) Directive.keyword = false := rfl
      have noPlaceholder : Text.startsWith ('#' :: rest) Contents.placeholder = false := rfl
      simp only [ofLine, noDirective, noPlaceholder, header, if_true, Bool.false_eq_true, if_false]

end LineKind

namespace Document

variable {fs : FileSystem} {document : Path} {options : ContentsOptions} {table : Text}

def renderWith (fs : FileSystem) (options : ContentsOptions) (document : Path)
    (table source : Text) : Except Failure Text :=
  renderLines fs document options table 1 source.lines

theorem render_eq (fs : FileSystem) (options : ContentsOptions) (document : Path) (source : Text) :
    render fs options document source =
      renderWith fs options document (Contents.ofLines source.lines) source := rfl

def import? (document : Path) (line : Text) : Option (Path × Text) :=
  match LineKind.ofLine line, Directive.parse line with
  | .directive, .ok directive => some (importedFile document directive, directive.block)
  | _, _ => none

theorem renderLine_import {line block : Text} {path : Path}
    (names : import? document line = some (path, block)) (number : Nat) :
    renderLine fs document options table number line = importBlock fs path block := by
  unfold import? at names
  split at names
  · next kind parsed =>
    cases Option.some.inj names
    simp only [renderLine, kind, parsed]
  · cases names

theorem renderLine_header {line : Text} {number : Nat} (header : Header.isLine line = true) :
    renderLine fs document options table number line = .ok (copyHeader options line) := by
  simp only [renderLine, LineKind.ofLine_header.mpr header]

theorem importBlock_later (fs : FileSystem) (path : Path) (block : Text) (count : Nat) :
    (importBlock fs path block).mapError (Failure.later count) = importBlock fs path block := by
  unfold importBlock FileSystem.readSource
  cases fs.readText path <;> rfl

theorem renderLine_later (number count : Nat) (line : Text) :
    renderLine fs document options table (number + count) line =
      (renderLine fs document options table number line).mapError (Failure.later count) := by
  cases kind : LineKind.ofLine line with
  | directive =>
    simp only [renderLine, kind]
    cases Directive.parse line with
    | error missing => rfl
    | ok directive => exact (importBlock_later _ _ _ _).symm
  | placeholder | header | text => simp [renderLine, kind, Except.mapError]

theorem renderLine_table {line : Text} (table other : Text) (number : Nat)
    (plain : LineKind.ofLine line ≠ .placeholder) :
    renderLine fs document options table number line =
      renderLine fs document options other number line := by
  cases kind : LineKind.ofLine line with
  | placeholder => exact absurd kind plain
  | directive | header | text => simp only [renderLine, kind]

theorem renderLine_imports {other : FileSystem} {line : Text} (number : Nat)
    (same : ∀ path block, import? document line = some (path, block) →
      importBlock fs path block = importBlock other path block) :
    renderLine fs document options table number line =
      renderLine other document options table number line := by
  cases kind : LineKind.ofLine line with
  | directive =>
    cases parsed : Directive.parse line with
    | error missing => simp only [renderLine, kind, parsed]
    | ok directive =>
      have names : import? document line =
          some (importedFile document directive, directive.block) := by
        simp only [import?, kind, parsed]
      rw [renderLine_import names, renderLine_import names]
      exact same _ _ names
  | placeholder | header | text => simp only [renderLine, kind]

theorem renderLines_append (number : Nat) (first second : List Text) :
    renderLines fs document options table number (first ++ second) =
      match renderLines fs document options table number first with
      | .error failure => .error failure
      | .ok front =>
        match renderLines fs document options table (number + first.length) second with
        | .error failure => .error failure
        | .ok behind => .ok (front ++ behind) := by
  induction first generalizing number with
  | nil =>
    simp only [List.nil_append, renderLines, List.length_nil, Nat.add_zero]
    cases renderLines fs document options table number second <;> rfl
  | cons line rest ih =>
    simp only [List.cons_append, renderLines]
    cases renderLine fs document options table number line with
    | error failure => rfl
    | ok text =>
      have place : number + (line :: rest).length = number + 1 + rest.length := by
        simp only [List.length_cons]
        omega
      rw [ih, place]
      cases renderLines fs document options table (number + 1) rest with
      | error failure => rfl
      | ok front =>
        cases renderLines fs document options table (number + 1 + rest.length) second with
        | error failure => rfl
        | ok behind => simp [List.append_assoc]

theorem renderLines_later (number count : Nat) (lines : List Text) :
    renderLines fs document options table (number + count) lines =
      (renderLines fs document options table number lines).mapError (Failure.later count) := by
  induction lines generalizing number with
  | nil => rfl
  | cons line rest ih =>
    have next : number + count + 1 = number + 1 + count := by omega
    simp only [renderLines, renderLine_later, next, ih]
    cases renderLine fs document options table number line with
    | error failure => rfl
    | ok text => cases renderLines fs document options table (number + 1) rest <;> rfl

theorem renderLines_table {lines : List Text} (table other : Text) (number : Nat)
    (plain : ∀ line ∈ lines, LineKind.ofLine line ≠ .placeholder) :
    renderLines fs document options table number lines =
      renderLines fs document options other number lines := by
  induction lines generalizing number with
  | nil => rfl
  | cons line rest ih =>
    rw [List.forall_mem_cons] at plain
    simp only [renderLines, renderLine_table table other number plain.1, ih _ plain.2]

theorem renderLines_imports {other : FileSystem} {lines : List Text} (number : Nat)
    (same : ∀ line ∈ lines, ∀ path block, import? document line = some (path, block) →
      importBlock fs path block = importBlock other path block) :
    renderLines fs document options table number lines =
      renderLines other document options table number lines := by
  induction lines generalizing number with
  | nil => rfl
  | cons line rest ih =>
    rw [List.forall_mem_cons] at same
    simp only [renderLines, renderLine_imports number same.1, ih _ same.2]

theorem renderLines_cons_ok {number : Nat} {line : Text} {rest : List Text} {output : Text}
    (rendered : renderLines fs document options table number (line :: rest) = .ok output) :
    ∃ first others, renderLine fs document options table number line = .ok first ∧
      renderLines fs document options table (number + 1) rest = .ok others ∧
      output = first ++ others := by
  simp only [renderLines] at rendered
  cases one : renderLine fs document options table number line with
  | error failure => simp [one] at rendered
  | ok first =>
    cases more : renderLines fs document options table (number + 1) rest with
    | error failure => simp [one, more] at rendered
    | ok others =>
      simp only [one, more] at rendered
      exact ⟨first, others, rfl, rfl, (Except.ok.inj rendered).symm⟩

-- The paths under which rendering a document reads files: its own, and those of its imports.
def reads (fs : FileSystem) (document : Path) : List Path :=
  document :: match fs.readText document with
    | .ok source => (source.lines.filterMap (import? document)).map (·.1)
    | .error _ => []

theorem importBlock_of_read {path : Path} {content : Text} (had : fs.readText path = .ok content)
    (block : Text) : importBlock fs path block = .ok (Block.extract content block) := by
  simp only [importBlock, FileSystem.readSource, had]

theorem renderFile_ok {content : Text} : renderFile fs options document = .ok content ↔
    ∃ source, fs.readText document = .ok source ∧ render fs options document source = .ok content := by
  unfold renderFile FileSystem.readSource
  cases fs.readText document <;> simp

def copied (line : Text) : Text :=
  match LineKind.ofLine line with
  | .directive | .placeholder => []
  | .header | .text => line

def generated (options : ContentsOptions) (table line : Text) : Text :=
  match LineKind.ofLine line with
  | .placeholder => table
  | .header =>
    if options.backLinks then
      (if line.endsWith "\n" then [] else ['\n']) ++ Contents.backLink options
    else []
  | .directive | .text => []

def spliced (fs : FileSystem) (document : Path) (line : Text) : Text :=
  match import? document line with
  | none => []
  | some (path, block) =>
    match fs.readText path with
    | .ok content => Block.extract content block
    | .error _ => []

def failure? (fs : FileSystem) (document : Path) (number : Nat) (line : Text) : Option Failure :=
  match LineKind.ofLine line with
  | .directive =>
    match Directive.parse line with
    | .error missing => some (.malformedDirective document number line.stripLineEnding missing)
    | .ok directive =>
      match fs.readText (importedFile document directive) with
      | .ok _ => none
      | .error error => some (.unreadable (importedFile document directive) error)
  | _ => none

def firstFailure? (fs : FileSystem) (document : Path) : Nat → List Text → Option Failure
  | _, [] => none
  | number, line :: rest =>
    (failure? fs document number line).or (firstFailure? fs document (number + 1) rest)

theorem copyHeader_eq (line : Text) : copyHeader options line = line ++
    if options.backLinks then
      (if line.endsWith "\n" then [] else ['\n']) ++ Contents.backLink options
    else [] := by
  unfold copyHeader
  split
  · split
    · simp
    · rw [← List.append_assoc]
      rfl
  · simp

theorem renderLine_assembled (number : Nat) (line : Text) :
    renderLine fs document options table number line =
      (failure? fs document number line).elim
        (.ok (copied line ++ generated options table line ++ spliced fs document line)) .error := by
  cases kind : LineKind.ofLine line with
  | directive =>
    cases parsed : Directive.parse line with
    | error missing => simp [renderLine, failure?, kind, parsed]
    | ok directive =>
      cases read : fs.readText (importedFile document directive) with
      | error error =>
        simp [renderLine, failure?, kind, parsed, read, importBlock, FileSystem.readSource]
      | ok content =>
        simp [renderLine, failure?, copied, generated, spliced, import?, kind, parsed, read,
          importBlock, FileSystem.readSource]
  | placeholder => simp [renderLine, failure?, copied, generated, spliced, import?, kind]
  | header =>
    simp [renderLine, failure?, copied, generated, spliced, import?, kind, copyHeader_eq]
  | text => simp [renderLine, failure?, copied, generated, spliced, import?, kind]

theorem renderLines_assembled (number : Nat) (lines : List Text) :
    renderLines fs document options table number lines =
      (firstFailure? fs document number lines).elim
        (.ok (lines.flatMap fun line =>
          copied line ++ generated options table line ++ spliced fs document line)) .error := by
  induction lines generalizing number with
  | nil => rfl
  | cons line rest ih =>
    simp only [renderLines, renderLine_assembled, ih, firstFailure?]
    cases failure? fs document number line with
    | some failure => rfl
    | none =>
      cases firstFailure? fs document (number + 1) rest with
      | some failure => rfl
      | none => rfl

theorem render_assembled (fs : FileSystem) (options : ContentsOptions) (document : Path)
    (source : Text) : render fs options document source =
      (firstFailure? fs document 1 source.lines).elim
        (.ok (source.lines.flatMap fun line => copied line ++
          generated options (Contents.ofLines source.lines) line ++ spliced fs document line))
        .error :=
  renderLines_assembled 1 source.lines

def importLine : Text := "@import \"b.h\" \x7bmd_id=x\x7d\n"

def importingTemplate : Text := importLine ++ "# Title\n"

def blockFile (content : Text) : FileSystem := { nodes := [([.of "b.h"], .file (.text content))] }

theorem importingTemplate_lines : importingTemplate.lines = [importLine, "# Title\n"] := rfl

theorem importLine_import? : import? ⟨"a.src.md"⟩ importLine = some (⟨"b.h"⟩, ['x']) := rfl

theorem blockFile_read (content : Text) :
    (blockFile content).readText ⟨"b.h"⟩ = .ok content := by
  have root : (blockFile content).node? [] = some .directory := rfl
  have entry : (blockFile content).node? [.of "b.h"] = some (.file (.text content)) := rfl
  have found : (blockFile content).follow FileSystem.maxLinks [] [.down "b.h"] =
      .ok (.occupied [.of "b.h"]) := by
    rw [FileSystem.follow_entry root (by decide) entry nofun, FileSystem.follow_nil]
  exact FileSystem.readText_eq_ok.mpr (FileSystem.read_eq_ok.mpr
    ⟨[.of "b.h"], FileSystem.locate_eq_ok.mpr ⟨by decide, found⟩, entry⟩)

theorem importingTemplate_render {content output : Text}
    (read : fs.readText ⟨"b.h"⟩ = .ok content)
    (becomes : Block.extract content ['x'] ++ "# Title\n" = output) :
    render fs {} ⟨"a.src.md"⟩ importingTemplate = .ok output := by
  have header : Header.isLine "# Title\n" = true := rfl
  simp only [render, importingTemplate_lines, renderLines, renderLine_import importLine_import?,
    importBlock_of_read read, renderLine_header header]
  exact congrArg Except.ok becomes

end Document
end DocAssembly
