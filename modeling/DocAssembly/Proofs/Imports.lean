import DocAssembly.Proofs.Rendering

namespace DocAssembly

def Failure.toldOf (document : Path) : Failure → Failure
  | .malformedDirective _ line directive missing =>
    .malformedDirective document line directive missing
  | failure => failure

namespace Document

variable {fs other : FileSystem} {document sibling : Path} {options : ContentsOptions}

-- Two file systems agree on a block: its file cannot be read for the same reason, or the same body
-- is extracted from what is read. A block that is absent counts as an empty one.
def SameBlock (fs other : FileSystem) (path : Path) (block : Text) : Prop :=
  (∃ error, fs.readText path = .error error ∧ other.readText path = .error error) ∨
  ∃ content changed, fs.readText path = .ok content ∧ other.readText path = .ok changed ∧
    Block.extract content block = Block.extract changed block

theorem SameBlock.importBlock_eq {path : Path} {block : Text}
    (same : SameBlock fs other path block) :
    importBlock fs path block = importBlock other path block := by
  rcases same with ⟨error, here, there⟩ | ⟨content, changed, here, there, bodies⟩
  · simp only [importBlock, FileSystem.readSource, here, there]
  · rw [importBlock_of_read here, importBlock_of_read there, bodies]

theorem importedFile_sibling (parents : document.parent? = sibling.parent?)
    (directive : Directive) : importedFile sibling directive = importedFile document directive := by
  rw [importedFile, importedFile, parents]

theorem spliced_sibling (parents : document.parent? = sibling.parent?) (line : Text) :
    spliced fs sibling line = spliced fs document line := by
  cases kind : LineKind.ofLine line with
  | directive =>
    cases parsed : Directive.parse line with
    | error missing => simp [spliced, import?, kind, parsed]
    | ok directive => simp [spliced, import?, kind, parsed, importedFile_sibling parents]
  | placeholder | header | text => simp [spliced, import?, kind]

theorem failure?_sibling (parents : document.parent? = sibling.parent?) (number : Nat)
    (line : Text) : failure? fs sibling number line =
      (failure? fs document number line).map (Failure.toldOf sibling) := by
  cases kind : LineKind.ofLine line with
  | directive =>
    cases parsed : Directive.parse line with
    | error missing => simp [failure?, kind, parsed, Failure.toldOf]
    | ok directive =>
      simp only [failure?, kind, parsed, importedFile_sibling parents]
      cases fs.readText (importedFile document directive) with
      | ok content => rfl
      | error error => rfl
  | placeholder | header | text => simp [failure?, kind]

theorem firstFailure?_sibling (parents : document.parent? = sibling.parent?) (number : Nat)
    (lines : List Text) : firstFailure? fs sibling number lines =
      (firstFailure? fs document number lines).map (Failure.toldOf sibling) := by
  induction lines generalizing number with
  | nil => rfl
  | cons line rest ih =>
    rw [firstFailure?, firstFailure?, failure?_sibling parents, ih, Option.map_or]

theorem render_sibling (parents : document.parent? = sibling.parent?) (source : Text) :
    render fs options sibling source =
      (render fs options document source).mapError (Failure.toldOf sibling) := by
  rw [render_assembled, render_assembled, firstFailure?_sibling parents]
  simp only [spliced_sibling parents]
  cases firstFailure? fs document 1 source.lines with
  | none => rfl
  | some failure => rfl

-- A document depends on other files only through the blocks that it imports, and nothing but the
-- bodies themselves comes from them; on its own path it depends only through the parent.
theorem render_influence (options : ContentsOptions) (source : Text) :
    (∀ fs other document,
      (∀ line ∈ source.lines, line.startsWith Directive.keyword = true →
        ∀ directive, Directive.parse line = .ok directive →
          SameBlock fs other (importedFile document directive) directive.block) →
      render fs options document source = render other options document source) ∧
    (∀ fs document output, render fs options document source = .ok output →
      output = source.lines.flatMap fun line => copied line ++
        generated options (Contents.ofLines source.lines) line ++ spliced fs document line) ∧
    ∀ fs document sibling, document.parent? = sibling.parent? →
      render fs options sibling source =
        (render fs options document source).mapError (Failure.toldOf sibling) := by
  refine ⟨?_, ?_, ?_⟩
  · intro fs other document same
    apply renderLines_imports
    intro line member path block names
    unfold import? at names
    split at names
    · next directive kind parsed =>
      cases Option.some.inj names
      exact (same line member (LineKind.ofLine_directive.mp kind) directive parsed).importBlock_eq
    · cases names
  · intro fs document output rendered
    rw [render_assembled] at rendered
    cases failed : firstFailure? fs document 1 source.lines with
    | some failure => simp [failed] at rendered
    | none =>
      rw [failed] at rendered
      exact (Except.ok.inj rendered).symm
  · intro fs document sibling parents
    exact render_sibling parents source

theorem render_influence_inert :
    SameBlock (blockFile "@@md#x\n# In\n") (blockFile "# B\n@@md#x\n# In\n@@md\n# C\n") ⟨"b.h"⟩
      ['x'] ∧
    render (blockFile "# B\n@@md#x\n# In\n@@md\n# C\n") {} ⟨"a.src.md"⟩ importingTemplate =
      .ok "# In\n# Title\n" ∧
    ("# In\n# Title\n" : Text) = (importingTemplate.lines.flatMap fun line => copied line ++
      generated {} (Contents.ofLines importingTemplate.lines) line ++
        spliced (blockFile "# B\n@@md#x\n# In\n@@md\n# C\n") ⟨"a.src.md"⟩ line) ∧
    Path.parent? ⟨"docs/a.md"⟩ = Path.parent? ⟨"docs/b.md"⟩ ∧
    render {} {} ⟨"docs/b.md"⟩ "@import\n" =
      (render {} {} ⟨"docs/a.md"⟩ "@import\n").mapError (Failure.toldOf ⟨"docs/b.md"⟩) := by
  have same : SameBlock (blockFile "@@md#x\n# In\n")
      (blockFile "# B\n@@md#x\n# In\n@@md\n# C\n") ⟨"b.h"⟩ ['x'] :=
    .inr ⟨_, _, blockFile_read _, blockFile_read _, by decide⟩
  have parents : Path.parent? ⟨"docs/a.md"⟩ = Path.parent? ⟨"docs/b.md"⟩ := by decide
  obtain ⟨files, parts, -⟩ := render_influence {} importingTemplate
  obtain ⟨-, -, paths⟩ := render_influence {} "@import\n"
  have rendered : render (blockFile "# B\n@@md#x\n# In\n@@md\n# C\n") {} ⟨"a.src.md"⟩
      importingTemplate = .ok "# In\n# Title\n" := by
    rw [← files (blockFile "@@md#x\n# In\n") (blockFile "# B\n@@md#x\n# In\n@@md\n# C\n")]
    · exact importingTemplate_render (blockFile_read _) (by decide)
    · intro line member keyword directive parsed
      rw [importingTemplate_lines, List.mem_pair] at member
      rcases member with rfl | rfl
      · have read : Directive.parse importLine = .ok ⟨"b.h", ['x']⟩ := rfl
        cases read.symm.trans parsed
        exact same
      · cases keyword
  exact ⟨same, rendered, parts _ _ _ rendered, parents, paths _ _ _ parents⟩

end Document
end DocAssembly
