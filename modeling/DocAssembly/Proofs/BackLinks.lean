import DocAssembly.Proofs.Rendering
import DocAssembly.Proofs.Contents

namespace DocAssembly

-- A header line, with the lines behind it that are no headers.
structure Section where
  header : Text
  behind : List Text
  isHeader : Header.isLine header = true
  noHeader : ∀ line ∈ behind, Header.isLine line = false

structure Outline where
  opening : List Text
  sections : List Section
  noHeader : ∀ line ∈ opening, Header.isLine line = false

namespace Outline

variable {outline : Outline}

def ofLines : List Text → Outline
  | [] => ⟨[], [], List.forall_mem_nil _⟩
  | line :: rest =>
    let others := ofLines rest
    if header : Header.isLine line = true then
      ⟨[], ⟨line, others.opening, header, others.noHeader⟩ :: others.sections, List.forall_mem_nil _⟩
    else
      ⟨line :: others.opening, others.sections,
        List.forall_mem_cons.mpr ⟨Bool.eq_false_iff.mpr header, others.noHeader⟩⟩

def ofText (source : Text) : Outline := ofLines source.lines

def lines (outline : Outline) : List Text :=
  outline.opening ++ outline.sections.flatMap fun part => part.header :: part.behind

def others (outline : Outline) : List Text :=
  outline.opening ++ outline.sections.flatMap fun part => part.behind

-- A text made along an outline: the headers, each with something after it, and what the lines
-- between them become.
def fill (after : Text → Text) (body : List Text → Text) (outline : Outline) : Text :=
  body outline.opening ++ outline.sections.flatMap fun part =>
    part.header ++ after part.header ++ body part.behind

theorem lines_ofLines (lines : List Text) : (ofLines lines).lines = lines := by
  induction lines with
  | nil => rfl
  | cons line rest ih =>
    unfold ofLines
    dsimp only
    split
    · exact congrArg (line :: ·) ih
    · exact congrArg (line :: ·) ih

theorem other_of_mem {line : Text} (member : line ∈ outline.lines)
    (other : Header.isLine line = false) : line ∈ outline.others := by
  rcases List.mem_append.mp member with opening | inside
  · exact List.mem_append_left _ opening
  · apply List.mem_append_right
    obtain ⟨part, listed, within⟩ := List.mem_flatMap.mp inside
    rcases List.mem_cons.mp within with rfl | behind
    · exact absurd part.isHeader (Bool.eq_false_iff.mp other)
    · exact List.mem_flatMap.mpr ⟨part, listed, behind⟩

theorem collect_lines (outline : Outline) : Header.collect outline.lines =
    outline.sections.map fun part => Header.ofLine part.header := by
  have nothing : ∀ lines : List Text, (∀ line ∈ lines, Header.isLine line = false) →
      Header.collect lines = [] := by
    intro lines plain
    unfold Header.collect
    rw [List.filter_eq_nil_iff.mpr, List.map_nil]
    intro line member
    exact Bool.eq_false_iff.mp (plain line member)
  obtain ⟨opening, sections, plain⟩ := outline
  unfold lines
  rw [Header.collect_append, nothing opening plain, List.nil_append]
  dsimp only
  induction sections with
  | nil => rfl
  | cons part rest ih =>
    rw [List.flatMap_cons, Header.collect_append, Header.collect_cons _ part.isHeader,
      nothing part.behind part.noHeader, List.map_cons, ih]
    rfl

-- Only the last line of a text can lack its terminator.
theorem unterminated_last {source : Text} {front rest : List Section} {part : Section}
    (cutAs : outline.lines = source.lines) (parts : outline.sections = front ++ part :: rest)
    (unended : part.header.endsWith "\n" = false) : part.behind = [] ∧ rest = [] := by
  have whole : source.lines = (outline.opening ++ front.flatMap fun part =>
      part.header :: part.behind) ++ part.header :: (part.behind ++ rest.flatMap fun part =>
        part.header :: part.behind) := by
    rw [← cutAs, lines, parts]
    simp
  obtain ⟨_, _, ended⟩ := Text.lines_cons_parts (Text.lines_flatten_parts whole).2
  rcases ended with ended | nothing
  · exact absurd ended (Bool.eq_false_iff.mp unended)
  · obtain ⟨behind, others⟩ := List.append_eq_nil_iff.mp nothing
    refine ⟨behind, ?_⟩
    cases rest with
    | nil => rfl
    | cons next more => cases others

end Outline

namespace ContentsOptions

def linked (options : ContentsOptions) : ContentsOptions := { options with backLinks := true }

def unlinked (options : ContentsOptions) : ContentsOptions := { options with backLinks := false }

end ContentsOptions

namespace Document

variable {fs : FileSystem} {document : Path} {options : ContentsOptions} {table : Text}

-- The link after a header. A header at the end of a document may lack its terminator.
def linkAfter (options : ContentsOptions) (header : Text) : Text :=
  (if header.endsWith "\n" then [] else ['\n']) ++ Contents.backLink options

def between (fs : FileSystem) (document : Path) (table : Text) (lines : List Text) : Text :=
  lines.flatMap fun line =>
    copied line ++ generated {} table line ++ spliced fs document line

theorem adds_header {line : Text} (header : Header.isLine line = true) :
    copied line ++ generated options table line ++ spliced fs document line =
      line ++ if options.backLinks then linkAfter options line else [] := by
  have kind := LineKind.ofLine_header.mpr header
  simp only [copied, generated, spliced, import?, kind, linkAfter, List.append_nil]

theorem generated_other {line : Text} (other : Header.isLine line = false) :
    generated options table line = generated {} table line := by
  cases kind : LineKind.ofLine line with
  | header => exact absurd (LineKind.ofLine_header.mp kind) (Bool.eq_false_iff.mp other)
  | directive | placeholder | text => simp only [generated, kind]

theorem adds_others {lines : List Text} (others : ∀ line ∈ lines, Header.isLine line = false) :
    (lines.flatMap fun line =>
      copied line ++ generated options table line ++ spliced fs document line) =
        between fs document table lines := by
  apply List.flatMap_congr
  intro line member
  rw [generated_other (others line member)]

theorem adds_outline (outline : Outline) :
    (outline.lines.flatMap fun line =>
      copied line ++ generated options table line ++ spliced fs document line) =
        outline.fill (fun header => if options.backLinks then linkAfter options header else [])
          (between fs document table) := by
  unfold Outline.lines Outline.fill
  rw [List.flatMap_append, adds_others outline.noHeader, List.flatMap_assoc]
  congr 1
  apply List.flatMap_congr
  intro part _
  rw [List.flatMap_cons, adds_header part.isHeader, adds_others part.noHeader]

theorem render_outline (fs : FileSystem) (options : ContentsOptions) (document : Path)
    (source : Text) : render fs options document source =
      (firstFailure? fs document 1 source.lines).elim
        (.ok ((Outline.ofText source).fill
          (fun header => if options.backLinks then linkAfter options header else [])
          (between fs document (Contents.ofLines source.lines)))) .error := by
  rw [render_assembled, ← adds_outline, Outline.ofText, Outline.lines_ofLines]

-- With links a document fails exactly as without. Otherwise both outputs are made along the outline
-- of the document, with the same text between the headers. The k-th link stands behind the header
-- of the k-th entry of the table, and nothing else gets one.
theorem render_linked (fs : FileSystem) (options : ContentsOptions) (document : Path)
    (source : Text) :
    (∀ failure, render fs options.linked document source = .error failure ↔
      render fs options.unlinked document source = .error failure) ∧
    (∀ output, render fs options.unlinked document source = .ok output →
      output = (Outline.ofText source).fill (fun _ => [])
        (between fs document (Contents.ofLines source.lines)) ∧
      render fs options.linked document source = .ok ((Outline.ofText source).fill
        (linkAfter options) (between fs document (Contents.ofLines source.lines)))) ∧
    (Outline.ofText source).lines = source.lines ∧
    (∀ front part rest, (Outline.ofText source).sections = front ++ part :: rest →
      part.header.endsWith "\n" = false → part.behind = [] ∧ rest = []) ∧
    Header.collect source.lines =
      (Outline.ofText source).sections.map (fun part => Header.ofLine part.header) ∧
    Contents.ofLines source.lines = Contents.anchorLine ++ "\n" ++
      (Outline.ofText source).sections.flatMap
        (fun part => Contents.entry (Header.ofLine part.header)) ∧
    ∀ line ∈ source.lines, line.startsWith "#include" = true →
      line ∈ (Outline.ofText source).others := by
  have cutAs : (Outline.ofText source).lines = source.lines := Outline.lines_ofLines source.lines
  have headers := (Outline.ofText source).collect_lines
  rw [cutAs] at headers
  refine ⟨?_, ?_, cutAs, ?_, headers, ?_, ?_⟩
  · intro failure
    rw [render_outline, render_outline]
    cases firstFailure? fs document 1 source.lines with
    | none => exact iff_of_false nofun nofun
    | some first => exact Iff.rfl
  · intro output rendered
    rw [render_outline] at rendered ⊢
    cases failed : firstFailure? fs document 1 source.lines with
    | some failure => simp [failed] at rendered
    | none =>
      rw [failed] at rendered
      exact ⟨(Except.ok.inj rendered).symm, rfl⟩
  · intro front part rest parts unended
    exact Outline.unterminated_last cutAs parts unended
  · rw [Contents.ofLines, Contents.entries, headers, List.flatMap_map]
  · intro line member included
    apply Outline.other_of_mem (cutAs ▸ member)
    simp only [Header.isLine, included, Bool.not_true, Bool.and_false]

def mixedTemplate : Text := importLine ++ "# A\n#include <a.h>\n## B"

theorem render_linked_mixed :
    render (blockFile "@@md#x\n# In\n") {} ⟨"a.src.md"⟩ mixedTemplate =
      .ok "# In\n# A\n#include <a.h>\n## B" ∧
    render (blockFile "@@md#x\n# In\n") { backLinks := true } ⟨"a.src.md"⟩ mixedTemplate =
      .ok ("# In\n# A\n[![TOC](docs/toc.png)](#TOC)\n#include <a.h>\n" ++
        "## B\n[![TOC](docs/toc.png)](#TOC)\n") ∧
    (∃ front part, (Outline.ofText mixedTemplate).sections = front ++ [part] ∧
      part.header = "## B".toList ∧ part.behind = []) ∧
    "#include <a.h>\n".toList ∈ (Outline.ofText mixedTemplate).others := by
  have cutAs : mixedTemplate.lines = [importLine, "# A\n", "#include <a.h>\n", "## B"] := rfl
  have rendered : render (blockFile "@@md#x\n# In\n") {} ⟨"a.src.md"⟩ mixedTemplate =
      .ok "# In\n# A\n#include <a.h>\n## B" := by
    simp only [render, cutAs, renderLines, renderLine_import importLine_import?,
      importBlock_of_read (blockFile_read _)]
    rfl
  have body : spliced (blockFile "@@md#x\n# In\n") ⟨"a.src.md"⟩ importLine = "# In\n" := by
    simp only [spliced, importLine_import?, blockFile_read]
    rfl
  obtain ⟨-, made, -, last, -, -, included⟩ :=
    render_linked (blockFile "@@md#x\n# In\n") {} ⟨"a.src.md"⟩ mixedTemplate
  obtain ⟨-, linked⟩ := made _ rendered
  refine ⟨rendered, linked.trans (congrArg Except.ok ?_), ⟨[_], _, rfl, rfl, ?_⟩, ?_⟩
  · rw [Outline.fill]
    change between _ _ _ [importLine] ++ _ = _
    simp only [between, List.flatMap_cons, List.flatMap_nil, body]
    rfl
  · exact (last [_] _ [] rfl rfl).1
  · exact included _ (by decide) rfl

end Document
end DocAssembly
