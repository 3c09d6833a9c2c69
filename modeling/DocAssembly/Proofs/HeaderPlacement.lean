import DocAssembly.Proofs.Contents
import DocAssembly.Proofs.Rendering
import Mathlib

namespace DocAssembly.Document

variable {fs : FileSystem} {document : Path} {options : ContentsOptions} {table : Text}

-- Whether the output is at the start of a line after a line of the document, given whether it was
-- before it. Bodies are spliced in as they are, so they may leave it elsewhere.
def atLineStart (fs : FileSystem) (document : Path) (before : Bool) (line : Text) : Bool :=
  match import? document line with
  | none => true
  | some (path, block) =>
    match importBlock fs path block with
    | .ok [] => before
    | .ok body => body.endsWith "\n"
    | .error _ => before

def placedHeaders (fs : FileSystem) (document : Path) : (atStart : Bool) → List Text → List Header
  | _, [] => []
  | atStart, line :: rest =>
    let others := placedHeaders fs document (atLineStart fs document atStart line) rest
    if atStart && Header.isLine line then Header.ofLine line :: others else others

theorem copyHeader_headers {line : Text} (header : Header.isLine line = true)
    (one : line.lines = [line]) :
    [Header.ofLine line].Sublist (Header.collect (copyHeader options line).lines) := by
  unfold copyHeader
  split
  · split
    · next ended =>
      rw [Text.lines_append (Or.inr ended), one, Header.collect_append,
        Header.collect_cons [] header]
      exact List.sublist_append_left _ _
    · next unended =>
      have terminated : Header.collect [line ++ ['\n']] = [Header.ofLine line] := by
        rw [Header.collect_cons [] (Header.isLine_terminated header),
          Header.ofLine_terminated unended]
        rfl
      change List.Sublist _ (Header.collect (Text.lines ((line ++ ['\n']) ++ _)))
      rw [Text.lines_append (Text.endsLine_newline line), Text.lines_terminated one unended,
        Header.collect_append, terminated]
      exact List.sublist_append_left _ _
  · rw [one, Header.collect_cons [] header]
    exact List.Sublist.refl _

theorem copyHeader_endsWith {line : Text} (ended : line.endsWith "\n") :
    (copyHeader options line).endsWith "\n" := by
  unfold copyHeader
  split
  · exact Text.endsWith_append _ (Contents.backLink_endsWith options)
  · exact ended

theorem renderLine_endsLine {number : Nat} {line before first : Text} {atStart : Bool}
    (rendered : renderLine fs document options table number line = .ok first)
    (tableEnds : table.endsWith "\n") (ended : line.endsWith "\n")
    (placed : atStart = true → before.EndsLine)
    (stays : atLineStart fs document atStart line = true) : (before ++ first).EndsLine := by
  cases names : import? document line with
  | some target =>
    obtain ⟨path, block⟩ := target
    rw [renderLine_import names] at rendered
    simp only [atLineStart, names, rendered] at stays
    cases first with
    | nil => simpa using placed stays
    | cons c body => exact Or.inr (Text.endsWith_append before stays)
  | none =>
    cases kind : LineKind.ofLine line with
    | directive =>
      cases parsed : Directive.parse line with
      | ok directive => simp [import?, kind, parsed] at names
      | error missing => simp [renderLine, kind, parsed] at rendered
    | placeholder =>
      simp only [renderLine, kind, Except.ok.injEq] at rendered
      exact rendered ▸ Or.inr (Text.endsWith_append before tableEnds)
    | header =>
      simp only [renderLine, kind, Except.ok.injEq] at rendered
      exact rendered ▸ Or.inr (Text.endsWith_append before (copyHeader_endsWith ended))
    | text =>
      simp only [renderLine, kind, Except.ok.injEq] at rendered
      exact rendered ▸ Or.inr (Text.endsWith_append before ended)

-- The induction is on the lines still to be rendered; `before` is the output of those before them.
theorem renderLines_headers {number : Nat} {lines : List Text} {before output : Text}
    {atStart : Bool} (tableEnds : table.endsWith "\n")
    (rendered : renderLines fs document options table number lines = .ok output)
    (cutAs : Text.lines lines.flatten = lines) (placed : atStart = true → before.EndsLine) :
    (placedHeaders fs document atStart lines).Sublist
      (Header.collect (Text.lines (before ++ output))) := by
  induction lines generalizing number before output atStart with
  | nil => exact List.nil_sublist _
  | cons line rest ih =>
    obtain ⟨first, others, one, more, rfl⟩ := renderLines_cons_ok rendered
    obtain ⟨alone, restCut, ended⟩ := Text.lines_cons_parts cutAs
    rcases ended with ended | rfl
    · by_cases counted : (atStart && Header.isLine line) = true
      · obtain ⟨start, header⟩ := Bool.and_eq_true_iff.mp counted
        cases renderLine_header header ▸ one
        have copied : [Header.ofLine line].Sublist
            (Header.collect (copyHeader options line).lines) := copyHeader_headers header alone
        -- What comes before a line that starts a line cannot matter to the lines after it.
        have followed : (placedHeaders fs document (atLineStart fs document atStart line) rest).Sublist
            (Header.collect (Text.lines ([] ++ others))) :=
          ih more restCut fun _ => Text.endsLine_nil
        rw [Text.lines_append (placed start),
          Text.lines_append (Or.inr (copyHeader_endsWith ended)), Header.collect_append,
          Header.collect_append]
        simp only [placedHeaders, counted, if_true]
        exact (copied.append followed).trans (List.sublist_append_right _ _)
      · simp only [placedHeaders, counted, ← List.append_assoc]
        exact ih more restCut (renderLine_endsLine one tableEnds ended placed)
    · cases more
      by_cases counted : (atStart && Header.isLine line) = true
      · obtain ⟨start, header⟩ := Bool.and_eq_true_iff.mp counted
        cases renderLine_header header ▸ one
        simp only [placedHeaders, counted, if_true, List.append_nil]
        rw [Text.lines_append (placed start), Header.collect_append]
        exact (copyHeader_headers header alone).trans (List.sublist_append_right _ _)
      · simp only [placedHeaders, counted]
        exact List.nil_sublist _

theorem placedHeaders_closed {lines : List Text}
    (closed : ∀ line ∈ lines, ∀ path block body, import? document line = some (path, block) →
      importBlock fs path block = .ok body → body.EndsLine) :
    placedHeaders fs document true lines = Header.collect lines := by
  induction lines with
  | nil => rfl
  | cons line rest ih =>
    rw [List.forall_mem_cons] at closed
    have start : atLineStart fs document true line = true := by
      unfold atLineStart
      split
      · rfl
      · next path block names =>
        split
        · rfl
        · next body notNil read =>
          rcases closed.1 path block body names read with nothing | ends
          · exact absurd nothing notNil
          · exact ends
        · rfl
    cases header : Header.isLine line with
    | false =>
      simp only [placedHeaders, start, header, Bool.and_false, Bool.false_eq_true, if_false,
        ih closed.2, Header.collect_cons_other rest header]
    | true =>
      simp only [placedHeaders, start, header, Bool.and_self, if_true, ih closed.2,
        Header.collect_cons rest header]

-- The headers of the template whose lines start a line of the output are headers of the output, in
-- the same order; these are all of them unless a body lacks its last line feed.
theorem headers_placed (fs : FileSystem) (options : ContentsOptions) (document : Path)
    (source output : Text) (rendered : render fs options document source = .ok output) :
    (placedHeaders fs document true source.lines).Sublist (Header.collect output.lines) ∧
    ((∀ line ∈ source.lines, ∀ path block body, import? document line = some (path, block) →
        importBlock fs path block = .ok body → body.EndsLine) →
      placedHeaders fs document true source.lines = Header.collect source.lines) := by
  refine ⟨?_, placedHeaders_closed⟩
  have cutAs : Text.lines source.lines.flatten = source.lines := by rw [Text.flatten_lines]
  have whole : (placedHeaders fs document true source.lines).Sublist
      (Header.collect (Text.lines ([] ++ output))) :=
    renderLines_headers (Contents.ofLines_endsWith source.lines) rendered cutAs
      fun _ => Text.endsLine_nil
  exact whole

theorem headers_placed_closed :
    render (blockFile "@@md#x\ncode\n") {} ⟨"a.src.md"⟩ importingTemplate =
      .ok "code\n# Title\n" ∧
    (Header.collect importingTemplate.lines).Sublist
      (Header.collect (Text.lines "code\n# Title\n")) := by
  have read : (blockFile "@@md#x\ncode\n").readText ⟨"b.h"⟩ = .ok "@@md#x\ncode\n" := by cbv
  have rendered : render (blockFile "@@md#x\ncode\n") {} ⟨"a.src.md"⟩ importingTemplate =
      .ok "code\n# Title\n" := importingTemplate_render read rfl
  obtain ⟨placed, all⟩ := headers_placed _ _ _ _ _ rendered
  refine ⟨rendered, all ?_ ▸ placed⟩
  intro line member path block body names imported
  rw [importingTemplate_lines, List.mem_pair] at member
  rcases member with rfl | rfl
  · cases importLine_import?.symm.trans names
    cases (importBlock_of_read read _).symm.trans imported
    exact Or.inr rfl
  · cases names

-- The body lacks its last line feed, so the header is glued to it.
theorem headers_glued :
    render (blockFile "@@md#x\ncode") {} ⟨"a.src.md"⟩ importingTemplate = .ok "code# Title\n" ∧
    ¬ (Header.collect importingTemplate.lines).Sublist
      (Header.collect (Text.lines "code# Title\n")) :=
  ⟨importingTemplate_render (by cbv) rfl, by decide⟩

end DocAssembly.Document
