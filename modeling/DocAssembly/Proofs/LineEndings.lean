import DocAssembly.Proofs.Rendering
import DocAssembly.Proofs.Contents
import DocAssembly.Proofs.Delimiters

namespace DocAssembly

namespace Text

def crlf (text : Text) : Text := text.flatMap fun c => if c = '\n' then ['\r', '\n'] else [c]

theorem crlf_cons {c : Char} (inside : c ≠ '\n') (rest : Text) :
    crlf (c :: rest) = c :: crlf rest := by
  simp [crlf, inside]

@[simp] theorem crlf_newline (rest : Text) : crlf ('\n' :: rest) = '\r' :: '\n' :: crlf rest := by
  simp [crlf]

theorem crlf_append (first second : Text) : crlf (first ++ second) = crlf first ++ crlf second := by
  simp [crlf]

theorem crlf_flatten (lines : List Text) : crlf lines.flatten = (lines.map crlf).flatten := by
  induction lines with
  | nil => rfl
  | cons line rest ih => rw [List.flatten_cons, crlf_append, ih, List.map_cons, List.flatten_cons]

theorem crlf_inside {text : Text} (inside : '\n' ∉ text) : crlf text = text := by
  induction text with
  | nil => rfl
  | cons c rest ih =>
    rw [List.mem_cons, not_or] at inside
    rw [crlf_cons (Ne.symm inside.1), ih inside.2]

theorem lines_crlf (text : Text) : (crlf text).lines = text.lines.map crlf := by
  induction text with
  | nil => rfl
  | cons c rest ih =>
    by_cases newline : c = '\n'
    · subst newline
      rw [crlf_newline, lines_newline, List.map_cons, ← ih]
      exact lines_front (by decide) (lines_newline (crlf rest))
    · rw [crlf_cons newline]
      cases cutAs : lines rest with
      | nil =>
        cases lines_eq_nil.mp cutAs
        simp [crlf, lines, newline]
      | cons line others =>
        rw [cutAs, List.map_cons] at ih
        rw [lines_front newline cutAs, lines_front newline ih, List.map_cons, crlf_cons newline]

theorem crlf_line {line : Text} (one : line.lines = [line]) :
    crlf line = line ∨ ∃ front, line = front ++ ['\n'] ∧ crlf line = front ++ ['\r', '\n'] := by
  rcases line_cases one with inside | ⟨front, inside, rfl⟩
  · exact .inl (crlf_inside inside)
  · exact .inr ⟨front, rfl, by rw [crlf_append, crlf_inside inside]; rfl⟩

variable {line : Text}

theorem startsWith_crlf (one : line.lines = [line]) {mark : Text} (noReturn : '\r' ∉ mark)
    (noFeed : '\n' ∉ mark) : (crlf line).startsWith mark = line.startsWith mark := by
  rcases crlf_line one with same | ⟨front, ended, turned⟩
  · rw [same]
  · rw [turned, ended, startsWith_separator noReturn, startsWith_separator noFeed]

theorem between?_crlf (one : line.lines = [line]) {opening closing : Text}
    (opens : opening ≠ []) (closes : closing ≠ []) (noReturn : '\r' ∉ opening ∧ '\r' ∉ closing)
    (noFeed : '\n' ∉ opening ∧ '\n' ∉ closing) :
    (crlf line).between? opening closing = line.between? opening closing := by
  rcases crlf_line one with same | ⟨front, ended, turned⟩
  · rw [same]
  · rw [turned, ended, between?_append opens closes, between?_append opens closes]
    · simpa using noFeed.1
    · simpa using noFeed.2
    · simpa using ⟨noReturn.1, noFeed.1⟩
    · simpa using ⟨noReturn.2, noFeed.2⟩

theorem trim_crlf (one : line.lines = [line]) : (crlf line).trim = line.trim := by
  rcases crlf_line one with same | ⟨front, ended, turned⟩
  · rw [same]
  · have bothBlank : ∀ c ∈ (['\r', '\n'] : Text), isBlank c = true := by simp [isBlank]
    rw [turned, ended, trim_append_blank bothBlank, trim_append_blank newline_blank]

theorem endsWith_crlf (one : line.lines = [line]) :
    (crlf line).endsWith "\n" = line.endsWith "\n" := by
  rcases crlf_line one with same | ⟨front, ended, turned⟩
  · rw [same]
  · have before : line.endsWith "\n" := by rw [endsWith_newline, ended]; simp
    have after : (crlf line).endsWith "\n" := by rw [endsWith_newline, turned]; simp
    rw [before, after]

theorem stripLineEnding_crlf (one : line.lines = [line]) (noReturn : '\r' ∉ line) :
    (crlf line).stripLineEnding = line.stripLineEnding := by
  rcases crlf_line one with same | ⟨front, ended, turned⟩
  · rw [same]
  · have noTail : ¬ front.endsWith "\r" := by
      intro ends
      rw [endsWith, List.isSuffixOf_iff_suffix] at ends
      have inFront : '\r' ∈ front := ends.subset (by decide)
      exact noReturn (by simp [ended, inFront])
    have feed : dropTail (front ++ ['\n']) "\n" = front := dropTail_append front "\n"
    have both : dropTail (front ++ ['\r', '\n']) "\n" = front ++ ['\r'] := by
      rw [show front ++ ['\r', '\n'] = (front ++ ['\r']) ++ ['\n'] by simp]
      exact dropTail_append (front ++ ['\r']) "\n"
    have back : dropTail (front ++ ['\r']) "\r" = front := dropTail_append front "\r"
    rw [turned, ended, stripLineEnding, both, back, stripLineEnding, feed, dropTail_absent noTail]

end Text

variable {line : Text}

theorem Header.isLine_crlf (one : line.lines = [line]) :
    Header.isLine line.crlf = Header.isLine line := by
  rw [Header.isLine, Header.isLine, Text.startsWith_crlf one (by decide) (by decide),
    Text.startsWith_crlf one (by decide) (by decide)]

theorem LineKind.ofLine_crlf (one : line.lines = [line]) :
    LineKind.ofLine line.crlf = LineKind.ofLine line := by
  rw [LineKind.ofLine, LineKind.ofLine, Text.startsWith_crlf one (by decide) (by decide),
    Text.startsWith_crlf one (by decide) (by decide), Header.isLine_crlf one]

theorem Directive.parse_crlf (one : line.lines = [line]) :
    Directive.parse line.crlf = Directive.parse line := by
  rw [Directive.parse, Directive.parse,
    Text.between?_crlf one (by decide) (by decide) (by decide) (by decide),
    Text.between?_crlf one (by decide) (by decide) (by decide) (by decide)]

theorem Header.ofLine_crlf (one : line.lines = [line]) (noReturn : '\r' ∉ line) :
    Header.ofLine line.crlf = Header.ofLine line := by
  rw [Header.ofLine, Header.ofLine, Text.stripLineEnding_crlf one noReturn]

theorem Block.opens_crlf (one : line.lines = [line]) (id : Text) :
    Block.opens id line.crlf = Block.opens id line := by
  rw [Block.opens, Block.opens, Text.trim_crlf one]

theorem Block.closes_crlf (one : line.lines = [line]) :
    Block.closes line.crlf = Block.closes line := by
  rw [Block.closes, Block.closes, Text.trim_crlf one]

variable {lines : List Text}

theorem Header.collect_crlf (ones : ∀ line ∈ lines, line.lines = [line])
    (noReturn : ∀ line ∈ lines, '\r' ∉ line) :
    Header.collect (lines.map Text.crlf) = Header.collect lines := by
  induction lines with
  | nil => rfl
  | cons line rest ih =>
    rw [List.forall_mem_cons] at ones noReturn
    have same := Header.isLine_crlf ones.1
    cases header : Header.isLine line with
    | true =>
      rw [List.map_cons, Header.collect_cons _ (same.trans header), Header.collect_cons _ header,
        Header.ofLine_crlf ones.1 noReturn.1, ih ones.2 noReturn.2]
    | false =>
      rw [List.map_cons, Header.collect_cons_other _ (same.trans header),
        Header.collect_cons_other _ header, ih ones.2 noReturn.2]

theorem Contents.ofLines_crlf (ones : ∀ line ∈ lines, line.lines = [line])
    (noReturn : ∀ line ∈ lines, '\r' ∉ line) :
    Contents.ofLines (lines.map Text.crlf) = Contents.ofLines lines :=
  Contents.ofLines_headers (Header.collect_crlf ones noReturn)

namespace Block

theorem unmarked_crlf (ones : ∀ line ∈ lines, line.lines = [line]) :
    (lines.map Text.crlf).takeWhile (!closes ·) = (lines.takeWhile (!closes ·)).map Text.crlf := by
  induction lines with
  | nil => rfl
  | cons line rest ih =>
    rw [List.forall_mem_cons] at ones
    have same := closes_crlf ones.1
    cases marked : closes line with
    | true => simp [same, marked]
    | false => simp [same, marked, ih ones.2]

theorem bodyLines?_crlf (ones : ∀ line ∈ lines, line.lines = [line]) (id : Text) :
    bodyLines? id (lines.map Text.crlf) = (bodyLines? id lines).map (List.map Text.crlf) := by
  induction lines with
  | nil => rfl
  | cons line rest ih =>
    rw [List.forall_mem_cons] at ones
    rw [List.map_cons, bodyLines?, bodyLines?, opens_crlf ones.1, ih ones.2]
    split
    · rw [unmarked_crlf ones.2, Option.map_some]
    · rfl

theorem find?_crlf (content id : Text) : find? content.crlf id =
    (find? content id).map fun block => { block with body := block.body.crlf } := by
  rw [find?, find?, Text.lines_crlf, bodyLines?_crlf (fun line => Text.lines_of_mem)]
  cases bodyLines? id content.lines with
  | none => rfl
  | some body => simp [Text.crlf_flatten]

end Block

namespace Document

variable {fs : FileSystem} {document : Path} {options : ContentsOptions} {table : Text}

theorem spliced_crlf (one : line.lines = [line]) :
    spliced fs document line.crlf = spliced fs document line := by
  rw [spliced, spliced, import?, import?, LineKind.ofLine_crlf one, Directive.parse_crlf one]

theorem generated_crlf (one : line.lines = [line]) :
    generated options table line.crlf = generated options table line := by
  rw [generated, generated, LineKind.ofLine_crlf one, Text.endsWith_crlf one]

theorem copied_crlf (one : line.lines = [line]) : copied line.crlf = (copied line).crlf := by
  rw [copied, copied, LineKind.ofLine_crlf one]
  cases LineKind.ofLine line with
  | directive | placeholder | header | text => rfl

theorem failure?_crlf (one : line.lines = [line]) (noReturn : '\r' ∉ line) (number : Nat) :
    failure? fs document number line.crlf = failure? fs document number line := by
  rw [failure?, failure?, LineKind.ofLine_crlf one, Directive.parse_crlf one,
    Text.stripLineEnding_crlf one noReturn]

theorem firstFailure?_crlf (ones : ∀ line ∈ lines, line.lines = [line])
    (noReturn : ∀ line ∈ lines, '\r' ∉ line) (number : Nat) :
    firstFailure? fs document number (lines.map Text.crlf) =
      firstFailure? fs document number lines := by
  induction lines generalizing number with
  | nil => rfl
  | cons line rest ih =>
    rw [List.forall_mem_cons] at ones noReturn
    rw [List.map_cons, firstFailure?, firstFailure?, failure?_crlf ones.1 noReturn.1,
      ih ones.2 noReturn.2]

theorem render_crlf_assembled {source : Text} (noReturn : '\r' ∉ source) :
    render fs options document source.crlf =
      (firstFailure? fs document 1 source.lines).elim
        (.ok (source.lines.flatMap fun line => (copied line).crlf ++
          generated options (Contents.ofLines source.lines) line ++ spliced fs document line))
        .error := by
  have ones : ∀ line ∈ source.lines, line.lines = [line] := fun line => Text.lines_of_mem
  have noReturns : ∀ line ∈ source.lines, '\r' ∉ line := by
    intro line member inside
    apply noReturn
    rw [← Text.flatten_lines source]
    exact List.mem_flatten.mpr ⟨line, member, inside⟩
  have each : (source.lines.flatMap fun line => copied line.crlf ++
      generated options (Contents.ofLines source.lines) line.crlf ++
        spliced fs document line.crlf) =
      source.lines.flatMap fun line => (copied line).crlf ++
        generated options (Contents.ofLines source.lines) line ++ spliced fs document line := by
    apply List.flatMap_congr
    intro line member
    rw [copied_crlf (ones line member), generated_crlf (ones line member),
      spliced_crlf (ones line member)]
  rw [render_assembled, Text.lines_crlf, Contents.ofLines_crlf ones noReturns,
    firstFailure?_crlf ones noReturns, List.flatMap_map, each]

-- Line ends of a template change the line ends of what is copied from it and nothing else, and
-- line ends of a file change those of its blocks.
theorem render_crlf :
    (∀ fs options document source, '\r' ∉ source →
      (∀ failure, render fs options document source.crlf = .error failure ↔
        render fs options document source = .error failure) ∧
      ∀ output, render fs options document source = .ok output →
        output = (source.lines.flatMap fun line => copied line ++
          generated options (Contents.ofLines source.lines) line ++ spliced fs document line) ∧
        render fs options document source.crlf =
          .ok (source.lines.flatMap fun line => (copied line).crlf ++
            generated options (Contents.ofLines source.lines) line ++ spliced fs document line)) ∧
    ∀ content id, Block.find? content.crlf id =
      (Block.find? content id).map fun block => { block with body := block.body.crlf } := by
  refine ⟨?_, Block.find?_crlf⟩
  intro fs options document source noReturn
  rw [render_crlf_assembled noReturn, render_assembled]
  cases firstFailure? fs document 1 source.lines with
  | some failure => simp
  | none =>
    refine ⟨by simp, ?_⟩
    intro output rendered
    exact ⟨(Except.ok.inj rendered).symm, rfl⟩

theorem render_crlf_title :
    '\r' ∉ importingTemplate ∧
    render (blockFile "@@md#x\ncode\n") {} ⟨"a.src.md"⟩ importingTemplate =
      .ok "code\n# Title\n" ∧
    render (blockFile "@@md#x\ncode\n") {} ⟨"a.src.md"⟩ importingTemplate.crlf =
      .ok "code\n# Title\r\n" := by
  have noReturn : '\r' ∉ importingTemplate := by decide
  have rendered : render (blockFile "@@md#x\ncode\n") {} ⟨"a.src.md"⟩ importingTemplate =
      .ok "code\n# Title\n" := importingTemplate_render (blockFile_read _) (by decide)
  obtain ⟨-, turned⟩ := (render_crlf.1 _ _ _ _ noReturn).2 _ rendered
  refine ⟨noReturn, rendered, ?_⟩
  rw [turned, importingTemplate_lines]
  simp only [List.flatMap_cons, List.flatMap_nil, spliced, importLine_import?, blockFile_read]
  rfl

end Document
end DocAssembly
