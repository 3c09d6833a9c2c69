import DocAssembly.Proofs.Rendering
import DocAssembly.Proofs.Composition
import DocAssembly.Proofs.Entries

namespace DocAssembly

theorem Text.startsWith_front {c d : Char} (differ : c ≠ d) (rest mark : Text) :
    Text.startsWith (c :: rest) (d :: mark) = false := by
  simp [Text.startsWith, List.isPrefixOf, Ne.symm differ]

-- Lines start like text unless their first character is one of three.
theorem LineKind.ofLine_text {c : Char} {rest : Text} (noDirective : c ≠ '@') (noPlaceholder : c ≠ '[')
    (noHeader : c ≠ '#') : LineKind.ofLine (c :: rest) = .text := by
  have directive : Text.startsWith (c :: rest) Directive.keyword = false :=
    Text.startsWith_front noDirective rest "import"
  have placeholder : Text.startsWith (c :: rest) Contents.placeholder = false :=
    Text.startsWith_front noPlaceholder rest "TOC]"
  have header : Header.isLine (c :: rest) = false := by
    have mark : Text.startsWith (c :: rest) "#" = false := Text.startsWith_front noHeader rest []
    simp only [Header.isLine, mark, Bool.false_and]
  simp only [LineKind.ofLine, directive, placeholder, header, Bool.false_eq_true, if_false]

namespace Contents

theorem entry_text (header : Header) : LineKind.ofLine (entry header) = .text := by
  rw [entry]
  cases 2 * (header.level - 1) with
  | zero => exact LineKind.ofLine_text (by decide) (by decide) (by decide)
  | succ indent => exact LineKind.ofLine_text (by decide) (by decide) (by decide)

theorem ofLines_text (source : Text) :
    ∀ line ∈ (ofLines source.lines).lines, LineKind.ofLine line = .text := by
  intro line member
  rw [lines_ofLines, List.mem_cons, List.mem_cons] at member
  rcases member with rfl | rfl | member
  · exact LineKind.ofLine_text (by decide) (by decide) (by decide)
  · exact LineKind.ofLine_text (by decide) (by decide) (by decide)
  · obtain ⟨header, -, rfl⟩ := List.mem_map.mp member
    exact entry_text header

-- A link back starts like a placeholder, but not with all of one.
theorem backLink_text (options : ContentsOptions) : LineKind.ofLine (backLink options) = .text := rfl

theorem lines_backLink {options : ContentsOptions} (inside : '\n' ∉ options.backLinkImage) :
    (backLink options).lines = [backLink options] := by
  have whole : backLink options =
      ("[![TOC](" ++ options.backLinkImage ++ (")](#TOC)" : Text)) ++ ['\n'] := by
    rw [List.append_assoc _ _ ['\n']]
    rfl
  rw [whole]
  exact Text.lines_single (by simp [inside])

end Contents

namespace Document

variable {fs : FileSystem} {document : Path} {options : ContentsOptions} {source table line : Text}
  {lines : List Text}

def becomes (options : ContentsOptions) (table line : Text) : Text :=
  copied line ++ generated options table line

-- What the lines that a line becomes are like: none of them asks for anything, and their headers are
-- what the line is as a header.
structure Settles (line : Text) (lines : List Text) : Prop where
  noDirective : ∀ other ∈ lines, LineKind.ofLine other ≠ .directive
  noPlaceholder : ∀ other ∈ lines, LineKind.ofLine other ≠ .placeholder
  headers : Header.collect lines = Header.collect [line]

theorem isLine_other (other : LineKind.ofLine line ≠ .header) : Header.isLine line = false := by
  rw [Bool.eq_false_iff]
  exact fun header => other (LineKind.ofLine_header.mpr header)

theorem collect_text (text : ∀ line ∈ lines, LineKind.ofLine line = .text) :
    Header.collect lines = [] := by
  induction lines with
  | nil => rfl
  | cons line rest ih =>
    rw [List.forall_mem_cons] at text
    rw [Header.collect_cons_other rest (isLine_other (by simp [text.1])), ih text.2]

theorem settles_text (text : ∀ other ∈ lines, LineKind.ofLine other = .text)
    (other : LineKind.ofLine line ≠ .header) : Settles line lines where
  noDirective := fun other member => by simp [text other member]
  noPlaceholder := fun other member => by simp [text other member]
  headers := by rw [collect_text text, Header.collect_cons_other [] (isLine_other other)]; rfl

theorem settles_header {front : Text} (header : LineKind.ofLine front = .header)
    (text : ∀ other ∈ lines, LineKind.ofLine other = .text)
    (same : Header.collect [front] = Header.collect [line]) : Settles line (front :: lines) where
  noDirective := by
    rw [List.forall_mem_cons]
    exact ⟨by simp [header], fun other member => by simp [text other member]⟩
  noPlaceholder := by
    rw [List.forall_mem_cons]
    exact ⟨by simp [header], fun other member => by simp [text other member]⟩
  headers := by rw [← same, ← List.singleton_append, Header.collect_append, collect_text text,
    List.append_nil]

theorem becomes_header (one : line.lines = [line]) (header : Header.isLine line = true)
    (linked : options.backLinks = true) (plainImage : '\n' ∉ options.backLinkImage) :
    Settles line (becomes options table line).lines := by
  have kind := LineKind.ofLine_header.mpr header
  have link : ∀ other ∈ [Contents.backLink options], LineKind.ofLine other = .text := by
    rw [List.forall_mem_singleton]
    exact Contents.backLink_text options
  by_cases ended : line.endsWith "\n"
  · have whole : becomes options table line = line ++ Contents.backLink options := by
      simp only [becomes, copied, generated, kind, linked, ended, if_true, List.nil_append]
    rw [whole, Text.lines_append (Or.inr ended), one, Contents.lines_backLink plainImage]
    exact settles_header kind link rfl
  · have whole : becomes options table line = (line ++ ['\n']) ++ Contents.backLink options := by
      simp only [becomes, copied, generated, kind, linked, ended, if_true, Bool.false_eq_true,
        if_false, List.append_assoc]
    rw [whole, Text.lines_append (Text.endsLine_newline line), Text.lines_terminated one ended,
      Contents.lines_backLink plainImage]
    have headerToo := Header.isLine_terminated header
    refine settles_header (LineKind.ofLine_header.mpr headerToo) link ?_
    rw [Header.collect_cons [] headerToo, Header.collect_cons [] header,
      Header.ofLine_terminated ended]

theorem becomes_settles (one : line.lines = [line]) (plain : LineKind.ofLine line ≠ .directive)
    (plainLink : options.backLinks = true → '\n' ∉ options.backLinkImage) :
    Settles line (becomes options (Contents.ofLines source.lines) line).lines := by
  cases kind : LineKind.ofLine line with
  | directive => exact absurd kind plain
  | placeholder =>
    have whole : becomes options (Contents.ofLines source.lines) line =
        Contents.ofLines source.lines := by
      simp only [becomes, copied, generated, kind, List.nil_append]
    rw [whole]
    exact settles_text (Contents.ofLines_text source) (by simp [kind])
  | header =>
    by_cases linked : options.backLinks = true
    · exact becomes_header one (LineKind.ofLine_header.mp kind) linked (plainLink linked)
    · have whole : becomes options (Contents.ofLines source.lines) line = line := by
        simp [becomes, copied, generated, kind, linked]
      rw [whole, one]
      refine settles_header kind ?_ rfl
      intro other member
      exact absurd member List.not_mem_nil
  | text =>
    have whole : becomes options (Contents.ofLines source.lines) line = line := by
      simp [becomes, copied, generated, kind]
    rw [whole, one]
    exact settles_text (by simp [kind]) (by simp [kind])

theorem becomes_endsLine (tableEnds : table.endsWith "\n") (ended : line.endsWith "\n") :
    (becomes options table line).EndsLine := by
  unfold becomes copied generated
  cases LineKind.ofLine line with
  | directive => exact Text.endsLine_nil
  | placeholder => exact Or.inr tableEnds
  | header =>
    refine Text.EndsLine.append (Or.inr ended) ?_
    dsimp only
    split
    · exact Or.inr (Text.endsWith_append _ (Contents.backLink_endsWith options))
    · exact Text.endsLine_nil
  | text => exact Text.EndsLine.append (Or.inr ended) Text.endsLine_nil

-- By induction on the lines: all but the last are terminated, and so is what they become.
theorem lines_becomes (tableEnds : table.endsWith "\n") (cutAs : Text.lines lines.flatten = lines) :
    Text.lines (lines.flatMap (becomes options table)) =
      lines.flatMap fun line => (becomes options table line).lines := by
  induction lines with
  | nil => rfl
  | cons line rest ih =>
    obtain ⟨_, restCut, ended⟩ := Text.lines_cons_parts cutAs
    rw [List.flatMap_cons, List.flatMap_cons]
    rcases ended with ended | rfl
    · rw [Text.lines_append (becomes_endsLine tableEnds ended), ih restCut]
    · simp

theorem render_plain (plain : ∀ line ∈ source.lines, LineKind.ofLine line ≠ .directive) :
    render fs options document source =
      .ok (source.lines.flatMap (becomes options (Contents.ofLines source.lines))) := by
  have noFailure : ∀ number, firstFailure? fs document number source.lines = none := by
    generalize source.lines = lines at plain
    induction lines with
    | nil => exact fun _ => rfl
    | cons line rest ih =>
      intro number
      rw [List.forall_mem_cons] at plain
      have none_ : failure? fs document number line = none := by
        cases kind : LineKind.ofLine line with
        | directive => exact absurd kind plain.1
        | placeholder | header | text => simp only [failure?, kind]
      rw [firstFailure?, none_, ih plain.2]
      rfl
  have nothing : ∀ line ∈ source.lines, spliced fs document line = [] := by
    intro line member
    cases kind : LineKind.ofLine line with
    | directive => exact absurd kind (plain line member)
    | placeholder | header | text => simp only [spliced, import?, kind]
  rw [render_assembled, noFailure, Option.elim_none]
  refine congrArg Except.ok (List.flatMap_congr fun line member => ?_)
  rw [nothing line member, List.append_nil, becomes]

theorem output_lines (source : Text) :
    Text.lines (source.lines.flatMap (becomes options (Contents.ofLines source.lines))) =
      source.lines.flatMap fun line =>
        (becomes options (Contents.ofLines source.lines) line).lines :=
  lines_becomes (Contents.ofLines_endsWith source.lines) (by rw [Text.flatten_lines])

theorem output_settled (plain : ∀ line ∈ source.lines, LineKind.ofLine line ≠ .directive)
    (plainLink : options.backLinks = true → '\n' ∉ options.backLinkImage) :
    ∀ line ∈ source.lines,
      Settles line (becomes options (Contents.ofLines source.lines) line).lines :=
  fun line member => becomes_settles (Text.lines_of_mem member) (plain line member) plainLink

theorem collect_output (settled : ∀ line ∈ lines, Settles line (becomes options table line).lines) :
    Header.collect (lines.flatMap fun line => (becomes options table line).lines) =
      Header.collect lines := by
  induction lines with
  | nil => rfl
  | cons line rest ih =>
    rw [List.forall_mem_cons] at settled
    rw [List.flatMap_cons, Header.collect_append, settled.1.headers, ih settled.2,
      ← Header.collect_append, List.singleton_append]

-- A document without imports is always rendered. Without links back its output is rendered to
-- itself; with or without them the output has the headers of the document and so its table.
theorem render_settled (fs : FileSystem) (options : ContentsOptions) (document : Path) (source : Text)
    (plain : ∀ line ∈ source.lines, line.startsWith Directive.keyword = false) :
    ∃ output, render fs options document source = .ok output ∧
      (options.backLinks = false → render fs options document output = .ok output) ∧
      ('\n' ∉ options.backLinkImage →
        Header.collect output.lines = Header.collect source.lines ∧
          Contents.ofLines output.lines = Contents.ofLines source.lines) := by
  have kinds : ∀ line ∈ source.lines, LineKind.ofLine line ≠ .directive := by
    intro line member kind
    have starts := LineKind.ofLine_directive.mp kind
    rw [plain line member] at starts
    cases starts
  refine ⟨_, render_plain kinds, ?_, ?_⟩
  · intro noLinks
    have settled : ∀ line ∈ source.lines,
        Settles line (becomes options (Contents.ofLines source.lines) line).lines :=
      output_settled kinds (by simp [noLinks])
    have others : ∀ other ∈ Text.lines
        (source.lines.flatMap (becomes options (Contents.ofLines source.lines))),
        ∃ line ∈ source.lines,
          other ∈ (becomes options (Contents.ofLines source.lines) line).lines := by
      intro other member
      rw [output_lines] at member
      exact List.mem_flatMap.mp member
    rw [render, renderLines_copied 1 noLinks, Text.flatten_lines]
    · intro other member
      obtain ⟨line, among, inside⟩ := others other member
      exact (settled line among).noDirective other inside
    · intro other member
      obtain ⟨line, among, inside⟩ := others other member
      exact (settled line among).noPlaceholder other inside
  · intro plainImage
    have headers : Header.collect (Text.lines
        (source.lines.flatMap (becomes options (Contents.ofLines source.lines)))) =
        Header.collect source.lines := by
      rw [output_lines]
      exact collect_output (output_settled kinds fun _ => plainImage)
    exact ⟨headers, Contents.ofLines_headers headers⟩

theorem render_settled_table :
    (∀ line ∈ Text.lines "[TOC]\n# A\r\n## B", line.startsWith Directive.keyword = false) ∧
      render {} {} ⟨"a.src.md"⟩ "[TOC]\n# A\r\n## B" =
        .ok "<span id=\"TOC\"/></span>\n\n* [A](#a)\n  * [B](#b)\n# A\r\n## B" ∧
      render {} {} ⟨"a.src.md"⟩ "<span id=\"TOC\"/></span>\n\n* [A](#a)\n  * [B](#b)\n# A\r\n## B" =
        .ok "<span id=\"TOC\"/></span>\n\n* [A](#a)\n  * [B](#b)\n# A\r\n## B" ∧
      Header.collect (Text.lines
        "<span id=\"TOC\"/></span>\n\n* [A](#a)\n  * [B](#b)\n# A\r\n## B") =
        Header.collect (Text.lines "[TOC]\n# A\r\n## B") := by
  have plain : ∀ line ∈ Text.lines "[TOC]\n# A\r\n## B",
      line.startsWith Directive.keyword = false := by decide
  have rendered : render {} {} ⟨"a.src.md"⟩ "[TOC]\n# A\r\n## B" =
      .ok "<span id=\"TOC\"/></span>\n\n* [A](#a)\n  * [B](#b)\n# A\r\n## B" := by rfl
  obtain ⟨output, made, again, headers⟩ := render_settled {} {} ⟨"a.src.md"⟩ _ plain
  cases rendered.symm.trans made
  exact ⟨plain, rendered, again rfl, (headers (by decide)).1⟩

end Document
end DocAssembly
