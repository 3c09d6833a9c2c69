import DocAssembly.Proofs.Entries
import Mathlib

namespace DocAssembly

namespace Text

theorem cut?_word (text : Text) :
    ((cut? " " text).getD (text, [])).1 = text.takeWhile (· ≠ ' ') := by
  induction text with
  | nil => rfl
  | cons c rest ih =>
    by_cases space : c = ' '
    · have here : cut? " " (' ' :: rest) = some ([], rest) := cut?_here [' '] rest
      rw [space, here]
      rfl
    · have absent : List.isPrefixOf? " ".toList (c :: rest) = none := by
        simp [List.isPrefixOf?, Ne.symm space]
      rw [List.takeWhile_cons_of_pos (by simpa using space), ← ih, cut?, absent]
      cases cut? " " rest <;> rfl

end Text

namespace Header

variable {line : Text}

def marks (line : Text) : Nat := (line.takeWhile (· = '#')).length

-- What stands between the marks of a line and the first space after them, or its end.
def glued (line : Text) : Text :=
  (line.stripLineEnding.dropWhile (· = '#')).takeWhile (· ≠ ' ')

theorem marks_stripLineEnding (line : Text) : marks line.stripLineEnding = marks line := by
  obtain ⟨ending, whole, ends⟩ := Text.stripLineEnding_split line
  have unmarked : ending.takeWhile (· = '#') = [] := by
    cases ending with
    | nil => rfl
    | cons c rest => rcases ends c List.mem_cons_self with rfl | rfl <;> rfl
  have front : (line.stripLineEnding ++ ending).takeWhile (· = '#') =
      line.stripLineEnding.takeWhile (· = '#') := by
    rw [List.takeWhile_append, unmarked, List.append_nil]
    split
    · next all => exact ((List.takeWhile_prefix _).eq_of_length all).symm
    · rfl
  rw [marks, marks, ← front, ← whole]

theorem ofLine_level (line : Text) :
    (ofLine line).level = (line.stripLineEnding.takeWhile (· ≠ ' ')).length := by
  rw [← Text.cut?_word, ofLine]

theorem level_eq (line : Text) : (ofLine line).level = marks line + (glued line).length := by
  have spaceless : ∀ c ∈ line.stripLineEnding.takeWhile (· = '#'), decide (c ≠ ' ') = true := by
    intro c member
    have mark : c = '#' := by simpa using List.mem_takeWhile_imp member
    rw [mark]
    rfl
  have word : line.stripLineEnding.takeWhile (· ≠ ' ') =
      line.stripLineEnding.takeWhile (· = '#') ++ glued line := by
    rw [glued, ← List.takeWhile_append_of_pos spaceless, List.takeWhile_append_dropWhile]
  rw [ofLine_level, word, List.length_append, ← marks_stripLineEnding, marks]

theorem marks_pos (header : isLine line = true) : 0 < marks line := by
  obtain ⟨rest, rfl⟩ := isLine_front header
  exact Nat.succ_pos _

end Header

namespace Contents

def indent (line : Text) : Nat := (line.takeWhile (· = ' ')).length

theorem indent_entry (header : Header) : indent (entry header) = 2 * (header.level - 1) := by
  have spaces : ∀ c ∈ List.replicate (2 * (header.level - 1)) ' ', decide (c = ' ') = true := by
    intro c member
    simpa using List.eq_of_mem_replicate member
  rw [indent, entry, List.append_assoc, List.append_assoc, List.append_assoc, List.append_assoc,
    List.takeWhile_append_of_pos spaces, List.length_append, List.length_replicate]
  rfl

-- A header line has a mark, so what is glued to its marks moves its line of the table by as much
-- again as further marks would.
theorem indent_ofLine {line : Text} (header : Header.isLine line = true) :
    indent (entry (Header.ofLine line)) =
      2 * (Header.marks line - 1) + 2 * (Header.glued line).length := by
  have marked := Header.marks_pos header
  rw [indent_entry, Header.level_eq]
  omega

theorem indents_ofLines (source : Text) : (ofLines source.lines).lines.map indent =
    0 :: 0 :: (source.lines.filter Header.isLine).map fun line =>
      2 * (Header.marks line - 1) + 2 * (Header.glued line).length := by
  have rows : (Header.collect source.lines).map (indent ∘ entry) =
      (source.lines.filter Header.isLine).map fun line =>
        2 * (Header.marks line - 1) + 2 * (Header.glued line).length := by
    rw [Header.collect, List.map_map]
    refine List.map_congr_left ?_
    intro line kept
    rw [Function.comp_apply, Function.comp_apply, indent_ofLine (List.mem_filter.mp kept).2]
  have heading : indent anchorLine = 0 := by decide
  have blank : indent ['\n'] = 0 := by decide
  rw [lines_ofLines, List.map_cons, List.map_cons, List.map_map, rows, heading, blank]

theorem indents_marks_iff (source : Text) : (ofLines source.lines).lines.map indent =
    0 :: 0 :: (source.lines.filter Header.isLine).map (fun line => 2 * (Header.marks line - 1)) ↔
    ∀ line ∈ source.lines, Header.isLine line = true → Header.glued line = [] := by
  rw [indents_ofLines, List.cons_inj_right, List.cons_inj_right, List.map_inj_left]
  constructor
  · intro same line among header
    have indented := same line (List.mem_filter.mpr ⟨among, header⟩)
    apply List.eq_nil_of_length_eq_zero
    omega
  · intro spaced line kept
    obtain ⟨among, header⟩ := List.mem_filter.mp kept
    rw [spaced line among header]
    rfl

end Contents

namespace Header

theorem level_exact (source : Text) :
    (∀ line, isLine line = true → (ofLine line).level = marks line + (glued line).length ∧
      ((ofLine line).level = marks line ↔ glued line = [])) ∧
    ((Contents.ofLines source.lines).lines.map Contents.indent =
      0 :: 0 :: (source.lines.filter isLine).map fun line =>
        2 * (marks line - 1) + 2 * (glued line).length) ∧
    ((Contents.ofLines source.lines).lines.map Contents.indent =
      0 :: 0 :: (source.lines.filter isLine).map (fun line => 2 * (marks line - 1)) ↔
      ∀ line ∈ source.lines, isLine line = true → glued line = []) := by
  refine ⟨?_, Contents.indents_ofLines source, Contents.indents_marks_iff source⟩
  intro line header
  refine ⟨level_eq line, ?_⟩
  rw [level_eq, ← List.length_eq_zero_iff]
  omega

theorem level_exact_spaced :
    isLine "## A\n" = true ∧ (ofLine "## A\n").level = marks "## A\n" ∧ marks "## A\n" = 2 ∧
    (Contents.ofLines (Text.lines "# A\n##\tB C\n")).lines.map Contents.indent = [0, 0, 0, 6] := by
  obtain ⟨levels, indents, _⟩ := level_exact "# A\n##\tB C\n"
  exact ⟨by decide, (levels "## A\n" (by decide)).2.mpr (by decide), by decide,
    indents.trans (by decide)⟩

-- Without a space the title itself counts as marks: five characters indent by ten spaces.
theorem level_tight :
    isLine "#Title\n" = true ∧ marks "#Title\n" = 1 ∧ (ofLine "#Title\n").level = 6 ∧
    Contents.indent (Contents.entry (ofLine "#Title\n")) = 10 := by
  decide

end Header
end DocAssembly
