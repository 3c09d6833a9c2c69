import DocAssembly.Markup
import DocAssembly.Proofs.Delimiters
import DocAssembly.Proofs.Lines

namespace DocAssembly.Block

structure Cut where
  before : Text
  opening : Text
  body : Text
  after : Text

-- The cut of a file at its first block `id`, between its lines.
structure Cut.Of (content id : Text) (cut : Cut) : Prop where
  whole : content = cut.before ++ (cut.opening ++ (cut.body ++ cut.after))
  aligned : content.lines = cut.before.lines ++ cut.opening :: (cut.body.lines ++ cut.after.lines)
  unopened : ∀ line ∈ cut.before.lines, opens id line = false
  opened : opens id cut.opening = true
  unmarked : ∀ line ∈ cut.body.lines, closes line = false
  marked : ∀ line, cut.after.lines.head? = some line → closes line = true

theorem bodyLines?_eq_none {id : Text} {lines : List Text} :
    bodyLines? id lines = none ↔ ∀ line ∈ lines, opens id line = false := by
  induction lines with
  | nil => simp [bodyLines?]
  | cons line rest ih =>
    cases opened : opens id line with
    | true => simp [bodyLines?, opened]
    | false => simp [bodyLines?, opened, ih]

theorem bodyLines?_opened {id opening : Text} {before : List Text} (rest : List Text)
    (unopened : ∀ line ∈ before, opens id line = false) (opened : opens id opening = true) :
    bodyLines? id (before ++ opening :: rest) = some (rest.takeWhile (!closes ·)) := by
  induction before with
  | nil => simp [bodyLines?, opened]
  | cons line before ih =>
    rw [List.forall_mem_cons] at unopened
    simp [bodyLines?, unopened.1, ih unopened.2]

theorem takeWhile_stops {keeps : Text → Bool} {front behind : List Text}
    (inside : ∀ line ∈ front, keeps line = true)
    (stops : ∀ line, behind.head? = some line → keeps line = false) :
    (front ++ behind).takeWhile keeps = front := by
  rw [List.takeWhile_append_of_pos inside]
  cases behind with
  | nil => simp
  | cons line behind => simp [stops line rfl]

theorem Cut.Of.body_found {content id : Text} {cut : Cut} (located : cut.Of content id) :
    find? content id = some ⟨id, cut.body⟩ := by
  have body : (cut.body.lines ++ cut.after.lines).takeWhile (!closes ·) = cut.body.lines := by
    apply takeWhile_stops
    · intro line member
      simp [located.unmarked line member]
    · intro line first
      simp [located.marked line first]
  rw [find?, located.aligned, bodyLines?_opened _ located.unopened located.opened, body]
  simp

theorem Cut.Of.unique {content id : Text} {one other : Cut} (located : one.Of content id)
    (again : other.Of content id) : other = one := by
  have front : ∀ cut : Cut, cut.Of content id →
      content.lines.takeWhile (!opens id ·) = cut.before.lines := by
    intro cut located
    rw [located.aligned]
    apply takeWhile_stops
    · intro line member
      simp [located.unopened line member]
    · intro line first
      cases first
      simp [located.opened]
  have before : other.before.lines = one.before.lines :=
    (front other again).symm.trans (front one located)
  have rest := again.aligned.symm.trans located.aligned
  rw [before, List.append_cancel_left_eq, List.cons.injEq] at rest
  obtain ⟨opening, rest⟩ := rest
  have found := Option.some.inj (again.body_found.symm.trans located.body_found)
  have body : other.body = one.body := congrArg TaggedBlock.body found
  rw [body, List.append_cancel_left_eq] at rest
  have beforeText := congrArg List.flatten before
  have afterText := congrArg List.flatten rest
  rw [Text.flatten_lines, Text.flatten_lines] at beforeText afterText
  cases one
  cases other
  simp only at beforeText opening body afterText
  rw [beforeText, opening, body, afterText]

theorem exists_parts {id line : Text} {lines : List Text} (member : line ∈ lines)
    (opened : opens id line = true) : ∃ before opening body after,
      lines = before ++ opening :: (body ++ after) ∧
      (∀ line ∈ before, opens id line = false) ∧ opens id opening = true ∧
      (∀ line ∈ body, closes line = false) ∧
      ∀ line, after.head? = some line → closes line = true := by
  induction lines with
  | nil => cases member
  | cons head rest ih =>
    cases here : opens id head with
    | true =>
      refine ⟨[], head, rest.takeWhile (!closes ·), rest.dropWhile (!closes ·), ?_, ?_, here, ?_, ?_⟩
      · rw [List.takeWhile_append_dropWhile]
        rfl
      · intro line member
        cases member
      · intro line member
        simpa using List.mem_takeWhile_imp member
      · intro line first
        have stops := List.head?_dropWhile_not (!closes ·) rest
        simpa [first] using stops
    | false =>
      rcases List.mem_cons.mp member with rfl | member
      · simp [here] at opened
      · obtain ⟨before, opening, body, after, parts, unopened, found⟩ := ih member
        refine ⟨head :: before, opening, body, after, by simp [parts], ?_, found⟩
        exact List.forall_mem_cons.mpr ⟨here, unopened⟩

theorem cut_of_parts {content id opening : Text} {before body after : List Text}
    (parts : content.lines = before ++ opening :: (body ++ after))
    (unopened : ∀ line ∈ before, opens id line = false) (opened : opens id opening = true)
    (unmarked : ∀ line ∈ body, closes line = false)
    (marked : ∀ line, after.head? = some line → closes line = true) :
    ∃ cut : Cut, cut.Of content id ∧ cut.before.lines = before ∧ cut.opening = opening ∧
      cut.body.lines = body := by
  obtain ⟨beforeLines, behind⟩ := Text.lines_flatten_parts parts
  obtain ⟨-, behind, -⟩ := Text.lines_cons_parts behind
  obtain ⟨bodyLines, afterLines⟩ := Text.lines_flatten_parts behind
  refine ⟨⟨before.flatten, opening, body.flatten, after.flatten⟩, ⟨?_, ?_, ?_, opened, ?_, ?_⟩,
    beforeLines, rfl, bodyLines⟩
  · rw [← Text.flatten_lines content, parts]
    simp
  · rw [parts, beforeLines, bodyLines, afterLines]
  · rwa [beforeLines]
  · rwa [bodyLines]
  · rwa [afterLines]

theorem exists_cut {content id line : Text} (member : line ∈ content.lines)
    (opened : opens id line = true) : ∃ cut : Cut, cut.Of content id := by
  obtain ⟨before, opening, body, after, parts, unopened, opens, unmarked, marked⟩ :=
    exists_parts member opened
  obtain ⟨cut, located, _⟩ := cut_of_parts parts unopened opens unmarked marked
  exact ⟨cut, located⟩

def openingLine (id : Text) : Text := marker ++ '#' :: id ++ ['\n']

def closingLine : Text := marker ++ ['\n']

def tagged (id body : Text) : Text := openingLine id ++ body ++ closingLine

example : tagged "A" "one\n" = "@@md#A\none\n@@md\n" := by decide

theorem trim_openingLine {id : Text} (kept : id.trimEnd = id) :
    (openingLine id).trim = marker ++ '#' :: id := by
  have tag : Text.trimEnd ('#' :: id) = '#' :: id := by
    cases id with
    | nil => decide
    | cons c rest => exact Text.trimEnd_append_kept kept (by simp) ['#']
  have start : Text.trimStart (marker ++ '#' :: id) = marker ++ '#' :: id := rfl
  rw [openingLine, Text.trim_append_blank Text.newline_blank, Text.trim, start,
    Text.trimEnd_append_kept tag (by simp)]

theorem opens_openingLine {id : Text} (kept : id.trimEnd = id) :
    opens id (openingLine id) = true := by
  have found : Text.after? (marker ++ '#' :: id) marker = some ('#' :: id) :=
    Text.isPrefixOf?_eq_some.mpr rfl
  have whole : id.startsWith id = true := List.isPrefixOf_iff_prefix.mpr (List.prefix_refl id)
  simp only [opens, trim_openingLine kept, found, whole]

theorem cut_tagged {id before body : Text} (after : Text) (oneLine : '\n' ∉ id)
    (kept : id.trimEnd = id) (beforeEnds : before.EndsLine)
    (unopened : ∀ line ∈ before.lines, opens id line = false) (bodyEnds : body.EndsLine)
    (unmarked : ∀ line ∈ body.lines, closes line = false) :
    (⟨before, openingLine id, body, closingLine ++ after⟩ : Cut).Of
      (before ++ tagged id body ++ after) id := by
  have inside : '\n' ∉ marker ++ '#' :: id := by
    have noneBefore : '\n' ∉ marker := by decide
    simp [noneBefore, oneLine]
  have first : (openingLine id).lines = [openingLine id] := Text.lines_single inside
  have last : (closingLine ++ after).lines = closingLine :: after.lines :=
    Text.lines_append (Or.inr (by decide))
  have whole : before ++ tagged id body ++ after =
      before ++ (openingLine id ++ (body ++ (closingLine ++ after))) := by
    simp [tagged]
  have openingEnds : (openingLine id).EndsLine := Text.endsLine_newline _
  refine ⟨whole, ?_, unopened, opens_openingLine kept, unmarked, ?_⟩
  · rw [whole, Text.lines_append beforeEnds, Text.lines_append openingEnds, first,
      Text.lines_append bodyEnds]
    rfl
  · intro line head
    rw [last] at head
    cases head
    decide

theorem extract_tagged {id before body : Text} (after : Text) (oneLine : '\n' ∉ id)
    (kept : id.trimEnd = id) (beforeEnds : before.EndsLine)
    (unopened : ∀ line ∈ before.lines, opens id line = false) (bodyEnds : body.EndsLine)
    (unmarked : ∀ line ∈ body.lines, closes line = false) :
    extract (before ++ tagged id body ++ after) id = body := by
  have cut := cut_tagged after oneLine kept beforeEnds unopened bodyEnds unmarked
  rw [extract, cut.body_found]
  rfl

-- Nothing is found in a file that opens no such block; any other file has exactly one cut, whose
-- body is found; and tagging a body is undone.
theorem find?_cut :
    (∀ content id : Text,
      (find? content id = none ↔ ∀ line ∈ content.lines, opens id line = false) ∧
      ((∃ line ∈ content.lines, opens id line = true) →
        ∃ cut : Cut, cut.Of content id ∧ (∀ other : Cut, other.Of content id → other = cut) ∧
          find? content id = some ⟨id, cut.body⟩)) ∧
    ∀ id before body after : Text, '\n' ∉ id → id.trimEnd = id → before.EndsLine →
      (∀ line ∈ before.lines, opens id line = false) → body.EndsLine →
      (∀ line ∈ body.lines, closes line = false) →
      extract (before ++ tagged id body ++ after) id = body := by
  refine ⟨?_, ?_⟩
  · intro content id
    refine ⟨?_, ?_⟩
    · rw [find?, Option.map_eq_none_iff, bodyLines?_eq_none]
    · rintro ⟨line, member, opened⟩
      obtain ⟨cut, located⟩ := exists_cut member opened
      exact ⟨cut, located, fun other again => located.unique again, located.body_found⟩
  · intro id before body after oneLine kept beforeEnds unopened bodyEnds unmarked
    exact extract_tagged after oneLine kept beforeEnds unopened bodyEnds unmarked

-- The tag of the block before it is the beginning of its own, which does not open it.
theorem find?_cut_between :
    (∃ line ∈ Text.lines "@@md#B\none\n @@md#Bo\ntwo\n", opens "Bo" line = true) ∧
      find? "@@md#B\none\n @@md#Bo\ntwo\n" "Bo" = some ⟨"Bo", "two\n"⟩ ∧
      extract ("@@md#B\none\n" ++ tagged "Bo" "two\n" ++ "@@md#Bo\n" : Text) "Bo" = "two\n" := by
  have member : ∃ line ∈ Text.lines "@@md#B\none\n @@md#Bo\ntwo\n", opens "Bo" line = true := by
    decide
  obtain ⟨located, tagging⟩ := find?_cut
  obtain ⟨cut, -, unique, found⟩ := (located "@@md#B\none\n @@md#Bo\ntwo\n" "Bo").2 member
  have parts : (⟨"@@md#B\none\n", " @@md#Bo\n", "two\n", []⟩ : Cut).Of
      "@@md#B\none\n @@md#Bo\ntwo\n" "Bo" :=
    ⟨by decide, by decide, by decide, by decide, by decide, by decide⟩
  rw [← unique _ parts] at found
  exact ⟨member, found, tagging "Bo" "@@md#B\none\n" "two\n" "@@md#Bo\n" (by decide) (by decide)
    (by decide) (by decide) (by decide) (by decide)⟩

end DocAssembly.Block
