import DocAssembly.Text.Basic
import Mathlib.Data.List.Basic
import Mathlib.Data.List.TakeWhile

namespace DocAssembly.Text

def EndsLine (text : Text) : Prop := text = [] ∨ text.endsWith "\n"

instance (text : Text) : Decidable text.EndsLine := inferInstanceAs (Decidable (_ ∨ _))

theorem endsWith_newline (text : Text) :
    text.endsWith "\n" = true ↔ text.getLast? = some '\n' := by
  change ['\n'].isSuffixOf text = true ↔ _
  rw [List.isSuffixOf_iff_suffix, List.singleton_suffix_iff_getLast?_eq_some]

theorem endsWith_append {text : Text} (front : Text) (ends : text.endsWith "\n") :
    endsWith (front ++ text) "\n" := by
  rw [endsWith_newline] at ends ⊢
  simp [List.getLast?_append, ends]

theorem endsLine_nil : EndsLine [] := Or.inl rfl

theorem endsLine_newline (front : Text) : EndsLine (front ++ ['\n']) :=
  Or.inr ((endsWith_newline _).mpr (by simp))

theorem EndsLine.append {a b : Text} (first : EndsLine a) (second : EndsLine b) :
    EndsLine (a ++ b) := by
  rcases second with rfl | second
  · simpa using first
  · exact Or.inr (endsWith_append a second)

theorem endsLine_cons {c : Char} {rest : Text} (ends : EndsLine (c :: rest)) : EndsLine rest := by
  cases rest with
  | nil => exact endsLine_nil
  | cons d others =>
    rcases ends with nothing | ends
    · cases nothing
    · rw [endsWith_newline] at ends
      exact Or.inr ((endsWith_newline _).mpr (by simpa [List.getLast?_cons_cons] using ends))

theorem lines_eq_nil {text : Text} : text.lines = [] ↔ text = [] := by
  constructor
  · intro none
    simpa [none] using (flatten_lines text).symm
  · rintro rfl
    rfl

@[simp] theorem lines_newline (rest : Text) : lines ('\n' :: rest) = ['\n'] :: lines rest := by
  simp [lines]

theorem lines_front {c : Char} (inside : c ≠ '\n') {rest line : Text} {others : List Text}
    (cutAs : lines rest = line :: others) : lines (c :: rest) = (c :: line) :: others := by
  simp [lines, inside, cutAs]

theorem lines_append {a b : Text} (ends : EndsLine a) : (a ++ b).lines = a.lines ++ b.lines := by
  induction a with
  | nil => rfl
  | cons c rest ih =>
    have joined := ih (endsLine_cons ends)
    by_cases newline : c = '\n'
    · subst newline
      simp [joined]
    · cases cutAs : lines rest with
      | nil =>
        -- Then `c` is the last character, but only a line feed may be.
        cases lines_eq_nil.mp cutAs
        rcases ends with nothing | ends
        · cases nothing
        · rw [endsWith_newline] at ends
          exact absurd (by simpa using ends) newline
      | cons line others =>
        rw [cutAs, List.cons_append] at joined
        rw [lines_front newline cutAs, List.cons_append, lines_front newline joined]
        rfl

-- The first line is one line, the others are the lines of what they make up, and there are no
-- others unless the first is terminated.
theorem lines_cons_parts {text line : Text} {others : List Text}
    (cutAs : text.lines = line :: others) :
    line.lines = [line] ∧ lines others.flatten = others ∧ (line.endsWith "\n" ∨ others = []) := by
  induction text generalizing line with
  | nil => cases cutAs
  | cons c rest ih =>
    by_cases newline : c = '\n'
    · subst newline
      rw [lines_newline] at cutAs
      cases cutAs
      exact ⟨by simp [lines], by rw [flatten_lines], Or.inl (by decide)⟩
    · cases tail : lines rest with
      | nil =>
        cases lines_eq_nil.mp tail
        simp only [lines, newline, if_false] at cutAs
        cases cutAs
        exact ⟨by simp [lines, newline], rfl, Or.inr rfl⟩
      | cons front behind =>
        rw [lines_front newline tail] at cutAs
        cases cutAs
        obtain ⟨one, same, ended⟩ := ih tail
        refine ⟨lines_front newline one, same, ended.imp_left ?_⟩
        intro ended
        rw [endsWith_newline] at ended ⊢
        simp [List.getLast?_cons, ended]

theorem lines_flatten_parts {text : Text} {front behind : List Text}
    (cutAs : text.lines = front ++ behind) :
    lines front.flatten = front ∧ lines behind.flatten = behind := by
  induction front generalizing text with
  | nil => exact ⟨rfl, by rw [← List.nil_append behind, ← cutAs, flatten_lines]⟩
  | cons line front ih =>
    obtain ⟨one, rest, ended⟩ := lines_cons_parts cutAs
    obtain ⟨same, others⟩ := ih rest
    refine ⟨?_, others⟩
    rcases ended with ended | nothing
    · rw [List.flatten_cons, lines_append (Or.inr ended), one, same]
      rfl
    · rw [(List.append_eq_nil_iff.mp nothing).1]
      simpa using one

theorem lines_single {text : Text} (inside : '\n' ∉ text) :
    lines (text ++ ['\n']) = [text ++ ['\n']] := by
  induction text with
  | nil => rfl
  | cons c rest ih =>
    rw [List.mem_cons, not_or] at inside
    exact lines_front (Ne.symm inside.1) (ih inside.2)

theorem lines_of_mem {text line : Text} (member : line ∈ text.lines) : line.lines = [line] := by
  obtain ⟨front, behind, cutAs⟩ := List.append_of_mem member
  exact (lines_cons_parts (lines_flatten_parts cutAs).2).1

theorem line_cases {line : Text} (one : line.lines = [line]) :
    '\n' ∉ line ∨ ∃ front, '\n' ∉ front ∧ line = front ++ ['\n'] := by
  induction line with
  | nil => cases one
  | cons c rest ih =>
    by_cases newline : c = '\n'
    · subst newline
      rw [lines_newline, List.cons.injEq] at one
      exact .inr ⟨[], by simp, one.1.symm⟩
    · cases cutAs : lines rest with
      | nil =>
        cases lines_eq_nil.mp cutAs
        exact .inl (by simpa using Ne.symm newline)
      | cons line others =>
        rw [lines_front newline cutAs] at one
        cases one
        rcases ih cutAs with inside | ⟨front, inside, rfl⟩
        · exact .inl (by simp [Ne.symm newline, inside])
        · exact .inr ⟨c :: front, by simp [Ne.symm newline, inside], rfl⟩

theorem lines_flatMap {α : Type} {f : α → Text} {items : List α}
    (ends : ∀ item ∈ items, (f item).EndsLine) :
    lines (items.flatMap f) = items.flatMap fun item => (f item).lines := by
  induction items with
  | nil => rfl
  | cons item rest ih =>
    rw [List.forall_mem_cons] at ends
    rw [List.flatMap_cons, List.flatMap_cons, lines_append ends.1, ih ends.2]

theorem lines_terminated {line : Text} (one : line.lines = [line])
    (unended : ¬ line.endsWith "\n") : lines (line ++ ['\n']) = [line ++ ['\n']] := by
  rcases line_cases one with inside | ⟨front, _, rfl⟩
  · exact lines_single inside
  · exact absurd ((endsWith_newline _).mpr (by simp)) unended

theorem before?_eq_some {text tail front : Text} :
    text.before? tail = some front ↔ front ++ tail = text :=
  List.isSuffixOf?_eq_some_iff_append_eq

theorem dropTail_append (front tail : Text) : dropTail (front ++ tail) tail = front := by
  have found : before? (front ++ tail) tail = some front := before?_eq_some.mpr rfl
  simp [dropTail, found]

theorem dropTail_absent {text tail : Text} (absent : ¬ text.endsWith tail) :
    text.dropTail tail = text := by
  cases found : text.before? tail with
  | none => simp [dropTail, found]
  | some front =>
    have ends : text.endsWith tail := by
      rw [endsWith, List.isSuffixOf_iff_suffix]
      exact ⟨front, before?_eq_some.mp found⟩
    exact absurd ends absent

theorem dropTail_split (text tail : Text) :
    ∃ dropped, text = text.dropTail tail ++ dropped ∧ dropped ⊆ tail := by
  cases found : text.before? tail with
  | none => exact ⟨[], by simp [dropTail, found], List.nil_subset _⟩
  | some front =>
    have whole := before?_eq_some.mp found
    exact ⟨tail, by simp [dropTail, found, whole], List.Subset.refl _⟩

theorem dropTail_begins (text tail : Text) : text.dropTail tail <+: text := by
  obtain ⟨dropped, whole, _⟩ := dropTail_split text tail
  exact ⟨dropped, whole.symm⟩

theorem dropTail_front {c : Char} {tail : Text} (foreign : c ∉ tail) (rest : Text) :
    ∃ more, dropTail (c :: rest) tail = c :: more := by
  obtain ⟨dropped, whole, within⟩ := dropTail_split (c :: rest) tail
  cases kept : dropTail (c :: rest) tail with
  | nil =>
    rw [kept, List.nil_append] at whole
    exact absurd (within (whole ▸ List.mem_cons_self)) foreign
  | cons d more =>
    rw [kept, List.cons_append, List.cons.injEq] at whole
    exact ⟨more, by rw [whole.1]⟩

theorem stripLineEnding_split (line : Text) :
    ∃ ending, line = line.stripLineEnding ++ ending ∧ ∀ c ∈ ending, c = '\n' ∨ c = '\r' := by
  obtain ⟨feed, whole, feeds⟩ := dropTail_split line "\n"
  obtain ⟨back, front, returns⟩ := dropTail_split (line.dropTail "\n") "\r"
  refine ⟨back ++ feed, ?_, ?_⟩
  · rw [← List.append_assoc, stripLineEnding, ← front, ← whole]
  · intro c member
    rcases List.mem_append.mp member with returned | fed
    · exact .inr (by simpa using returns returned)
    · exact .inl (by simpa using feeds fed)

theorem stripLineEnding_front {c : Char} (noFeed : c ≠ '\n') (noReturn : c ≠ '\r') (rest : Text) :
    ∃ more, stripLineEnding (c :: rest) = c :: more := by
  have noFeeds : c ∉ "\n".toList := by simpa using noFeed
  have noReturns : c ∉ "\r".toList := by simpa using noReturn
  obtain ⟨more, same⟩ := dropTail_front noFeeds rest
  obtain ⟨others, sameToo⟩ := dropTail_front noReturns more
  exact ⟨others, by rw [stripLineEnding, same, sameToo]⟩

theorem newline_not_mem_stripLineEnding {line : Text} (one : line.lines = [line]) :
    '\n' ∉ line.stripLineEnding := by
  have kept : '\n' ∉ line.dropTail "\n" := by
    rcases line_cases one with inside | ⟨front, inside, rfl⟩
    · exact fun member => inside ((dropTail_begins line _).subset member)
    · have dropped : dropTail (front ++ ['\n']) "\n" = front := dropTail_append front "\n"
      rw [dropped]
      exact inside
  exact fun member => kept ((dropTail_begins _ _).subset member)

theorem stripLineEnding_terminated {line : Text} (unended : ¬ line.endsWith "\n") :
    stripLineEnding (line ++ ['\n']) = line.stripLineEnding := by
  have dropped : dropTail (line ++ ['\n']) "\n" = line := dropTail_append line "\n"
  rw [stripLineEnding, stripLineEnding, dropped, dropTail_absent unended]

theorem trimEnd_append_blank {tail : Text} (blank : ∀ c ∈ tail, isBlank c = true) (text : Text) :
    trimEnd (text ++ tail) = text.trimEnd := by
  have reversed : ∀ c ∈ tail.reverse, isBlank c = true := by simpa using blank
  rw [trimEnd, List.reverse_append, List.dropWhile_append_of_pos reversed, trimEnd]

-- Blanks at the end of a text are part of its margin, also when all of it is blank.
theorem trim_append_blank {tail : Text} (blank : ∀ c ∈ tail, isBlank c = true) (text : Text) :
    trim (text ++ tail) = text.trim := by
  have gone : tail.dropWhile isBlank = [] := List.dropWhile_eq_nil_iff.mpr blank
  simp only [trim, trimStart, List.dropWhile_append, gone]
  split
  · next all => rw [List.isEmpty_iff.mp all]
  · exact trimEnd_append_blank blank _

theorem newline_blank : ∀ c ∈ (['\n'] : Text), isBlank c = true := by simp [isBlank]

theorem trimEnd_append_kept {text : Text} (kept : text.trimEnd = text) (some : text ≠ [])
    (front : Text) : trimEnd (front ++ text) = front ++ text := by
  have reversed : text.reverse.dropWhile isBlank = text.reverse := by
    rw [← List.reverse_reverse (text.reverse.dropWhile isBlank)]
    exact congrArg List.reverse kept
  have notEmpty : (text.reverse.dropWhile isBlank).isEmpty = false := by simp [reversed, some]
  rw [trimEnd, List.reverse_append, List.dropWhile_append, notEmpty, reversed]
  simp

end DocAssembly.Text
