import DocAssembly.Markup
import DocAssembly.Proofs.Delimiters
import DocAssembly.Proofs.Encoding

namespace DocAssembly.Directive

open Text (FirstAt Between Delimited Aligned cut?)

def print (directive : Directive) : Text :=
  fileOpening ++ directive.file ++ fileClosing ++ [' ', '\x7b'] ++
    blockOpening ++ directive.block ++ blockClosing

example : print ⟨"a.h", "B"⟩ = "@import \"a.h\" \x7bmd_id=B\x7d" := by decide

def printedBlock (block trailing : Text) : Text :=
  [' '] ++ '\x7b' :: (blockOpening ++ (block ++ '\x7d' :: trailing))

theorem print_append (directive : Directive) (trailing : Text) :
    print directive ++ trailing =
      fileOpening ++ (directive.file ++ '"' :: printedBlock directive.block trailing) := by
  have quote : fileClosing = ['"'] := rfl
  have brace : blockClosing = ['\x7d'] := rfl
  simp [print, printedBlock, quote, brace]

theorem between?_file (directive : Directive) (trailing : Text) (noQuote : '"' ∉ directive.file) :
    (print directive ++ trailing).between? fileOpening fileClosing = some directive.file := by
  have closing : cut? fileClosing (directive.file ++ '"' :: printedBlock directive.block trailing) =
      some (directive.file, printedBlock directive.block trailing) := Text.cut?_absent noQuote _
  rw [print_append, Text.between?, Text.cut?_here]
  simp only [Option.bind_eq_bind, Option.bind_some, closing]
  rfl

theorem cut?_printedBlock (block trailing : Text) :
    cut? blockOpening (printedBlock block trailing) =
      some ([' ', '\x7b'], block ++ '\x7d' :: trailing) := by
  have blank : cut? blockOpening [' '] = none := rfl
  rw [printedBlock, Text.cut?_separator (by decide) (by decide), blank]
  simp [Text.cut?_here]

theorem cut?_closing {block : Text} (noBrace : '\x7d' ∉ block) (trailing : Text) :
    cut? blockClosing (printedBlock block trailing) =
      some ([' ', '\x7b'] ++ blockOpening ++ block, trailing) := by
  have noneBefore : '\x7d' ∉ [' ', '\x7b'] ++ blockOpening := by decide
  have noneInside : '\x7d' ∉ [' ', '\x7b'] ++ blockOpening ++ block := by
    rw [List.mem_append, not_or]
    exact ⟨noneBefore, noBrace⟩
  have cutAs : cut? blockClosing ([' ', '\x7b'] ++ blockOpening ++ block ++ '\x7d' :: trailing) =
      some ([' ', '\x7b'] ++ blockOpening ++ block, trailing) :=
    Text.cut?_absent noneInside trailing
  simpa [printedBlock] using cutAs

-- The block that is read from a written directive. Its path is searched for the opening first.
def readBlock (directive : Directive) : Text :=
  match cut? blockOpening directive.file with
  | none => directive.block
  | some (_, rest) =>
    match cut? blockClosing rest with
    | some (inner, _) => inner
    | none => rest ++ '"' :: ([' ', '\x7b'] ++ blockOpening ++ directive.block)

theorem cut?_opening (directive : Directive) (trailing : Text) :
    (cut? blockOpening (print directive ++ trailing)).map (·.2) =
      match cut? blockOpening directive.file with
      | some (_, rest) => some (rest ++ '"' :: printedBlock directive.block trailing)
      | none => some (directive.block ++ '\x7d' :: trailing) := by
  have keyword : cut? blockOpening "@import " = none := rfl
  have afterKeyword : print directive ++ trailing =
      "@import " ++ '"' :: (directive.file ++ '"' :: printedBlock directive.block trailing) :=
    print_append directive trailing
  rw [afterKeyword, Text.cut?_separator (by decide) (by decide), keyword,
    Text.cut?_separator (by decide) (by decide), cut?_printedBlock]
  cases cut? blockOpening directive.file with
  | some parts => simp
  | none => simp

theorem between?_block (directive : Directive) (trailing : Text)
    (noBrace : '\x7d' ∉ directive.block) :
    (print directive ++ trailing).between? blockOpening blockClosing =
      some (readBlock directive) := by
  have closing : cut? blockClosing (directive.block ++ '\x7d' :: trailing) =
      some (directive.block, trailing) := Text.cut?_absent noBrace trailing
  rw [Text.between?_eq, cut?_opening, readBlock]
  cases cut? blockOpening directive.file with
  | none => simp [closing]
  | some parts =>
    simp only [Option.bind_some, Text.cut?_separator (show '"' ∉ blockClosing by decide)
      (show blockClosing ≠ [] by decide), cut?_closing noBrace]
    cases cut? blockClosing parts.2 with
    | some inside => rfl
    | none => rfl

theorem readBlock_eq {directive : Directive} (noBrace : '\x7d' ∉ directive.block) :
    readBlock directive = directive.block ↔
      ¬ blockOpening <:+: directive.file ∨ ∃ before after,
        FirstAt blockOpening directive.file before (directive.block ++ (blockClosing ++ after)) := by
  cases found : cut? blockOpening directive.file with
  | none => simp [readBlock, found, Text.cut?_eq_none.mp found]
  | some parts =>
    obtain ⟨before, rest⟩ := parts
    have first := Text.cut?_eq_some.mp found
    have occurs : blockOpening <:+: directive.file :=
      ⟨before, rest, by rw [first.whole, List.append_assoc]⟩
    have closed : (∃ front after,
        FirstAt blockOpening directive.file front (directive.block ++ (blockClosing ++ after))) ↔
        ∃ after, cut? blockClosing rest = some (directive.block, after) := by
      constructor
      · rintro ⟨front, after, other⟩
        obtain ⟨-, rfl⟩ := first.unique other
        exact ⟨after, Text.cut?_absent noBrace after⟩
      · rintro ⟨after, cutAs⟩
        rw [(Text.cut?_eq_some.mp cutAs).whole] at first
        exact ⟨before, after, first⟩
    rw [closed]
    simp only [readBlock, found, occurs, not_true_eq_false, false_or]
    cases cut? blockClosing rest with
    | some inside => simp [Prod.ext_iff]
    | none =>
      constructor
      · intro same
        have lengths := congrArg List.length same
        simp only [List.length_append, List.length_cons] at lengths
        omega
      · rintro ⟨after, nothing⟩
        cases nothing

-- A written directive is read back, whatever follows it, with its path as it is. The block is the
-- one written just when the path has no opening of a block, or names that very block in full.
theorem parse_print (directive : Directive) (trailing : Text) (noQuote : '"' ∉ directive.file)
    (noBrace : '\x7d' ∉ directive.block) :
    ∃ block, parse (print directive ++ trailing) = .ok ⟨directive.file, block⟩ ∧
      (block = directive.block ↔
        ¬ blockOpening <:+: directive.file ∨ ∃ before after,
          FirstAt blockOpening directive.file before
            (directive.block ++ (blockClosing ++ after))) := by
  refine ⟨readBlock directive, ?_, readBlock_eq noBrace⟩
  rw [parse, between?_file directive trailing noQuote, between?_block directive trailing noBrace]

theorem parse_print_nested :
    '"' ∉ ("../src/app_window_params.h" : Text) ∧ '\x7d' ∉ ("DockingParams" : Text) ∧
      parse (print ⟨"../src/app_window_params.h", "DockingParams"⟩ ++ " trailing words") =
        .ok ⟨"../src/app_window_params.h", "DockingParams"⟩ := by
  have noQuote : '"' ∉ ("../src/app_window_params.h" : Text) := by decide
  have noBrace : '\x7d' ∉ ("DockingParams" : Text) := by decide
  obtain ⟨block, parsed, same⟩ :=
    parse_print ⟨"../src/app_window_params.h", "DockingParams"⟩ " trailing words" noQuote noBrace
  rw [same.mpr (.inl (by decide))] at parsed
  exact ⟨noQuote, noBrace, parsed⟩

-- A path with the opening of a block in it: the block that is read starts inside the path.
theorem parse_print_misled :
    '"' ∉ ("md_id=v2/api.h" : Text) ∧ '\n' ∉ ("md_id=v2/api.h" : Text) ∧
      '\x7d' ∉ ("A" : Text) ∧ '\n' ∉ ("A" : Text) ∧
      print ⟨"md_id=v2/api.h", "A"⟩ = "@import \"md_id=v2/api.h\" \x7bmd_id=A\x7d" ∧
      parse (print ⟨"md_id=v2/api.h", "A"⟩) =
        .ok ⟨"md_id=v2/api.h", "v2/api.h\" \x7bmd_id=A"⟩ ∧
      parse (print ⟨"md_id=v2/api.h", "A"⟩) ≠ .ok ⟨"md_id=v2/api.h", "A"⟩ := by
  decide

theorem parse_eq_file {line : Text} :
    parse line = .error .file ↔ ¬ Delimited fileOpening fileClosing line := by
  rw [← Text.between?_eq_none, parse]
  cases line.between? fileOpening fileClosing with
  | none => simp
  | some file => cases line.between? blockOpening blockClosing <;> simp

theorem parse_eq_block {line : Text} : parse line = .error .block ↔
    Delimited fileOpening fileClosing line ∧ ¬ Delimited blockOpening blockClosing line := by
  rw [← not_not (a := Delimited fileOpening fileClosing line), ← Text.between?_eq_none,
    ← Text.between?_eq_none, parse]
  cases line.between? fileOpening fileClosing with
  | none => simp
  | some file => cases line.between? blockOpening blockClosing <;> simp

theorem parse_eq_ok {line : Text} {directive : Directive} : parse line = .ok directive ↔
    Between fileOpening fileClosing line directive.file ∧
      Between blockOpening blockClosing line directive.block := by
  rw [← Text.between?_eq_some, ← Text.between?_eq_some, parse]
  cases line.between? fileOpening fileClosing with
  | none => simp
  | some file =>
    cases line.between? blockOpening blockClosing with
    | none => simp
    | some block =>
      obtain ⟨wantedFile, wantedBlock⟩ := directive
      simp

theorem aligned_delimiters :
    ∀ mark ∈ [fileOpening, fileClosing, blockOpening, blockClosing], Aligned mark := by
  have ascii : ∀ mark ∈ [fileOpening, fileClosing, blockOpening, blockClosing],
      mark.all (·.toNat < 128) = true ∧ mark ≠ [] := by decide
  intro mark member
  obtain ⟨small, some⟩ := ascii mark member
  exact Text.aligned_ascii (by simpa using small) some

-- What is read from a line, and which part is missed when nothing is read. The parts are searched
-- for each by itself and may overlap.
theorem parse_shape (line : Text) :
    (parse line = .error .file ↔ ¬ Delimited fileOpening fileClosing line) ∧
    (parse line = .error .block ↔
      Delimited fileOpening fileClosing line ∧ ¬ Delimited blockOpening blockClosing line) ∧
    ((∃ directive, parse line = .ok directive) ↔
      Delimited fileOpening fileClosing line ∧ Delimited blockOpening blockClosing line) ∧
    (∀ directive, parse line = .ok directive ↔
      Between fileOpening fileClosing line directive.file ∧
        Between blockOpening blockClosing line directive.block) ∧
    (∀ directive, parse line = .ok directive → '"' ∉ directive.file ∧ '\x7d' ∉ directive.block) ∧
    ∀ mark ∈ [fileOpening, fileClosing, blockOpening, blockClosing], Aligned mark := by
  refine ⟨parse_eq_file, parse_eq_block, ?_, fun _ => parse_eq_ok, ?_, aligned_delimiters⟩
  · constructor
    · rintro ⟨directive, parsed⟩
      obtain ⟨file, block⟩ := parse_eq_ok.mp parsed
      exact ⟨file.delimited, block.delimited⟩
    · rintro ⟨file, block⟩
      obtain ⟨path, fileBetween⟩ := file.between
      obtain ⟨id, blockBetween⟩ := block.between
      exact ⟨⟨path, id⟩, parse_eq_ok.mpr ⟨fileBetween, blockBetween⟩⟩
  · intro directive parsed
    obtain ⟨file, block⟩ := parse_eq_ok.mp parsed
    exact ⟨file.open, block.open⟩

theorem parse_shape_repeated :
    parse "@import \"ä@import \"é\" \x7bmd_id=md_id=ß\x7d" = .ok ⟨"ä@import ", "md_id=ß"⟩ ∧
      '"' ∉ ("ä@import " : Text) ∧ '\x7d' ∉ ("md_id=ß" : Text) := by
  have parsed : parse "@import \"ä@import \"é\" \x7bmd_id=md_id=ß\x7d" =
      .ok ⟨"ä@import ", "md_id=ß"⟩ := by decide
  obtain ⟨-, -, -, -, closed, -⟩ := parse_shape "@import \"ä@import \"é\" \x7bmd_id=md_id=ß\x7d"
  exact ⟨parsed, closed _ parsed⟩

end DocAssembly.Directive
