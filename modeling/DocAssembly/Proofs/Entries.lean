import DocAssembly.Proofs.Anchors
import DocAssembly.Proofs.Contents

namespace DocAssembly

namespace Header

structure Proper (header : Header) : Prop where
  leveled : 0 < header.level
  oneLine : '\n' ∉ header.title
  slugged : header.anchor = slug header.title

theorem isLine_front {line : Text} (header : isLine line = true) : ∃ rest, line = '#' :: rest := by
  cases line with
  | nil => cases header
  | cons c rest =>
    have mark : ['#'].isPrefixOf (c :: rest) = true := (Bool.and_eq_true_iff.mp header).1
    exact ⟨rest, by rw [show '#' = c by simpa using mark]⟩

theorem ofLine_leveled {line : Text} (header : isLine line = true) : 0 < (ofLine line).level := by
  obtain ⟨rest, rfl⟩ := isLine_front header
  obtain ⟨more, same⟩ := Text.stripLineEnding_front (c := '#') (by decide) (by decide) rest
  cases found : Text.cut? " " ('#' :: more) with
  | none =>
    simp only [ofLine, same, found, Option.getD_none]
    exact Nat.succ_pos _
  | some parts =>
    simp only [ofLine, same, found, Option.getD_some]
    refine List.length_pos_of_ne_nil ?_
    intro nothing
    have whole := (Text.cut?_firstAt found).whole
    rw [nothing] at whole
    cases (List.cons.inj whole).1

theorem ofLine_oneLine {line : Text} (one : line.lines = [line]) : '\n' ∉ (ofLine line).title := by
  have inside := Text.newline_not_mem_stripLineEnding one
  cases found : Text.cut? " " line.stripLineEnding with
  | none =>
    simp only [ofLine, found, Option.getD_none]
    exact List.not_mem_nil
  | some parts =>
    intro member
    simp only [ofLine, found, Option.getD_some, Text.trimEnd, List.mem_reverse] at member
    have among := (List.dropWhile_suffix _).subset member
    rw [List.mem_reverse] at among
    exact inside (by rw [(Text.cut?_firstAt found).whole]; simp [among])

theorem collect_proper (source : Text) : ∀ header ∈ collect source.lines, header.Proper := by
  intro header member
  obtain ⟨line, kept, rfl⟩ := List.mem_map.mp member
  obtain ⟨among, isHeader⟩ := List.mem_filter.mp kept
  exact ⟨ofLine_leveled isHeader, ofLine_oneLine (Text.lines_of_mem among), rfl⟩

end Header

namespace Contents

variable {header other : Header}

theorem lines_entry (proper : header.Proper) : (entry header).lines = [entry header] := by
  have anchor : '\n' ∉ header.anchor := proper.slugged ▸ Header.newline_not_mem_slug proper.oneLine
  have inside : '\n' ∉ List.replicate (2 * (header.level - 1)) ' ' ++ "* [" ++ header.title ++
      "](#" ++ header.anchor ++ ([')'] : Text) := by
    simp [proper.oneLine, anchor]
  have whole : entry header = (List.replicate (2 * (header.level - 1)) ' ' ++ "* [" ++
      header.title ++ "](#" ++ header.anchor ++ ([')'] : Text)) ++ ['\n'] := by
    rw [List.append_assoc _ _ ['\n']]
    rfl
  rw [whole]
  exact Text.lines_single inside

theorem lines_entries {headers : List Header} (proper : ∀ header ∈ headers, header.Proper) :
    Text.lines (headers.flatMap entry) = headers.map entry := by
  rw [Text.lines_flatMap fun header _ => entry_endsLine header, List.map_eq_flatMap]
  exact List.flatMap_congr fun header member => lines_entry (proper header member)

theorem lines_ofLines (source : Text) : (ofLines source.lines).lines =
    anchorLine :: ['\n'] :: (Header.collect source.lines).map entry := by
  have heading : Text.EndsLine (anchorLine ++ "\n") := Or.inr (Text.endsWith_append _ (by decide))
  rw [ofLines, Text.lines_append heading, entries, lines_entries (Header.collect_proper source)]
  rfl

theorem indent_injective {m n : Nat} {front behind : Text}
    (same : List.replicate m ' ' ++ '*' :: front = List.replicate n ' ' ++ '*' :: behind) :
    m = n ∧ front = behind := by
  induction m generalizing n with
  | zero =>
    cases n with
    | zero => exact ⟨rfl, (List.cons.inj same).2⟩
    | succ n => cases (List.cons.inj same).1
  | succ m ih =>
    cases n with
    | zero => cases (List.cons.inj same).1
    | succ n =>
      obtain ⟨level, rest⟩ := ih (List.cons.inj same).2
      exact ⟨congrArg Nat.succ level, rest⟩

-- A title with its anchor, as it stands in a line after the opening bracket.
def label (title : Text) : Text := title ++ ("](#" ++ (Header.slug title ++ ")\n"))

-- If one title went on where the other ends, its anchor would have to be shorter by what it goes on.
theorem label_append {title more : Text} (same : label (title ++ more) = label title) : more = [] := by
  have lengths := congrArg List.length same
  simp only [label, List.length_append, Header.length_slug_append] at lengths
  exact List.eq_nil_of_length_eq_zero (by omega)

theorem label_injective {title wanted : Text} (same : label title = label wanted) :
    title = wanted := by
  rcases List.append_eq_append_iff.mp same with ⟨more, rfl, -⟩ | ⟨more, rfl, -⟩
  · rw [label_append same.symm, List.append_nil]
  · rw [label_append same, List.append_nil]

theorem entry_eq (proper : header.Proper) : entry header =
    List.replicate (2 * (header.level - 1)) ' ' ++ '*' :: ' ' :: '[' :: label header.title := by
  rw [entry, proper.slugged, label]
  simp

theorem entry_injective (proper : header.Proper) (properToo : other.Proper)
    (same : entry header = entry other) : header = other := by
  rw [entry_eq proper, entry_eq properToo] at same
  obtain ⟨indents, labels⟩ := indent_injective same
  have titles := label_injective (List.cons.inj (List.cons.inj labels).2).2
  have leveled := proper.leveled
  have leveledToo := properToo.leveled
  have levels : header.level = other.level := by omega
  have anchors : header.anchor = other.anchor := by
    rw [proper.slugged, properToo.slugged, titles]
  cases header
  cases other
  simp only [Header.mk.injEq]
  exact ⟨levels, titles, anchors⟩

theorem entries_injective {headers others : List Header} (proper : ∀ header ∈ headers, header.Proper)
    (properToo : ∀ header ∈ others, header.Proper)
    (same : headers.map entry = others.map entry) : headers = others := by
  induction headers generalizing others with
  | nil => exact (List.map_eq_nil_iff.mp same.symm).symm
  | cons header rest ih =>
    cases others with
    | nil => cases same
    | cons other others =>
      rw [List.forall_mem_cons] at proper properToo
      obtain ⟨first, more⟩ := List.cons.inj same
      rw [entry_injective proper.1 properToo.1 first, ih proper.2 properToo.2 more]

theorem collect_rebuilt (source : Text) : Header.collect source.lines =
    ((Header.collect source.lines).map fun header => (header.level, header.title)).map
      fun (level, title) => ⟨level, title, Header.slug title⟩ := by
  rw [List.map_map]
  conv => lhs; rw [← List.map_id (Header.collect source.lines)]
  refine List.map_congr_left fun header member => ?_
  have slugged := (Header.collect_proper source header member).slugged
  cases header
  simpa using slugged

-- A table has a heading of two lines and then one line for each header line of its document, in
-- order. Tables are the same just when their documents have headers of the same levels and titles.
theorem ofLines_faithful :
    (∀ source : Text, (ofLines source.lines).lines = anchorLine :: ['\n'] ::
      (source.lines.filter Header.isLine).map fun line => entry (Header.ofLine line)) ∧
    (∀ source : Text, ∀ line ∈ (ofLines source.lines).lines, line.endsWith "\n") ∧
    ∀ first second : Text, ofLines first.lines = ofLines second.lines ↔
      (Header.collect first.lines).map (fun header => (header.level, header.title)) =
        (Header.collect second.lines).map fun header => (header.level, header.title) := by
  refine ⟨?_, ?_, ?_⟩
  · intro source
    rw [lines_ofLines, Header.collect, List.map_map]
    rfl
  · intro source line member
    rw [lines_ofLines, List.mem_cons, List.mem_cons] at member
    rcases member with rfl | rfl | member
    · decide
    · decide
    · obtain ⟨header, -, rfl⟩ := List.mem_map.mp member
      exact entry_endsWith header
  · intro first second
    constructor
    · intro same
      have sameLines := congrArg Text.lines same
      rw [lines_ofLines, lines_ofLines, List.cons.injEq, List.cons.injEq] at sameLines
      rw [entries_injective (Header.collect_proper first) (Header.collect_proper second)
        sameLines.2.2]
    · intro same
      refine ofLines_headers ?_
      rw [collect_rebuilt first, collect_rebuilt second, same]

theorem ofLines_faithful_brackets :
    ("* [x](#x)\n" : Text) ∈ (ofLines (Text.lines "# x")).lines ∧ Text.endsWith "* [x](#x)\n" "\n" ∧
      ofLines (Text.lines "# x") ≠ ofLines (Text.lines "# x](#x)\n") := by
  obtain ⟨-, ended, same⟩ := ofLines_faithful
  have among : ("* [x](#x)\n" : Text) ∈ (ofLines (Text.lines "# x")).lines := by decide +kernel
  refine ⟨among, ended _ _ among, ?_⟩
  rw [Ne, same]
  decide

end Contents
end DocAssembly
