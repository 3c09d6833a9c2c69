import DocAssembly.Markup
import DocAssembly.Proofs.Delimiters
import DocAssembly.Proofs.Lines

namespace DocAssembly

namespace Header

@[simp] theorem collect_append (first second : List Text) :
    collect (first ++ second) = collect first ++ collect second := by
  simp [collect]

theorem collect_cons {line : Text} (rest : List Text) (header : isLine line = true) :
    collect (line :: rest) = ofLine line :: collect rest := by
  simp [collect, header]

theorem collect_cons_other {line : Text} (rest : List Text) (other : isLine line = false) :
    collect (line :: rest) = collect rest := by
  simp [collect, other]

theorem isLine_terminated {line : Text} (header : isLine line = true) :
    isLine (line ++ ['\n']) = true := by
  rw [isLine, Text.startsWith_separator (by decide), Text.startsWith_separator (by decide)]
  exact header

theorem ofLine_terminated {line : Text} (unended : ¬ line.endsWith "\n") :
    ofLine (line ++ ['\n']) = ofLine line := by
  simp only [ofLine, Text.stripLineEnding_terminated unended]

end Header

namespace Contents

def AskedIn (source : Text) : Prop := ∃ line ∈ source.lines, line.startsWith placeholder = true

instance (source : Text) : Decidable (AskedIn source) :=
  inferInstanceAs (Decidable (∃ line ∈ source.lines, _))

theorem entries_append (first second : List Text) :
    entries (first ++ second) = entries first ++ entries second := by
  simp [entries]

theorem ofLines_headers {lines others : List Text}
    (same : Header.collect lines = Header.collect others) : ofLines lines = ofLines others := by
  rw [ofLines, ofLines, entries, entries, same]

theorem ofLines_append (first second : List Text) :
    ofLines (first ++ second) = ofLines first ++ entries second := by
  simp [ofLines, entries_append]

theorem entry_endsWith (header : Header) : (entry header).endsWith "\n" :=
  Text.endsWith_append _ (by decide)

theorem entry_endsLine (header : Header) : (entry header).EndsLine := Or.inr (entry_endsWith header)

theorem entries_endsLine (lines : List Text) : (entries lines).EndsLine := by
  unfold entries
  induction Header.collect lines with
  | nil => exact Text.endsLine_nil
  | cons header rest ih =>
    rw [List.flatMap_cons]
    exact (entry_endsLine header).append ih

theorem ofLines_endsWith (lines : List Text) : (ofLines lines).endsWith "\n" := by
  have heading : Text.EndsLine (anchorLine ++ "\n") := Or.inr (Text.endsWith_append _ (by decide))
  rcases heading.append (entries_endsLine lines) with nothing | ends
  · cases nothing
  · exact ends

theorem backLink_endsWith (options : ContentsOptions) : (backLink options).endsWith "\n" :=
  Text.endsWith_append _ (by decide)

end Contents
end DocAssembly
