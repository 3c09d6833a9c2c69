import DocAssembly.Proofs.Contents
import DocAssembly.Proofs.Rendering

namespace DocAssembly

theorem Contents.no_placeholder {source : Text} (unasked : ¬ AskedIn source) :
    ∀ line ∈ source.lines, LineKind.ofLine line ≠ .placeholder :=
  fun line member kind => unasked ⟨line, member, LineKind.startsWith_placeholder kind⟩

namespace Document

variable {fs : FileSystem} {document : Path} {options : ContentsOptions}

-- How the rendering of a document follows from those of its two parts, the first of which has
-- `count` lines.
structure Composed (count : Nat) (first second whole : Except Failure Text) : Prop where
  succeeds : ∀ output, whole = .ok output ↔
    ∃ front behind, first = .ok front ∧ second = .ok behind ∧ output = front ++ behind
  firstFails : ∀ failure, first = .error failure → whole = .error failure
  secondFails : ∀ front failure, first = .ok front → second = .error failure →
    whole = .error (failure.later count)

theorem renderWith_append (table : Text) {a b : Text} (ends : a.EndsLine) :
    Composed a.lines.length (renderWith fs options document table a)
      (renderWith fs options document table b) (renderWith fs options document table (a ++ b)) := by
  unfold renderWith
  rw [Text.lines_append ends, renderLines_append, renderLines_later 1 a.lines.length]
  cases renderLines fs document options table 1 a.lines with
  | error failure =>
    refine ⟨?_, fun _ same => same, ?_⟩
    · intro output
      simp
    · intro front other ok
      cases ok
  | ok front =>
    refine ⟨?_, ?_, ?_⟩
    · intro output
      cases renderLines fs document options table 1 b.lines with
      | error failure => simp [Except.mapError]
      | ok behind => simp [Except.mapError, eq_comm]
    · intro failure failed
      cases failed
    · intro _ failure _ failed
      rw [failed]
      rfl

theorem renderLine_copied {table line : Text} (number : Nat) (noBackLinks : options.backLinks = false)
    (noDirective : LineKind.ofLine line ≠ .directive)
    (noPlaceholder : LineKind.ofLine line ≠ .placeholder) :
    renderLine fs document options table number line = .ok line := by
  cases kind : LineKind.ofLine line with
  | directive => exact absurd kind noDirective
  | placeholder => exact absurd kind noPlaceholder
  | header => simp [renderLine, kind, copyHeader, noBackLinks]
  | text => simp only [renderLine, kind]

theorem renderLines_copied {table : Text} {lines : List Text} (number : Nat)
    (noBackLinks : options.backLinks = false)
    (noDirective : ∀ line ∈ lines, LineKind.ofLine line ≠ .directive)
    (noPlaceholder : ∀ line ∈ lines, LineKind.ofLine line ≠ .placeholder) :
    renderLines fs document options table number lines = .ok lines.flatten := by
  induction lines generalizing number with
  | nil => rfl
  | cons line rest ih =>
    rw [List.forall_mem_cons] at noDirective noPlaceholder
    simp only [renderLines, renderLine_copied number noBackLinks noDirective.1 noPlaceholder.1,
      ih _ noDirective.2 noPlaceholder.2, List.flatten_cons]

-- Documents are rendered part by part, tables of contents are made part by part, and a document
-- that asks for nothing is copied.
theorem render_append (fs : FileSystem) (options : ContentsOptions) (document : Path) :
    (∀ a b : Text, a.EndsLine →
      (¬ Contents.AskedIn a → ¬ Contents.AskedIn b →
        Composed a.lines.length (render fs options document a) (render fs options document b)
          (render fs options document (a ++ b))) ∧
      Composed a.lines.length
        (renderWith fs options document (Contents.ofLines (a ++ b).lines) a)
        (renderWith fs options document (Contents.ofLines (a ++ b).lines) b)
        (render fs options document (a ++ b)) ∧
      ∃ entries, Contents.ofLines b.lines = Contents.anchorLine ++ "\n" ++ entries ∧
        Contents.ofLines (a ++ b).lines = Contents.ofLines a.lines ++ entries) ∧
    ∀ source : Text, (∀ line ∈ source.lines, line.startsWith Directive.keyword = false) →
      ¬ Contents.AskedIn source → options.backLinks = false →
      render fs options document source = .ok source := by
  refine ⟨?_, ?_⟩
  · intro a b ends
    refine ⟨?_, ?_, Contents.entries b.lines, rfl, ?_⟩
    · intro unaskedA unaskedB
      have first : render fs options document a =
          renderWith fs options document (Contents.ofLines (a ++ b).lines) a :=
        renderLines_table _ _ 1 (Contents.no_placeholder unaskedA)
      have second : render fs options document b =
          renderWith fs options document (Contents.ofLines (a ++ b).lines) b :=
        renderLines_table _ _ 1 (Contents.no_placeholder unaskedB)
      rw [first, second, render_eq]
      exact renderWith_append _ ends
    · rw [render_eq]
      exact renderWith_append _ ends
    · rw [Text.lines_append ends, Contents.ofLines_append]
  · intro source noDirective unasked noBackLinks
    have kinds : ∀ line ∈ source.lines, LineKind.ofLine line ≠ .directive := by
      intro line member kind
      have starts := LineKind.ofLine_directive.mp kind
      rw [noDirective line member] at starts
      cases starts
    rw [render, renderLines_copied 1 noBackLinks kinds (Contents.no_placeholder unasked),
      Text.flatten_lines]

theorem render_append_malformed :
    Text.EndsLine "# A\n" ∧ ¬ Contents.AskedIn "# A\n" ∧ ¬ Contents.AskedIn "B\n@import b\n" ∧
      render {} {} ⟨"a.md"⟩ "# A\n" = .ok "# A\n" ∧
      render {} {} ⟨"a.md"⟩ ("# A\n" ++ "B\n@import b\n" : Text) =
        .error (.malformedDirective ⟨"a.md"⟩ 3 "@import b" .file) := by
  have ends : Text.EndsLine "# A\n" := by decide
  have unaskedA : ¬ Contents.AskedIn "# A\n" := by decide
  have unaskedB : ¬ Contents.AskedIn "B\n@import b\n" := by decide
  obtain ⟨parts, copied⟩ := render_append {} {} ⟨"a.md"⟩
  have first := copied "# A\n" (by decide) unaskedA rfl
  have both := (parts "# A\n" "B\n@import b\n" ends).1 unaskedA unaskedB
  exact ⟨ends, unaskedA, unaskedB, first, both.secondFails _ _ first rfl⟩

end Document
end DocAssembly
