import DocAssembly.Markup
import DocAssembly.Proofs.Lines
import Mathlib

namespace DocAssembly

theorem CaseRun.lower_large : ∀ run ∈ CaseRun.all, 10 < run.lower := by decide +kernel

namespace Text

-- By induction on the text, whatever stands before it.
theorem mem_lowercaseAfter {c : Char} {before text : Text} (member : c ∈ lowercaseAfter before text) :
    c = 'ς' ∨ c = 'σ' ∨ ∃ d ∈ text, c ∈ lowerChar d := by
  induction text generalizing before with
  | nil => cases member
  | cons d rest ih =>
    rw [lowercaseAfter, List.mem_append] at member
    rcases member with here | later
    · split at here
      · split at here
        · exact .inl (List.mem_singleton.mp here)
        · exact .inr (.inl (List.mem_singleton.mp here))
      · exact .inr (.inr ⟨d, List.mem_cons_self, here⟩)
    · rcases ih later with final | plain | ⟨e, inside, made⟩
      · exact .inl final
      · exact .inr (.inl plain)
      · exact .inr (.inr ⟨e, List.mem_cons_of_mem _ inside, made⟩)

theorem ofNat_newline {n : Nat} (same : Char.ofNat n = '\n') : n = 10 := by
  by_cases valid : n.isValidChar
  · have back : (Char.ofNat n).toNat = n := by
      rw [Char.ofNat, dif_pos valid]
      simp [Char.ofNatAux, Char.toNat]
    rw [← back, same]
    rfl
  · rw [Char.ofNat, dif_neg valid] at same
    exact absurd same (by decide)

theorem newline_mem_lowerChar {c : Char} (member : '\n' ∈ lowerChar c) : c = '\n' := by
  unfold lowerChar at member
  split at member
  · exact absurd member (by decide)
  · split at member
    · next run found =>
      have lowered := ofNat_newline (List.mem_singleton.mp member).symm
      have large := CaseRun.lower_large run (List.mem_of_find?_eq_some found)
      omega
    · exact (List.mem_singleton.mp member).symm

theorem newline_not_mem_lowercase {text : Text} (inside : '\n' ∉ text) : '\n' ∉ text.lowercase := by
  intro member
  rcases mem_lowercaseAfter member with final | plain | ⟨c, among, made⟩
  · cases final
  · cases plain
  · exact inside (newline_mem_lowerChar made ▸ among)

end Text

namespace Header

theorem newline_not_mem_slug {title : Text} (inside : '\n' ∉ title) : '\n' ∉ slug title := by
  intro member
  obtain ⟨c, kept, made⟩ := List.mem_map.mp member
  split at made
  · cases made
  · exact Text.newline_not_mem_lowercase inside (made ▸ List.mem_of_mem_filter kept)

def anchorWidth (c : Char) : Nat :=
  if c = 'Σ' then 1 else ((Text.lowerChar c).filter (!anchorOmits.contains ·)).length

theorem length_lowercaseAfter (before text : Text) :
    ((Text.lowercaseAfter before text).filter (!anchorOmits.contains ·)).length =
      (text.map anchorWidth).sum := by
  induction text generalizing before with
  | nil => rfl
  | cons c rest ih =>
    rw [Text.lowercaseAfter, List.filter_append, List.length_append, ih, List.map_cons,
      List.sum_cons, anchorWidth]
    congr 1
    split
    · split <;> rfl
    · rfl

theorem length_slug (title : Text) : (slug title).length = (title.map anchorWidth).sum := by
  rw [slug, List.length_map, Text.lowercase, length_lowercaseAfter]

theorem length_slug_append (first second : Text) :
    (slug (first ++ second)).length = (slug first).length + (slug second).length := by
  simp only [length_slug, List.map_append, List.sum_append]

end Header
end DocAssembly
