import DocAssembly.Proofs.Anchors
import Mathlib

namespace DocAssembly

namespace CaseRun

-- Whether the letters that a run gives are none that the other lowers: all are smaller or greater,
-- or they stand between the others.
def leaves (run other : CaseRun) : Bool :=
  Nat.blt other.last run.lower || Nat.blt (run.lower + (run.last - run.first)) other.first ||
    (other.stride == 2 && (run.stride == 2 || run.first == run.last) &&
      (run.lower + other.first) % 2 == 1)

def isSound (run : CaseRun) : Bool :=
  (Nat.blt (run.lower + (run.last - run.first)) 0xD800 ||
    (Nat.blt 0xDFFF run.lower && Nat.blt (run.lower + (run.last - run.first)) 0x110000)) &&
  (Nat.blt (run.lower + (run.last - run.first)) 0x130 || Nat.blt 0x130 run.lower)

theorem all_leave : all.all (fun run => all.all run.leaves) = true := by decide +kernel

theorem all_sound : all.all isSound = true := by decide +kernel

variable {run other : CaseRun} {n : Nat}

theorem covers_iff : run.covers n = true ↔
    run.first ≤ n ∧ n ≤ run.last ∧ (n - run.first) % run.stride = 0 := by
  simp [covers, and_assoc]

theorem uncovered_of_leaves (apart : run.leaves other = true) (covered : run.covers n = true) :
    other.covers (run.lower + (n - run.first)) = false := by
  rw [Bool.eq_false_iff, ne_eq, covers_iff]
  rw [covers_iff] at covered
  obtain ⟨above, below, even⟩ := covered
  simp only [leaves, Bool.or_eq_true, Bool.and_eq_true, Nat.blt_eq, beq_iff_eq] at apart
  rintro ⟨first, last, step⟩
  rcases apart with (smaller | greater) | ⟨⟨two, alternate⟩, odd⟩
  · omega
  · omega
  · rw [two] at step
    rcases alternate with own | single
    · rw [own] at even
      omega
    · omega

theorem lowered_uncovered (listed : run ∈ all) (listedToo : other ∈ all)
    (covered : run.covers n = true) : other.covers (run.lower + (n - run.first)) = false :=
  uncovered_of_leaves (List.all_eq_true.mp (List.all_eq_true.mp all_leave run listed) other
    listedToo) covered

theorem lowered_sound (listed : run ∈ all) (covered : run.covers n = true) :
    (run.lower + (n - run.first)).isValidChar ∧ run.lower + (n - run.first) ≠ 0x130 := by
  have sound := List.all_eq_true.mp all_sound run listed
  rw [covers_iff] at covered
  obtain ⟨above, below, _⟩ := covered
  simp only [isSound, Bool.or_eq_true, Bool.and_eq_true, Nat.blt_eq] at sound
  unfold Nat.isValidChar
  omega

end CaseRun

namespace Text

variable {c d : Char} {before text first second : Text}

theorem lowerChar_undotted (undotted : c.toNat ≠ 0x130)
    (uncovered : ∀ run ∈ CaseRun.all, run.covers c.toNat = false) : lowerChar c = [c] := by
  have other : c ≠ '\u0130' := by
    rintro rfl
    exact undotted rfl
  have none : CaseRun.all.find? (·.covers c.toNat) = none := by
    rw [List.find?_eq_none]
    intro run listed
    rw [uncovered run listed]
    exact Bool.false_ne_true
  rw [lowerChar, if_neg other, none]

-- What a character is lowered to is not lowered again: neither the two characters of the dotted
-- capital, nor a letter that a run gives, nor a character that stays.
theorem lowerChar_settled (member : d ∈ lowerChar c) : lowerChar d = [d] := by
  unfold lowerChar at member
  split at member
  · rcases List.mem_pair.mp member with rfl | rfl <;> decide +kernel
  · next undotted =>
    split at member
    · next run found =>
      have covered : run.covers c.toNat = true := by
        simpa using List.find?_some found
      have listed := List.mem_of_find?_eq_some found
      obtain ⟨valid, undotted⟩ := CaseRun.lowered_sound listed covered
      cases List.mem_singleton.mp member
      apply lowerChar_undotted
      · rw [Char.toNat_ofNat, if_pos valid]
        exact undotted
      · intro other listedToo
        rw [Char.toNat_ofNat, if_pos valid]
        exact CaseRun.lowered_uncovered listed listedToo covered
    · next none =>
      cases List.mem_singleton.mp member
      rw [lowerChar, if_neg undotted, none]

theorem mem_lowercase (member : c ∈ text.lowercase) : lowerChar c = [c] := by
  rcases mem_lowercaseAfter member with rfl | rfl | ⟨d, _, made⟩
  · decide +kernel
  · decide +kernel
  · exact lowerChar_settled made

theorem lowercaseAfter_plain (plain : 'Σ' ∉ text) :
    lowercaseAfter before text = text.flatMap lowerChar := by
  induction text generalizing before with
  | nil => rfl
  | cons c rest ih =>
    rw [List.mem_cons, not_or] at plain
    rw [lowercaseAfter, if_neg (Ne.symm plain.1), ih plain.2, List.flatMap_cons]

theorem sigma_lowered : lowerChar 'Σ' ≠ ['Σ'] := by decide +kernel

theorem lowercase_self (settled : ∀ c ∈ text, lowerChar c = [c]) : text.lowercase = text := by
  have plain : 'Σ' ∉ text := fun member => sigma_lowered (settled _ member)
  rw [lowercase, lowercaseAfter_plain plain, List.flatMap_congr settled, List.flatMap_singleton']

theorem lowercase_lowercase (text : Text) : text.lowercase.lowercase = text.lowercase :=
  lowercase_self fun _ => mem_lowercase

theorem lowercase_append (plain : 'Σ' ∉ first) (plainToo : 'Σ' ∉ second) :
    lowercase (first ++ second) = first.lowercase ++ second.lowercase := by
  have both : 'Σ' ∉ first ++ second := by simp [plain, plainToo]
  rw [lowercase, lowercase, lowercase, lowercaseAfter_plain both, lowercaseAfter_plain plain,
    lowercaseAfter_plain plainToo, List.flatMap_append]

end Text

namespace Header

variable {c : Char} {title : Text}

structure Settled (c : Char) : Prop where
  lower : Text.lowerChar c = [c]
  kept : c ∉ anchorOmits
  joined : c ≠ ' '

theorem mem_slug (member : c ∈ slug title) : Settled c := by
  obtain ⟨d, among, made⟩ := List.mem_map.mp member
  obtain ⟨lowered, kept⟩ := List.mem_filter.mp among
  split at made
  · subst made
    exact ⟨by decide +kernel, by decide, by decide⟩
  · next spaced =>
    subst made
    exact ⟨Text.mem_lowercase lowered, by simpa using kept, spaced⟩

theorem slug_self (settled : ∀ c ∈ title, Settled c) : slug title = title := by
  have kept : ∀ c ∈ title, (!anchorOmits.contains c) = true := by
    intro c member
    simpa using (settled c member).kept
  have joined : ∀ c ∈ title, (if c = ' ' then '-' else c) = id c := by
    intro c member
    exact if_neg (settled c member).joined
  rw [slug, Text.lowercase_self fun c member => (settled c member).lower,
    List.filter_eq_self.mpr kept, List.map_congr_left joined, List.map_id]

theorem slug_normal :
    (∀ title, ∀ c ∈ slug title, c ≠ ' ' ∧ c ∉ anchorOmits) ∧
    (∀ title, slug (slug title) = slug title) ∧
    (∀ title : Text, slug title.lowercase = slug title) ∧
    ∀ first second : Text, 'Σ' ∉ first → 'Σ' ∉ second →
      slug (first ++ second) = slug first ++ slug second := by
  refine ⟨?_, ?_, ?_, ?_⟩
  · intro title c member
    exact ⟨(mem_slug member).joined, (mem_slug member).kept⟩
  · intro title
    exact slug_self fun c => mem_slug
  · intro title
    rw [slug, slug, Text.lowercase_lowercase]
  · intro first second plain plainToo
    rw [slug, slug, slug, Text.lowercase_append plain plainToo, List.filter_append,
      List.map_append]

theorem slug_normal_dotted :
    'Σ' ∉ "İ (".toList ∧ 'Σ' ∉ "É: ẞ".toList ∧
    slug ("İ (" ++ "É: ẞ") = slug "İ (" ++ slug "É: ẞ" :=
  ⟨by decide, by decide, slug_normal.2.2.2 _ _ (by decide) (by decide)⟩

end Header
end DocAssembly
