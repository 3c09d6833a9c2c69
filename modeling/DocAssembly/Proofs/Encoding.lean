import DocAssembly.Text.Basic

namespace DocAssembly.Text

-- Whether a mark occurs in the bytes of texts as whole characters only. What stands before and after
-- it in bytes is then the form of what stands before and after it in the text.
def Aligned (mark : Text) : Prop :=
  ∀ text front behind, utf8 text = front ++ (utf8 mark ++ behind) →
    ∃ before after, text = before ++ (mark ++ after) ∧ utf8 before = front ∧ utf8 after = behind

@[simp] theorem utf8_nil : utf8 [] = [] := rfl

@[simp] theorem utf8_cons (c : Char) (rest : Text) :
    utf8 (c :: rest) = String.utf8EncodeChar c ++ utf8 rest := by
  simp [utf8]

theorem utf8EncodeChar_ascii {c : Char} (ascii : c.toNat < 128) :
    String.utf8EncodeChar c = [UInt8.ofNat c.toNat] := by
  have small : c.val.toNat ≤ 127 := Nat.le_of_lt_succ ascii
  simp only [String.utf8EncodeChar, small, if_true]
  rfl

theorem utf8EncodeChar_other {c : Char} (other : ¬ c.toNat < 128) :
    ∀ byte ∈ String.utf8EncodeChar c, 128 ≤ byte.toNat := by
  have large : ¬ c.val.toNat ≤ 127 := fun small => other (Nat.lt_succ_of_le small)
  intro byte member
  simp only [String.utf8EncodeChar, large, if_false] at member
  split at member
  · simp only [List.mem_cons, List.not_mem_nil, or_false] at member
    rcases member with rfl | rfl <;> (simp only [UInt8.toNat_ofNat']; omega)
  · split at member
    · simp only [List.mem_cons, List.not_mem_nil, or_false] at member
      rcases member with rfl | rfl | rfl <;> (simp only [UInt8.toNat_ofNat']; omega)
    · simp only [List.mem_cons, List.not_mem_nil, or_false] at member
      rcases member with rfl | rfl | rfl | rfl <;> (simp only [UInt8.toNat_ofNat']; omega)

theorem utf8EncodeChar_ne_nil (c : Char) : String.utf8EncodeChar c ≠ [] := by
  intro empty
  have length := String.length_utf8EncodeChar c
  rw [empty, List.length_nil] at length
  exact Nat.lt_irrefl _ (length ▸ c.utf8Size_pos)

theorem utf8_eq_nil {text : Text} (empty : utf8 text = []) : text = [] := by
  cases text with
  | nil => rfl
  | cons c rest =>
    rw [utf8_cons, List.append_eq_nil_iff] at empty
    exact absurd empty.1 (utf8EncodeChar_ne_nil c)

theorem ofNat_toNat_ascii {c : Char} (ascii : c.toNat < 128) : (UInt8.ofNat c.toNat).toNat = c.toNat := by
  rw [UInt8.toNat_ofNat', Nat.mod_eq_of_lt (by omega)]

variable {text mark : Text} {c : Char} {front behind : List UInt8}

-- By induction on the text: the byte cannot be inside the bytes of its first character.
theorem utf8_byte (ascii : c.toNat < 128) (whole : utf8 text = front ++ UInt8.ofNat c.toNat :: behind) :
    ∃ before after, text = before ++ c :: after ∧ utf8 before = front ∧ utf8 after = behind := by
  induction text generalizing front with
  | nil => simp at whole
  | cons d rest ih =>
    have further : ∀ middle, front = String.utf8EncodeChar d ++ middle →
        utf8 rest = middle ++ UInt8.ofNat c.toNat :: behind →
        ∃ before after, d :: rest = before ++ c :: after ∧ utf8 before = front ∧
          utf8 after = behind := by
      intro middle begins more
      obtain ⟨before, after, rfl, same, sameToo⟩ := ih more
      exact ⟨d :: before, after, rfl, by rw [utf8_cons, same, begins], sameToo⟩
    rw [utf8_cons] at whole
    rcases List.append_eq_append_iff.mp whole with ⟨middle, begins, more⟩ | ⟨middle, begins, more⟩
    · exact further middle begins more
    · cases middle with
      | nil => exact further [] (by simpa using begins.symm) (by simpa using more.symm)
      | cons byte middle =>
        obtain ⟨rfl, more⟩ := List.cons.inj more
        have inside : UInt8.ofNat c.toNat ∈ String.utf8EncodeChar d := by simp [begins]
        by_cases asciiToo : d.toNat < 128
        · rw [utf8EncodeChar_ascii asciiToo] at inside begins
          have sameByte := congrArg UInt8.toNat (List.mem_singleton.mp inside)
          rw [ofNat_toNat_ascii ascii, ofNat_toNat_ascii asciiToo] at sameByte
          have same : c = d := Char.toNat_inj.mp sameByte
          have nothing := (List.append_eq_singleton_iff.mp begins.symm)
          rcases nothing with ⟨rfl, tail⟩ | ⟨_, tail⟩
          · obtain ⟨_, rfl⟩ := List.cons.inj tail
            exact ⟨[], rest, by rw [same]; rfl, rfl, by simpa using more.symm⟩
          · cases tail
        · have high := utf8EncodeChar_other asciiToo _ inside
          rw [ofNat_toNat_ascii ascii] at high
          omega

theorem utf8_front (ascii : ∀ c ∈ mark, c.toNat < 128) (whole : utf8 text = utf8 mark ++ behind) :
    ∃ after, text = mark ++ after ∧ utf8 after = behind := by
  induction mark generalizing text with
  | nil => exact ⟨text, rfl, whole⟩
  | cons c mark ih =>
    rw [List.forall_mem_cons] at ascii
    rw [utf8_cons, utf8EncodeChar_ascii ascii.1, List.append_assoc] at whole
    have first : utf8 text = [] ++ UInt8.ofNat c.toNat :: (utf8 mark ++ behind) := whole
    obtain ⟨before, after, rfl, nothing, more⟩ := utf8_byte ascii.1 first
    cases utf8_eq_nil nothing
    obtain ⟨rest, rfl, same⟩ := ih ascii.2 more
    exact ⟨rest, rfl, same⟩

theorem aligned_ascii (ascii : ∀ c ∈ mark, c.toNat < 128) (proper : mark ≠ []) : Aligned mark := by
  intro text front behind whole
  cases mark with
  | nil => exact absurd rfl proper
  | cons c mark =>
    rw [List.forall_mem_cons] at ascii
    rw [utf8_cons, utf8EncodeChar_ascii ascii.1, List.append_assoc] at whole
    obtain ⟨before, after, rfl, same, more⟩ := utf8_byte ascii.1 whole
    obtain ⟨rest, rfl, sameToo⟩ := utf8_front ascii.2 more
    exact ⟨before, rest, rfl, same, sameToo⟩

theorem ofUtf8?_utf8 (text : Text) : ofUtf8? (utf8 text) = some text := by
  have form : (⟨(utf8 text).toArray⟩ : ByteArray) = (String.ofList text).toByteArray := by
    rw [String.toByteArray_ofList]
    exact ByteArray.ext List.data_toByteArray.symm
  have valid : (⟨(utf8 text).toArray⟩ : ByteArray).IsValidUTF8 := form ▸ String.isValidUTF8 _
  have read : String.fromUTF8? ⟨(utf8 text).toArray⟩ = some (String.ofList text) := by
    unfold String.fromUTF8?
    rw [dif_pos valid]
    exact congrArg some (String.toByteArray_inj.mp form)
  rw [ofUtf8?, read, Option.map_some, String.toList_ofList]

theorem utf8_injective : Function.Injective utf8 := by
  intro first second alike
  have same := ofUtf8?_utf8 first
  rw [alike, ofUtf8?_utf8] at same
  exact (Option.some.inj same).symm

end DocAssembly.Text
