import DocAssembly.Proofs.Blocks
import DocAssembly.Proofs.Rendering

namespace DocAssembly.Block

-- The tag of a line that opens blocks: what follows the marker, without the blanks around the line.
def tag? (line : Text) : Option Text :=
  match line.trim.after? marker with
  | some ('#' :: tag) => some tag
  | _ => none

theorem opens_iff {id line : Text} :
    opens id line = true ↔ ∃ tag, tag? line = some tag ∧ id <+: tag := by
  unfold opens tag?
  generalize line.trim.after? marker = following
  split
  · simp [Text.startsWith, List.isPrefixOf_iff_prefix]
  · simp

theorem opens_shorter {short long line : Text} (begins : short <+: long)
    (opened : opens long line = true) : opens short line = true := by
  obtain ⟨tag, tagged, longer⟩ := opens_iff.mp opened
  exact opens_iff.mpr ⟨tag, tagged, begins.trans longer⟩

theorem opens_tag {id line : Text} (tagged : tag? line = some id) : opens id line = true :=
  opens_iff.mpr ⟨id, tagged, List.prefix_refl id⟩

-- A line that opens a block closes the one before it.
theorem closes_opening {id line : Text} (opened : opens id line = true) : closes line = true := by
  unfold opens at opened
  split at opened
  · next tag found =>
      apply List.isPrefixOf_iff_prefix.mpr
      exact ⟨'#' :: tag, (Text.isPrefixOf?_eq_some.mp found).symm⟩
  · cases opened

variable {content short long : Text} {cut : Cut}

theorem Cut.Of.shorter (located : cut.Of content long) (begins : short <+: long)
    (unopened : ∀ line ∈ cut.before.lines, opens short line = false) : cut.Of content short :=
  { located with unopened := unopened, opened := opens_shorter begins located.opened }

-- The earlier block that the shorter identifier opens ends where the longer one opens at the latest.
theorem Cut.Of.shadowed (located : cut.Of content long)
    (shadow : ∃ line ∈ cut.before.lines, opens short line = true) :
    ∃ (other : Cut) (rest : List Text), other.Of content short ∧
      cut.before.lines = other.before.lines ++ other.opening :: (other.body.lines ++ rest) := by
  obtain ⟨line, member, opened⟩ := shadow
  obtain ⟨before, opening, body, after, parts, unopened, opens, unmarked, marked⟩ :=
    exists_parts member opened
  have whole : content.lines = before ++ opening ::
      (body ++ (after ++ cut.opening :: (cut.body.lines ++ cut.after.lines))) := by
    rw [located.aligned, parts]
    simp
  have ends : ∀ line, (after ++ cut.opening :: (cut.body.lines ++ cut.after.lines)).head? = some line →
      closes line = true := by
    intro line first
    cases after with
    | nil =>
        cases first
        exact closes_opening located.opened
    | cons head rest => exact marked line first
  obtain ⟨other, otherLocated, beforeLines, own, bodyLines⟩ :=
    cut_of_parts whole unopened opens unmarked ends
  refine ⟨other, after, otherLocated, ?_⟩
  rw [beforeLines, own, bodyLines]
  exact parts

-- How a shorter identifier fares in a file in which a longer one finds a block: it finds that block,
-- or an earlier one that the longer one does not open.
inductive Fares (content short : Text) (cut : Cut) : Prop where
  | same : (∀ line ∈ cut.before.lines, opens short line = false) →
      find? content short = some ⟨short, cut.body⟩ → Fares content short cut
  | earlier {other : Cut} {rest : List Text} : other.Of content short →
      find? content short = some ⟨short, other.body⟩ →
      cut.before.lines = other.before.lines ++ other.opening :: (other.body.lines ++ rest) →
      Fares content short cut

theorem opened_or_shadowed (located : cut.Of content long) (begins : short <+: long) :
    Fares content short cut := by
  by_cases shadow : ∃ line ∈ cut.before.lines, opens short line = true
  · obtain ⟨other, rest, found, parts⟩ := located.shadowed shadow
    exact .earlier found found.body_found parts
  · have unopened : ∀ line ∈ cut.before.lines, opens short line = false := by
      intro line member
      exact Bool.eq_false_iff.mpr fun opened => shadow ⟨line, member, opened⟩
    exact .same unopened (located.shorter begins unopened).body_found

theorem Fares.isSome (fares : Fares content short cut) : (find? content short).isSome := by
  cases fares with
  | same _ found => exact Option.isSome_of_mem found
  | earlier _ found _ => exact Option.isSome_of_mem found

theorem exact_found {id opening : Text} {before after : List Text}
    (parts : content.lines = before ++ opening :: after) (tagged : tag? opening = some id)
    (alone : ∀ line ∈ before, ∀ tag, tag? line = some tag → id <+: tag → tag = id) :
    ∃ cut : Cut, cut.Of content id ∧ tag? cut.opening = some id := by
  have opened : opens id opening = true := opens_tag tagged
  have among : opening ∈ content.lines :=
    parts ▸ List.mem_append_right _ List.mem_cons_self
  obtain ⟨cut, located⟩ := exists_cut among opened
  refine ⟨cut, located, ?_⟩
  rcases List.append_eq_append_iff.mp (located.aligned.symm.trans parts) with
    ⟨middle, whole, rest⟩ | ⟨middle, whole, rest⟩
  · cases middle with
    | nil =>
        cases rest
        exact tagged
    | cons line more =>
        obtain ⟨rfl, _⟩ := List.cons.inj rest
        obtain ⟨tag, own, longer⟩ := opens_iff.mp located.opened
        have member : cut.opening ∈ before := whole ▸ List.mem_append_right _ List.mem_cons_self
        rw [own, alone _ member tag own longer]
  · cases middle with
    | nil =>
        cases rest
        exact tagged
    | cons line more =>
        obtain ⟨rfl, _⟩ := List.cons.inj rest
        have unopened := located.unopened opening (whole ▸ List.mem_append_right _ List.mem_cons_self)
        exact absurd opened (by simp [unopened])

theorem extract_cut {id : Text} (located : cut.Of content id) : extract content id = cut.body := by
  rw [extract, located.body_found]
  rfl

theorem find?_shorter :
    (∀ short long : Text, short <+: long →
      (∀ line, opens long line = true → opens short line = true) ∧
      ∀ content block, find? content long = some block →
        (find? content short).isSome ∧
        ∃ cut : Cut, cut.Of content long ∧ block = ⟨long, cut.body⟩ ∧ Fares content short cut) ∧
    ∀ (content id opening : Text) (before after : List Text),
      content.lines = before ++ opening :: after → tag? opening = some id →
      (∀ line ∈ before, ∀ tag, tag? line = some tag → id <+: tag → tag = id) →
      ∃ cut : Cut, cut.Of content id ∧ tag? cut.opening = some id ∧ extract content id = cut.body ∧
        ∀ (fs : FileSystem) (path : Path), fs.readText path = .ok content →
          Document.importBlock fs path id = .ok cut.body := by
  constructor
  · intro short long begins
    refine ⟨fun line => opens_shorter begins, ?_⟩
    intro content block found
    obtain ⟨line, member, opened⟩ : ∃ line ∈ content.lines, opens long line = true := by
      by_contra none
      have unopened : ∀ line ∈ content.lines, opens long line = false := by
        intro line member
        exact Bool.eq_false_iff.mpr fun opened => none ⟨line, member, opened⟩
      rw [find?, bodyLines?_eq_none.mpr unopened] at found
      cases found
    obtain ⟨cut, located⟩ := exists_cut member opened
    have fares := opened_or_shadowed located begins
    exact ⟨fares.isSome, cut, located, Option.some.inj (found.symm.trans located.body_found), fares⟩
  · intro content id opening before after parts tagged alone
    obtain ⟨cut, located, own⟩ := exact_found parts tagged alone
    refine ⟨cut, located, own, extract_cut located, ?_⟩
    intro fs path read
    rw [Document.importBlock_of_read read, extract_cut located]

-- Three tags that begin alike. The first block lies in the way of the shorter identifier, and not of
-- the tag of the second.
def alikeTags : Text :=
  "@@md#Fo\none\n @@md#Foo\ntwo\n@@md#FooBar\nthree\n@@md\n"

theorem find?_shorter_alike :
    "Fo".toList <+: "FooBar" ∧ find? alikeTags "FooBar" = some ⟨"FooBar", "three\n"⟩ ∧
    find? alikeTags "Fo" = some ⟨"Fo", "one\n"⟩ ∧
    tag? " @@md#Foo\n" = some "Foo".toList ∧
    Document.importBlock (Document.blockFile alikeTags) ⟨"b.h"⟩ "Foo" = .ok "two\n" := by
  have begins : "Fo".toList <+: "FooBar" := by decide
  have found : find? alikeTags "FooBar" = some ⟨"FooBar", "three\n"⟩ := by decide
  have tagged : tag? " @@md#Foo\n" = some "Foo".toList := by decide
  obtain ⟨shorter, exact⟩ := find?_shorter
  refine ⟨begins, found, ?_, tagged, ?_⟩
  · obtain ⟨_, cut, located, _, fares⟩ := (shorter "Fo" "FooBar" begins).2 alikeTags _ found
    have first : (⟨[], "@@md#Fo\n", "one\n", " @@md#Foo\ntwo\n@@md#FooBar\nthree\n@@md\n"⟩ : Cut).Of
        alikeTags "Fo" :=
      ⟨by decide, by decide, by decide, by decide, by decide, by decide⟩
    have third : (⟨"@@md#Fo\none\n @@md#Foo\ntwo\n", "@@md#FooBar\n", "three\n", "@@md\n"⟩ : Cut).Of
        alikeTags "FooBar" :=
      ⟨by decide, by decide, by decide, by decide, by decide, by decide⟩
    cases fares with
    | same unopened _ =>
        cases third.unique located
        exact absurd (unopened "@@md#Fo\n" (by decide)) (by decide)
    | earlier opens earlier _ =>
        cases first.unique opens
        exact earlier
  · obtain ⟨cut, located, _, extracted, imported⟩ := exact alikeTags "Foo" " @@md#Foo\n"
      ["@@md#Fo\n", "one\n"] ["two\n", "@@md#FooBar\n", "three\n", "@@md\n"] (by decide) tagged (by decide)
    rw [imported _ _ (Document.blockFile_read alikeTags), ← extracted]
    decide

end DocAssembly.Block
