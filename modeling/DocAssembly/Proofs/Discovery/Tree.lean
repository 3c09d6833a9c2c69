import DocAssembly.Proofs.Discovery.Ways
import DocAssembly.Proofs.Lines
import Mathlib

namespace DocAssembly

def FileSystem.LinkFree (fs : FileSystem) (place : Location) : Prop :=
  ∀ directory name, place <:+ directory → fs.Unlinked directory name

namespace FileSystem.LinkFree

variable {fs : FileSystem} {place there : Location} {p : Path} {names : List Name} {name : Name}

theorem directoryAt?_join (linkFree : fs.LinkFree place)
    (leads : fs.directoryAt? p = some (names.reverse ++ place)) :
    fs.directoryAt? (p.join name) = some there ↔ there = name :: (names.reverse ++ place) ∧
      fs.node? (name :: (names.reverse ++ place)) = some .directory ∧
        (p.join name).spelling.utf8.length < pathLengthLimit :=
  FileSystem.directoryAt?_join leads (linkFree _ _ (List.suffix_append _ _))

theorem isDirectory_join (linkFree : fs.LinkFree place)
    (leads : fs.directoryAt? p = some (names.reverse ++ place)) :
    fs.isDirectory (p.join name) = true ↔
      fs.node? (name :: (names.reverse ++ place)) = some .directory ∧
        (p.join name).spelling.utf8.length < pathLengthLimit := by
  rw [isDirectory, Option.isSome_iff_exists]
  simp only [linkFree.directoryAt?_join leads, exists_eq_left]

end FileSystem.LinkFree

namespace Template

theorem isTemplate_join (p : Path) (name : Name) :
    isTemplate (p.join name) = true ↔ ∃ stem, stem ≠ [] ∧ name.text = stem ++ nameTail := by
  rw [isTemplate, output?, Path.fileName?_join name.isPiece]
  constructor
  · intro made
    cases found : name.text.before? nameTail with
    | none => simp [found] at made
    | some stem =>
      refine ⟨stem, ?_, (Text.before?_eq_some.mp found).symm⟩
      rintro rfl
      simp [found] at made
  · rintro ⟨stem, some, tail⟩
    have found := Text.before?_eq_some.mpr (rfl : stem ++ nameTail = _)
    rw [tail]
    obtain ⟨c, rest, rfl⟩ := List.exists_cons_of_ne_nil some
    simp only [found, Option.isSome_some]

end Template

namespace Discovery

structure IsVisible (name : Text) : Prop where
  shown : name.head? ≠ some '.'
  noModules : name ≠ "node_modules"
  noTarget : name ≠ "target"

theorem isVisible_iff {name : Text} : IsVisible name ↔ isPassedOver name = false := by
  have shown : Text.startsWith name "." = false ↔ name.head? ≠ some '.' := by
    cases name with
    | nil => simp [Text.startsWith]
    | cons c rest =>
      rw [Text.startsWith, Bool.eq_false_iff, Ne, List.isPrefixOf_iff_prefix]
      simp [eq_comm]
  rw [isPassedOver, Bool.or_eq_false_iff, Bool.or_eq_false_iff, shown]
  simp only [beq_eq_false_iff_ne]
  constructor
  · rintro ⟨shown, noModules, noTarget⟩
    exact ⟨⟨shown, noModules⟩, noTarget⟩
  · rintro ⟨⟨shown, noModules⟩, noTarget⟩
    exact ⟨shown, noModules, noTarget⟩

-- What the search needs to get into the directory that some names lead to from the root: a path
-- that is short enough, no project of its own, and no ignore list that leaves the directory out.
-- `place` is where the root is.
structure Entered (fs : FileSystem) (lists : List IgnoreList) (root : Path) (place : Location)
    (names : List Name) : Prop where
  directory : fs.node? (names.reverse ++ place) = some .directory
  usable : (root.descend names).spelling.utf8.length < FileSystem.pathLengthLimit
  noProject : Config.find? fs (root.descend names) = none
  kept : ∀ list ∈ lists, list.ignores (root.descend names) true = false

-- What makes the names that lead to an entry those of a template that is found.
structure Found (fs : FileSystem) (lists : List IgnoreList) (root : Path) (place : Location)
    (names : List Name) : Prop where
  template : ∃ above last stem, stem ≠ [] ∧ names = above ++ [last] ∧
    last.text = stem ++ Template.nameTail
  visible : ∀ name ∈ names, IsVisible name.text
  above : ∀ above, above ≠ [] → above <+: names → above ≠ names → Entered fs lists root place above
  entry : ∃ node, fs.node? (names.reverse ++ place) = some node ∧
    (node = .directory → FileSystem.pathLengthLimit ≤ (root.descend names).spelling.utf8.length)
  kept : ∀ list ∈ lists, list.ignores (root.descend names) false = false

def Through (fs : FileSystem) (lists : List IgnoreList) (root : Path) (place : Location)
    (names : List Name) : Prop :=
  (∀ name ∈ names, IsVisible name.text) ∧
    ∀ above, above ≠ [] → above <+: names → Entered fs lists root place above

variable {fs : FileSystem} {lists : List IgnoreList} {root : Path} {place : Location}
  {names : List Name} {name : Name}

theorem through_nil : Through fs lists root place [] := by
  refine ⟨nofun, ?_⟩
  intro above some on
  exact absurd (List.prefix_nil.mp on) some

theorem through_concat : Through fs lists root place (names ++ [name]) ↔
    Through fs lists root place names ∧ IsVisible name.text ∧
      Entered fs lists root place (names ++ [name]) := by
  constructor
  · rintro ⟨visible, entered⟩
    rw [List.forall_mem_append, List.forall_mem_singleton] at visible
    refine ⟨⟨visible.1, ?_⟩, visible.2, entered _ (List.concat_ne_nil _ _) (List.prefix_refl _)⟩
    intro above some on
    exact entered above some (on.trans (List.prefix_append _ _))
  · rintro ⟨⟨visible, entered⟩, shown, last⟩
    refine ⟨?_, ?_⟩
    · rw [List.forall_mem_append, List.forall_mem_singleton]
      exact ⟨visible, shown⟩
    · intro above some on
      rcases List.prefix_concat_iff.mp on with rfl | on
      · exact last
      · exact entered above some on

theorem entered_concat : Entered fs lists root place (names ++ [name]) ↔
    fs.node? (name :: (names.reverse ++ place)) = some .directory ∧
      ((root.descend names).join name).spelling.utf8.length < FileSystem.pathLengthLimit ∧
      Config.find? fs ((root.descend names).join name) = none ∧
      ∀ list ∈ lists, list.ignores ((root.descend names).join name) true = false := by
  rw [← Path.descend_concat, ← List.cons_append, ← List.reverse_concat]
  constructor
  · rintro ⟨directory, usable, noProject, kept⟩
    exact ⟨directory, usable, noProject, kept⟩
  · rintro ⟨directory, usable, noProject, kept⟩
    exact ⟨directory, usable, noProject, kept⟩

theorem found_concat : Found fs lists root place (names ++ [name]) ↔
    Through fs lists root place names ∧ IsVisible name.text ∧
      (∃ stem, stem ≠ [] ∧ name.text = stem ++ Template.nameTail) ∧
      (∃ node, fs.node? (name :: (names.reverse ++ place)) = some node ∧
        (node = .directory → FileSystem.pathLengthLimit ≤
          ((root.descend names).join name).spelling.utf8.length)) ∧
      ∀ list ∈ lists, list.ignores ((root.descend names).join name) false = false := by
  constructor
  · rintro ⟨⟨above, last, stem, some, whole, tail⟩, visible, entered, entry, kept⟩
    rw [List.forall_mem_append, List.forall_mem_singleton] at visible
    rw [Path.descend_concat] at entry kept
    rw [List.reverse_concat] at entry
    obtain ⟨rfl, same⟩ := List.append_inj' whole rfl
    cases same
    refine ⟨⟨visible.1, ?_⟩, visible.2, ⟨stem, some, tail⟩, entry, kept⟩
    intro above some on
    refine entered above some (on.trans (List.prefix_append _ _)) ?_
    rintro rfl
    have shorter := on.length_le
    rw [List.length_append, List.length_singleton] at shorter
    exact Nat.not_succ_le_self _ shorter
  · rintro ⟨⟨visible, entered⟩, shown, ⟨stem, some, tail⟩, entry, kept⟩
    refine ⟨⟨names, name, stem, some, rfl, tail⟩, ?_, ?_, ?_, ?_⟩
    · rw [List.forall_mem_append, List.forall_mem_singleton]
      exact ⟨visible, shown⟩
    · intro above some on proper
      rcases List.prefix_concat_iff.mp on with whole | on
      · exact absurd whole proper
      · exact entered above some on
    · rw [Path.descend_concat, List.reverse_concat]
      exact entry
    · rw [Path.descend_concat]
      exact kept

namespace Search

variable {search : Search} {p q : Path} {above : List Key} {there : Location}

theorem admits_iff : search.admits p name = true ↔
    IsVisible name.text ∧ ∀ list ∈ search.lists,
      list.ignores (p.join name) (search.fs.isDirectory (p.join name)) = false := by
  rw [isVisible_iff, admits]
  simp

theorem mem_subdirectories_tree (keeps : search.order.Keeps) (linkFree : search.fs.LinkFree place)
    (leads : search.fs.directoryAt? (root.descend names) = some (names.reverse ++ place)) :
    q ∈ search.subdirectories (root.descend names) (names.reverse ++ place) ↔
      ∃ name : Name, q = root.descend (names ++ [name]) ∧ IsVisible name.text ∧
        Entered search.fs search.lists root place (names ++ [name]) := by
  rw [mem_subdirectories keeps]
  refine exists_congr fun name => ?_
  rw [admits_iff, Path.descend_concat, entered_concat]
  constructor
  · rintro ⟨listed, ⟨visible, kept⟩, rfl, directory, noProject⟩
    rw [directory] at kept
    obtain ⟨entry, usable⟩ := (linkFree.isDirectory_join leads).mp directory
    exact ⟨rfl, visible, entry, usable, noProject, kept⟩
  · rintro ⟨rfl, visible, entry, usable, noProject, kept⟩
    have listed : name ∈ search.fs.names (names.reverse ++ place) :=
      FileSystem.mem_names.mpr ⟨_, entry⟩
    have directory := (linkFree.isDirectory_join leads).mpr ⟨entry, usable⟩
    rw [directory]
    exact ⟨listed, ⟨visible, kept⟩, rfl, rfl, noProject⟩

theorem mem_templates_tree (keeps : search.order.Keeps) (linkFree : search.fs.LinkFree place)
    (leads : search.fs.directoryAt? (root.descend names) = some (names.reverse ++ place))
    (through : Through search.fs search.lists root place names) :
    p ∈ search.templates (root.descend names) (names.reverse ++ place) ↔
      ∃ name, p = root.descend (names ++ [name]) ∧
        Found search.fs search.lists root place (names ++ [name]) := by
  rw [mem_templates keeps]
  refine exists_congr fun name => ?_
  rw [admits_iff, Path.descend_concat, found_concat]
  constructor
  · rintro ⟨listed, ⟨visible, kept⟩, rfl, noDirectory, template⟩
    rw [noDirectory] at kept
    rw [Template.isTemplate_join] at template
    rw [Bool.eq_false_iff, Ne, linkFree.isDirectory_join leads, not_and, Nat.not_lt]
      at noDirectory
    obtain ⟨node, entry⟩ := FileSystem.mem_names.mp listed
    refine ⟨rfl, through, visible, template, ⟨node, entry, ?_⟩, kept⟩
    rintro rfl
    exact noDirectory entry
  · rintro ⟨rfl, _, visible, template, ⟨node, entry, long⟩, kept⟩
    have listed : name ∈ search.fs.names (names.reverse ++ place) :=
      FileSystem.mem_names.mpr ⟨node, entry⟩
    have noDirectory : search.fs.isDirectory ((root.descend names).join name) = false := by
      rw [Bool.eq_false_iff, Ne, linkFree.isDirectory_join leads, not_and, Nat.not_lt]
      intro directory
      exact long (Option.some.inj (entry.symm.trans directory))
    rw [noDirectory]
    exact ⟨listed, ⟨visible, kept⟩, rfl, rfl, (Template.isTemplate_join _ name).mpr template⟩

-- By induction on the way: it goes down by the names of directories that the search gets through.
theorem Way.through (keeps : search.order.Keeps)
    (atRoot : search.fs.directoryAt? root = some place) (linkFree : search.fs.LinkFree place)
    (way : search.Way root above p there) :
    ∃ names, p = root.descend names ∧ there = names.reverse ++ place ∧
      Through search.fs search.lists root place names := by
  induction way with
  | start leads =>
    cases atRoot.symm.trans leads
    exact ⟨[], rfl, rfl, through_nil⟩
  | down before below leads fresh ih =>
    obtain ⟨names, rfl, rfl, through⟩ := ih
    obtain ⟨name, rfl, visible, entered⟩ :=
      (mem_subdirectories_tree keeps linkFree before.leads).mp below
    refine ⟨names ++ [name], rfl, ?_, through_concat.mpr ⟨through, visible, entered⟩⟩
    rw [Path.descend_concat, linkFree.directoryAt?_join before.leads] at leads
    rw [leads.1, List.reverse_concat]
    rfl

-- By induction on the names. The directories on the way are nearer to the root than the one it
-- ends at, so none of them is met again.
theorem way_of_through (keeps : search.order.Keeps)
    (atRoot : search.fs.directoryAt? root = some place) (linkFree : search.fs.LinkFree place)
    (through : Through search.fs search.lists root place names) :
    ∃ above, search.Way root above (root.descend names) (names.reverse ++ place) ∧
      ∀ key ∈ above, ∃ p location, key = search.key p ∧ search.fs.directoryAt? p = some location ∧
        location.length < (names.reverse ++ place).length := by
  induction names using List.reverseRecOn with
  | nil => exact ⟨[], .start atRoot, nofun⟩
  | append_singleton names name ih =>
    obtain ⟨before, visible, entered⟩ := through_concat.mp through
    obtain ⟨above, way, nearer⟩ := ih before
    have below := (mem_subdirectories_tree keeps linkFree way.leads).mpr
      ⟨name, rfl, visible, entered⟩
    obtain ⟨entry, usable, _⟩ := entered_concat.mp entered
    rw [Path.descend_concat] at below ⊢
    rw [List.reverse_concat, List.cons_append]
    have leads := (linkFree.directoryAt?_join way.leads).mpr ⟨rfl, entry, usable⟩
    have nearerToo : ∀ key ∈ search.key (root.descend names) :: above, ∃ p location,
        key = search.key p ∧ search.fs.directoryAt? p = some location ∧
          location.length < (name :: (names.reverse ++ place)).length := by
      rw [List.forall_mem_cons]
      refine ⟨⟨_, _, rfl, way.leads, Nat.lt_succ_self _⟩, ?_⟩
      intro key member
      obtain ⟨p, location, known, leadsThere, near⟩ := nearer key member
      exact ⟨p, location, known, leadsThere, Nat.lt_succ_of_lt near⟩
    refine ⟨_, way.down below leads ?_, nearerToo⟩
    intro again
    obtain ⟨p, location, known, leadsThere, near⟩ := nearerToo _ again
    cases place_of_key leads leadsThere known
    exact Nat.lt_irrefl _ near

theorem clear_tree (keeps : search.order.Keeps)
    (atRoot : search.fs.directoryAt? root = some place) (linkFree : search.fs.LinkFree place) :
    search.Clear root := by
  intro above p there others q way wayToo
  obtain ⟨names, rfl, rfl, _⟩ := way.through keeps atRoot linkFree
  obtain ⟨namesToo, rfl, same, _⟩ := wayToo.through keeps atRoot linkFree
  rw [List.append_cancel_right_eq, List.reverse_inj] at same
  rw [same]

theorem mem_run_tree (keeps : search.order.Keeps)
    (atRoot : search.fs.directoryAt? root = some place) (linkFree : search.fs.LinkFree place) :
    p ∈ search.run root ↔
      ∃ names, Found search.fs search.lists root place names ∧ p = root.descend names := by
  have clear := clear_tree keeps atRoot linkFree
  rw [mem_run]
  constructor
  · rintro ⟨q, there, entered, template⟩
    obtain ⟨above, way⟩ := (mem_enter clear).mp entered
    obtain ⟨names, rfl, rfl, through⟩ := way.through keeps atRoot linkFree
    obtain ⟨name, rfl, found⟩ :=
      (mem_templates_tree keeps linkFree way.leads through).mp template
    exact ⟨_, found, rfl⟩
  · rintro ⟨names, found, rfl⟩
    obtain ⟨above, last, stem, _, rfl, _⟩ := found.template
    have through := (found_concat.mp found).1
    obtain ⟨passed, way, _⟩ := way_of_through keeps atRoot linkFree through
    refine ⟨_, _, (mem_enter clear).mpr ⟨passed, way⟩, ?_⟩
    exact (mem_templates_tree keeps linkFree way.leads through).mpr ⟨_, rfl, found⟩

end Search

theorem Found.imp {wider : List IgnoreList} (found : Found fs lists root place names)
    (kept : ∀ p isDirectory, (∀ list ∈ lists, list.ignores p isDirectory = false) →
      ∀ list ∈ wider, list.ignores p isDirectory = false) : Found fs wider root place names := by
  refine ⟨found.template, found.visible, ?_, found.entry, kept _ _ found.kept⟩
  intro above some on proper
  have entered := found.above above some on proper
  exact ⟨entered.directory, entered.usable, entered.noProject, kept _ _ entered.kept⟩

theorem ignores_nothing (p : Path) (isDirectory : Bool) :
    (IgnoreList.new root []).ignores p isDirectory = false := by
  simp [IgnoreList.ignores, IgnoreList.new]

variable {patterns : List Text} {disableGitignore : Bool} {excluded : IgnoreList}
  {order : ListingOrder}

theorem mem_searchBelow (keeps : order.Keeps)
    (atRoot : fs.directoryAt? root = some place) (linkFree : fs.LinkFree place) (p : Path) :
    p ∈ (searchBelow fs root excluded disableGitignore order).run root ↔ ∃ names,
      Found fs ((if disableGitignore then [] else [IgnoreList.ofDirectory fs root]) ++ [excluded])
        root place names ∧ p = root.descend names :=
  @Search.mem_run_tree root place (searchBelow fs root excluded disableGitignore order) p
    keeps atRoot linkFree

theorem discover_tree (keeps : order.Keeps)
    (atRoot : fs.directoryAt? root = some place) (linkFree : fs.LinkFree place)
    (accepted : IgnoreList.ofPatterns root patterns = .ok excluded) :
    ∃ templates, discover fs root patterns disableGitignore order = .ok templates ∧
      templates.Pairwise (fun p q => p.le q = true ∧ p.same q = false) ∧
      (∀ p, p ∈ templates ↔ ∃ names,
        Found fs ((if disableGitignore then [] else [IgnoreList.ofDirectory fs root]) ++ [excluded])
          root place names ∧ p = root.descend names) ∧
      (∃ wider, discover fs root [] disableGitignore order = .ok wider ∧ templates ⊆ wider) ∧
      ∃ wider, discover fs root patterns true order = .ok wider ∧ templates ⊆ wider := by
  have noneAccepted : IgnoreList.ofPatterns root [] = .ok (IgnoreList.new root []) := rfl
  have member := @mem_searchBelow fs root place
  refine ⟨_, discover_of_accepted accepted, Search.run_strict keeps,
    member keeps atRoot linkFree, ⟨_, discover_of_accepted noneAccepted, ?_⟩,
    ⟨_, discover_of_accepted accepted, ?_⟩⟩
  · intro p listed
    obtain ⟨names, found, rfl⟩ := (member keeps atRoot linkFree p).mp listed
    refine (member keeps atRoot linkFree _).mpr ⟨names, found.imp ?_, rfl⟩
    intro q isDirectory kept
    rw [List.forall_mem_append, List.forall_mem_singleton] at kept ⊢
    exact ⟨kept.1, ignores_nothing q isDirectory⟩
  · intro p listed
    obtain ⟨names, found, rfl⟩ := (member keeps atRoot linkFree p).mp listed
    refine (member keeps atRoot linkFree _).mpr ⟨names, found.imp ?_, rfl⟩
    intro q isDirectory kept
    rw [List.forall_mem_append] at kept ⊢
    exact ⟨by simp, kept.2⟩

-- A tree with an ignored directory, and a link to a file.
def manual : FileSystem where
  nodes := [
    ([.of ".gitignore"], .file (.text "/drafts/\n")),
    ([.of "drafts"], .directory),
    ([.of "old.src.md", .of "drafts"], .file (.text [])),
    ([.of "docs"], .directory),
    ([.of "guide.src.md", .of "docs"], .file (.text [])),
    ([.of "README.src.md"], .link ⟨"docs/guide.src.md"⟩)]

def notReadme : IgnoreList := IgnoreList.ofLines ⟨"."⟩ ["/README.src.md"]

theorem manual_linkFree : manual.LinkFree [] := by
  intro directory name _ target location entry reached
  have listed := FileSystem.node?_mem entry
  simp only [manual, List.mem_cons, Prod.mk.injEq, reduceCtorEq, and_false, false_or, List.not_mem_nil,
    or_false, List.cons.injEq] at listed
  obtain ⟨⟨rfl, rfl⟩, _⟩ := listed
  have file : manual.follow FileSystem.maxLinks [] [.down "README.src.md".toList] =
    .ok (.occupied [.of "guide.src.md", .of "docs"]) := by cbv
  cases file.symm.trans reached
  decide

theorem discover_tree_manual :
    storedOrder.Keeps ∧ manual.directoryAt? ⟨"."⟩ = some [] ∧ manual.LinkFree [] ∧
      IgnoreList.ofPatterns ⟨"."⟩ ["/README.src.md"] = .ok notReadme ∧
      ∃ templates, discover manual ⟨"."⟩ ["/README.src.md"] false = .ok templates ∧
        ⟨"./docs/guide.src.md"⟩ ∈ templates := by
  have atRoot : manual.directoryAt? ⟨"."⟩ = some [] := by cbv
  have accepted : IgnoreList.ofPatterns ⟨"."⟩ ["/README.src.md"] = .ok notReadme := by cbv
  refine ⟨storedOrder_keeps, atRoot, manual_linkFree, accepted, ?_⟩
  obtain ⟨templates, made, _, member, _⟩ :=
    @discover_tree manual ⟨"."⟩ [] ["/README.src.md"] false notReadme storedOrder
      storedOrder_keeps atRoot manual_linkFree accepted
  refine ⟨templates, made, (member _).mpr ⟨[.of "docs"] ++ [.of "guide.src.md"], ?_, by cbv⟩⟩
  have docs : Entered manual [IgnoreList.ofDirectory manual ⟨"."⟩, notReadme] ⟨"."⟩ []
      ([] ++ [.of "docs"]) := by
    refine ⟨by cbv, by cbv, by cbv, ?_⟩
    rw [List.forall_mem_cons, List.forall_mem_singleton]
    exact ⟨by cbv, by cbv⟩
  refine found_concat.mpr ⟨through_concat.mpr ⟨through_nil, ⟨by decide, by decide, by decide⟩, docs⟩,
    ⟨by decide, by decide, by decide⟩, ?_, ?_, ?_⟩
  · exact ⟨"guide".toList, by decide, by cbv⟩
  · refine ⟨.file (.text []), by cbv, ?_⟩
    intro directory
    cases directory
  · show ∀ list ∈ [IgnoreList.ofDirectory manual ⟨"."⟩, notReadme], _
    rw [List.forall_mem_cons, List.forall_mem_singleton]
    exact ⟨by cbv, by cbv⟩

def here (n : Nat) : Path := ⟨(List.replicate n ['.', '/']).flatten⟩

theorem here_succ (n : Nat) : (here (n + 1)).spelling = ['.'] ++ '/' :: (here n).spelling := by
  rw [here, List.replicate_succ, List.flatten_cons]
  rfl

theorem here_length (n : Nat) : (here n).spelling.utf8.length = 2 * n := by
  induction n with
  | zero => rfl
  | succ n ih =>
    have dot : String.utf8EncodeChar '.' = [46] := by decide
    have slash : String.utf8EncodeChar '/' = [47] := by decide
    rw [here_succ]
    simp only [Text.utf8, List.flatMap_append, List.flatMap_cons, List.flatMap_nil, dot, slash,
      List.length_append, List.length_cons, List.length_nil] at ih ⊢
    omega

theorem here_front (n : Nat) : (here n).front = (here n).spelling := by
  cases n with
  | zero => rfl
  | succ n =>
    have ends : (here (n + 1)).spelling.endsWith "/" = true := by
      rw [Text.endsWith, List.isSuffixOf_iff_suffix, here, List.replicate_succ', List.flatten_append]
      exact (List.suffix_cons '.' ['/']).trans (List.suffix_append _ _)
    rw [Path.front, ends, Bool.or_true, if_pos rfl]

theorem here_join_length (n : Nat) (name : Name) :
    ((here n).join name).spelling.utf8.length = 2 * n + name.text.utf8.length := by
  rw [Path.join_spelling (Path.isAbsolute_name name.isPiece), here_front, Text.utf8,
    List.flatMap_append, List.length_append, ← here_length n]
  rfl

theorem here_noNul (n : Nat) : '\x00' ∉ (here n).spelling := by
  induction n with
  | zero => exact List.not_mem_nil
  | succ n ih =>
    rw [here_succ]
    simpa using ih

theorem here_steps (n : Nat) : ∀ step ∈ FileSystem.steps (here n), step = .self := by
  have named : FileSystem.namedSteps (here n) = List.replicate n .self := by
    induction n with
    | zero => rfl
    | succ n ih =>
      rw [FileSystem.namedSteps, here_succ, List.splitOn_append_cons_self, List.filterMap_append]
      change [FileSystem.Step.self] ++ FileSystem.namedSteps (here n) = _
      rw [ih, List.replicate_succ, List.singleton_append]
  intro step member
  rw [FileSystem.steps, named, List.mem_append] at member
  cases member with
  | inl listed => exact List.eq_of_mem_replicate listed
  | inr last =>
    split at last
    · exact List.mem_singleton.mp last
    · cases last

theorem here_directory {n : Nat} (some : 0 < n) (short : 2 * n < FileSystem.pathLengthLimit)
    (atTop : fs.workingDirectory = []) : fs.directoryAt? (here n) = .some [] := by
  have root : fs.node? [] = .some .directory := rfl
  have follow : ∀ todo : List FileSystem.Step, (∀ step ∈ todo, step = .self) →
      fs.follow FileSystem.maxLinks [] todo = .ok (.occupied []) := by
    intro todo selfs
    induction todo with
    | nil => exact FileSystem.follow_nil
    | cons step rest ih =>
      obtain ⟨rfl, others⟩ := List.forall_mem_cons.mp selfs
      rw [FileSystem.follow_self root]
      exact ih others
  have started : FileSystem.start (here n) fs.workingDirectory = [] := by
    simp [FileSystem.start, atTop]
  have spelled : (here n).spelling ≠ [] := by
    obtain ⟨m, rfl⟩ := Nat.exists_eq_succ_of_ne_zero (Nat.ne_of_gt some)
    rw [here_succ]
    exact List.cons_ne_nil _ _
  rw [FileSystem.directoryAt?_eq_some, FileSystem.locate_eq_ok, FileSystem.checkSpelling_ok, started]
  exact ⟨⟨⟨here_noNul n, spelled, here_length n ▸ short⟩, follow _ (here_steps n)⟩, root⟩

def masked : FileSystem where
  nodes := [([.of "x.src.md"], .directory)]

-- Under a path that is too long, the directory cannot be told from a file.
theorem discover_masked :
    masked.directoryAt? (here 2044) = some [] ∧ masked.LinkFree [] ∧
      masked.node? [.of "x.src.md"] = some .directory ∧
      ∃ templates, discover masked (here 2044) [] true = .ok templates ∧
        (here 2044).join ⟨"x.src.md"⟩ ∈ templates := by
  have atRoot : masked.directoryAt? (here 2044) = some [] :=
    here_directory (by decide) (by decide) rfl
  have linkFree : masked.LinkFree [] := by
    intro directory name _ target location entry _
    have listed := FileSystem.node?_mem entry
    simp [masked] at listed
  have length : ((here 2044).join ⟨"x.src.md"⟩).spelling.utf8.length =
      FileSystem.pathLengthLimit :=
    (here_join_length 2044 (.of "x.src.md")).trans (by decide)
  refine ⟨atRoot, linkFree, by decide, _, discover_of_accepted rfl, ?_⟩
  refine (mem_searchBelow storedOrder_keeps atRoot linkFree _).mpr
    ⟨[] ++ [.of "x.src.md"], found_concat.mpr ⟨through_nil, ?_, ?_, ?_, ?_⟩, ?_⟩
  · exact ⟨by decide, by decide, by decide⟩
  · exact ⟨"x".toList, by decide, by decide⟩
  · exact ⟨.directory, by decide, fun _ => Nat.le_of_eq length.symm⟩
  · intro list listed
    cases List.mem_singleton.mp listed
    exact ignores_nothing _ _
  · rw [Path.descend_concat, Path.descend_nil]

end Discovery
end DocAssembly
