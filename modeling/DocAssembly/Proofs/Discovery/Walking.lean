import DocAssembly.Proofs.Discovery.ListingOrder
import DocAssembly.Proofs.Discovery.Tree
import Mathlib

namespace DocAssembly

namespace Discovery

namespace Search

-- A walk over some paths: what has been visited before, what has been visited after, and the
-- directories that are entered. The call for a directory (`into`) walks over what is below with the
-- directory added to what has been visited; what that call leaves is what the next path meets.
inductive Walks (search : Search) :
    List Key → List Path → List Key → List (Path × Location) → Prop where
  | done {visited : List Key} : Walks search visited [] visited []
  | lost {visited after : List Key} {directory : Path} {rest : List Path}
      {entered : List (Path × Location)} :
      search.fs.directoryAt? directory = none → Walks search visited rest after entered →
      Walks search visited (directory :: rest) after entered
  | again {visited after : List Key} {directory : Path} {location : Location} {rest : List Path}
      {entered : List (Path × Location)} :
      search.fs.directoryAt? directory = some location → search.key directory ∈ visited →
      Walks search visited rest after entered →
      Walks search visited (directory :: rest) after entered
  | into {visited between after : List Key} {directory : Path} {location : Location}
      {rest : List Path} {below further : List (Path × Location)} :
      search.fs.directoryAt? directory = some location → search.key directory ∉ visited →
      Walks search (search.key directory :: visited) (search.subdirectories directory location)
        between below →
      Walks search between rest after further →
      Walks search visited (directory :: rest) after ((directory, location) :: below ++ further)

variable {search : Search} {root directory p q : Path} {visited after : List Key}
  {pending rest : List Path} {entered others : List (Path × Location)} {location : Location}

def visitedAfter (search : Search) (visited : List Key) (entered : List (Path × Location)) :
    List Key :=
  (entered.map fun entry => search.key entry.1).reverse ++ visited

theorem visitedAfter_cons : search.visitedAfter visited ((directory, location) :: others) =
    search.visitedAfter (search.key directory :: visited) others := by
  simp [visitedAfter]

-- By induction on the first paths: each call that these make stays as it is.
theorem Walks.split (walks : search.Walks visited (pending ++ rest) after others) :
    ∃ between first last, search.Walks visited pending between first ∧
      search.Walks between rest after last ∧ others = first ++ last := by
  induction pending generalizing visited others with
  | nil => exact ⟨visited, [], others, .done, walks, rfl⟩
  | cons directory pending ih =>
    cases walks with
    | lost gone further =>
      obtain ⟨between, first, last, walk, walkOn, rfl⟩ := ih further
      exact ⟨between, first, last, .lost gone walk, walkOn, rfl⟩
    | again leads old further =>
      obtain ⟨between, first, last, walk, walkOn, rfl⟩ := ih further
      exact ⟨between, first, last, .again leads old walk, walkOn, rfl⟩
    | into leads new below further =>
      obtain ⟨between, first, last, walk, walkOn, rfl⟩ := ih further
      exact ⟨between, _, last, .into leads new below walk, walkOn, by simp⟩

-- By induction along the search, whose paths still to be looked at are those of the calls that
-- have not returned: each of them ends where the search says.
theorem walks_enter : search.Walks visited pending
    (search.visitedAfter visited (search.enter visited pending)) (search.enter visited pending) := by
  fun_induction enter search visited pending with
  | case1 visited => exact .done
  | case2 visited directory rest lost ih => exact .lost lost ih
  | case3 visited directory rest location leads old ih => exact .again leads old ih
  | case4 visited directory rest location leads new ih =>
    obtain ⟨between, first, last, below, further, whole⟩ := ih.split
    rw [visitedAfter_cons, whole]
    rw [whole] at further
    exact .into leads new below further

-- By induction on the first walk: what a path leads to and what has been visited leave no choice.
theorem Walks.unique (walks : search.Walks visited pending after entered)
    {afterToo : List Key} (walksToo : search.Walks visited pending afterToo others) :
    after = afterToo ∧ entered = others := by
  induction walks generalizing afterToo others with
  | done =>
    cases walksToo
    exact ⟨rfl, rfl⟩
  | lost gone _ ih =>
    cases walksToo with
    | lost _ further => exact ih further
    | again leads => cases gone.symm.trans leads
    | into leads => cases gone.symm.trans leads
  | again leads old _ ih =>
    cases walksToo with
    | lost gone => cases gone.symm.trans leads
    | again _ _ further => exact ih further
    | into _ new => exact absurd old new
  | into leads new _ _ ihBelow ihFurther =>
    cases walksToo with
    | lost gone => cases gone.symm.trans leads
    | again _ old => exact absurd old new
    | into leadsToo _ below further =>
      cases leads.symm.trans leadsToo
      obtain ⟨rfl, rfl⟩ := ihBelow below
      obtain ⟨rfl, rfl⟩ := ihFurther further
      exact ⟨rfl, rfl⟩

theorem walks_exact : search.Walks visited pending after entered ↔
    after = search.visitedAfter visited (search.enter visited pending) ∧
      entered = search.enter visited pending := by
  constructor
  · intro walks
    exact walks.unique walks_enter
  · rintro ⟨rfl, rfl⟩
    exact walks_enter

theorem key_resolved {place : Location} (told : search.fs.resolve? p = some place) :
    search.key p = .place place := by
  rw [key, told]

theorem key_unresolved (lost : search.fs.resolve? p = none) : search.key p = .path p := by
  rw [key, lost]

theorem enter_unique {a b : Path × Location} (entered : a ∈ search.enter visited pending)
    (enteredToo : b ∈ search.enter visited pending) (same : search.key a.1 = search.key b.1) :
    a = b :=
  List.inj_on_of_nodup_map enter_keys.1 entered enteredToo same

theorem enter_leads (entered : (p, location) ∈ search.enter [] [root]) :
    search.fs.directoryAt? p = some location := by
  obtain ⟨above, way⟩ := enter_root_ways entered
  exact way.leads

theorem entered_once {a b : Path × Location} (entered : a ∈ search.enter [] [root])
    (enteredToo : b ∈ search.enter [] [root]) (same : a.2 = b.2) (differ : a ≠ b) :
    search.fs.resolve? a.1 = none ∨ search.fs.resolve? b.1 = none := by
  cases told : search.fs.resolve? a.1 with
  | none => exact .inl rfl
  | some place =>
    cases toldToo : search.fs.resolve? b.1 with
    | none => exact .inr rfl
    | some there =>
      have at_a := search.fs.resolve?_directory a.1 (enter_leads entered) told
      have at_b := search.fs.resolve?_directory b.1 (enter_leads enteredToo) toldToo
      refine absurd (enter_unique entered enteredToo ?_) differ
      rw [key_resolved told, key_resolved toldToo, at_a, at_b, same]

theorem run_spells (keeps : search.order.Keeps)
    (found : p ∈ search.run root) : ∃ entry ∈ search.enter [] [root], ∃ name,
      search.fs.Spells p entry.1 entry.2 name := by
  obtain ⟨directory, place, entered, template⟩ := mem_run.mp found
  obtain ⟨name, _, _, spelled, _⟩ := (mem_templates keeps).mp template
  exact ⟨_, entered, name, spelled, enter_leads entered⟩

theorem found_once (keeps : search.order.Keeps)
    (found : p ∈ search.run root) (foundToo : q ∈ search.run root) (differ : p ≠ q)
    {first second : Path} {place : Location} {name : Name}
    (spells : search.fs.Spells p first place name) (spellsToo : search.fs.Spells q second place name) :
    search.fs.resolve? first = none ∨ search.fs.resolve? second = none := by
  obtain ⟨entry, entered, _, own⟩ := run_spells keeps found
  obtain ⟨other, enteredToo, _, ownToo⟩ := run_spells keeps foundToo
  obtain ⟨here, rfl, told⟩ := spells.unique own
  obtain ⟨there, rfl, toldToo⟩ := spellsToo.unique ownToo
  rw [told, toldToo]
  refine entered_once entered enteredToo (here.symm.trans there) ?_
  rintro rfl
  exact differ (own.spelled.trans ownToo.spelled.symm)

-- The walk from a root ends, in one way only. It enters no path twice, and no directory twice whose
-- place the system can tell; and it finds no entry of such a directory twice.
theorem walks_once (keeps : search.order.Keeps) :
    ∃ visited entered,
      (∀ after others, search.Walks [] [root] after others ↔ after = visited ∧ others = entered) ∧
      (entered.map Prod.fst).Nodup ∧
      (entered.Pairwise fun a b => a.2 = b.2 →
        search.fs.resolve? a.1 = none ∨ search.fs.resolve? b.1 = none) ∧
      (∀ p, p ∈ search.run root ↔ ∃ entry ∈ entered, p ∈ search.templates entry.1 entry.2) ∧
      (search.run root).Pairwise fun p q => ∀ first second place name,
        search.fs.Spells p first place name → search.fs.Spells q second place name →
        search.fs.resolve? first = none ∨ search.fs.resolve? second = none := by
  have keys : ((search.enter [] [root]).map fun entry => search.key entry.1).Nodup := enter_keys.1
  refine ⟨_, search.enter [] [root], fun after others => walks_exact, ?_, ?_, ?_, ?_⟩
  · rw [← Function.comp_def, ← List.map_map] at keys
    exact keys.of_map
  · refine (List.Nodup.of_map _ keys).imp_of_mem ?_
    intro a b entered enteredToo differ same
    exact entered_once entered enteredToo same differ
  · intro p
    rw [mem_run, Prod.exists]
  · refine (run_nodup keeps).imp_of_mem ?_
    intro p q found foundToo differ first second place name spells spellsToo
    exact found_once keeps found foundToo differ spells spellsToo

end Search

theorem walks_once_looped :
    storedOrder.Keeps ∧ ∃ visited entered,
      (searchBelow looped ⟨"."⟩ noPatterns false).Walks [] [⟨"."⟩] visited entered ∧
      (entered.map Prod.fst).Nodup ∧
      entered.Pairwise fun a b => a.2 = b.2 →
        looped.resolve? a.1 = none ∨ looped.resolve? b.1 = none := by
  obtain ⟨visited, entered, ends, paths, places, _⟩ :=
    @Search.walks_once (searchBelow looped ⟨"."⟩ noPatterns false) ⟨"."⟩ storedOrder_keeps
  exact ⟨storedOrder_keeps, visited, entered, (ends _ _).mpr ⟨rfl, rfl⟩, paths, places⟩

def wide : Name := ⟨List.replicate 62 '𝄞', by decide +kernel⟩

-- So far down that the path from the root is too long to be looked up.
def bottom : Location := List.replicate 17 wide ++ [.of ".d"]

-- The link `.s` leads half of the way down, `t` and `u` lead on from there to the bottom.
def buried : FileSystem where
  nodes :=
    ([.of ".s"], .link ⟨Path.ofPieces (".d" :: List.replicate 8 wide.text)⟩) ::
    ([.of "t"], .link ⟨Path.ofPieces (".s" :: List.replicate 9 wide.text)⟩) ::
    ([.of "u"], .link ⟨Path.ofPieces (".s" :: List.replicate 9 wide.text)⟩) ::
    (.of "x.src.md" :: bottom, .file (.text [])) ::
    bottom.tails.dropLast.map fun location => (location, .directory)

theorem bottom_long : FileSystem.isAddressable bottom = false := by decide +kernel

set_option maxRecDepth 20000 in
theorem bottom_names : buried.names bottom = [.of "x.src.md"] := by cbv

section

variable {directory : Path} (under : directory = ⟨"./t"⟩ ∨ directory = ⟨"./u"⟩)
include under

set_option maxRecDepth 20000 in
theorem buried_leads : buried.directoryAt? directory = some bottom := by
  rcases under with rfl | rfl
  · cbv
  · cbv

set_option maxRecDepth 20000 in
theorem buried_key : (searchBelow buried ⟨"."⟩ noPatterns true).key directory = .path directory := by
  have last : (buried.lookups FileSystem.maxLinks (FileSystem.start directory [])
      (FileSystem.steps directory)).getLast? = some bottom := by
    rcases under with rfl | rfl
    · cbv
    · cbv
  have looked : ∃ place ∈ buried.lookups FileSystem.maxLinks (FileSystem.start directory [])
      (FileSystem.steps directory), FileSystem.isAddressable place = false :=
    ⟨bottom, List.mem_of_getLast? last, bottom_long⟩
  exact Search.key_unresolved ((FileSystem.resolve?_eq_none (buried_leads under)).mpr looked)

set_option maxRecDepth 20000 in
theorem bottom_file : buried.isDirectory (directory.join ⟨"x.src.md"⟩) = false := by
  rcases under with rfl | rfl
  · cbv
  · cbv

theorem bottom_found :
    (searchBelow buried ⟨"."⟩ noPatterns true).subdirectories directory bottom = [] ∧
      (searchBelow buried ⟨"."⟩ noPatterns true).templates directory bottom =
        [directory.join ⟨"x.src.md"⟩] := by
  have admitted :
      (searchBelow buried ⟨"."⟩ noPatterns true).admits directory (.of "x.src.md") = true := by
    refine Search.admits_iff.mpr ⟨⟨by decide, by decide, by decide⟩, ?_⟩
    intro list listed
    cases List.mem_singleton.mp listed
    exact ignores_nothing _ _
  have entries : (searchBelow buried ⟨"."⟩ noPatterns true).entries directory bottom =
      [directory.join ⟨"x.src.md"⟩] := by
    rw [Search.entries]
    change ((buried.names bottom).filter _).map _ = _
    rw [bottom_names, List.filter_cons_of_pos admitted, List.filter_nil, List.map_singleton]
  have template : Template.isTemplate (directory.join ⟨"x.src.md"⟩) = true :=
    (Template.isTemplate_join _ (.of "x.src.md")).mpr ⟨"x".toList, by decide, by decide⟩
  have file : (searchBelow buried ⟨"."⟩ noPatterns true).fs.isDirectory
    (directory.join ⟨"x.src.md"⟩) = false := bottom_file under
  rw [Search.subdirectories, Search.templates, entries]
  simp only [List.filter_singleton, file, template]
  exact ⟨rfl, rfl⟩

end

set_option maxRecDepth 20000 in
theorem buried_below_root : (searchBelow buried ⟨"."⟩ noPatterns true).subdirectories ⟨"."⟩ [] =
    [⟨"./t"⟩, ⟨"./u"⟩] := by cbv

set_option maxRecDepth 20000 in
theorem buried_in_root : (searchBelow buried ⟨"."⟩ noPatterns true).templates ⟨"."⟩ [] = [] := by cbv

set_option maxRecDepth 20000 in
theorem buried_key_root : (searchBelow buried ⟨"."⟩ noPatterns true).key ⟨"."⟩ = .place [] := by cbv

theorem buried_run : (searchBelow buried ⟨"."⟩ noPatterns true).run ⟨"."⟩ =
    [⟨"./t/x.src.md"⟩, ⟨"./u/x.src.md"⟩] := by
  have root : buried.directoryAt? ⟨"."⟩ = some [] := by cbv
  have newT : (searchBelow buried ⟨"."⟩ noPatterns true).key ⟨"./t"⟩ ∉
      [(searchBelow buried ⟨"."⟩ noPatterns true).key ⟨"."⟩] := by
    rw [buried_key (.inl rfl), buried_key_root]
    decide
  have newU : (searchBelow buried ⟨"."⟩ noPatterns true).key ⟨"./u"⟩ ∉
      [(searchBelow buried ⟨"."⟩ noPatterns true).key ⟨"./t"⟩,
        (searchBelow buried ⟨"."⟩ noPatterns true).key ⟨"."⟩] := by
    rw [buried_key (.inr rfl), buried_key (.inl rfl), buried_key_root]
    decide
  obtain ⟨belowT, inT⟩ := bottom_found (.inl rfl)
  obtain ⟨belowU, inU⟩ := bottom_found (.inr rfl)
  have entered : (searchBelow buried ⟨"."⟩ noPatterns true).enter [] [⟨"."⟩] =
      [(⟨"."⟩, []), (⟨"./t"⟩, bottom), (⟨"./u"⟩, bottom)] := by
    rw [Search.enter_new root List.not_mem_nil, buried_below_root, List.append_nil,
      Search.enter_new (buried_leads (.inl rfl)) newT, belowT, List.nil_append,
      Search.enter_new (buried_leads (.inr rfl)) newU, belowU, List.nil_append, Search.enter]
  have inOrder : [(⟨"./t/x.src.md"⟩ : Path), ⟨"./u/x.src.md"⟩].Pairwise fun p q => p.le q := by
    decide
  rw [Search.run, entered]
  simp only [List.flatMap_cons, List.flatMap_nil, buried_in_root, inT, inU, List.append_nil,
    List.nil_append, List.singleton_append]
  exact List.mergeSort_of_pairwise inOrder

theorem discover_buried :
    storedOrder.Keeps ∧
      discover buried ⟨"."⟩ [] true = .ok [⟨"./t/x.src.md"⟩, ⟨"./u/x.src.md"⟩] ∧
      buried.Spells ⟨"./t/x.src.md"⟩ ⟨"./t"⟩ bottom (.of "x.src.md") ∧
      buried.Spells ⟨"./u/x.src.md"⟩ ⟨"./u"⟩ bottom (.of "x.src.md") := by
  have accepted : IgnoreList.ofPatterns ⟨"."⟩ [] = .ok noPatterns := rfl
  refine ⟨storedOrder_keeps, ?_, ⟨by decide, buried_leads (.inl rfl)⟩,
    ⟨by decide, buried_leads (.inr rfl)⟩⟩
  rw [discover_of_accepted accepted, buried_run]

end Discovery
end DocAssembly
