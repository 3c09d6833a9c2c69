import DocAssembly.Discovery
import DocAssembly.Proofs.FileSystem.Following
import DocAssembly.Proofs.Path.Order
import Mathlib

namespace DocAssembly.Discovery

def ListingOrder.Keeps (order : ListingOrder) : Prop :=
  ∀ location names, (order location names).Perm names

theorem storedOrder_keeps : storedOrder.Keeps := fun _ _ => .refl _

namespace Search

-- A way from the root to a path and the directory there. `above` are the directories on the way;
-- none of them is entered again.
inductive Way (search : Search) (root : Path) : List Key → Path → Location → Prop where
  | start {place : Location} : search.fs.directoryAt? root = some place →
      Way search root [] root place
  | down {above : List Key} {p q : Path} {here there : Location} :
      Way search root above p here → q ∈ search.subdirectories p here →
      search.fs.directoryAt? q = some there → search.key q ∉ search.key p :: above →
      Way search root (search.key p :: above) q there

def Clear (search : Search) (root : Path) : Prop :=
  ∀ above p place others q, search.Way root above p place → search.Way root others q place → p = q

variable {search : Search} {root directory p q : Path} {above visited : List Key}
  {pending : List Path} {location here there place : Location}

theorem mem_entries (keeps : search.order.Keeps) : p ∈ search.entries directory location ↔
    ∃ name ∈ search.fs.names location, search.admits directory name = true ∧
      p = directory.join name := by
  simp only [entries, List.mem_map, List.mem_filter, (keeps _ _).mem_iff]
  exact exists_congr fun name => by rw [and_assoc, eq_comm (a := p)]

theorem mem_subdirectories (keeps : search.order.Keeps) :
    p ∈ search.subdirectories directory location ↔
      ∃ name ∈ search.fs.names location, search.admits directory name = true ∧
        p = directory.join name ∧ search.fs.isDirectory p = true ∧
          Config.find? search.fs p = none := by
  rw [subdirectories, List.mem_filter, mem_entries keeps]
  simp only [Bool.and_eq_true, Option.isNone_iff_eq_none]
  constructor
  · rintro ⟨⟨name, listed, admitted, spelled⟩, open_⟩
    exact ⟨name, listed, admitted, spelled, open_⟩
  · rintro ⟨name, listed, admitted, spelled, open_⟩
    exact ⟨⟨name, listed, admitted, spelled⟩, open_⟩

theorem mem_templates (keeps : search.order.Keeps) :
    p ∈ search.templates directory location ↔
      ∃ name ∈ search.fs.names location, search.admits directory name = true ∧
        p = directory.join name ∧ search.fs.isDirectory p = false ∧
          Template.isTemplate p = true := by
  rw [templates, List.mem_filter, mem_entries keeps]
  simp only [Bool.and_eq_true, Bool.not_eq_true']
  constructor
  · rintro ⟨⟨name, listed, admitted, spelled⟩, found⟩
    exact ⟨name, listed, admitted, spelled, found⟩
  · rintro ⟨name, listed, admitted, spelled, found⟩
    exact ⟨⟨name, listed, admitted, spelled⟩, found⟩

theorem place_of_key (leads : search.fs.directoryAt? p = some place)
    (leadsToo : search.fs.directoryAt? q = some there) (same : search.key p = search.key q) :
    place = there := by
  unfold key at same
  split at same
  · next told =>
    split at same
    · next toldToo =>
      cases same
      exact (search.fs.resolve?_directory p leads told).symm.trans
        (search.fs.resolve?_directory q leadsToo toldToo)
    · cases same
  · split at same
    · cases same
    · cases same
      exact Option.some.inj (leads.symm.trans leadsToo)

theorem enter_lost (lost : search.fs.directoryAt? directory = none) :
    search.enter visited (directory :: pending) = search.enter visited pending := by
  rw [enter]
  split
  · rfl
  · next leads => cases lost.symm.trans leads

theorem enter_again (leads : search.fs.directoryAt? directory = some location)
    (old : search.key directory ∈ visited) :
    search.enter visited (directory :: pending) = search.enter visited pending := by
  rw [enter]
  split
  · rfl
  · next again =>
    cases leads.symm.trans again
    rw [dif_pos old]

theorem enter_new (leads : search.fs.directoryAt? directory = some location)
    (new : search.key directory ∉ visited) : search.enter visited (directory :: pending) =
      (directory, location) :: search.enter (search.key directory :: visited)
        (search.subdirectories directory location ++ pending) := by
  rw [enter]
  split
  · next lost => cases leads.symm.trans lost
  · next again =>
    cases leads.symm.trans again
    rw [dif_neg new]

theorem enter_keys : ((search.enter visited pending).map fun entry => search.key entry.1).Nodup ∧
    ∀ entry ∈ search.enter visited pending, search.key entry.1 ∉ visited := by
  fun_induction enter search visited pending with
  | case1 => exact ⟨List.nodup_nil, nofun⟩
  | case2 visited directory rest lost ih => exact ih
  | case3 visited directory rest location leads old ih => exact ih
  | case4 visited directory rest location leads new ih =>
    obtain ⟨once, others⟩ := ih
    refine ⟨?_, ?_⟩
    · rw [List.map_cons, List.nodup_cons]
      refine ⟨?_, once⟩
      intro again
      obtain ⟨entry, member, same⟩ := List.mem_map.mp again
      exact others entry member (List.mem_cons.mpr (.inl same))
    · intro entry member
      rcases List.mem_cons.mp member with rfl | member
      · exact new
      · exact fun old => others entry member (List.mem_cons_of_mem _ old)

def Reaches (search : Search) (visited : List Key) (pending : List Path) (key : Key) : Prop :=
  key ∈ visited ∨ ∃ entry ∈ search.enter visited pending, search.key entry.1 = key

-- Nothing is left out: all directories that are pending are reached, and so are those that
-- can be gone on to from where the search has entered.
theorem enter_closed :
    (∀ q ∈ pending, ∀ place, search.fs.directoryAt? q = some place →
      search.Reaches visited pending (search.key q)) ∧
    ∀ entry ∈ search.enter visited pending, ∀ q ∈ search.subdirectories entry.1 entry.2,
      ∀ place, search.fs.directoryAt? q = some place →
        search.Reaches visited pending (search.key q) := by
  fun_induction enter search visited pending with
  | case1 => exact ⟨nofun, nofun⟩
  | case2 visited directory rest lost ih =>
    have same : search.Reaches visited (directory :: rest) = search.Reaches visited rest := by
      funext key
      rw [Reaches, Reaches, enter_lost lost]
    rw [same]
    refine ⟨?_, ih.2⟩
    intro q member place leads
    rcases List.mem_cons.mp member with rfl | member
    · exact absurd (lost.symm.trans leads) nofun
    · exact ih.1 q member place leads
  | case3 visited directory rest location leads old ih =>
    have same : search.Reaches visited (directory :: rest) = search.Reaches visited rest := by
      funext key
      rw [Reaches, Reaches, enter_again leads old]
    rw [same]
    refine ⟨?_, ih.2⟩
    intro q member place leadsTo
    rcases List.mem_cons.mp member with rfl | member
    · exact .inl old
    · exact ih.1 q member place leadsTo
  | case4 visited directory rest location leads new ih =>
    have own : search.Reaches visited (directory :: rest) (search.key directory) := by
      refine .inr ⟨(directory, location), ?_, rfl⟩
      rw [enter_new leads new]
      exact List.mem_cons_self
    have wider : ∀ key, search.Reaches (search.key directory :: visited)
        (search.subdirectories directory location ++ rest) key →
        search.Reaches visited (directory :: rest) key := by
      rintro key (visitedNow | ⟨entry, entered, same⟩)
      · rcases List.mem_cons.mp visitedNow with rfl | before
        · exact own
        · exact .inl before
      · refine .inr ⟨entry, ?_, same⟩
        rw [enter_new leads new]
        exact List.mem_cons_of_mem _ entered
    refine ⟨?_, ?_⟩
    · intro q member place leadsTo
      rcases List.mem_cons.mp member with rfl | member
      · exact own
      · exact wider _ (ih.1 q (List.mem_append_right _ member) place leadsTo)
    · intro entry member q below place leadsTo
      rcases List.mem_cons.mp member with rfl | member
      · exact wider _ (ih.1 q (List.mem_append_left _ below) place leadsTo)
      · exact wider _ (ih.2 entry member q below place leadsTo)

-- The search enters directories by ways only: what is pending lies at the end of ways through
-- visited directories.
theorem enter_ways
    (known : ∀ q ∈ pending, ∀ place, search.fs.directoryAt? q = some place →
      search.key q ∉ visited →
      ∃ above, search.Way root above q place ∧ above ⊆ visited)
    (entered : (p, place) ∈ search.enter visited pending) : ∃ above, search.Way root above p place := by
  fun_induction enter search visited pending with
  | case1 => cases entered
  | case2 visited directory rest lost ih =>
    exact ih (fun q member => known q (List.mem_cons_of_mem _ member)) entered
  | case3 visited directory rest location leads old ih =>
    exact ih (fun q member => known q (List.mem_cons_of_mem _ member)) entered
  | case4 visited directory rest location leads new ih =>
    obtain ⟨above, way, passed⟩ := known directory List.mem_cons_self location leads new
    rcases List.mem_cons.mp entered with first | entered
    · cases first
      exact ⟨above, way⟩
    · refine ih ?_ entered
      intro q member there leadsTo fresh
      rw [List.mem_cons, not_or] at fresh
      rcases List.mem_append.mp member with below | member
      · refine ⟨search.key directory :: above, .down way below leadsTo ?_,
          List.cons_subset_cons _ passed⟩
        rw [List.mem_cons, not_or]
        exact ⟨fresh.1, fun on => fresh.2 (passed on)⟩
      · obtain ⟨others, wayThere, on⟩ :=
          known q (List.mem_cons_of_mem _ member) there leadsTo fresh.2
        exact ⟨others, wayThere, fun _ found => List.mem_cons_of_mem _ (on found)⟩

theorem enter_root_ways (entered : (p, place) ∈ search.enter [] [root]) :
    ∃ above, search.Way root above p place := by
  refine enter_ways ?_ entered
  intro q member place leads _
  cases List.mem_singleton.mp member
  exact ⟨[], .start leads, List.Subset.refl _⟩

theorem Way.leads (way : search.Way root above p place) :
    search.fs.directoryAt? p = some place := by
  cases way with
  | start leads => exact leads
  | down before below leads fresh => exact leads

-- By induction on the way: the directory it ends at is reached, and under no other path.
theorem enter_of_way (clear : search.Clear root) (way : search.Way root above p place) :
    (p, place) ∈ search.enter [] [root] := by
  have only : ∀ {p place above}, search.Way root above p place →
      search.Reaches [] [root] (search.key p) → (p, place) ∈ search.enter [] [root] := by
    rintro p place above way (old | ⟨⟨q, there⟩, entered, same⟩)
    · cases old
    · obtain ⟨others, wayThere⟩ := enter_root_ways entered
      cases place_of_key wayThere.leads way.leads same
      exact clear _ _ _ _ _ way wayThere ▸ entered
  induction way with
  | start leads =>
    exact only (.start leads) (enter_closed.1 root List.mem_cons_self _ leads)
  | down before below leads fresh ih =>
    exact only (.down before below leads fresh) (enter_closed.2 _ ih _ below _ leads)

theorem mem_enter (clear : search.Clear root) :
    (p, place) ∈ search.enter [] [root] ↔ ∃ above, search.Way root above p place :=
  ⟨enter_root_ways, fun ⟨_, way⟩ => enter_of_way clear way⟩

theorem Way.descends (keeps : search.order.Keeps) (way : search.Way root above p place) :
    ∃ names, p = root.descend names := by
  induction way with
  | start leads => exact ⟨[], rfl⟩
  | down before below leads fresh ih =>
    obtain ⟨names, rfl⟩ := ih
    obtain ⟨name, _, _, rfl, _⟩ := (mem_subdirectories keeps).mp below
    exact ⟨names ++ [name], (Path.descend_concat root names name).symm⟩

theorem mem_run : p ∈ search.run root ↔
    ∃ q place, (q, place) ∈ search.enter [] [root] ∧ p ∈ search.templates q place := by
  simp [run, List.mem_mergeSort]

theorem run_names (keeps : search.order.Keeps) (found : p ∈ search.run root) :
    ∃ above, ∃ name : Name,
      p = (root.descend above).join name ∧ Template.isTemplate p = true := by
  obtain ⟨q, place, entered, template⟩ := mem_run.mp found
  obtain ⟨passed, way⟩ := enter_root_ways entered
  obtain ⟨above, rfl⟩ := way.descends keeps
  obtain ⟨name, _, _, spelled, _, isTemplate⟩ := (mem_templates keeps).mp template
  exact ⟨above, name, spelled, isTemplate⟩

theorem run_descends (keeps : search.order.Keeps) (found : p ∈ search.run root) :
    ∃ names, p = root.descend names := by
  obtain ⟨above, name, rfl, _⟩ := run_names keeps found
  exact ⟨above ++ [name], (Path.descend_concat root above name).symm⟩

theorem run_sorted : (search.run root).Pairwise fun p q => p.le q = true := Path.sorted_mergeSort _

theorem nodup_eraseDups (names : List Name) : names.eraseDups.Nodup := by
  induction length : names.length using Nat.strongRecOn generalizing names with
  | ind n ih =>
    cases names with
    | nil => exact List.nodup_nil
    | cons name rest =>
      rw [List.eraseDups_cons, List.nodup_cons, List.mem_eraseDups]
      refine ⟨by simp, ih _ ?_ _ rfl⟩
      rw [← length, List.length_cons]
      exact Nat.lt_succ_of_le (List.length_filter_le _ _)

theorem templates_nodup (keeps : search.order.Keeps) : (search.templates p place).Nodup := by
  have listed : (search.order place (search.fs.names place)).Nodup :=
    (keeps _ _).nodup_iff.mpr (nodup_eraseDups _)
  refine ((listed.filter _).map_on ?_).filter _
  intro name _ other _ same
  have alike := congrArg Path.components same
  rw [Path.components_join name.isPiece, Path.components_join other.isPiece] at alike
  exact Name.ext (by simpa using alike)

theorem run_nodup (keeps : search.order.Keeps) : (search.run root).Nodup := by
  refine (List.mergeSort_perm _ _).nodup_iff.mpr (List.nodup_flatMap.mpr ⟨?_, ?_⟩)
  · intro entry entered
    exact templates_nodup keeps
  · refine (List.pairwise_map.mp enter_keys.1).imp_of_mem ?_
    rintro ⟨p, place⟩ ⟨q, other⟩ entered enteredToo differ path found foundToo
    obtain ⟨above, way⟩ := enter_root_ways entered
    obtain ⟨others, wayToo⟩ := enter_root_ways enteredToo
    obtain ⟨names, rfl⟩ := way.descends keeps
    obtain ⟨namesToo, rfl⟩ := wayToo.descends keeps
    obtain ⟨name, _, _, rfl, _⟩ := (mem_templates keeps).mp found
    obtain ⟨nameToo, _, _, same, _⟩ := (mem_templates keeps).mp foundToo
    have alike := congrArg Path.components same
    rw [Path.components_join name.isPiece, Path.components_join nameToo.isPiece] at alike
    have names := Path.descend_injective (List.append_inj_left' alike rfl)
    subst names
    exact differ rfl

theorem run_strict (keeps : search.order.Keeps) :
    (search.run root).Pairwise fun p q => p.le q = true ∧ p.same q = false := by
  refine (run_sorted.and (run_nodup keeps)).imp_of_mem ?_
  rintro p q found foundToo ⟨before, differ⟩
  refine ⟨before, ?_⟩
  obtain ⟨names, rfl⟩ := run_descends keeps found
  obtain ⟨others, rfl⟩ := run_descends keeps foundToo
  rw [Bool.eq_false_iff, Ne, Path.same_iff]
  intro same
  exact differ (by rw [Path.descend_injective same])

end Search

def searchBelow (fs : FileSystem) (root : Path) (excluded : IgnoreList) (disableGitignore : Bool)
    (order : ListingOrder := storedOrder) : Search where
  fs := fs
  lists := (if disableGitignore then [] else [IgnoreList.ofDirectory fs root]) ++ [excluded]
  order := order

variable {fs : FileSystem} {root : Path} {patterns : List Text} {disableGitignore : Bool}
  {excluded : IgnoreList} {order : ListingOrder}

theorem discover_of_accepted (accepted : IgnoreList.ofPatterns root patterns = .ok excluded) :
    discover fs root patterns disableGitignore order =
      .ok ((searchBelow fs root excluded disableGitignore order).run root) := by
  rw [discover, accepted]
  rfl

end DocAssembly.Discovery
