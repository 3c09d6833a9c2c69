import DocAssembly.Proofs.Discovery.Ways
import Mathlib

namespace DocAssembly.Discovery

namespace Search

variable {search : Search} {root p q : Path} {above : List Key} {place : Location}

def reorder (search : Search) (order : ListingOrder) : Search := { search with order }

variable {order : ListingOrder}

theorem Way.reorder (keeps : search.order.Keeps) (keepsToo : order.Keeps)
    (way : search.Way root above p place) : (search.reorder order).Way root above p place := by
  induction way with
  | start leads => exact .start leads
  | down before below leads fresh ih =>
    refine .down ih ?_ leads fresh
    exact (mem_subdirectories keepsToo).mpr ((mem_subdirectories keeps).mp below)

theorem way_reorder (keeps : search.order.Keeps) (keepsToo : order.Keeps) :
    (search.reorder order).Way root above p place ↔ search.Way root above p place :=
  ⟨@Way.reorder (search.reorder order) root p above place search.order keepsToo keeps,
    fun way => way.reorder keeps keepsToo⟩

theorem Clear.reorder (keeps : search.order.Keeps) (keepsToo : order.Keeps)
    (clear : search.Clear root) : (search.reorder order).Clear root := by
  intro above p place others q first second
  rw [way_reorder keeps keepsToo] at first second
  exact clear above p place others q first second

theorem enter_reorder (keeps : search.order.Keeps) (keepsToo : order.Keeps)
    (clear : search.Clear root) :
    ((search.reorder order).enter [] [root]).Perm (search.enter [] [root]) := by
  refine (List.perm_ext_iff_of_nodup enter_keys.1.of_map enter_keys.1.of_map).mpr ?_
  rintro ⟨p, place⟩
  rw [mem_enter clear, mem_enter (clear.reorder keeps keepsToo)]
  exact exists_congr fun above => way_reorder keeps keepsToo

theorem templates_reorder (keeps : search.order.Keeps) (keepsToo : order.Keeps) :
    ((search.reorder order).templates p place).Perm (search.templates p place) := by
  have listed := (keepsToo place (search.fs.names place)).trans
    (keeps place (search.fs.names place)).symm
  exact ((listed.filter _).map _).filter _

theorem run_reorder (keeps : search.order.Keeps) (keepsToo : order.Keeps)
    (clear : search.Clear root) :
    (search.reorder order).run root = search.run root := by
  have alike : ((search.reorder order).run root).Perm (search.run root) := by
    refine (List.mergeSort_perm _ _).trans (.trans ?_ (List.mergeSort_perm _ _).symm)
    exact (enter_reorder keeps keepsToo clear).flatMap fun entry _ =>
      templates_reorder keeps keepsToo
  refine alike.eq_of_pairwise ?_ run_sorted run_sorted
  intro p q found foundToo before after
  obtain ⟨names, rfl⟩ := @run_descends (search.reorder order) root p keepsToo found
  obtain ⟨others, rfl⟩ := run_descends keeps foundToo
  rw [Path.descend_injective (Path.le_antisymm before after)]

end Search

def backwards : ListingOrder := fun _ names => names.reverse

variable {fs : FileSystem} {root : Path} {patterns : List Text} {disableGitignore : Bool}
  {order other : ListingOrder}

theorem discover_reorder (keeps : order.Keeps) (keepsToo : other.Keeps)
    (clear : ∀ excluded, IgnoreList.ofPatterns root patterns = .ok excluded →
      (searchBelow fs root excluded disableGitignore order).Clear root) :
    discover fs root patterns disableGitignore order =
      discover fs root patterns disableGitignore other := by
  cases accepted : IgnoreList.ofPatterns root patterns with
  | error pattern => rw [discover, discover, accepted]
  | ok excluded =>
    rw [discover_of_accepted accepted, discover_of_accepted accepted]
    exact congrArg Except.ok (@Search.run_reorder
      (searchBelow fs root excluded disableGitignore order) root other
      keeps keepsToo (clear excluded accepted)).symm

theorem backwards_keeps : backwards.Keeps := fun _ names => names.reverse_perm

-- A link that leads back up to the root is no second path: the root is entered before it.
def looped : FileSystem where
  nodes := [
    ([.of "d"], .directory),
    ([.of "t.src.md", .of "d"], .file (.text [])),
    ([.of "loop", .of "d"], .link ⟨".."⟩),
    ([.of "u.src.md"], .link ⟨"d/t.src.md"⟩)]

def noPatterns : IgnoreList := IgnoreList.ofLines ⟨"."⟩ []

theorem looped_way {above : List Key} {p : Path} {place : Location}
    (way : (searchBelow looped ⟨"."⟩ noPatterns false).Way ⟨"."⟩ above p place) :
    (above = [] ∧ p = ⟨"."⟩ ∧ place = []) ∨
      (above = [.place []] ∧ p = ⟨"./d"⟩ ∧ place = [.of "d"]) := by
  have keyRoot : (searchBelow looped ⟨"."⟩ noPatterns false).key ⟨"."⟩ = .place [] := by cbv
  have keyBack : (searchBelow looped ⟨"."⟩ noPatterns false).key ⟨"./d/loop"⟩ = .place [] := by cbv
  have root : looped.directoryAt? ⟨"."⟩ = some [] := by cbv
  have inner : looped.directoryAt? ⟨"./d"⟩ = some [.of "d"] := by cbv
  have belowRoot : (searchBelow looped ⟨"."⟩ noPatterns false).subdirectories ⟨"."⟩ [] =
      [⟨"./d"⟩] := by cbv
  have belowInner : (searchBelow looped ⟨"."⟩ noPatterns false).subdirectories ⟨"./d"⟩ [.of "d"] =
      [⟨"./d/loop"⟩] := by cbv
  induction way with
  | start leads =>
    cases root.symm.trans leads
    exact .inl ⟨rfl, rfl, rfl⟩
  | down before below leads fresh ih =>
    rcases ih with ⟨rfl, rfl, rfl⟩ | ⟨rfl, rfl, rfl⟩
    · rw [belowRoot, List.mem_singleton] at below
      subst below
      cases inner.symm.trans leads
      exact .inr ⟨congrArg (· :: []) keyRoot, rfl, rfl⟩
    · rw [belowInner, List.mem_singleton] at below
      subst below
      rw [keyBack] at fresh
      exact absurd (List.mem_cons_of_mem _ List.mem_cons_self) fresh

theorem discover_reorder_looped :
    storedOrder.Keeps ∧ backwards.Keeps ∧
      discover looped ⟨"."⟩ [] false = discover looped ⟨"."⟩ [] false backwards := by
  refine ⟨storedOrder_keeps, backwards_keeps, ?_⟩
  refine discover_reorder storedOrder_keeps backwards_keeps ?_
  intro excluded accepted
  cases (show IgnoreList.ofPatterns ⟨"."⟩ [] = .ok noPatterns from rfl).symm.trans accepted
  intro above p place others q first second
  rcases looped_way first with ⟨_, rfl, rfl⟩ | ⟨_, rfl, rfl⟩
  · rcases looped_way second with ⟨_, rfl, _⟩ | ⟨_, _, differ⟩
    · rfl
    · cases differ
  · rcases looped_way second with ⟨_, _, differ⟩ | ⟨_, rfl, _⟩
    · cases differ
    · rfl

-- The template in `z` can also be reached by way of `a`, where it is to be left out.
def aliased : FileSystem where
  nodes := [
    ([.of "a"], .link ⟨"z"⟩),
    ([.of "z"], .directory),
    ([.of "t.src.md", .of "z"], .file (.text []))]

def notInA : IgnoreList := IgnoreList.ofLines ⟨"."⟩ ["a/t.src.md"]

theorem aliased_root : aliased.directoryAt? ⟨"."⟩ = some [] := by cbv

theorem aliased_a : aliased.directoryAt? ⟨"./a"⟩ = some [.of "z"] := by cbv

theorem aliased_z : aliased.directoryAt? ⟨"./z"⟩ = some [.of "z"] := by cbv

theorem aliased_key_root {order : ListingOrder} :
    (searchBelow aliased ⟨"."⟩ notInA true order).key ⟨"."⟩ = .place [] := by cbv

theorem aliased_key_a {order : ListingOrder} :
    (searchBelow aliased ⟨"."⟩ notInA true order).key ⟨"./a"⟩ = .place [.of "z"] := by cbv

theorem aliased_key_z {order : ListingOrder} :
    (searchBelow aliased ⟨"."⟩ notInA true order).key ⟨"./z"⟩ = .place [.of "z"] := by cbv

theorem aliased_run : (searchBelow aliased ⟨"."⟩ notInA true).run ⟨"."⟩ = [] := by
  have belowRoot : (searchBelow aliased ⟨"."⟩ notInA true).subdirectories ⟨"."⟩ [] =
      [⟨"./a"⟩, ⟨"./z"⟩] := by cbv
  have below : (searchBelow aliased ⟨"."⟩ notInA true).subdirectories ⟨"./a"⟩ [.of "z"] =
      [] := by cbv
  have entered : (searchBelow aliased ⟨"."⟩ notInA true).enter [] [⟨"."⟩] =
      [(⟨"."⟩, []), (⟨"./a"⟩, [.of "z"])] := by
    rw [Search.enter_new aliased_root List.not_mem_nil, belowRoot, List.append_nil,
      Search.enter_new aliased_a (by rw [aliased_key_a, aliased_key_root]; decide), below,
      List.nil_append, Search.enter_again aliased_z (by rw [aliased_key_a, aliased_key_z]; simp),
      Search.enter]
  have inRoot : (searchBelow aliased ⟨"."⟩ notInA true).templates ⟨"."⟩ [] = [] := by cbv
  have inside : (searchBelow aliased ⟨"."⟩ notInA true).templates ⟨"./a"⟩ [.of "z"] = [] := by
    cbv
  rw [Search.run, entered]
  simp only [List.flatMap_cons, List.flatMap_nil, inRoot, inside, List.append_nil,
    List.mergeSort_nil]

theorem aliased_run_backwards :
    (searchBelow aliased ⟨"."⟩ notInA true backwards).run ⟨"."⟩ = [⟨"./z/t.src.md"⟩] := by
  have belowRoot : (searchBelow aliased ⟨"."⟩ notInA true backwards).subdirectories ⟨"."⟩ [] =
      [⟨"./z"⟩, ⟨"./a"⟩] := by cbv
  have below : (searchBelow aliased ⟨"."⟩ notInA true backwards).subdirectories ⟨"./z"⟩
      [.of "z"] = [] := by cbv
  have entered : (searchBelow aliased ⟨"."⟩ notInA true backwards).enter [] [⟨"."⟩] =
      [(⟨"."⟩, []), (⟨"./z"⟩, [.of "z"])] := by
    rw [Search.enter_new aliased_root List.not_mem_nil, belowRoot, List.append_nil,
      Search.enter_new aliased_z (by rw [aliased_key_z, aliased_key_root]; decide), below,
      List.nil_append, Search.enter_again aliased_a (by rw [aliased_key_a, aliased_key_z]; simp),
      Search.enter]
  have inRoot : (searchBelow aliased ⟨"."⟩ notInA true backwards).templates ⟨"."⟩ [] = [] := by
    cbv
  have inside : (searchBelow aliased ⟨"."⟩ notInA true backwards).templates ⟨"./z"⟩
      [.of "z"] = [⟨"./z/t.src.md"⟩] := by cbv
  rw [Search.run, entered]
  simp only [List.flatMap_cons, List.flatMap_nil, inRoot, inside, List.append_nil, List.nil_append,
    List.mergeSort_singleton]

theorem discover_aliased :
    storedOrder.Keeps ∧ backwards.Keeps ∧
      discover aliased ⟨"."⟩ ["a/t.src.md"] true = .ok [] ∧
      discover aliased ⟨"."⟩ ["a/t.src.md"] true backwards = .ok [⟨"./z/t.src.md"⟩] := by
  have accepted : IgnoreList.ofPatterns ⟨"."⟩ ["a/t.src.md"] = .ok notInA := by cbv
  refine ⟨storedOrder_keeps, backwards_keeps, ?_, ?_⟩
  · rw [discover_of_accepted accepted, aliased_run]
  · rw [discover_of_accepted accepted, aliased_run_backwards]

end DocAssembly.Discovery
