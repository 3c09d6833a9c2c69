import DocAssembly.Proofs.FileSystem.Writing
import DocAssembly.Proofs.Path.Parents

namespace DocAssembly.FileSystem

variable {a b c before after : FileSystem} {links : Nat} {location other : Location}
  {todo rest : List Step} {place placeToo : Place} {p q : Path}

structure Same (a b : FileSystem) : Prop where
  home : a.workingDirectory = b.workingDirectory
  room : a.room = b.room
  places : ∀ location, a.node? location = b.node? location

structure Alike (a b : FileSystem) : Prop where
  home : a.workingDirectory = b.workingDirectory
  links : ∀ location target,
    a.node? location = some (.link target) ↔ b.node? location = some (.link target)

namespace Alike

theorem symm (alike : Alike a b) : Alike b a :=
  ⟨alike.home.symm, fun location target => (alike.links location target).symm⟩

theorem trans (first : Alike a b) (last : Alike b c) : Alike a c :=
  ⟨first.home.trans last.home,
    fun location target => (first.links location target).trans (last.links location target)⟩

end Alike

theorem Grows.alike {written : Location → Prop} (grown : Grows written before after) :
    Alike before after := by
  refine ⟨grown.home.symm, ?_⟩
  intro location target
  refine ⟨grown.link, ?_⟩
  intro there
  have becomes := grown.places location
  rw [there] at becomes
  generalize before.node? location = old at becomes
  cases becomes
  rfl

theorem follow_through {step : Step} (reached : a.follow links location (step :: rest) = .ok place) :
    a.node? location = some .directory := by
  rw [follow.eq_def] at reached
  by_contra lost
  simp [lost] at reached

theorem follow_down_parts {piece : Text} {name : Name} (named : Name.ofPiece piece = .ok name)
    (reached : a.follow links location (.down piece :: rest) = .ok place) :
    (a.node? (name :: location) = none ∧ rest = [] ∧ place = .vacant location name) ∨
    (∃ target left, a.node? (name :: location) = some (.link target) ∧ links = left + 1 ∧
      a.follow left (start target location) (steps target ++ rest) = .ok place) ∨
    ∃ node, a.node? (name :: location) = some node ∧ (∀ target, node ≠ .link target) ∧
      a.follow links (name :: location) rest = .ok place := by
  have there := follow_through reached
  cases entry : a.node? (name :: location) with
  | none =>
    rw [follow] at reached
    simp only [there, ne_eq, not_true_eq_false, if_false, named, entry] at reached
    split at reached
    · next ends => exact .inl ⟨rfl, ends, (Except.ok.inj reached).symm⟩
    · cases reached
  | some node =>
    right
    by_cases isLink : ∃ target, node = .link target
    · obtain ⟨target, rfl⟩ := isLink
      cases links with
      | zero =>
        rw [follow] at reached
        simp [there, named, entry] at reached
      | succ left =>
        rw [follow_link there named entry] at reached
        exact .inl ⟨target, left, rfl, rfl, reached⟩
    · rw [not_exists] at isLink
      rw [follow_entry there named entry isLink] at reached
      exact .inr ⟨node, rfl, isLink, reached⟩

-- By induction on the way in one file system. In the other, the same link is at each name, or none.
theorem follow_alike (alike : Alike a b) (reached : a.follow links location todo = .ok place)
    (reachedToo : b.follow links location todo = .ok placeToo) :
    place.location = placeToo.location := by
  fun_induction FileSystem.follow a links location todo with
  | case1 =>
    rw [follow_nil] at reachedToo
    cases reached
    cases reachedToo
    rfl
  | case2 => cases reached
  | case3 _ _ _ _ ih =>
    rw [follow_self (follow_through reachedToo)] at reachedToo
    exact ih reached reachedToo
  | case4 _ _ _ _ ih =>
    rw [follow_up (follow_through reachedToo)] at reachedToo
    exact ih reached reachedToo
  | case5 => cases reached
  | case6 links location there piece name named free =>
    cases reached
    rcases follow_down_parts named reachedToo with
      ⟨_, _, rfl⟩ | ⟨target, _, link, _⟩ | ⟨node, _, _, goesOn⟩
    · rfl
    · cases free.symm.trans ((alike.links _ _).mpr link)
    · rw [follow_nil] at goesOn
      cases goesOn
      rfl
  | case7 => cases reached
  | case8 => cases reached
  | case9 location rest there piece name named target link links ih =>
    have linkToo := (alike.links _ _).mp link
    rcases follow_down_parts named reachedToo with
      ⟨free, _⟩ | ⟨other, left, otherLink, more, goesOn⟩ | ⟨node, entry, noLink, _⟩
    · cases free.symm.trans linkToo
    · cases otherLink.symm.trans linkToo
      cases more
      exact ih reached goesOn
    · cases entry.symm.trans linkToo
      exact absurd rfl (noLink target)
  | case10 links location rest there piece name named node noLink entry ih =>
    rcases follow_down_parts named reachedToo with
      ⟨_, rfl, rfl⟩ | ⟨target, _, link, _⟩ | ⟨_, _, _, goesOn⟩
    · rw [follow_nil] at reached
      cases reached
      rfl
    · cases entry.symm.trans ((alike.links _ _).mpr link)
      exact absurd rfl (noLink target)
    · exact ih reached goesOn

theorem locate_alike (alike : Alike a b) (leads : a.locate p = .ok location)
    (leadsToo : b.locate p = .ok other) : location = other := by
  have reached := (locate_eq_ok.mp leads).2
  rw [alike.home] at reached
  exact follow_alike alike reached (locate_eq_ok.mp leadsToo).2

theorem ancestors_steps (shorter : p ∈ ancestors q) :
    p.isAbsolute = q.isAbsolute ∧ ∃ rest, namedSteps q = namedSteps p ++ rest := by
  unfold ancestors at shorter
  generalize q.components.length = fuel at shorter
  induction fuel generalizing q with
  | zero =>
    cases List.mem_singleton.mp shorter
    exact ⟨rfl, [], (List.append_nil _).symm⟩
  | succ fuel ih =>
    rcases List.mem_cons.mp shorter with rfl | shorter
    · exact ⟨rfl, [], (List.append_nil _).symm⟩
    · cases above : q.parent? with
      | none =>
        rw [above] at shorter
        cases shorter
      | some parent =>
        rw [above] at shorter
        obtain ⟨absolute, rest, goesOn⟩ := ih shorter
        obtain ⟨absoluteToo, last, _, goesOnToo⟩ := Path.namedSteps_parent above
        refine ⟨absolute.trans absoluteToo, rest ++ last, ?_⟩
        rw [goesOnToo, goesOn, List.append_assoc]

-- A directory that a path goes through is there for all who come to the end of the path.
theorem directory_on_way (alike : Alike a b) (leads : a.locate p = .ok location)
    (there : a.node? location = some .directory) (absolute : p.isAbsolute = q.isAbsolute)
    (goesOn : namedSteps q = namedSteps p ++ rest) (further : rest ≠ [])
    (leadsToo : b.locate q = .ok other) : b.node? location = some .directory := by
  have reached := follow_namedSteps (directoryAt?_eq_some.mpr ⟨leads, there⟩)
  have whole := (locate_eq_ok.mp leadsToo).2
  have started : start p b.workingDirectory = start q b.workingDirectory := by
    rw [start, start, absolute]
  rw [← started, steps, goesOn, List.append_assoc] at whole
  obtain ⟨middle, before⟩ := follow_before (List.append_ne_nil_of_left_ne_nil further _) whole
  obtain ⟨left, _, after⟩ := follow_append before
  rw [alike.home] at reached
  cases (follow_alike alike reached before : location = middle)
  rw [after] at whole
  obtain ⟨step, more, rfl⟩ := List.exists_cons_of_ne_nil further
  exact follow_through whole

end DocAssembly.FileSystem
