/-
The way that a path spells, whatever stands there. A walk that comes to its end has gone that way
(`Leads.eq_goal`), and what a path leads to depends on nothing but what stands along it
(`look_congr_way`). A path without `..` leads to a directory if one stands at its end
(`isDirectory_iff_down`).
-/
import Investigations.Proofs.Files.Directories

namespace Investigations.Files

/-! ## The way of steps -/

namespace Step

/-- Where a step leads from a place, whatever stands there. -/
def target (here : Place) : Step → Place
  | .up => here.dropLast
  | .into name => here ++ [name]

/-- The places that steps come by, from the one where they start to the one where they end. -/
def way : Place → List Step → List Place
  | here, [] => [here]
  | here, step :: rest => here :: way (step.target here) rest

/-- The place where steps end. -/
def goal (here : Place) (steps : List Step) : Place := steps.foldl target here

theorem mem_way_start (here : Place) (steps : List Step) : here ∈ way here steps := by
  cases steps with
  | nil => exact List.mem_singleton_self here
  | cons step rest => exact List.mem_cons_self ..

theorem goal_mem_way {here : Place} {steps part : List Step} (h : part <+: steps) :
    goal here part ∈ way here steps := by
  induction part generalizing here steps with
  | nil => exact mem_way_start here steps
  | cons step part ih =>
    obtain ⟨more, rfl⟩ := h
    exact List.mem_cons_of_mem _ (ih (List.prefix_append part more))

theorem goal_concat (here : Place) (steps : List Step) (name : String) :
    goal here (steps ++ [.into name]) = goal here steps ++ [name] := List.foldl_concat ..

theorem way_concat (here : Place) (steps : List Step) (name : String) :
    way here (steps ++ [.into name]) = way here steps ++ [goal here steps ++ [name]] := by
  induction steps generalizing here with
  | nil => rfl
  | cons step steps ih =>
    rw [List.cons_append, way, way, ih]
    rfl

/-- Names lead down one after the other. -/
theorem goal_names (here : Place) (names : List String) :
    goal here (names.map .into) = here ++ names := by
  induction names generalizing here with
  | nil => simp [goal]
  | cons name names ih =>
    have hstep : goal here ((name :: names).map .into) = goal (here ++ [name]) (names.map .into) := rfl
    rw [hstep, ih, List.append_assoc]
    rfl

end Step

namespace Tree

theorem follow_eq_goal {root : Tree} {here place : Place} {steps : List Step}
    (h : root.follow here steps = .ok place) : place = Step.goal here steps := by
  refine follow_on_way (P := fun p rest => Step.goal p rest = Step.goal here steps) ?_ ?_ rfl h
  · exact fun p rest hp => hp
  · exact fun p name rest hp => hp

/-- Walks agree on trees that agree along the way. -/
theorem follow_congr_way {a b : Tree} {here : Place} {steps : List Step}
    (same : ∀ p ∈ Step.way here steps, a.node? p = b.node? p) :
    a.follow here steps = b.follow here steps := by
  refine follow_congr (P := fun p rest => ∀ q ∈ Step.way p rest, a.node? q = b.node? q) ?_ ?_ ?_ same
  · exact fun p rest hp => hp p (Step.mem_way_start p rest)
  · exact fun p rest hp q hq => hp q (List.mem_cons_of_mem _ hq)
  · exact fun p name rest hp q hq => hp q (List.mem_cons_of_mem _ hq)

/-- A walk down comes to its end if something stands there. -/
theorem follow_down_iff {root : Tree} {here : Place} {names : List String}
    (hn : root.node? (here ++ names) ≠ none) :
    root.follow here (names.map .into) = .ok (here ++ names) ↔
      ∀ name ∈ names, ¬ nameLimit < name.utf8ByteSize := by
  induction names generalizing here with
  | nil => simp [follow]
  | cons name names ih =>
    have happend : here ++ name :: names = here ++ [name] ++ names := by simp
    have hdir : root.node? here = some .directory := by
      by_contra hd
      exact hn (node?_below hd name names)
    have hnext : root.node? (here ++ [name]) ≠ none := by
      intro hfree
      cases names with
      | nil => exact hn hfree
      | cons next rest =>
        rw [happend] at hn
        exact hn (node?_below (by rw [hfree]; simp) next rest)
    rw [happend] at hn
    rw [List.map_cons, follow_into, hdir, List.forall_mem_cons, ← ih hn, happend]
    dsimp only
    by_cases hlong : nameLimit < name.utf8ByteSize
    · rw [if_pos hlong]
      constructor
      · intro h
        cases h
      · exact fun h => absurd hlong h.1
    · rw [if_neg hlong, if_neg hnext]
      exact ⟨fun h => ⟨hlong, h⟩, fun h => h.2⟩

end Tree

/-! ## The way of a path -/

namespace Disk

/-- The places that a path spells a way by. -/
def way (disk : Disk) (path : Path) : List Place := Step.way (disk.start path) path.steps

/-- The place at the end of that way. -/
def goal (disk : Disk) (path : Path) : Place := Step.goal (disk.start path) path.steps

theorem goal_mem_way (disk : Disk) (path : Path) : disk.goal path ∈ disk.way path :=
  Step.goal_mem_way (List.prefix_refl _)

theorem way_congr {a b : Disk} (hc : a.cwd = b.cwd) (path : Path) : a.way path = b.way path := by
  rw [way, way, start_congr hc]

theorem goal_congr {a b : Disk} (hc : a.cwd = b.cwd) (path : Path) : a.goal path = b.goal path := by
  rw [goal, goal, start_congr hc]

theorem goal_child (disk : Disk) {dir : Path} {name : String} (h : IsName name) :
    disk.goal (dir.child name) = disk.goal dir ++ [name] := by
  rw [goal, disk.start_child h, Path.steps_child h, Step.goal_concat]
  rfl

theorem way_child (disk : Disk) {dir : Path} {name : String} (h : IsName name) :
    disk.way (dir.child name) = disk.way dir ++ [disk.goal (dir.child name)] := by
  rw [way, disk.goal_child h, disk.start_child h, Path.steps_child h, Step.way_concat]
  rfl

theorem goal_eq_place {path : Path} (h : .up ∉ path.steps) (disk : Disk) :
    disk.goal path = disk.place path := by
  rw [goal, place, Path.steps_eq_map_names h, Step.goal_names]

theorem Leads.eq_goal {disk : Disk} {path : Path} {p : Place} (h : disk.Leads path p) :
    p = disk.goal path := Tree.follow_eq_goal h

theorem OnWay.mem_way {disk : Disk} {path : Path} {p : Place} (h : disk.OnWay path p) :
    p ∈ disk.way path := by
  obtain ⟨part, hpart, hp⟩ := h
  rw [Tree.follow_eq_goal hp]
  exact Step.goal_mem_way hpart

/-- What a path leads to depends on nothing but what stands along its way. -/
theorem look_congr_way {a b : Disk} (hc : a.cwd = b.cwd) {path : Path}
    (same : ∀ p ∈ a.way path, a.root.node? p = b.root.node? p) : a.look path = b.look path := by
  have hwalk : a.root.follow (a.start path) path.steps = b.root.follow (b.start path) path.steps := by
    rw [← start_congr hc]
    exact Tree.follow_congr_way same
  rw [look_eq, look_eq, ← hwalk]
  rcases hw : a.root.follow (a.start path) path.steps with fault | place
  · rfl
  · have hend : a.root.node? place = b.root.node? place :=
      same place (Tree.follow_eq_goal hw ▸ a.goal_mem_way path)
    simp only [hend]

/-- A path without `..` leads to a directory if one stands at its end. -/
theorem isDirectory_iff_down {disk : Disk} {path : Path} (hup : .up ∉ path.steps) :
    disk.isDirectory path = true ↔ path.fault? = none ∧ path.text ≠ "" ∧
      (∀ name ∈ path.names, ¬ nameLimit < name.utf8ByteSize) ∧
        disk.root.node? (disk.place path) = some .directory := by
  rw [isDirectory_iff, look_eq_directory, Path.steps_eq_map_names hup]
  refine and_congr_right fun _ => and_congr_right fun _ => ?_
  constructor
  · rintro ⟨p, hp, hd⟩
    cases Tree.follow_down hp
    exact ⟨(Tree.follow_down_iff (by rw [hd]; simp)).1 hp, hd⟩
  · rintro ⟨hshort, hd⟩
    have hexists : disk.root.node? (disk.start path ++ path.names) ≠ none := by
      rw [← place, hd]
      simp
    exact ⟨_, (Tree.follow_down_iff hexists).2 hshort, hd⟩

theorem leads_place {disk : Disk} {path : Path} (hup : .up ∉ path.steps)
    (h : disk.isDirectory path = true) : disk.Leads path (disk.place path) := by
  obtain ⟨-, -, place, hwalk, -⟩ := look_eq_directory.1 (isDirectory_iff.1 h)
  rwa [Leads.eq_goal hwalk, goal_eq_place hup] at hwalk

theorem isDirectory_congr_down {a b : Disk} (hc : a.cwd = b.cwd) {path : Path}
    (hup : .up ∉ path.steps)
    (same : a.root.node? (a.place path) = b.root.node? (a.place path)) :
    a.isDirectory path = b.isDirectory path := by
  have hplace : b.place path = a.place path := by rw [place, place, start_congr hc]
  rw [Bool.eq_iff_iff, isDirectory_iff_down hup, isDirectory_iff_down hup, hplace, same]

/-- What the path of an entry leads to depends on the directory and on what stands there under the
name, if the directory is found. -/
theorem look_child_congr {a b : Disk} {dir : Path} {name : String} (hn : IsName name) {p : Place}
    (ha : a.Leads dir p) (hb : b.Leads dir p) (hdir : a.root.node? p = b.root.node? p)
    (hentry : a.root.node? (p ++ [name]) = b.root.node? (p ++ [name])) :
    a.look (dir.child name) = b.look (dir.child name) := by
  have hwalk : a.root.follow (a.start (dir.child name)) (dir.child name).steps =
      b.root.follow (b.start (dir.child name)) (dir.child name).steps := by
    rw [a.start_child hn, b.start_child hn, Path.steps_child hn, Tree.follow_append,
      Tree.follow_append, ha, hb]
    dsimp only
    rw [Tree.follow_into, Tree.follow_into, hdir, hentry]
    rfl
  rw [look_eq, look_eq, ← hwalk]
  rcases hw : a.root.follow (a.start (dir.child name)) (dir.child name).steps with fault | place
  · rfl
  · have hplace : place = p ++ [name] := by
      rw [Leads.eq_goal hw, a.goal_child hn, ← Leads.eq_goal ha]
    simp only [hplace, hentry]

end Disk

end Investigations.Files
