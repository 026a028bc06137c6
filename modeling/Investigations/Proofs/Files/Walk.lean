/-
What a tree is to a walk: at each place nothing, a directory, or a file with its bytes (`node?`).
Following a path asks for nothing else, so walks agree on trees that agree along the way
(`follow_congr`), and a walk that succeeds still does after files and directories are added
(`follow_grow`). Putting something without entries at a place changes what stands at that place only
(`node?_set`).
-/
import Investigations.Proofs.Files.Path

namespace Investigations.Files

/-! ## What stands at a place -/

/-- What stands at a place, without the entries of a directory. -/
inductive Node where
  | file (content : List UInt8)
  | directory
deriving DecidableEq, Repr

namespace Tree

/-- A tree as what stands at its top. -/
def node : Tree → Node
  | .file content => .file content
  | .directory _ => .directory

/-- What stands at a place of a tree. -/
def node? (root : Tree) (place : Place) : Option Node := (root.get? place).map node

theorem node?_eq_directory {root : Tree} {p : Place} :
    root.node? p = some .directory ↔ ∃ entries, root.get? p = some (.directory entries) := by
  unfold node?
  rcases root.get? p with _ | ⟨content⟩ | ⟨entries⟩ <;> simp [node]

theorem node?_eq_none {root : Tree} {p : Place} : root.node? p = none ↔ root.get? p = none := by
  simp [node?]

theorem lookup_eq_none_iff {entries : List (String × Tree)} {name : String} :
    entries.lookup name = none ↔ name ∉ entries.map (·.1) := by
  rw [List.lookup_eq_none_iff]
  simp only [bne_iff_ne, ne_eq, List.mem_map, not_exists, not_and]
  exact ⟨fun h entry he hn => h entry he hn.symm, fun h entry he hn => h entry he hn.symm⟩

/-- What has something below its top is a directory, and that stands in one of its entries. -/
theorem exists_child {root found : Tree} {name : String} {rest : Place}
    (h : root.get? (name :: rest) = some found) :
    ∃ entries child, root = directory entries ∧ entries.lookup name = some child ∧
      child.get? rest = some found := by
  cases root with
  | file content => cases h
  | directory entries =>
    rw [get?_cons] at h
    obtain ⟨child, hc, hchild⟩ := Option.bind_eq_some_iff.1 h
    exact ⟨entries, child, rfl, hc, hchild⟩

/-- What a directory has under a name is what stands there. -/
theorem node?_child {root : Tree} {above : Place} {entries : List (String × Tree)}
    (h : root.get? above = some (.directory entries)) (name : String) :
    root.node? (above ++ [name]) = (entries.lookup name).map node := by
  rw [node?, get?_append, h, Option.bind_some, get?_cons]
  rcases entries.lookup name with _ | child
  · rfl
  · rw [Option.bind_some, get?_nil]

/-- Below what is no directory nothing stands. -/
theorem node?_below {root : Tree} {p : Place} (h : root.node? p ≠ some .directory) (name : String)
    (rest : Place) : root.node? (p ++ name :: rest) = none := by
  rw [node?_eq_none, get?_append]
  rcases hp : root.get? p with _ | ⟨content⟩ | ⟨entries⟩
  · rfl
  · rfl
  · exact absurd (node?_eq_directory.2 ⟨entries, hp⟩) h

/-- What has something below it is a directory. -/
theorem node?_of_below {root : Tree} {p : Place} {name : String}
    (h : root.node? (p ++ [name]) ≠ none) : root.node? p = some .directory := by
  by_contra hd
  exact h (node?_below hd name [])

theorem node?_dropLast {root : Tree} {p : Place} (h : root.node? p = some .directory) :
    root.node? p.dropLast = some .directory := by
  rcases List.eq_nil_or_concat p with rfl | ⟨above, name, rfl⟩
  · exact h
  · rw [List.concat_eq_append] at h ⊢
    rw [List.dropLast_concat]
    exact node?_of_below (by rw [h]; simp)

/-! ## Putting something at a place -/

theorem get?_set_self {root : Tree} {above : Place} (h : root.node? above = some .directory)
    (name : String) (new : Tree) (rest : Place) :
    (root.set (above ++ [name]) new).get? (above ++ name :: rest) = new.get? rest := by
  induction above generalizing root with
  | nil =>
    obtain ⟨entries, hr⟩ := node?_eq_directory.1 h
    simp only [get?_nil, Option.some.injEq] at hr
    subst hr
    simp [set, get?_cons, lookup_insertEntry_self]
  | cons first above ih =>
    obtain ⟨entries, hr⟩ := node?_eq_directory.1 h
    obtain ⟨es, child, rfl, hc, hchild⟩ := exists_child hr
    rw [List.cons_append, set, List.cons_append, get?_cons, lookup_insertEntry_self, hc]
    exact ih (node?_eq_directory.2 ⟨entries, hchild⟩)

theorem node?_set_of_not_below {root : Tree} {above : Place} (h : root.node? above = some .directory)
    (name : String) (new : Tree) {q : Place} (hq : ¬ above ++ [name] <+: q) :
    (root.set (above ++ [name]) new).node? q = root.node? q := by
  induction above generalizing root q with
  | nil =>
    obtain ⟨entries, hr⟩ := node?_eq_directory.1 h
    simp only [get?_nil, Option.some.injEq] at hr
    subst hr
    cases q with
    | nil => simp [node?, set, node]
    | cons first q =>
      have hne : first ≠ name := by
        rintro rfl
        exact hq ⟨q, rfl⟩
      rw [List.nil_append, set, node?, node?, get?_cons, get?_cons, lookup_insertEntry_of_ne hne]
  | cons first above ih =>
    obtain ⟨entries, hr⟩ := node?_eq_directory.1 h
    obtain ⟨es, child, rfl, hc, hchild⟩ := exists_child hr
    cases q with
    | nil => simp [node?, set, node]
    | cons other q =>
      rw [List.cons_append, set, node?, node?, get?_cons, get?_cons]
      by_cases hne : other = first
      · subst hne
        rw [lookup_insertEntry_self, hc]
        refine ih (node?_eq_directory.2 ⟨entries, hchild⟩) fun hp => hq ?_
        rw [List.cons_append]
        exact List.cons_prefix_cons.2 ⟨rfl, hp⟩
      · rw [lookup_insertEntry_of_ne hne]

/-- A tree with nothing below its top. -/
def IsLeaf (tree : Tree) : Prop := tree.node ≠ .directory ∨ tree = .directory []

theorem IsLeaf.get?_cons {tree : Tree} (h : tree.IsLeaf) (name : String) (rest : Place) :
    tree.get? (name :: rest) = none := by
  rcases h with h | rfl
  · cases tree with
    | file content => rfl
    | directory entries => exact absurd rfl h
  · rfl

/-- Putting something without entries where no directory stands, in a directory that does, changes
what stands there and nothing else. -/
theorem node?_set {root : Tree} {above : Place} {name : String} {new : Tree}
    (habove : root.node? above = some .directory)
    (hfree : root.node? (above ++ [name]) ≠ some .directory) (hnew : new.IsLeaf) (q : Place) :
    (root.set (above ++ [name]) new).node? q =
      if q = above ++ [name] then some new.node else root.node? q := by
  by_cases hq : above ++ [name] <+: q
  · -- At the place stands the new tree. Below it nothing does, then or now.
    obtain ⟨rest, rfl⟩ := hq
    rw [List.append_assoc, List.singleton_append, node?, get?_set_self habove]
    cases rest with
    | nil => simp
    | cons next rest =>
      rw [hnew.get?_cons, if_neg (by simp)]
      have := node?_below hfree next rest
      rw [List.append_assoc, List.singleton_append] at this
      rw [this]; rfl
  · rw [node?_set_of_not_below habove name new hq, if_neg]
    rintro rfl
    exact hq (List.prefix_refl _)

/-! ## Walks -/

theorem follow_up (root : Tree) (here : Place) (rest : List Step) :
    root.follow here (.up :: rest) =
      match root.node? here with
      | some .directory => root.follow here.dropLast rest
      | some (.file _) => .error .notADirectory
      | none => .error .notFound := by
  rw [follow, node?]
  rcases root.get? here with _ | ⟨content⟩ | ⟨entries⟩ <;> rfl

theorem follow_into (root : Tree) (here : Place) (name : String) (rest : List Step) :
    root.follow here (.into name :: rest) =
      match root.node? here with
      | some .directory =>
        if nameLimit < name.utf8ByteSize then .error .invalidFilename
        else if root.node? (here ++ [name]) = none then .error .notFound
        else root.follow (here ++ [name]) rest
      | some (.file _) => .error .notADirectory
      | none => .error .notFound := by
  rw [follow, entry, node?, node?, get?_append]
  rcases root.get? here with _ | ⟨content⟩ | ⟨entries⟩
  · rfl
  · rfl
  · simp only [Option.map_some, node, Option.bind_some, get?_cons]
    by_cases hlong : nameLimit < name.utf8ByteSize
    · rw [if_pos hlong, if_pos hlong]
    · rw [if_neg hlong, if_neg hlong]
      rcases entries.lookup name with _ | child <;> simp

theorem follow_append (root : Tree) (here : Place) (steps more : List Step) :
    root.follow here (steps ++ more) =
      match root.follow here steps with
      | .ok place => root.follow place more
      | .error fault => .error fault := by
  induction steps generalizing here with
  | nil => rfl
  | cons step steps ih =>
    cases step with
    | up =>
      rw [List.cons_append, follow_up, follow_up]
      split
      · exact ih _
      · rfl
      · rfl
    | into name =>
      rw [List.cons_append, follow_into, follow_into]
      split
      · split
        · rfl
        · split
          · rfl
          · exact ih _
      · rfl
      · rfl

/-- A walk whose last step goes into a name ends at an entry of the directory that the steps before lead
to. -/
theorem follow_concat_ok {root : Tree} {here place : Place} {steps : List Step} {name : String}
    (h : root.follow here (steps ++ [.into name]) = .ok place) :
    ∃ above, root.follow here steps = .ok above ∧ root.node? above = some .directory ∧
      ¬ nameLimit < name.utf8ByteSize ∧ place = above ++ [name] := by
  rw [follow_append] at h
  split at h
  · rename_i above habove
    rw [follow_into] at h
    split at h
    · rename_i hdir
      split at h
      · cases h
      · rename_i hshort
        split at h
        · cases h
        · cases h
          exact ⟨above, habove, hdir, hshort, rfl⟩
    · cases h
    · cases h
  · cases h

/-- A walk that ends somewhere started there, or ends at something that exists. -/
theorem follow_ok_exists {root : Tree} {here place : Place} {steps : List Step}
    (h : root.follow here steps = .ok place) : root.node? here ≠ none ∨ place = here := by
  cases steps with
  | nil => cases h; exact .inr rfl
  | cons step steps =>
    left
    intro hn
    cases step with
    | up => rw [follow_up, hn] at h; cases h
    | into name => rw [follow_into, hn] at h; cases h

/-- `after` has every directory of `before`, and something wherever `before` has. -/
structure Grows (before after : Tree) : Prop where
  directory : ∀ p, before.node? p = some .directory → after.node? p = some .directory
  something : ∀ p, before.node? p ≠ none → after.node? p ≠ none

theorem Grows.refl (root : Tree) : Grows root root := ⟨fun _ h => h, fun _ h => h⟩

theorem Grows.trans {a b c : Tree} (h : Grows a b) (h' : Grows b c) : Grows a c :=
  ⟨fun p hp => h'.directory p (h.directory p hp), fun p hp => h'.something p (h.something p hp)⟩

theorem follow_grow {before after : Tree} (hg : Grows before after) {here place : Place}
    {steps : List Step} (h : before.follow here steps = .ok place) :
    after.follow here steps = .ok place := by
  induction steps generalizing here with
  | nil => exact h
  | cons step steps ih =>
    cases step with
    | up =>
      rw [follow_up] at h ⊢
      split at h
      · rename_i hd
        rw [hg.directory _ hd]
        exact ih h
      · cases h
      · cases h
    | into name =>
      rw [follow_into] at h ⊢
      split at h
      · rename_i hd
        rw [hg.directory _ hd]
        split at h
        · cases h
        · rename_i hlong
          split at h
          · cases h
          · rename_i hs
            rw [if_neg hlong, if_neg (hg.something _ hs)]
            exact ih h
      · cases h
      · cases h

/-- Walks agree on two trees that agree along the way. `P` says of a place and the steps from there
that the way comes by. -/
theorem follow_congr {a b : Tree} {P : Place → List Step → Prop}
    (same : ∀ p steps, P p steps → a.node? p = b.node? p)
    (up : ∀ p steps, P p (.up :: steps) → P p.dropLast steps)
    (into : ∀ p name steps, P p (.into name :: steps) → P (p ++ [name]) steps)
    {here : Place} {steps : List Step} (h : P here steps) :
    a.follow here steps = b.follow here steps := by
  induction steps generalizing here with
  | nil => rfl
  | cons step steps ih =>
    cases step with
    | up => rw [follow_up, follow_up, same _ _ h, ih (up _ _ h)]
    | into name =>
      have hnext := into _ _ _ h
      rw [follow_into, follow_into, same _ _ h, same _ _ hnext, ih hnext]

theorem follow_down {root : Tree} {here place : Place} {names : List String}
    (h : root.follow here (names.map .into) = .ok place) : place = here ++ names := by
  induction names generalizing here with
  | nil => cases h; simp
  | cons name names ih =>
    rw [List.map_cons, follow_into] at h
    split at h
    · split at h
      · cases h
      · split at h
        · cases h
        · rw [ih h]; simp
    · cases h
    · cases h

/-- Wherever a walk comes to an end, its way comes by. -/
theorem follow_on_way {root : Tree} {P : Place → List Step → Prop}
    (up : ∀ p steps, P p (.up :: steps) → P p.dropLast steps)
    (into : ∀ p name steps, P p (.into name :: steps) → P (p ++ [name]) steps)
    {here place : Place} {steps : List Step} (h : P here steps)
    (hf : root.follow here steps = .ok place) : P place [] := by
  induction steps generalizing here with
  | nil => cases hf; exact h
  | cons step steps ih =>
    cases step with
    | up =>
      rw [follow_up] at hf
      split at hf
      · exact ih (up _ _ h) hf
      · cases hf
      · cases hf
    | into name =>
      rw [follow_into] at hf
      split at hf
      · split at hf
        · cases hf
        · split at hf
          · cases hf
          · exact ih (into _ _ _ h) hf
      · cases hf
      · cases hf

end Tree

/-! ## What a path leads to -/

namespace Disk

/-- What a path leads to, without the entries of a directory. -/
def look (disk : Disk) (path : Path) : Except Fault Node := (disk.find path).map Tree.node

theorem look_eq (disk : Disk) (path : Path) :
    disk.look path =
      match path.fault? with
      | some fault => .error fault
      | none =>
        if path.text = "" then .error .notFound
        else
          match disk.root.follow (disk.start path) path.steps with
          | .error fault => .error fault
          | .ok place =>
            match disk.root.node? place with
            | none => .error .notFound
            | some .directory => .ok .directory
            | some (.file content) =>
              if path.meansDirectory then .error .notADirectory else .ok (.file content) := by
  unfold look find Tree.node?
  rcases path.fault? with _ | fault
  · dsimp only
    by_cases ht : path.text = ""
    · rw [if_pos ht, if_pos ht]; rfl
    · rw [if_neg ht, if_neg ht]
      rcases disk.root.follow (disk.start path) path.steps with fault | place
      · rfl
      · dsimp only
        rcases disk.root.get? place with _ | ⟨content⟩ | ⟨entries⟩
        · rfl
        · dsimp only [Option.map_some, Tree.node]
          split <;> rfl
        · rfl
  · rfl

theorem read_eq (disk : Disk) (path : Path) :
    disk.read path =
      match disk.look path with
      | .ok (.file content) => .ok content
      | .ok .directory => .error .isADirectory
      | .error fault => .error fault := by
  unfold read look
  rcases disk.find path with fault | ⟨content⟩ | ⟨entries⟩ <;> rfl

theorem look_of_read {disk : Disk} {path : Path} {content : List UInt8}
    (h : disk.read path = .ok content) : disk.look path = .ok (.file content) := by
  rw [read_eq] at h
  split at h
  · rename_i hl
    rw [hl, Except.ok.inj h]
  · cases h
  · cases h

theorem isDirectory_iff {disk : Disk} {path : Path} :
    disk.isDirectory path = true ↔ disk.look path = .ok .directory := by
  unfold isDirectory look
  rcases disk.find path with fault | ⟨content⟩ | ⟨entries⟩ <;> simp [Except.map, Tree.node]

/-- A path leads to a directory if its walk does. -/
theorem look_eq_directory {disk : Disk} {path : Path} :
    disk.look path = .ok .directory ↔ path.fault? = none ∧ path.text ≠ "" ∧
      ∃ place, disk.root.follow (disk.start path) path.steps = .ok place ∧
        disk.root.node? place = some .directory := by
  rw [look_eq]
  rcases path.fault? with _ | fault
  · by_cases ht : path.text = ""
    · simp [ht]
    · rcases disk.root.follow (disk.start path) path.steps with fault | place
      · simp [ht]
      · rcases hn : disk.root.node? place with _ | ⟨content⟩ | _ <;> simp [ht, hn]
        split <;> simp
  · simp

/-- A path leads to a file if its walk does and it does not end as the path of a directory. -/
theorem look_eq_file {disk : Disk} {path : Path} {content : List UInt8} :
    disk.look path = .ok (.file content) ↔ path.fault? = none ∧ path.text ≠ "" ∧
      path.meansDirectory = false ∧
      ∃ place, disk.root.follow (disk.start path) path.steps = .ok place ∧
        disk.root.node? place = some (.file content) := by
  rw [look_eq]
  rcases path.fault? with _ | fault
  · by_cases ht : path.text = ""
    · simp [ht]
    · rcases disk.root.follow (disk.start path) path.steps with fault | place
      · simp [ht]
      · rcases hn : disk.root.node? place with _ | ⟨content⟩ | _ <;> simp [ht, hn]
        cases path.meansDirectory <;> simp
  · simp

/-- A path leads nowhere if its walk does not, and a path that can not be followed is refused before
the walk. -/
theorem look_of_follow_error {disk : Disk} {path : Path} {fault : Fault} (ht : path.text ≠ "")
    (h : disk.root.follow (disk.start path) path.steps = .error fault) :
    disk.look path = .error (path.fault?.getD fault) := by
  rw [look_eq]
  rcases path.fault? with _ | refused
  · dsimp only
    rw [if_neg ht, h]
    rfl
  · rfl

/-- A path that led to a directory still does after the tree has grown. -/
theorem isDirectory_grow {before after : Disk} (hc : after.cwd = before.cwd)
    (hg : before.root.Grows after.root) {path : Path} (h : before.isDirectory path = true) :
    after.isDirectory path = true := by
  rw [isDirectory_iff, look_eq_directory] at h ⊢
  obtain ⟨hf, ht, place, hp, hn⟩ := h
  exact ⟨hf, ht, place, by rw [start_congr hc]; exact Tree.follow_grow hg hp, hg.directory _ hn⟩

/-- The place that the names of a path lead down to. -/
def place (disk : Disk) (path : Path) : Place := disk.start path ++ path.names

end Disk

end Investigations.Files
