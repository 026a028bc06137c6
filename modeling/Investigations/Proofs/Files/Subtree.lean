/-
The tree that stands at a place. Putting trees at places obeys the laws of a lens (`get?_set`,
`set_set`), and where two places are apart, neither put touches the other (`get?_set_apart`) and their
order does not count, not even for the order of entries (`set_comm`). An operation that keeps inside a
place sees nothing else of a disk, so on disks with the same tree there it answers the same
(`SameInside`) and does the same (`ChangedInside`); operations inside of places that are apart commute
(`ChangedInside.comm`).
-/
import Investigations.Proofs.Files.Shape
import Investigations.Proofs.Files.Way

namespace Investigations.Files

namespace Tree

/-! ## Putting a tree where one stands -/

variable {root old other : Tree} {p q : Place}

theorem get?_set (h : root.get? p = some old) (new : Tree) (rest : Place) :
    (root.set p new).get? (p ++ rest) = new.get? rest := by
  induction p generalizing root with
  | nil => rw [set, List.nil_append]
  | cons name p ih =>
    obtain ⟨entries, child, rfl, hc, hchild⟩ := exists_child h
    rw [set_cons hc, List.cons_append, get?_cons, lookup_insertEntry_self]
    exact ih hchild

theorem set_set (h : root.get? p = some old) (new newer : Tree) :
    (root.set p new).set p newer = root.set p newer := by
  induction p generalizing root with
  | nil => rw [set, set]
  | cons name p ih =>
    obtain ⟨entries, child, rfl, hc, hchild⟩ := exists_child h
    rw [set_cons hc, set_cons (lookup_insertEntry_self ..), ih hchild, insertEntry_insertEntry,
      set_cons hc]

/-- To put something below a place is to exchange the tree that stands at the place. -/
theorem set_append (h : root.get? p = some old) (rest : Place) (new : Tree) :
    root.set (p ++ rest) new = root.set p (old.set rest new) := by
  induction p generalizing root with
  | nil =>
    cases h
    rw [List.nil_append, set]
  | cons name p ih =>
    obtain ⟨entries, child, rfl, hc, hchild⟩ := exists_child h
    rw [List.cons_append, set_cons hc, set_cons hc, ih hchild]

/-! ## Places that are apart -/

theorem get?_set_apart (h : root.get? p = some old) (hp : ¬ p <+: q) (hq : ¬ q <+: p) (new : Tree) :
    (root.set p new).get? q = root.get? q := by
  induction p generalizing root q with
  | nil => exact absurd List.nil_prefix hp
  | cons first p ih =>
    cases q with
    | nil => exact absurd List.nil_prefix hq
    | cons second q =>
      obtain ⟨entries, child, rfl, hc, hchild⟩ := exists_child h
      rw [set_cons hc, get?_cons, get?_cons]
      by_cases hne : second = first
      · subst hne
        rw [lookup_insertEntry_self, hc]
        rw [List.cons_prefix_cons, not_and] at hp hq
        exact ih hchild (hp rfl) (hq rfl)
      · rw [lookup_insertEntry_of_ne hne]

/-- An entry that is replaced stays in its position, whatever becomes of the others. -/
theorem insertEntry_comm {first second : String} (hne : first ≠ second)
    {entries : List (String × Tree)} (hf : first ∈ entries.map (·.1)) (x y : Tree) :
    insertEntry second y (insertEntry first x entries) =
      insertEntry first x (insertEntry second y entries) := by
  induction entries with
  | nil => cases hf
  | cons entry rest ih =>
    obtain ⟨key, kept⟩ := entry
    by_cases hk : key = first
    · subst hk
      simp [insertEntry, hne]
    · by_cases hs : key = second
      · subst hs
        simp [insertEntry, hk]
      · rw [List.map_cons, List.mem_cons] at hf
        have hrest := hf.resolve_left (Ne.symm hk)
        simp [insertEntry, hk, hs, ih hrest]

theorem set_comm (h : root.get? p = some old) (h' : root.get? q = some other) (hp : ¬ p <+: q)
    (hq : ¬ q <+: p) (x y : Tree) : (root.set p x).set q y = (root.set q y).set p x := by
  induction p generalizing root q with
  | nil => exact absurd List.nil_prefix hp
  | cons first p ih =>
    cases q with
    | nil => exact absurd List.nil_prefix hq
    | cons second q =>
      obtain ⟨entries, child, rfl, hc, hchild⟩ := exists_child h
      obtain ⟨_, child', ⟨⟩, hc', hchild'⟩ := exists_child h'
      rw [set_cons hc, set_cons hc']
      by_cases hne : first = second
      · subst hne
        cases hc.symm.trans hc'
        rw [List.cons_prefix_cons, not_and] at hp hq
        rw [set_cons (lookup_insertEntry_self ..), set_cons (lookup_insertEntry_self ..),
          insertEntry_insertEntry, insertEntry_insertEntry,
          ih hchild hchild' (hp rfl) (hq rfl)]
      · have hmem : first ∈ entries.map (·.1) := by
          by_contra hn
          rw [lookup_eq_none_iff.2 hn] at hc
          cases hc
        rw [set_cons (by rw [lookup_insertEntry_of_ne (Ne.symm hne)]; exact hc'),
          set_cons (by rw [lookup_insertEntry_of_ne hne]; exact hc),
          insertEntry_comm hne hmem]

/-! ## Above and below -/

/-- Above something there are directories. -/
theorem node?_above (h : root.get? (p ++ q) = some old) (hq : q ≠ []) :
    root.node? p = some .directory := by
  obtain ⟨name, rest, rfl⟩ := List.exists_cons_of_ne_nil hq
  by_contra hd
  rw [node?_eq_none.1 (node?_below hd name rest)] at h
  cases h

end Tree

/-- Above a directory that a path without `..` leads to something stands. -/
theorem Disk.exists_above {disk : Disk} {path : Path} (hup : .up ∉ path.steps)
    (h : disk.isDirectory path = true) {p : Place} (hp : p <+: disk.place path) :
    ∃ sub, disk.root.get? p = some sub := by
  obtain ⟨-, -, -, hd⟩ := (isDirectory_iff_down hup).1 h
  obtain ⟨entries, he⟩ := Tree.node?_eq_directory.1 hd
  obtain ⟨rest, hrest⟩ := hp
  rw [← hrest, Tree.get?_append] at he
  obtain ⟨sub, hs, -⟩ := Option.bind_eq_some_iff.1 he
  exact ⟨sub, hs⟩

/-- Names lead by places between the one where they start and the one where they end. -/
theorem Step.prefix_of_mem_way {here p : Place} {names : List String}
    (h : p ∈ way here (names.map .into)) : p <+: here ++ names := by
  induction names generalizing here with
  | nil =>
    cases List.mem_singleton.1 h
    exact List.prefix_append ..
  | cons name names ih =>
    rcases List.mem_cons.1 h with rfl | h
    · exact List.prefix_append ..
    · have hnext := ih h
      rwa [target, List.append_assoc, List.singleton_append] at hnext

/-! ## The same inside a place -/

/-- Two disks that have the same tree at a place, or nothing there. -/
structure SameInside (place : Place) (a b : Disk) : Prop where
  cwd : a.cwd = b.cwd
  inside : a.root.get? place = b.root.get? place

namespace SameInside

variable {place : Place} {a b : Disk}

theorem refl (place : Place) (a : Disk) : SameInside place a a := ⟨rfl, rfl⟩

theorem get? (h : SameInside place a b) {p : Place} (hp : place <+: p) :
    a.root.get? p = b.root.get? p := by
  obtain ⟨rest, rfl⟩ := hp
  rw [Tree.get?_append, Tree.get?_append, h.inside]

theorem place_eq (h : SameInside place a b) (path : Path) : b.place path = a.place path := by
  rw [Disk.place, Disk.place, Disk.start_congr h.cwd]

theorem isDirectory_eq (h : SameInside place a b) {path : Path} (hup : .up ∉ path.steps)
    (hin : place <+: a.place path) : a.isDirectory path = b.isDirectory path := by
  refine Disk.isDirectory_congr_down h.cwd hup ?_
  rw [Tree.node?, Tree.node?, h.get? hin]

section Walks

variable (h : SameInside place a b) {sub : Tree} (hs : a.root.get? place = some sub)

include h hs

/-- If something stands at the place, the directories above it are the same as well. -/
theorem node?_eq {p : Place} (hp : p <+: place ∨ place <+: p) : a.root.node? p = b.root.node? p := by
  rcases hp with ⟨rest, rfl⟩ | hp
  · by_cases hr : rest = []
    · subst hr
      rw [List.append_nil] at h
      rw [Tree.node?, Tree.node?, h.inside]
    · have hs' := h.inside ▸ hs
      rw [Tree.node?_above hs hr, Tree.node?_above hs' hr]
  · rw [Tree.node?, Tree.node?, h.get? hp]

/-- Nothing else stands along the way of a path without `..` that ends inside. -/
theorem node?_eq_way {path : Path} (hup : .up ∉ path.steps) (hin : place <+: a.place path) :
    ∀ p ∈ a.way path, a.root.node? p = b.root.node? p := by
  intro p hp
  rw [Disk.way, Path.steps_eq_map_names hup] at hp
  exact h.node?_eq hs (List.prefix_or_prefix_of_prefix (Step.prefix_of_mem_way hp) hin)

theorem follow_eq {path : Path} (hup : .up ∉ path.steps) (hin : place <+: a.place path) :
    a.root.follow (a.start path) path.steps = b.root.follow (b.start path) path.steps := by
  rw [← Disk.start_congr h.cwd]
  exact Tree.follow_congr_way (h.node?_eq_way hs hup hin)

theorem look_eq {path : Path} (hup : .up ∉ path.steps) (hin : place <+: a.place path) :
    a.look path = b.look path :=
  Disk.look_congr_way h.cwd (h.node?_eq_way hs hup hin)

end Walks

end SameInside

/-! ## The same done inside a place -/

/-- The disk with the tree at a place exchanged. -/
def Disk.exchange (disk : Disk) (place : Place) (new : Tree) : Disk :=
  { disk with root := disk.root.set place new }

/-- On two disks the same was done inside a place where something stands, or nothing was done. -/
def ChangedInside (place : Place) (a b left right : Disk) : Prop :=
  (left = a ∧ right = b) ∨
    ∃ old new, a.root.get? place = some old ∧ left = a.exchange place new ∧
      right = b.exchange place new

namespace ChangedInside

variable {place : Place} {a b left right : Disk}

theorem refl (place : Place) (a b : Disk) : ChangedInside place a b a b := .inl ⟨rfl, rfl⟩

/-- Putting the same below the place in both disks. -/
theorem of_set (h : SameInside place a b) {old : Tree} (ho : a.root.get? place = some old)
    {p : Place} (hp : place <+: p) (new : Tree) :
    ChangedInside place a b { a with root := a.root.set p new }
      { b with root := b.root.set p new } := by
  obtain ⟨rest, rfl⟩ := hp
  have ho' := h.inside ▸ ho
  refine .inr ⟨old, old.set rest new, ho, ?_, ?_⟩
  · rw [Disk.exchange, Tree.set_append ho]
  · rw [Disk.exchange, Tree.set_append ho']

theorem sameInside (hc : ChangedInside place a b left right) (h : SameInside place a b) :
    SameInside place left right := by
  rcases hc with ⟨rfl, rfl⟩ | ⟨old, new, ho, rfl, rfl⟩
  · exact h
  · refine ⟨h.cwd, ?_⟩
    have hl := Tree.get?_set ho new []
    have hr := Tree.get?_set (h.inside ▸ ho) new []
    rw [List.append_nil] at hl hr
    exact hl.trans hr.symm

theorem trans {left' right' : Disk} (hc : ChangedInside place a b left right)
    (h : SameInside place a b) (hc' : ChangedInside place left right left' right') :
    ChangedInside place a b left' right' := by
  rcases hc with ⟨rfl, rfl⟩ | ⟨old, new, ho, rfl, rfl⟩
  · exact hc'
  · rcases hc' with ⟨rfl, rfl⟩ | ⟨_, newer, -, rfl, rfl⟩
    · exact .inr ⟨old, new, ho, rfl, rfl⟩
    · refine .inr ⟨old, newer, ho, ?_, ?_⟩
      · rw [Disk.exchange, Disk.exchange, Disk.exchange, Tree.set_set ho]
      · rw [Disk.exchange, Disk.exchange, Disk.exchange, Tree.set_set (h.inside ▸ ho)]

/-- What is done inside one place is not seen in a place that is apart from it. -/
theorem elsewhere (hc : ChangedInside place a b left right) {other : Place}
    (hp : ¬ place <+: other) (ho : ¬ other <+: place) : SameInside other a left := by
  rcases hc with ⟨rfl, -⟩ | ⟨old, new, hold, rfl, -⟩
  · exact .refl other left
  · exact ⟨rfl, (Tree.get?_set_apart hold hp ho new).symm⟩

/-- What is done inside one place, and what is done inside another that is apart from it, comes to the
same in both orders. -/
theorem comm {p q : Place} {disk first second firstSecond secondFirst : Disk}
    (hf : ChangedInside p disk second first secondFirst)
    (hs : ChangedInside q disk first second firstSecond) (hp : ¬ p <+: q) (hq : ¬ q <+: p) :
    firstSecond = secondFirst := by
  rcases hf with ⟨rfl, rfl⟩ | ⟨old, x, hx, rfl, rfl⟩
  · rcases hs with ⟨rfl, rfl⟩ | ⟨other, y, -, rfl, rfl⟩
    · rfl
    · rfl
  · rcases hs with ⟨rfl, rfl⟩ | ⟨other, y, hy, rfl, rfl⟩
    · rfl
    · rw [Disk.exchange, Disk.exchange, Disk.exchange, Disk.exchange]
      dsimp only
      rw [Tree.set_comm hx hy hp hq]

end ChangedInside

/-! ## Replacing a file inside a place -/

namespace Disk

/-- Where a new file goes to depends on the walk to its directory, on what that directory holds, and on
what the path leads to. -/
theorem destination_congr_walk {a b : Disk} (hc : a.cwd = b.cwd) {path : Path}
    (hwalk : a.root.follow (a.start path) path.steps.dropLast =
      b.root.follow (b.start path) path.steps.dropLast)
    (hdir : ∀ above, a.root.follow (a.start path) path.steps.dropLast = .ok above →
      a.root.get? above = b.root.get? above)
    (hlook : a.look path = b.look path) : a.destination path = b.destination path := by
  unfold destination makeDraft
  generalize draftNames = count
  rw [draftPath_congr hc, ← hwalk]
  rcases (b.draftPath path).fault? with _ | fault
  · rcases hf : a.root.follow (a.start path) path.steps.dropLast with fault | above
    · rfl
    · have hget := hdir above hf
      dsimp only
      rw [← hget]
      rcases a.root.get? above with _ | ⟨content⟩ | ⟨entries⟩
      · rfl
      · rfl
      · dsimp only
        rcases freeName? (entries.map (·.1) ++ path.components.map String.ofList) count with
          _ | name
        · rfl
        · -- A path that ends in `.` or `..` is followed once more.
          have hbusy : (a.find path >>= fun _ => (.error .resourceBusy : Except Fault Place)) =
              b.find path >>= fun _ => .error .resourceBusy := by
            rw [find_busy, find_busy, hlook]
          dsimp only [Draft.target, Tree.entry]
          rw [hget, hbusy]
  · rfl

end Disk

namespace SameInside

variable {place : Place} {a b : Disk} {sub : Tree} {dir : Path} {name : String}

/-- A file in a directory inside the place is replaced on both disks or on neither. -/
theorem replace (h : SameInside place a b) (hs : a.root.get? place = some sub) (hn : IsName name)
    (hup : .up ∉ dir.steps) (hin : place <+: a.place dir) (content : List UInt8) :
    (a.replace (dir.child name) content).1 = (b.replace (dir.child name) content).1 ∧
      ChangedInside place a b (a.replace (dir.child name) content).2
        (b.replace (dir.child name) content).2 := by
  have hdrop : (dir.child name).steps.dropLast = dir.steps := by
    rw [Path.steps_child hn, List.dropLast_concat]
  have hchild : place <+: a.place (dir.child name) := by
    rw [Disk.place, a.start_child hn, Path.names_child hn, ← List.append_assoc]
    exact hin.trans (List.prefix_append ..)
  -- A walk without `..` ends where its names lead to, which is inside.
  have hend : ∀ above, a.root.follow (a.start dir) dir.steps = .ok above → above = a.place dir := by
    intro above hf
    rw [Path.steps_eq_map_names hup] at hf
    exact Tree.follow_down hf
  have hsame : a.destination (dir.child name) = b.destination (dir.child name) := by
    refine Disk.destination_congr_walk h.cwd ?_ ?_ ?_
    · rw [hdrop, a.start_child hn, b.start_child hn]
      exact h.follow_eq hs hup hin
    · rw [hdrop, a.start_child hn]
      intro above hf
      rw [hend above hf]
      exact h.get? hin
    · exact h.look_eq hs (Path.up_notMem_child hn hup) hchild
  rw [Disk.replace_eq, Disk.replace_eq, ← hsame]
  rcases ht : a.destination (dir.child name) with fault | target
  · exact ⟨rfl, .refl place a b⟩
  · obtain ⟨above, last, rfl, hd⟩ := Disk.destined_of_destination ht
    have hwalk := hd.walk
    rw [hdrop, a.start_child hn] at hwalk
    refine ⟨rfl, .of_set h hs ?_ _⟩
    rw [hend above hwalk]
    exact hin.trans (List.prefix_append ..)

end SameInside

end Investigations.Files
