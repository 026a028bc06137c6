/-
The options of the command. How arguments spell options does not depend on the options that have been
given before (`Spells`); of those, none may be given twice, and each must be able to have its value
(`Given.Valid`). Reading arguments is just that (`readOptions_eq_ok_iff`), so an option that is not
there can be added without any change to the others (`parse_narrowed`).
-/
import Investigations.Command.Arguments
import Mathlib.Data.List.Basic
import Mathlib.Data.List.Nodup

namespace Investigations.Command

/-! ## Options that are given -/

/-- Options that can be given together: none twice, and all with values that they can have. Help and
version are never given, as they end the reading. -/
structure Given.Valid (given : Given) : Prop where
  once : (given.map Prod.fst).Nodup
  accepted : ∀ entry ∈ given, entry.1.accepts entry.2 = true
  help : .help ∉ given.map Prod.fst
  version : .version ∉ given.map Prod.fst

theorem Given.valid_nil : Given.Valid [] := ⟨.nil, nofun, nofun, nofun⟩

theorem Given.valid_append {a b : Given} :
    Given.Valid (a ++ b) ↔
      a.Valid ∧ b.Valid ∧ List.Disjoint (a.map Prod.fst) (b.map Prod.fst) := by
  constructor
  · rintro ⟨honce, haccepted, hhelp, hversion⟩
    rw [List.map_append] at honce hhelp hversion
    rw [List.nodup_append'] at honce
    simp only [List.mem_append, not_or] at haccepted hhelp hversion
    exact ⟨⟨honce.1, fun e he => haccepted e (.inl he), hhelp.1, hversion.1⟩,
      ⟨honce.2.1, fun e he => haccepted e (.inr he), hhelp.2, hversion.2⟩, honce.2.2⟩
  · rintro ⟨ha, hb, hdisjoint⟩
    constructor
    · rw [List.map_append, List.nodup_append']
      exact ⟨ha.once, hb.once, hdisjoint⟩
    · intro entry he
      rcases List.mem_append.1 he with he | he
      · exact ha.accepted entry he
      · exact hb.accepted entry he
    · simp only [List.map_append, List.mem_append, not_or]
      exact ⟨ha.help, hb.help⟩
    · simp only [List.map_append, List.mem_append, not_or]
      exact ⟨ha.version, hb.version⟩

theorem Given.valid_singleton {switch : Switch} {value : String} :
    Given.Valid [(switch, value)] ↔
      switch.accepts value = true ∧ switch ≠ .help ∧ switch ≠ .version := by
  constructor
  · rintro ⟨-, haccepted, hhelp, hversion⟩
    simp only [List.map_cons, List.map_nil, List.mem_singleton] at haccepted hhelp hversion
    exact ⟨haccepted _ rfl, Ne.symm hhelp, Ne.symm hversion⟩
  · rintro ⟨haccepted, hhelp, hversion⟩
    constructor
    · exact List.nodup_singleton _
    · simpa using haccepted
    · simpa using hhelp.symm
    · simpa using hversion.symm

section

variable {given left : Given} {switch : Switch} {value : String}

theorem give_eq_ok_iff (hg : given.Valid) (hhelp : switch ≠ .help) (hversion : switch ≠ .version) :
    give given switch value = .ok left ↔
      left = given ++ [(switch, value)] ∧ left.Valid := by
  have hfresh : given.any (·.1 = switch) = false ↔
      List.Disjoint (given.map Prod.fst) [switch] := by
    simp only [List.any_eq_false, decide_eq_true_eq, List.disjoint_singleton, List.mem_map, not_exists,
      not_and]
  unfold give
  split
  · rename_i h
    -- Valid options have this one once, with a value it accepts, so there is nothing to refuse.
    refine iff_of_false nofun ?_
    rintro ⟨rfl, hv⟩
    obtain ⟨-, hs, hd⟩ := Given.valid_append.1 hv
    rw [(Given.valid_singleton.1 hs).1, hfresh.2 hd] at h
    cases h
  · rename_i h
    simp only [Bool.or_eq_true, not_or, Bool.not_eq_true, Bool.not_eq_false'] at h
    rw [Except.ok.injEq, eq_comm]
    refine ⟨fun he => ⟨he, he ▸ ?_⟩, And.left⟩
    exact Given.valid_append.2 ⟨hg, Given.valid_singleton.2 ⟨h.2, hhelp, hversion⟩, hfresh.1 h.1⟩

/-- Help and version have no value. -/
theorem Switch.plain_of_takesValue {switch : Switch} (h : switch.takesValue = true) :
    switch ≠ .help ∧ switch ≠ .version := by
  constructor <;> rintro rfl <;> cases h

theorem raise_eq_ok_iff (hg : given.Valid) :
    raise given switch = .ok left ↔ left = given ++ [(switch, "")] ∧ left.Valid := by
  by_cases hhelp : switch = .help
  · subst hhelp
    refine iff_of_false nofun ?_
    rintro ⟨rfl, hv⟩
    exact (Given.valid_singleton.1 (Given.valid_append.1 hv).2.1).2.1 rfl
  by_cases hversion : switch = .version
  · subst hversion
    refine iff_of_false nofun ?_
    rintro ⟨rfl, hv⟩
    exact (Given.valid_singleton.1 (Given.valid_append.1 hv).2.1).2.2 rfl
  have hraise : raise given switch = give given switch "" := by
    cases switch <;> first | rfl | contradiction
  rw [hraise, give_eq_ok_iff hg hhelp hversion]

end

/-! ## How options are spelled -/

/-- The option of this name, among those that are allowed. -/
def Switch.ofName? (task : Option Task) (name : String) : Option Switch :=
  (allowed task).find? fun switch => switch.longName = name

/-- The option of this letter, among those that are allowed. -/
def Switch.ofLetter? (task : Option Task) (letter : Char) : Option Switch :=
  (allowed task).find? fun switch => switch.letter? = some letter

/-- The letters name these options. -/
def Switch.Named (task : Option Task) : List Char → List Switch → Prop :=
  List.Forall₂ fun letter switch => Switch.ofLetter? task letter = some switch

/-- Arguments that stand together, and the options that they spell. -/
inductive Piece (task : Option Task) : List String → Given → Prop where
  /-- Letters, one option each. -/
  | letters {argument : String} {letters : List Char} {switches : List Switch}
      (shape : Shape.ofArgument argument = .short letters)
      (named : Switch.Named task letters switches) :
      Piece task [argument] (switches.map (·, ""))
  /-- A name and a value in one argument. -/
  | attached {argument name value : String} {switch : Switch}
      (shape : Shape.ofArgument argument = .long name (some value))
      (named : Switch.ofName? task name = some switch) (takes : switch.takesValue = true) :
      Piece task [argument] [(switch, value)]
  /-- A name, and a value in the argument after it. -/
  | separate {argument name value : String} {switch : Switch}
      (shape : Shape.ofArgument argument = .long name none)
      (named : Switch.ofName? task name = some switch) (takes : switch.takesValue = true)
      (word : Shape.ofArgument value = .word) :
      Piece task [argument, value] [(switch, value)]
  /-- A name alone. -/
  | flag {argument name : String} {switch : Switch}
      (shape : Shape.ofArgument argument = .long name none)
      (named : Switch.ofName? task name = some switch) (takes : switch.takesValue = false) :
      Piece task [argument] [(switch, "")]

/-- The options that arguments spell, and the words that are left. -/
inductive Spells (task : Option Task) : List String → Given → List String → Prop where
  | nil : Spells task [] [] []
  | words {argument : String} (rest : List String) (shape : Shape.ofArgument argument = .word) :
      Spells task (argument :: rest) [] (argument :: rest)
  | closed {argument : String} (shape : Shape.ofArgument argument = .endOfOptions) :
      Spells task [argument] [] []
  | piece {arguments rest words : List String} {options added : Given}
      (piece : Piece task arguments options) (spells : Spells task rest added words) :
      Spells task (arguments ++ rest) (options ++ added) words

section

variable {task : Option Task} {given left : Given}

theorem raiseLetters_cons (letter : Char) (letters : List Char) :
    raiseLetters task given (letter :: letters) =
      match Switch.ofLetter? task letter with
      | some switch => raise given switch >>= fun given => raiseLetters task given letters
      | none => .error .refused := by
  rw [raiseLetters, List.foldlM_cons, ← Switch.ofLetter?]
  rcases Switch.ofLetter? task letter with _ | switch <;> rfl

theorem raiseLetters_eq_ok_iff {letters : List Char} (hg : given.Valid) :
    raiseLetters task given letters = .ok left ↔
      left.Valid ∧ ∃ switches, Switch.Named task letters switches ∧
        left = given ++ switches.map (·, "") := by
  induction letters generalizing given left with
  | nil =>
    constructor
    · rintro ⟨⟩
      exact ⟨hg, [], .nil, (List.append_nil _).symm⟩
    · rintro ⟨-, _, ⟨⟩, rfl⟩
      rw [List.map_nil, List.append_nil]
      rfl
  | cons letter letters ih =>
    rw [raiseLetters_cons]
    constructor
    · intro h
      split at h
      · rename_i switch named
        rcases hr : raise given switch with stop | middle <;> rw [hr] at h
        · cases h
        · obtain ⟨rfl, hmiddle⟩ := (raise_eq_ok_iff hg).1 hr
          obtain ⟨hleft, switches, hs, rfl⟩ := (ih hmiddle).1 h
          exact ⟨hleft, switch :: switches, .cons named hs, List.append_assoc ..⟩
      · cases h
    · rintro ⟨hleft, _, hs, rfl⟩
      obtain _ | ⟨named, hs⟩ := hs
      rw [List.map_cons, List.append_cons] at hleft ⊢
      have hmiddle := (Given.valid_append.1 hleft).1
      rw [named]
      dsimp only
      rw [(raise_eq_ok_iff hg).2 ⟨rfl, hmiddle⟩]
      exact (ih hmiddle).2 ⟨hleft, _, hs, rfl⟩

/-- The options at the front of the arguments, and how the reading goes on after them. -/
theorem Piece.readOptions_eq {arguments : List String} {options : Given}
    (h : Piece task arguments options) (hleft : (given ++ options).Valid) (rest : List String) :
    readOptions task (arguments ++ rest) given = readOptions task rest (given ++ options) := by
  have hg := (Given.valid_append.1 hleft).1
  cases h with
  | letters shape named =>
    rw [List.singleton_append, readOptions, shape]
    dsimp only
    rw [(raiseLetters_eq_ok_iff hg).2 ⟨hleft, _, named, rfl⟩]
  | attached shape named takes =>
    have hplain := Switch.plain_of_takesValue takes
    rw [List.singleton_append, readOptions, shape]
    dsimp only
    rw [← Switch.ofName?, named]
    dsimp only
    rw [if_pos takes, (give_eq_ok_iff hg hplain.1 hplain.2).2 ⟨rfl, hleft⟩]
  | separate shape named takes word =>
    have hplain := Switch.plain_of_takesValue takes
    rw [List.cons_append, List.singleton_append, readOptions, shape]
    dsimp only
    rw [← Switch.ofName?, named]
    dsimp only
    rw [if_pos takes, if_pos word, (give_eq_ok_iff hg hplain.1 hplain.2).2 ⟨rfl, hleft⟩]
  | flag shape named takes =>
    rw [List.singleton_append, readOptions, shape]
    dsimp only
    rw [← Switch.ofName?, named]
    dsimp only
    rw [if_neg (by rw [takes]; decide), if_neg (by decide), (raise_eq_ok_iff hg).2 ⟨rfl, hleft⟩]

/-- The options that are read are those that the arguments spell, if they can be given together with
those from before. -/
theorem readOptions_eq_ok_iff {arguments words : List String} (hg : given.Valid) :
    readOptions task arguments given = .ok (left, words) ↔
      left.Valid ∧ ∃ added, Spells task arguments added words ∧ left = given ++ added := by
  constructor
  · -- Along the recursion of the reader, where what has been given so far stays valid.
    intro h
    fun_induction readOptions task arguments given with
    | case1 given =>
      cases h
      exact ⟨hg, [], .nil, (List.append_nil _).symm⟩
    | case2 argument rest given shape =>
      cases h
      exact ⟨hg, [], .words rest shape, (List.append_nil _).symm⟩
    | case3 argument given shape =>
      cases h
      exact ⟨hg, [], .closed shape, (List.append_nil _).symm⟩
    | case5 argument rest given letters shape middle hr ih =>
      obtain ⟨hmiddle, switches, named, rfl⟩ := (raiseLetters_eq_ok_iff hg).1 hr
      obtain ⟨hleft, added, hs, rfl⟩ := ih hmiddle h
      exact ⟨hleft, _, .piece (.letters shape named) hs, List.append_assoc ..⟩
    | case8 argument given name switch named takes value rest middle hr shape ih =>
      obtain ⟨hhelp, hversion⟩ := Switch.plain_of_takesValue takes
      obtain ⟨rfl, hmiddle⟩ := (give_eq_ok_iff hg hhelp hversion).1 hr
      obtain ⟨hleft, added, hs, rfl⟩ := ih hmiddle h
      exact ⟨hleft, _, .piece (.attached shape named takes) hs, List.append_assoc ..⟩
    | case11 argument given name switch named takes value rest word middle hr shape ih =>
      obtain ⟨hhelp, hversion⟩ := Switch.plain_of_takesValue takes
      obtain ⟨rfl, hmiddle⟩ := (give_eq_ok_iff hg hhelp hversion).1 hr
      obtain ⟨hleft, added, hs, rfl⟩ := ih hmiddle h
      exact ⟨hleft, _, .piece (.separate shape named takes word) hs, List.append_assoc ..⟩
    | case15 argument rest given name attached shape switch named takes alone middle hr ih =>
      obtain ⟨rfl, hmiddle⟩ := (raise_eq_ok_iff hg).1 hr
      obtain ⟨hleft, added, hs, rfl⟩ := ih hmiddle h
      rw [Bool.not_eq_true, Option.isSome_eq_false_iff, Option.isNone_iff_eq_none] at alone
      subst alone
      exact ⟨hleft, _, .piece (.flag shape named (Bool.eq_false_iff.2 takes)) hs, List.append_assoc ..⟩
    -- In all other ways the reading is stopped.
    | _ => cases h
  · -- What is valid in the end has been so all the way, so no piece is refused.
    rintro ⟨hleft, added, hs, rfl⟩
    induction hs generalizing given with
    | nil => rw [readOptions, List.append_nil]
    | words rest shape => rw [readOptions, shape, List.append_nil]
    | closed shape =>
      rw [readOptions, shape, List.append_nil]
      rfl
    | piece piece spells ih =>
      rw [← List.append_assoc] at hleft ⊢
      have hmiddle := (Given.valid_append.1 hleft).1
      rw [piece.readOptions_eq hmiddle]
      exact ih hmiddle hleft

/-- The arguments in front of the words spell the options whatever words come after the first. -/
theorem Spells.exists_front {arguments rest : List String} {added : Given} {word : String}
    (h : Spells task arguments added (word :: rest)) :
    ∃ front, arguments = front ++ word :: rest ∧
      ∀ others, Spells task (front ++ word :: others) added (word :: others) := by
  generalize hw : word :: rest = words at h
  induction h with
  | nil => cases hw
  | words _ shape =>
    cases hw
    exact ⟨[], rfl, fun others => .words others shape⟩
  | closed _ => cases hw
  | @piece arguments _ _ _ _ piece _ ih =>
    subst hw
    obtain ⟨front, rfl, hfront⟩ := ih rfl
    refine ⟨arguments ++ front, (List.append_assoc ..).symm, fun others => ?_⟩
    rw [List.append_assoc]
    exact .piece piece (hfront others)

end

/-! ## Invocations -/

theorem Task.ofWord?_eq_some_iff {task : Task} {word : String} :
    Task.ofWord? word = some task ↔ word = task.word := by
  constructor
  · intro h
    simpa [eq_comm] using List.find?_some h
  · rintro rfl
    cases task <;> decide

/-- What a task with these options asks for. -/
structure Invocation.Asked (task : Task) (given : Given) (invocation : Invocation) : Prop where
  action : Action.ofGiven? task given = some invocation.action
  settings : invocation.settings = ⟨(given.value? .config).map Files.Path.mk, given.value? .serverUuid,
    (given.value? .dataDirectory).map Files.Path.mk⟩
  verbose : invocation.verbose = given.has .verbose

/-- Arguments come to an invocation if they spell options, the word of a task and options of the task,
and nothing else. -/
theorem parse_eq_ok_iff {arguments : List String} {invocation : Invocation} :
    parse arguments = .ok invocation ↔ ∃ general task after special,
      Spells none arguments general (task.word :: after) ∧ general.Valid ∧
      Spells (some task) after special [] ∧ special.Valid ∧
      invocation.Asked task (special ++ general) := by
  constructor
  · intro h
    unfold parse at h
    rcases hg : readOptions none arguments [] with stop | ⟨general, words⟩ <;> rw [hg] at h
    · cases h
    · dsimp only [bind, Except.bind] at h
      rcases words with _ | ⟨word, after⟩
      · cases h
      · dsimp only at h
        rcases hw : Task.ofWord? word with _ | task <;> rw [hw] at h
        · dsimp only at h
          split at h <;> cases h
        · dsimp only at h
          rcases hs : readOptions (some task) after [] with stop | ⟨special, left⟩ <;> rw [hs] at h
          · cases h
          · dsimp only at h
            split at h
            · rename_i ha
              cases h
              obtain ⟨hgeneral, _, hspells, rfl⟩ := (readOptions_eq_ok_iff Given.valid_nil).1 hg
              obtain ⟨hspecial, _, hafter, rfl⟩ := (readOptions_eq_ok_iff Given.valid_nil).1 hs
              cases Task.ofWord?_eq_some_iff.1 hw
              exact ⟨_, task, after, _, hspells, hgeneral, hafter, hspecial, ha, rfl, rfl⟩
            · cases h
  · rintro ⟨general, task, after, special, hspells, hgeneral, hafter, hspecial, ha, hs, hv⟩
    have hfirst := (readOptions_eq_ok_iff Given.valid_nil).2 ⟨hgeneral, _, hspells, rfl⟩
    have hthen := (readOptions_eq_ok_iff Given.valid_nil).2 ⟨hspecial, _, hafter, rfl⟩
    unfold parse
    rw [hfirst]
    dsimp only [bind, Except.bind]
    rw [Task.ofWord?_eq_some_iff.2 rfl]
    dsimp only
    rw [hthen]
    dsimp only
    rw [ha, ← hs, ← hv]
    rfl

/-! ## One option more -/

/-- A name and a value in one argument. -/
theorem Shape.ofArgument_attached {name : String} (value : String) (h : '=' ∉ name.toList) :
    Shape.ofArgument ("--" ++ name ++ "=" ++ value) = .long name (some value) := by
  have htext : ("--" ++ name ++ "=" ++ value).toList =
      '-' :: '-' :: (name.toList ++ '=' :: value.toList) := by
    simp
  have hcut := Lines.cut?_eq_some_iff.2 ⟨h, @rfl _ (name.toList ++ '=' :: value.toList)⟩
  unfold ofArgument
  rw [htext]
  split
  · -- Two dashes alone have no equals sign after them.
    rename_i heq
    simp at heq
  · rename_i heq
    cases heq
    rw [hcut]
    dsimp only
    rw [String.ofList_toList, String.ofList_toList]
  · rename_i hdash heq
    cases heq
    exact absurd rfl hdash
  · rename_i hrest
    exact (hrest _ _ rfl).elim

/-- The argument `--test=…` spells the option for a test, whatever stands in the place of the dots. -/
theorem piece_test (testNameId : String) :
    Piece (some .suggestions) ["--test=" ++ testNameId] [(.test, testNameId)] := by
  have htext : "--test=" = "--" ++ "test" ++ "=" := by decide
  rw [htext]
  exact .attached (Shape.ofArgument_attached _ (by decide)) (by decide) rfl

/-- An option in front of the others has no say in what the others are. -/
theorem Given.value?_cons_of_ne {given : Given} {switch other : Switch} (value : String)
    (h : other ≠ switch) : Given.value? ((switch, value) :: given) other = given.value? other := by
  rw [Given.value?, List.lookup_cons, beq_false_of_ne h]
  rfl

theorem Given.has_cons_of_ne {given : Given} {switch other : Switch} (value : String)
    (h : other ≠ switch) : Given.has ((switch, value) :: given) other = given.has other :=
  congrArg Option.isSome (value?_cons_of_ne value h)

theorem Given.notMem_of_value?_append {a b : Given} {switch : Switch}
    (h : Given.value? (a ++ b) switch = none) : switch ∉ a.map Prod.fst := by
  rw [Given.value?, List.lookup_eq_none_iff] at h
  intro hm
  obtain ⟨entry, he, rfl⟩ := List.mem_map.1 hm
  simpa using h entry (List.mem_append_left _ he)

theorem Action.ofGiven?_suggestions_iff {task : Task} {given : Given} {build : Build}
    {testNameId : Option String} :
    ofGiven? task given = some (.suggestions build testNameId) ↔
      task = .suggestions ∧ testNameId = given.value? .test ∧
        ∃ artifacts, given.value? .artifactsDirectory = some artifacts ∧ build = ⟨0, ⟨artifacts⟩⟩ := by
  cases task with
  | suggestions =>
    simp only [ofGiven?, Option.bind_eq_bind, Option.bind_eq_some_iff, true_and]
    constructor
    · rintro ⟨artifacts, ha, ⟨⟩⟩
      exact ⟨rfl, artifacts, ha, rfl⟩
    · rintro ⟨rfl, artifacts, ha, rfl⟩
      exact ⟨artifacts, ha, rfl⟩
  | path => simp [ofGiven?, Option.bind_eq_some_iff]
  | record => simp [ofGiven?, Option.bind_eq_some_iff]
  | stats => simp [ofGiven?]

/-- Arguments that ask for all suggestions of a build have a place where `--test=…` makes them ask for
the one for a test, whatever its id, and changes nothing else. -/
theorem parse_narrowed {arguments : List String} {settings : Settings} {verbose : Bool} {build : Build}
    (h : parse arguments = .ok ⟨settings, verbose, .suggestions build none⟩) :
    ∃ front after, arguments = front ++ Task.suggestions.word :: after ∧
      ∀ testNameId, parse (front ++ Task.suggestions.word :: ("--test=" ++ testNameId) :: after) =
        .ok ⟨settings, verbose, .suggestions build (some testNameId)⟩ := by
  obtain ⟨general, task, after, special, hspells, hgeneral, hafter, hspecial, ha⟩ :=
    parse_eq_ok_iff.1 h
  obtain ⟨front, rfl, hfront⟩ := hspells.exists_front
  obtain ⟨haction, hsettings, hverbose⟩ := ha
  obtain ⟨rfl, hnone, artifacts, hartifacts, rfl⟩ := Action.ofGiven?_suggestions_iff.1 haction
  refine ⟨front, after, rfl, fun testNameId => ?_⟩
  refine parse_eq_ok_iff.2 ⟨general, .suggestions, _, (.test, testNameId) :: special,
    hfront _, hgeneral, .piece (piece_test testNameId) hafter, ?valid, ?action, ?settings, ?verbose⟩
  case valid =>
    have hfresh := Given.notMem_of_value?_append hnone.symm
    have hone : Given.Valid [(.test, testNameId)] :=
      Given.valid_singleton.2 ⟨rfl, by decide, by decide⟩
    exact Given.valid_append.2 ⟨hone, hspecial, List.singleton_disjoint.2 hfresh⟩
  case action =>
    refine Action.ofGiven?_suggestions_iff.2 ⟨rfl, ?_, artifacts, ?_, rfl⟩
    · rfl
    · rw [List.cons_append, Given.value?_cons_of_ne _ (by decide), hartifacts]
  case settings =>
    rw [List.cons_append, Given.value?_cons_of_ne _ (by decide), Given.value?_cons_of_ne _ (by decide),
      Given.value?_cons_of_ne _ (by decide)]
    exact hsettings
  case verbose =>
    rw [List.cons_append, Given.has_cons_of_ne _ (by decide)]
    exact hverbose

end Investigations.Command
