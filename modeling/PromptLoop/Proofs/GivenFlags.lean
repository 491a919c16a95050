import PromptLoop.Proofs.FieldByField

/-!
# What a command line gives

A command line is a list of flags with their values, written in one of three ways: a value joined to its flag, a value
in the next argument, or no value where the flag implies one (`Give`). There is at most one such list (`Give.unique`).
The command line is accepted exactly if each flag in it comes once and takes its value (`read_eq_ok_iff`), and then
each field has the value of its flag (`read_gives`).

The reader settles a flag late, when it is certain that no value follows. The arguments of the flag that is still open
have been read by then, so the induction is on the arguments that are left, and its invariant is about the list that
begins with the open ones (`Opens`).
-/

namespace PromptLoop

/-- Arguments that give flags, in order, with their values. -/
inductive Give : List String → List (Flag × String) → Prop where
  /-- No arguments give no flags. -/
  | nil : Give [] []
  /-- Neither do two dashes, after which nothing may come. -/
  | separator {argument : String} : Argument.ofText argument = .separator → Give [argument] []
  /-- A value is joined to its flag. -/
  | joined {argument value : String} {flag : Flag} {rest : List String} {givens : List (Flag × String)} :
      Argument.ofText argument = .flag flag (some value) → Give rest givens →
      Give (argument :: rest) ((flag, value) :: givens)
  /-- A value is the next argument. -/
  | next {argument value : String} {flag : Flag} {rest : List String} {givens : List (Flag × String)} :
      Argument.ofText argument = .flag flag none → Argument.ofText value = .plain → Give rest givens →
      Give (argument :: value :: rest) ((flag, value) :: givens)
  /-- A flag stands alone and implies its value. -/
  | alone {argument value : String} {flag : Flag} {rest : List String} {givens : List (Flag × String)} :
      Argument.ofText argument = .flag flag none → flag.impliedValue? = some value → Give rest givens →
      Give (argument :: rest) ((flag, value) :: givens)

/-- Whether an argument is neither a flag nor two dashes. -/
def Argument.isStray : Argument → Bool
  | separator | flag _ _ => false
  | help | helpWithValue | unknown | plain => true

namespace Give

variable {argument : String} {arguments rest : List String} {givens givens' : List (Flag × String)}

theorem isStray_eq_false (give : Give (argument :: rest) givens) : (Argument.ofText argument).isStray = false := by
  cases give with
  | separator form | joined form _ | next form _ _ | alone form _ _ => rw [form, Argument.isStray]

/-- No flag has two readings. An argument after a flag is its value exactly if it has no dash in front. -/
theorem unique (give : Give arguments givens) (give' : Give arguments givens') : givens = givens' := by
  induction give generalizing givens' with
  | nil =>
    cases give'
    rfl
  | separator form =>
    cases give' with
    | separator _ => rfl
    | joined form' _ | alone form' _ _ => simp [form] at form'
  | joined form _ ih =>
    cases give' with
    | joined form' give' =>
      cases form.symm.trans form'
      rw [ih give']
    | separator form' | next form' _ _ | alone form' _ _ => simp [form] at form'
  | next form plain _ ih =>
    cases give' with
    | next form' _ give' =>
      cases form.symm.trans form'
      rw [ih give']
    | alone _ _ give' => simpa [plain, Argument.isStray] using give'.isStray_eq_false
    | joined form' _ => simp [form] at form'
  | alone form implied give ih =>
    cases give' with
    | alone form' implied' give' =>
      cases form.symm.trans form'
      cases implied.symm.trans implied'
      rw [ih give']
    | next _ plain _ => simpa [plain, Argument.isStray] using give.isStray_eq_false
    | separator form' | joined form' _ => simp [form] at form'

end Give

namespace CommandLine

variable {argument value : String} {arguments consumed rest : List String} {flag : Flag}
variable {givens : List (Flag × String)} {line line' : CommandLine} {current : Option OpenFlag}

/-- Enters the value of a flag that is not given yet. -/
def enterNew? (line : CommandLine) (given : Flag × String) : Option CommandLine :=
  if line.isGiven given.1 then none else line.enter? given.2 given.1

/-- A command line takes arguments: they give flags, and each flag is new and takes its value. -/
def Takes (line : CommandLine) (arguments : List String) (line' : CommandLine) : Prop :=
  ∃ givens, Give arguments givens ∧ givens.foldlM enterNew? line = some line'

/-! ### The first argument -/

theorem takes_nil : line.Takes [] line' ↔ line = line' := by
  constructor
  · rintro ⟨givens, ⟨⟩, entered⟩
    simpa using entered
  · rintro rfl
    exact ⟨[], .nil, rfl⟩

theorem takes_separator (form : Argument.ofText argument = .separator) :
    line.Takes (argument :: rest) line' ↔ rest = [] ∧ line = line' := by
  constructor
  · rintro ⟨givens, give, entered⟩
    cases give with
    | separator _ => exact ⟨rfl, by simpa using entered⟩
    | joined form' _ | next form' _ _ | alone form' _ _ => simp [form] at form'
  · rintro ⟨rfl, rfl⟩
    exact ⟨[], .separator form, rfl⟩

theorem takes_joined (form : Argument.ofText argument = .flag flag (some value)) :
    line.Takes (argument :: rest) line' ↔
      ∃ later, line.enterNew? (flag, value) = some later ∧ later.Takes rest line' := by
  constructor
  · rintro ⟨givens, give, entered⟩
    cases give with
    | joined form' give =>
      cases form.symm.trans form'
      obtain ⟨later, first, entered⟩ := Option.bind_eq_some_iff.1 entered
      exact ⟨later, first, _, give, entered⟩
    | separator form' | next form' _ _ | alone form' _ _ => simp [form] at form'
  · rintro ⟨later, first, givens, give, entered⟩
    exact ⟨_, .joined form give, Option.bind_eq_some_iff.2 ⟨later, first, entered⟩⟩

theorem takes_open (form : Argument.ofText argument = .flag flag none) :
    line.Takes (argument :: rest) line' ↔
      (∃ value rest' later, rest = value :: rest' ∧ Argument.ofText value = .plain ∧
        line.enterNew? (flag, value) = some later ∧ later.Takes rest' line') ∨
      ∃ value later, flag.impliedValue? = some value ∧ line.enterNew? (flag, value) = some later ∧
        later.Takes rest line' := by
  constructor
  · rintro ⟨givens, give, entered⟩
    cases give with
    | next form' plain give =>
      cases form.symm.trans form'
      obtain ⟨later, first, entered⟩ := Option.bind_eq_some_iff.1 entered
      exact .inl ⟨_, _, later, rfl, plain, first, _, give, entered⟩
    | alone form' implied give =>
      cases form.symm.trans form'
      obtain ⟨later, first, entered⟩ := Option.bind_eq_some_iff.1 entered
      exact .inr ⟨_, later, implied, first, _, give, entered⟩
    | separator form' | joined form' _ => simp [form] at form'
  · rintro (⟨value, rest', later, rfl, plain, first, givens, give, entered⟩ |
      ⟨value, later, implied, first, givens, give, entered⟩)
    · exact ⟨_, .next form plain give, Option.bind_eq_some_iff.2 ⟨later, first, entered⟩⟩
    · exact ⟨_, .alone form implied give, Option.bind_eq_some_iff.2 ⟨later, first, entered⟩⟩

/-- Nothing begins with an argument that is neither a flag nor two dashes. -/
theorem not_takes (stray : (Argument.ofText argument).isStray) : ¬ line.Takes (argument :: rest) line' := by
  rintro ⟨givens, give, -⟩
  simp [give.isStray_eq_false] at stray

/-! ### The open flag -/

/-- The arguments that have been read for the open flag. -/
inductive Opens : Option OpenFlag → List String → Prop where
  /-- No flag is open. -/
  | closed : Opens none []
  /-- The value of a flag may still follow. -/
  | waiting {argument : String} {flag : Flag} : Argument.ofText argument = .flag flag none →
      Opens (some ⟨flag, none⟩) [argument]
  /-- The value of a flag has come. -/
  | filled {argument value : String} {flag : Flag} : Argument.ofText argument = .flag flag none →
      Argument.ofText value = .plain → Opens (some ⟨flag, some value⟩) [argument, value]

theorem bind_eq_ok_iff {α β ε : Type} {made : Except ε α} {next : α → Except ε β} {b : β} :
    (do next (← made)) = .ok b ↔ ∃ a, made = .ok a ∧ next a = .ok b := by
  cases made <;> simp [bind, Except.bind]

theorem settle_eq_ok_iff {given : OpenFlag} :
    line.settle given = .ok line' ↔
      ∃ value, given.value.or given.flag.impliedValue? = some value ∧
        line.enterNew? (given.flag, value) = some line' := by
  unfold settle enterNew?
  cases given.value.or given.flag.impliedValue? with
  | none => simp
  | some value =>
    cases given' : line.isGiven given.flag with
    | true => simp [given']
    | false =>
      cases entered : line.enter? value given.flag with
      | none => cases given.flag.isNumeric <;> simp [given', entered]
      | some later => simp [given', entered]

/-- If no value follows, the open flag is settled, and then come the other arguments. -/
theorem Opens.takes_iff (opens : Opens current consumed)
    (noValue : ∀ flag, current = some ⟨flag, none⟩ → ∀ value ∈ arguments.head?, Argument.ofText value ≠ .plain) :
    line.Takes (consumed ++ arguments) line' ↔
      ∃ later, line.settleOpen current = .ok later ∧ later.Takes arguments line' := by
  cases opens with
  | closed => simp [settleOpen]
  | waiting form =>
    rw [List.singleton_append, takes_open form]
    simp only [settleOpen, settle_eq_ok_iff, Option.none_or]
    constructor
    · rintro (⟨value, rest, later, rfl, plain, -⟩ | ⟨value, later, implied, first, takes⟩)
      · exact absurd plain (noValue _ rfl value rfl)
      · exact ⟨later, ⟨value, implied, first⟩, takes⟩
    · rintro ⟨later, ⟨value, implied, first⟩, takes⟩
      exact .inr ⟨value, later, implied, first, takes⟩
  | filled form plain =>
    rw [List.cons_append, takes_open form]
    simp only [settleOpen, settle_eq_ok_iff, Option.some_or, Option.some.injEq]
    constructor
    · rintro (⟨value, rest, later, same, -, first, takes⟩ | ⟨-, later, -, -, takes⟩)
      · cases same
        exact ⟨later, ⟨_, rfl, first⟩, takes⟩
      · exact absurd takes (not_takes (by simp [plain, Argument.isStray]))
    · rintro ⟨later, ⟨value, rfl, first⟩, takes⟩
      exact .inl ⟨_, _, later, rfl, plain, first, takes⟩

/-- After the open flag, nothing goes on with an argument that is neither a flag, two dashes nor a value. -/
theorem Opens.not_takes (opens : Opens current consumed) (stray : (Argument.ofText argument).isStray)
    (noValue : ∀ flag, current = some ⟨flag, none⟩ → Argument.ofText argument ≠ .plain) :
    ¬ line.Takes (consumed ++ argument :: rest) line' := by
  rw [opens.takes_iff (by simpa using noValue)]
  rintro ⟨later, -, takes⟩
  exact CommandLine.not_takes stray takes

/-! ### All arguments -/

/-- Reading on from an open flag accepts what the whole list, from that flag on, can be taken as. -/
theorem readFrom_eq_ok_iff (opens : Opens current consumed) :
    line.readFrom current arguments = .ok line' ↔ line.Takes (consumed ++ arguments) line' := by
  induction arguments generalizing line current consumed with
  | nil =>
    rw [opens.takes_iff (by simp)]
    simp [readFrom, takes_nil]
  | cons argument rest ih =>
    rw [readFrom.eq_def]
    cases form : Argument.ofText argument with
    | separator =>
      rw [opens.takes_iff (by simp [form])]
      cases rest with
      | nil => simp [form, takes_separator form]
      | cons extra rest => simp [form, takes_separator form]
    | help =>
      refine iff_of_false ?_ (opens.not_takes (by simp [form, Argument.isStray]) (by simp [form]))
      cases line.settleOpen current <;> simp [form, Except.bind]
    | helpWithValue | unknown =>
      exact iff_of_false (by simp [form]) (opens.not_takes (by simp [form, Argument.isStray]) (by simp [form]))
    | flag flag value =>
      rw [opens.takes_iff (by simp [form])]
      cases value with
      | none =>
        simp only [form, bind_eq_ok_iff]
        exact exists_congr fun later => and_congr_right fun _ => ih (.waiting form)
      | some value =>
        simp only [form, bind_eq_ok_iff, takes_joined form]
        refine exists_congr fun later => and_congr_right fun _ => exists_congr fun later' => ?_
        exact and_congr (by simp [settle_eq_ok_iff]) (ih .closed)
    | plain =>
      -- Such an argument is the value of an open flag that waits for one. Anywhere else it is not understood.
      match current, opens with
      | some ⟨flag, none⟩, .waiting opened => simp [form, ih (.filled opened form)]
      | none, opens | some ⟨_, some _⟩, opens =>
        exact iff_of_false (by simp [form]) (opens.not_takes (by simp [form, Argument.isStray]) (by simp))

/-- **A command line is accepted exactly if its arguments give each flag at most once, with a value that it takes.** -/
theorem read_eq_ok_iff : read arguments = .ok line ↔ Takes {} arguments line :=
  readFrom_eq_ok_iff .closed

/-! ### What comes of a list of flags -/

variable {x : FieldName}

theorem enterNew?_flag_eq_some_iff :
    line.enterNew? (x.flag, value) = some line' ↔
      line.fields.get? x = none ∧ ∃ v, x.read? value = some v ∧
        { line with fields := line.fields.put x v } = line' := by
  simp [enterNew?, isGiven_flag, enter?_flag]

theorem enterNew?_config_eq_some_iff :
    line.enterNew? (.config, value) = some line' ↔
      line.config = none ∧ value ≠ "" ∧ { line with config := value } = line' := by
  simp [enterNew?, isGiven, enter?]

theorem config_enterNew? (entered : line.enterNew? (flag, value) = some line') :
    line'.config = if flag = .config then some value else line.config := by
  by_cases isConfig : flag = .config
  · subst isConfig
    obtain ⟨-, -, rfl⟩ := enterNew?_config_eq_some_iff.1 entered
    simp
  · obtain ⟨x, rfl⟩ := FieldName.exists_flag isConfig
    obtain ⟨-, v, -, rfl⟩ := enterNew?_flag_eq_some_iff.1 entered
    simp [isConfig]

/-- A field gets the value of its flag, and the other fields keep theirs. -/
theorem get?_enterNew? (entered : line.enterNew? (flag, value) = some line') (x : FieldName) :
    (line'.fields.get? x).map some =
      if flag = x.flag then some (x.read? value) else (line.fields.get? x).map some := by
  by_cases isConfig : flag = .config
  · subst isConfig
    obtain ⟨-, -, rfl⟩ := enterNew?_config_eq_some_iff.1 entered
    simp [x.flag_ne_config.symm]
  · obtain ⟨y, rfl⟩ := FieldName.exists_flag isConfig
    obtain ⟨-, v, read, rfl⟩ := enterNew?_flag_eq_some_iff.1 entered
    by_cases same : x = y
    · subst same
      simp [read]
    · rw [Fields.get?_put_of_ne _ _ same, if_neg fun h => same (FieldName.flag_injective h).symm]

/-- A flag that is entered is given from then on. -/
theorem isGiven_enterNew? (entered : line.enterNew? (flag, value) = some line') (other : Flag) :
    line'.isGiven other = (decide (flag = other) || line.isGiven other) := by
  by_cases isConfig : other = .config
  · subst isConfig
    rw [isGiven, config_enterNew? entered]
    by_cases same : flag = .config <;> simp [same, isGiven]
  · obtain ⟨x, rfl⟩ := FieldName.exists_flag isConfig
    rw [isGiven_flag, isGiven_flag, ← Option.isSome_map, get?_enterNew? entered x]
    by_cases same : flag = x.flag <;> simp [same]

theorem isGiven_of_enterNew? (entered : line.enterNew? (flag, value) = some line') : line.isGiven flag = false := by
  by_contra given
  simp [enterNew?, given] at entered

/-- The flags in the list are new, and each of them comes once. -/
theorem new_of_enterAll (entered : givens.foldlM enterNew? line = some line') :
    (∀ flag ∈ givens.map Prod.fst, line.isGiven flag = false) ∧ (givens.map Prod.fst).Nodup := by
  induction givens generalizing line with
  | nil => simp
  | cons given givens ih =>
    obtain ⟨later, first, entered⟩ := Option.bind_eq_some_iff.1 entered
    obtain ⟨new, once⟩ := ih entered
    simp only [isGiven_enterNew? first, Bool.or_eq_false_iff, decide_eq_false_iff_not] at new
    rw [List.map_cons, List.nodup_cons]
    refine ⟨?_, fun again => (new _ again).1 rfl, once⟩
    rintro flag (_ | ⟨_, mem⟩)
    · exact isGiven_of_enterNew? first
    · exact (new flag mem).2

/-- What a flag has been given before comes first, and then comes its value in the list. -/
theorem eq_lookup_of_enterAll {α : Type} {target : Flag} {get : CommandLine → Option α} (read : String → α)
    (given : ∀ line, line.isGiven target = (get line).isSome)
    (step : ∀ {line line' : CommandLine} {flag value}, line.enterNew? (flag, value) = some line' →
      get line' = if flag = target then some (read value) else get line)
    (entered : givens.foldlM enterNew? line = some line') :
    get line' = (get line).or ((givens.lookup target).map read) := by
  induction givens generalizing line with
  | nil =>
    cases entered
    simp
  | cons given' givens ih =>
    obtain ⟨flag, value⟩ := given'
    obtain ⟨later, first, entered⟩ := Option.bind_eq_some_iff.1 entered
    rw [ih entered, step first]
    by_cases same : flag = target
    · subst same
      have unset : (get line).isSome = false := by rw [← given, isGiven_of_enterNew? first]
      rw [Option.isSome_eq_false_iff, Option.isNone_iff_eq_none] at unset
      simp [unset]
    · rw [if_neg same, List.lookup_cons, beq_false_of_ne (Ne.symm same)]

/-- **An accepted command line sets exactly the fields whose flags it gives, to what their values read as.** -/
theorem read_gives (accepted : read arguments = .ok line) :
    ∃ givens, (∀ other, Give arguments other ↔ other = givens) ∧ (givens.map Prod.fst).Nodup ∧
      line.config = givens.lookup .config ∧
      ∀ x, (line.fields.get? x).map some = (givens.lookup x.flag).map x.read? := by
  obtain ⟨givens, give, entered⟩ := read_eq_ok_iff.1 accepted
  refine ⟨givens, fun other => ⟨fun give' => give'.unique give, ?_⟩, (new_of_enterAll entered).2, ?_, fun x => ?_⟩
  · rintro rfl
    exact give
  · simpa using eq_lookup_of_enterAll id (fun _ => rfl) config_enterNew? entered
  · have unset : ({} : CommandLine).fields.get? x = none := Fields.get?_unset x
    have given (line : CommandLine) : line.isGiven x.flag = ((line.fields.get? x).map some).isSome := by
      rw [isGiven_flag, Option.isSome_map]
    simpa [unset] using eq_lookup_of_enterAll x.read? given (fun first => get?_enterNew? first x) entered

end CommandLine

end PromptLoop
