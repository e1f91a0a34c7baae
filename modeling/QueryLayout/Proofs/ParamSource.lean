import Mathlib.Data.List.Forall2
import Mathlib.Data.List.TakeWhile
import QueryLayout.Config
import QueryLayout.Proofs.LongIntegers
import QueryLayout.Proofs.SwitchValues

namespace QueryLayout

/-- A parameter gives a value to a name, which ends at the first equals sign. -/
def Assigns (param : SwitchValue (List Char)) (name value : List Char) : Prop :=
  param.display = name ++ '=' :: value ∧ '=' ∉ name

/-- The value that the last of the parameters with the name gives to it. -/
def LastAssigned (params : List (SwitchValue (List Char))) (name value : List Char) : Prop :=
  ∃ earlier param later, params = earlier ++ param :: later ∧ Assigns param name value ∧
    ∀ other ∈ later, ∀ again, ¬Assigns other name again

section Sources

variable (arguments : Arguments) (config : Toml.Table)

/-- Where the value of a name comes from. -/
inductive NamedFrom (name : List Char) : List Char → Prop
  | argument {value : List Char} : LastAssigned arguments.params name value → NamedFrom name value
  | config {entries : List (List Char × Toml.Value)} {value : Toml.Value} {text : List Char} :
      (∀ param ∈ arguments.params, ∀ again, ¬Assigns param name again) →
      config.lookup "params".toList = some (.table entries) → entries.lookup name = some value →
      value.plain? = some (String.ofList text) → NamedFrom name text

/-- Where the values in sequence come from. -/
inductive SequenceFrom : List (SwitchValue (List Char)) → Prop
  | argument : arguments.args ≠ [] → SequenceFrom arguments.args
  | config {items : List Toml.Value} {texts : List (List Char)} : arguments.args = [] →
      config.lookup "args".toList = some (.array items) →
      List.Forall₂ (fun item text => item.plain? = some (String.ofList text)) items texts →
      SequenceFrom (texts.map .given)
  | none : arguments.args = [] → (∀ items, config.lookup "args".toList ≠ some (.array items)) → SequenceFrom []

/-- Where the parameters come from. -/
inductive ParamsFrom : GivenParams → Prop
  | named {bindings : List (List Char × List Char)} : bindings ≠ [] → SequenceFrom arguments config [] →
      (∀ name value, bindings.lookup name = some value ↔ NamedFrom arguments config name value) →
      ParamsFrom (.named bindings)
  | positional {values : List (SwitchValue (List Char))} : values ≠ [] → SequenceFrom arguments config values →
      (∀ name value, ¬NamedFrom arguments config name value) → ParamsFrom (.positional values)
  | absent : SequenceFrom arguments config [] → (∀ name value, ¬NamedFrom arguments config name value) →
      ParamsFrom .absent

/-- Why parameters are rejected. -/
inductive RejectedParams : Prop
  | noSign {param : SwitchValue (List Char)} : param ∈ arguments.params → '=' ∉ param.display → RejectedParams
  | mixed {name value : List Char} {values : List (SwitchValue (List Char))} :
      NamedFrom arguments config name value → SequenceFrom arguments config values → values ≠ [] → RejectedParams

/-- A parameter of the configuration cannot be shown. Those with a name are looked at before the parameters of
the command line, and those in sequence after them, even if they are not used. -/
inductive BadParams : Prop
  | named {entries : List (List Char × Toml.Value)} {entry : List Char × Toml.Value} :
      config.lookup "params".toList = some (.table entries) → entry ∈ entries → entry.2.HoldsLong → BadParams
  | sequence {items : List Toml.Value} {item : Toml.Value} :
      (∀ param ∈ arguments.params, '=' ∈ param.display) →
      config.lookup "args".toList = some (.array items) → item ∈ items → item.HoldsLong → BadParams

end Sources

section Traversal

variable {ε α β : Type} {f : α → Except ε β}

theorem mapM_eq_ok_iff {items : List α} {results : List β} :
    items.mapM f = .ok results ↔ List.Forall₂ (fun item result => f item = .ok result) items results := by
  induction items generalizing results with
  | nil => simp [pure, Except.pure, @eq_comm _ [] results]
  | cons item later ih =>
    rw [List.mapM_cons, List.forall₂_cons_left_iff]
    constructor
    · intro made
      obtain ⟨result, first, made⟩ := bind_eq_ok made
      obtain ⟨others, rest, made⟩ := bind_eq_ok made
      cases made
      exact ⟨result, others, first, ih.mp rest, rfl⟩
    · rintro ⟨result, others, first, rest, rfl⟩
      simp [first, ih.mpr rest, bind, Except.bind, pure, Except.pure]

theorem mapM_eq_error {items : List α} {error : ε} (failed : items.mapM f = .error error) :
    ∃ item ∈ items, f item = .error error := by
  induction items with
  | nil => cases failed
  | cons item later ih =>
    rw [List.mapM_cons] at failed
    rcases bind_eq_error failed with broken | ⟨_, _, failed⟩
    · exact ⟨item, List.mem_cons_self, broken⟩
    · rcases bind_eq_error failed with broken | ⟨_, _, failed⟩
      · obtain ⟨other, member, broken⟩ := ih broken
        exact ⟨other, List.mem_cons_of_mem _ member, broken⟩
      · cases failed

theorem mapM_mem {items : List α} {item : α} {results : List β} (made : items.mapM f = .ok results)
    (member : item ∈ items) : ∃ result, f item = .ok result := by
  rw [mapM_eq_ok_iff] at made
  induction made with
  | nil => cases member
  | cons first _ ih =>
    rcases List.mem_cons.mp member with rfl | inside
    · exact ⟨_, first⟩
    · exact ih inside

end Traversal

section Bindings

variable {name other value : List Char} {bindings result : List (List Char × List Char)}
  {param : SwitchValue (List Char)} {params : List (SwitchValue (List Char))}

theorem splitEquals_append (plain : '=' ∉ name) (value : List Char) :
    splitEquals (name ++ '=' :: value) = (name, some value) := by
  have passes : ∀ c ∈ name, (c != '=') = true := fun c member => bne_iff_ne.mpr fun same => plain (same ▸ member)
  have front : (name ++ '=' :: value).takeWhile (· != '=') = name := by
    rw [List.takeWhile_append_of_pos passes]
    simp
  have back : (name ++ '=' :: value).dropWhile (· != '=') = '=' :: value := by
    rw [List.dropWhile_append_of_pos passes]
    simp
  rw [splitEquals, back, front]

theorem splitEquals_of_not_mem {text : List Char} (none : '=' ∉ text) : splitEquals text = (text, .none) := by
  have passes : text.dropWhile (· != '=') = [] :=
    List.dropWhile_eq_nil_iff.mpr fun c member => bne_iff_ne.mpr fun same => none (same ▸ member)
  rw [splitEquals, passes]

theorem exists_assigns (sign : '=' ∈ param.display) : ∃ name value, Assigns param name value := by
  obtain ⟨name, value, split, plain⟩ := List.eq_append_cons_of_mem sign
  exact ⟨name, value, split, plain⟩

theorem Assigns.parseParam (assigns : Assigns param name value) :
    parseParam param.display = .ok (name, value) := by
  rw [QueryLayout.parseParam, assigns.1, splitEquals_append assigns.2]

theorem Assigns.iff {again : List Char} (assigns : Assigns param name value) :
    Assigns param other again ↔ other = name ∧ again = value := by
  constructor
  · intro also
    simpa using also.parseParam.symm.trans assigns.parseParam
  · rintro ⟨rfl, rfl⟩
    exact assigns

theorem lookup_setBinding_self (name value : List Char) (bindings : List (List Char × List Char)) :
    (setBinding name value bindings).lookup name = some value := by
  induction bindings with
  | nil => simp [setBinding]
  | cons binding later ih =>
    obtain ⟨first, old⟩ := binding
    unfold setBinding
    split
    · simp
    · rename_i different
      rw [List.lookup_cons, beq_false_of_ne (Ne.symm different), ih]

theorem lookup_setBinding_of_ne (different : other ≠ name) (value : List Char)
    (bindings : List (List Char × List Char)) :
    (setBinding name value bindings).lookup other = bindings.lookup other := by
  induction bindings with
  | nil => simp [setBinding, different]
  | cons binding later ih =>
    obtain ⟨first, old⟩ := binding
    unfold setBinding
    split
    · subst first
      simp [List.lookup_cons, beq_false_of_ne different]
    · rw [List.lookup_cons, List.lookup_cons, ih]

theorem bindings_eq_nil_iff : bindings = [] ↔ ∀ name value, bindings.lookup name ≠ some value := by
  constructor
  · rintro rfl name value
    simp
  · intro none
    cases bindings with
    | nil => rfl
    | cons binding later => exact absurd List.lookup_cons_self (none binding.1 binding.2)

theorem lastAssigned_cons : LastAssigned (param :: params) name value ↔
    LastAssigned params name value ∨
      Assigns param name value ∧ ∀ other ∈ params, ∀ again, ¬Assigns other name again := by
  constructor
  · rintro ⟨earlier, last, later, split, assigns, none⟩
    cases earlier with
    | nil =>
      obtain ⟨rfl, rfl⟩ := List.cons.inj split
      exact Or.inr ⟨assigns, none⟩
    | cons first earlier =>
      obtain ⟨rfl, rfl⟩ := List.cons.inj split
      exact Or.inl ⟨earlier, last, later, rfl, assigns, none⟩
  · rintro (⟨earlier, last, later, rfl, assigns, none⟩ | ⟨assigns, none⟩)
    · exact ⟨param :: earlier, last, later, rfl, assigns, none⟩
    · exact ⟨[], param, params, rfl, assigns, none⟩

/-- Parameters are accepted if and only if each of them has an equals sign. -/
theorem addParams_eq_ok_iff : (∃ result, addParams bindings params = .ok result) ↔
    ∀ param ∈ params, '=' ∈ param.display := by
  induction params generalizing bindings with
  | nil => simp [addParams]
  | cons param later ih =>
    rw [List.forall_mem_cons]
    by_cases sign : '=' ∈ param.display
    · obtain ⟨name, value, assigns⟩ := exists_assigns sign
      simp only [addParams, assigns.parseParam, sign, true_and]
      exact ih
    · simp [addParams, parseParam, splitEquals_of_not_mem sign, sign, bind, Except.bind]

/-- The only complaint about parameters that are given one by one is that one of them has no equals sign. -/
theorem addParams_eq_error {error : SettingsError} (failed : addParams bindings params = .error error) :
    (∃ param ∈ params, '=' ∉ param.display) ∧ ∃ text, error = .badParam text := by
  induction params generalizing bindings with
  | nil => cases failed
  | cons param later ih =>
    by_cases sign : '=' ∈ param.display
    · obtain ⟨name, value, assigns⟩ := exists_assigns sign
      simp only [addParams, assigns.parseParam] at failed
      obtain ⟨⟨other, member, none⟩, complaint⟩ := ih failed
      exact ⟨⟨other, List.mem_cons_of_mem _ member, none⟩, complaint⟩
    · simp only [addParams, parseParam, splitEquals_of_not_mem sign, bind, Except.bind, Except.error.injEq]
        at failed
      exact ⟨⟨param, List.mem_cons_self, sign⟩, _, failed.symm⟩

theorem parseParam_eq_ok {text : List Char} (parsed : parseParam text = .ok (name, value)) : '=' ∈ text := by
  by_contra none
  simp [parseParam, splitEquals_of_not_mem none] at parsed

/-- The last parameter with a name gives it its value, and the other names keep theirs. -/
theorem lookup_addParams (added : addParams bindings params = .ok result) (name value : List Char) :
    result.lookup name = some value ↔ LastAssigned params name value ∨
      (∀ param ∈ params, ∀ again, ¬Assigns param name again) ∧ bindings.lookup name = some value := by
  induction params generalizing bindings with
  | nil =>
    cases added
    simp [LastAssigned]
  | cons param later ih =>
    obtain ⟨⟨first, given⟩, parsed, added⟩ := bind_eq_ok added
    obtain ⟨_, _, assigns⟩ := exists_assigns (parseParam_eq_ok parsed)
    cases assigns.parseParam.symm.trans parsed
    rw [ih added, lastAssigned_cons, List.forall_mem_cons]
    by_cases same : name = first
    · subst same
      simp [lookup_setBinding_self, assigns.iff, @eq_comm _ given, and_comm]
    · simp [lookup_setBinding_of_ne same, assigns.iff, same]

end Bindings

section Showing

variable {config : Toml.Table} {value : Toml.Value}

theorem plainText_eq_ok_iff {text : List Char} :
    plainText value = .ok text ↔ value.plain? = some (String.ofList text) := by
  unfold plainText
  cases value.plain? with
  | none => simp
  | some shown => simp [String.ext_iff]

theorem plainText_eq_error {error : SettingsError} (failed : plainText value = .error error) :
    error = .longInteger ∧ value.HoldsLong := by
  rw [← Toml.Value.plain?_eq_none_iff]
  unfold plainText at failed
  cases shown : value.plain? with
  | none => simpa [shown, @eq_comm _ _ error] using failed
  | some => simp [shown] at failed

theorem plainText_short {text : List Char} (made : plainText value = .ok text) : ¬value.HoldsLong := by
  rw [← Toml.Value.plain?_eq_none_iff, plainText_eq_ok_iff.mp made]
  exact Option.some_ne_none _

theorem configBindings_eq_error {error : SettingsError} (failed : configBindings config = .error error) :
    error = .longInteger ∧ ∃ entries, config.lookup "params".toList = some (.table entries) ∧
      ∃ entry ∈ entries, entry.2.HoldsLong := by
  unfold configBindings at failed
  split at failed
  · rename_i entries found
    obtain ⟨entry, member, broken⟩ := mapM_eq_error failed
    cases shown : plainText entry.2 with
    | error other =>
      obtain ⟨rfl, long⟩ := plainText_eq_error shown
      simp only [shown, Except.map, Except.error.injEq] at broken
      exact ⟨broken.symm, entries, found, entry, member, long⟩
    | ok => simp [shown, Except.map] at broken
  · cases failed

theorem configValues_eq_error {error : SettingsError} (failed : configValues config = .error error) :
    error = .longInteger ∧ ∃ items, config.lookup "args".toList = some (.array items) ∧
      ∃ item ∈ items, item.HoldsLong := by
  unfold configValues at failed
  split at failed
  · rename_i items found
    obtain ⟨item, member, broken⟩ := mapM_eq_error failed
    obtain ⟨rfl, long⟩ := plainText_eq_error broken
    exact ⟨rfl, items, found, item, member, long⟩
  · cases failed

section Table

variable {entries : List (List Char × Toml.Value)} {bindings : List (List Char × List Char)}

/-- The parameters of the configuration, entry by entry. -/
theorem configBindings_eq_ok (found : config.lookup "params".toList = some (.table entries))
    (made : configBindings config = .ok bindings) :
    List.Forall₂ (fun entry binding => plainText entry.2 = .ok binding.2 ∧ entry.1 = binding.1)
      entries bindings := by
  simp only [configBindings, found, mapM_eq_ok_iff] at made
  refine made.imp fun entry binding shown => ?_
  obtain ⟨text, first, rfl⟩ := map_eq_ok shown
  exact ⟨first, rfl⟩

theorem configBindings_short (found : config.lookup "params".toList = some (.table entries))
    (made : configBindings config = .ok bindings) : ∀ entry ∈ entries, ¬entry.2.HoldsLong := by
  intro entry member
  simp only [configBindings, found] at made
  obtain ⟨_, shown⟩ := mapM_mem made member
  obtain ⟨text, first, _⟩ := map_eq_ok shown
  exact plainText_short first

theorem configBindings_none (none : ∀ entries, config.lookup "params".toList ≠ some (.table entries)) :
    configBindings config = .ok [] := by
  unfold configBindings
  split
  · rename_i found
    exact absurd found (none _)
  · rfl

theorem lookup_shown {name text : List Char} (shown : List.Forall₂
      (fun entry binding => plainText entry.2 = .ok binding.2 ∧ entry.1 = binding.1) entries bindings) :
    bindings.lookup name = some text ↔
      ∃ value, entries.lookup name = some value ∧ value.plain? = some (String.ofList text) := by
  induction shown with
  | nil => simp
  | cons first _ ih =>
    obtain ⟨first, key⟩ := first
    rw [List.lookup_cons, List.lookup_cons, ← key]
    split
    · simp [← plainText_eq_ok_iff, first]
    · exact ih

theorem lookup_configBindings {name text : List Char} (made : configBindings config = .ok bindings) :
    bindings.lookup name = some text ↔ ∃ entries value, config.lookup "params".toList = some (.table entries) ∧
      entries.lookup name = some value ∧ value.plain? = some (String.ofList text) := by
  by_cases table : ∃ entries, config.lookup "params".toList = some (.table entries)
  · obtain ⟨entries, found⟩ := table
    rw [lookup_shown (configBindings_eq_ok found made)]
    constructor
    · rintro ⟨value, entry, shown⟩
      exact ⟨entries, value, found, entry, shown⟩
    · rintro ⟨_, value, again, entry, shown⟩
      cases found.symm.trans again
      exact ⟨value, entry, shown⟩
  · have none : ∀ entries, config.lookup "params".toList ≠ some (.table entries) := not_exists.mp table
    cases (configBindings_none none).symm.trans made
    simp only [List.lookup_nil, reduceCtorEq, false_iff]
    rintro ⟨entries, _, found, _⟩
    exact none entries found

end Table

end Showing

section Resolving

variable {arguments : Arguments} {config : Toml.Table}

theorem sequenceFrom_iff {texts : List (List Char)} (made : configValues config = .ok texts)
    {values : List (SwitchValue (List Char))} : SequenceFrom arguments config values ↔
      values = if arguments.args.isEmpty then texts.map .given else arguments.args := by
  unfold configValues at made
  split
  · rename_i noArgs
    rw [List.isEmpty_iff] at noArgs
    split at made
    · rename_i items found
      have shown : List.Forall₂ (fun item text => item.plain? = some (String.ofList text)) items texts := by
        simpa only [mapM_eq_ok_iff, plainText_eq_ok_iff] using made
      constructor
      · intro source
        cases source with
        | argument given => exact absurd noArgs given
        | config _ array again =>
          cases found.symm.trans array
          simp only [← plainText_eq_ok_iff, ← mapM_eq_ok_iff] at again
          rw [Except.ok.inj (again.symm.trans made)]
        | none _ noArray => exact absurd found (noArray items)
      · rintro rfl
        exact .config noArgs found shown
    · rename_i noArray
      cases made
      constructor
      · intro source
        cases source with
        | argument given => exact absurd noArgs given
        | config _ array => exact absurd array (noArray _)
        | none => rfl
      · rintro rfl
        exact .none noArgs noArray
  · rename_i given
    rw [List.isEmpty_iff] at given
    constructor
    · intro source
      cases source with
      | argument => rfl
      | config noArgs => exact absurd noArgs given
      | none noArgs => exact absurd noArgs given
    · rintro rfl
      exact .argument given

section Added

variable {initial bindings : List (List Char × List Char)} (made : configBindings config = .ok initial)
  (added : addParams initial arguments.params = .ok bindings)

include made added

theorem lookup_named (name value : List Char) :
    bindings.lookup name = some value ↔ NamedFrom arguments config name value := by
  rw [lookup_addParams added, lookup_configBindings made]
  constructor
  · rintro (last | ⟨none, entries, given, table, entry, shown⟩)
    · exact .argument last
    · exact .config none table entry shown
  · rintro (last | ⟨none, table, entry, shown⟩)
    · exact Or.inl last
    · exact Or.inr ⟨none, _, _, table, entry, shown⟩

theorem exists_namedFrom_iff : (∃ name value, NamedFrom arguments config name value) ↔ bindings ≠ [] := by
  simp only [← lookup_named made added, ne_eq, bindings_eq_nil_iff]
  push Not
  rfl

theorem resolveParams_of_added {texts : List (List Char)} {values : List (SwitchValue (List Char))}
    (shown : configValues config = .ok texts) (source : SequenceFrom arguments config values) :
    resolveParams arguments config =
      if bindings ≠ [] ∧ values ≠ [] then .error .mixedParams
      else if bindings ≠ [] then .ok (.named bindings)
      else if values ≠ [] then .ok (.positional values)
      else .ok .absent := by
  rw [sequenceFrom_iff shown] at source
  simp only [resolveParams, made, added, shown, bind, Except.bind, ← source]
  cases bindings <;> cases values <;> simp

end Added

/-- What an error in the parameters is about. -/
theorem resolveParams_eq_error {error : SettingsError} (failed : resolveParams arguments config = .error error) :
    error = .longInteger ∧ BadParams arguments config ∨
      SetupError.ofSettings error = .settings error ∧ RejectedParams arguments config := by
  rcases bind_eq_error failed with broken | ⟨initial, made, later⟩
  · obtain ⟨rfl, entries, found, entry, member, long⟩ := configBindings_eq_error broken
    exact Or.inl ⟨rfl, .named found member long⟩
  rcases bind_eq_error later with broken | ⟨bindings, added, later⟩
  · obtain ⟨⟨param, member, none⟩, text, rfl⟩ := addParams_eq_error broken
    exact Or.inr ⟨rfl, .noSign member none⟩
  rcases bind_eq_error later with broken | ⟨texts, shown, _⟩
  · obtain ⟨rfl, items, found, item, member, long⟩ := configValues_eq_error broken
    exact Or.inl ⟨rfl, .sequence (addParams_eq_ok_iff.mp ⟨_, added⟩) found member long⟩
  obtain ⟨values, source⟩ : ∃ values, SequenceFrom arguments config values := ⟨_, (sequenceFrom_iff shown).mpr rfl⟩
  rw [resolveParams_of_added made added shown source] at failed
  split at failed
  · rename_i both
    cases failed
    obtain ⟨name, value, named⟩ := (exists_namedFrom_iff made added).mpr both.1
    exact Or.inr ⟨rfl, .mixed named source both.2⟩
  · split at failed
    · cases failed
    · split at failed <;> cases failed

theorem BadParams.resolveParams_eq (bad : BadParams arguments config) :
    resolveParams arguments config = .error .longInteger := by
  cases made : configBindings config with
  | error other =>
    obtain ⟨rfl, _⟩ := configBindings_eq_error made
    simp [resolveParams, made, bind, Except.bind]
  | ok initial =>
    cases bad with
    | named found member long => exact absurd long (configBindings_short found made _ member)
    | @sequence items item signs found member long =>
      obtain ⟨bindings, added⟩ : ∃ bindings, addParams initial arguments.params = .ok bindings :=
        addParams_eq_ok_iff.mpr signs
      cases shown : configValues config with
      | error other =>
        obtain ⟨rfl, _⟩ := configValues_eq_error shown
        simp [resolveParams, made, added, shown, bind, Except.bind]
      | ok texts =>
        simp only [configValues, found] at shown
        obtain ⟨_, short⟩ := mapM_mem shown member
        exact absurd long (plainText_short short)

theorem RejectedParams.resolveParams_eq (rejected : RejectedParams arguments config) :
    ∃ error, resolveParams arguments config = .error error := by
  by_contra accepted
  cases resolved : resolveParams arguments config with
  | error error => exact accepted ⟨error, resolved⟩
  | ok params =>
    obtain ⟨initial, made, resolved⟩ := bind_eq_ok resolved
    obtain ⟨bindings, added, resolved⟩ := bind_eq_ok resolved
    obtain ⟨texts, shown, _⟩ := bind_eq_ok resolved
    cases rejected with
    | noSign member none => exact none (addParams_eq_ok_iff.mp ⟨bindings, added⟩ _ member)
    | mixed named source nonempty =>
      have some := (exists_namedFrom_iff made added).mp ⟨_, _, named⟩
      exact accepted ⟨_, (resolveParams_of_added made added shown source).trans (if_pos ⟨some, nonempty⟩)⟩

/-- A run breaks off for its parameters where `BadParams` says so. -/
theorem resolveParams_eq_fault_iff {fault : Fault} :
    (∃ error, resolveParams arguments config = .error error ∧ SetupError.ofSettings error = .fault fault) ↔
      BadParams arguments config ∧ fault = .longInteger none := by
  constructor
  · rintro ⟨error, failed, isFault⟩
    rcases resolveParams_eq_error failed with ⟨rfl, bad⟩ | ⟨reported, _⟩
    · cases isFault
      exact ⟨bad, rfl⟩
    · cases reported.symm.trans isFault
  · rintro ⟨bad, rfl⟩
    exact ⟨_, bad.resolveParams_eq, rfl⟩

/-- Parameters are found unless they are rejected or a run breaks off for them. -/
theorem resolveParams_eq_ok_iff : (∃ params, resolveParams arguments config = .ok params) ↔
    ¬RejectedParams arguments config ∧ ¬BadParams arguments config := by
  constructor
  · rintro ⟨params, found⟩
    constructor
    · intro rejected
      obtain ⟨error, failed⟩ := rejected.resolveParams_eq
      cases found.symm.trans failed
    · intro bad
      cases found.symm.trans bad.resolveParams_eq
  · rintro ⟨accepted, prepared⟩
    cases found : resolveParams arguments config with
    | ok params => exact ⟨params, rfl⟩
    | error error =>
      rcases resolveParams_eq_error found with ⟨_, bad⟩ | ⟨_, rejected⟩
      · exact absurd bad prepared
      · exact absurd rejected accepted

theorem resolveParams_from {params : GivenParams} (resolved : resolveParams arguments config = .ok params) :
    ParamsFrom arguments config params := by
  obtain ⟨initial, made, rest⟩ := bind_eq_ok resolved
  obtain ⟨bindings, added, rest⟩ := bind_eq_ok rest
  obtain ⟨texts, shown, _⟩ := bind_eq_ok rest
  obtain ⟨values, source⟩ : ∃ values, SequenceFrom arguments config values :=
    ⟨_, (sequenceFrom_iff shown).mpr rfl⟩
  have unnamed (empty : bindings = []) (name value : List Char) : ¬NamedFrom arguments config name value :=
    fun named => (exists_namedFrom_iff made added).mp ⟨name, value, named⟩ empty
  rw [resolveParams_of_added made added shown source] at resolved
  split at resolved
  · cases resolved
  · rename_i notBoth
    split at resolved
    · rename_i some
      cases resolved
      have noValues : values = [] := by simpa [some] using notBoth
      exact .named some (noValues ▸ source) (lookup_named made added)
    · rename_i none
      have empty : bindings = [] := by simpa using none
      split at resolved
      · rename_i some
        cases resolved
        exact .positional some source (unnamed empty)
      · rename_i none
        cases resolved
        have noValues : values = [] := by simpa using none
        exact .absent (noValues ▸ source) (unnamed empty)

end Resolving

end QueryLayout
