import Mathlib.Data.List.Infix
import QueryLayout.Arguments

namespace QueryLayout

/-- Only an earlier release takes an attached text for no value. -/
theorem SwitchValue.ofAttached_cases (release : Release) (text : List Char) :
    SwitchValue.ofAttached release text = .given text ∨
      release = .earlier ∧ text = ['-', '-'] ∧ SwitchValue.ofAttached release text = .blank := by
  cases release with
  | later => exact Or.inl rfl
  | earlier =>
    by_cases dashes : text = ['-', '-']
    · exact Or.inr ⟨rfl, dashes, if_pos dashes⟩
    · exact Or.inl (if_neg dashes)

/-- All values that a word of the command line can supply are of some sort: the word itself, and what is
left of it after the name of a switch. -/
def Supplies (release : Release) (holds : SwitchValue (List Char) → Prop) (text : List Char) : Prop :=
  holds (.given text) ∧ ∀ name attached, name ≠ [] → text = name ++ attached → holds (.ofAttached release attached)

/-- Arguments all of whose values are of some sort. Where no input is given, a dash stands for it. -/
structure Arguments.Hold (holds : SwitchValue (List Char) → Prop) (arguments : Arguments) : Prop where
  input : arguments.input = "-" ∨ holds (.given arguments.input.toList)
  output : ∀ text ∈ arguments.output, holds (.given text.toList)
  config : ∀ text ∈ arguments.config, holds (.given text.toList)
  language : ∀ value ∈ arguments.language, holds (value.map String.toList)
  indent : ∀ value ∈ arguments.indent, holds value
  spaces : arguments.spaces = some .blank → holds .blank
  params : ∀ value ∈ arguments.params, holds value
  args : ∀ value ∈ arguments.args, holds value

def Request.Hold (holds : SwitchValue (List Char) → Prop) : Request → Prop
  | .value _ given => holds given
  | _ => True

/-- The text that is attached to the switch in a word. -/
def WordClass.attached? : WordClass → Option (List Char)
  | .long _ attached | .short _ _ attached => attached
  | _ => none

theorem splitEquals_attached {text attached : List Char} (split : (splitEquals text).2 = some attached) :
    ∃ name, name ≠ [] ∧ text = name ++ attached := by
  unfold splitEquals at split
  split at split
  · cases split
  · rename_i c rest found
    cases split
    refine ⟨text.takeWhile (· != '=') ++ [c], by simp, ?_⟩
    rw [List.append_assoc, List.singleton_append, ← found, List.takeWhile_append_dropWhile]

theorem classifyOther_attached? (text : List Char) : (classifyOther text).attached? = none := by
  unfold classifyOther
  split <;> rfl

theorem classifyLong_attached? {text attached : List Char} {wordClass : WordClass}
    (read : classifyLong text = .ok wordClass) (found : wordClass.attached? = some attached) :
    (splitEquals text).2 = some attached := by
  simp only [classifyLong] at read
  split at read
  · cases read
    exact found
  · split at read
    · cases read
      rw [classifyOther_attached?] at found
      cases found
    · cases read
      exact found
    · cases read

theorem classifyShort_attached? {text attached rest : List Char} {c : Char}
    (found : (classifyShort text c rest).attached? = some attached) : rest = attached ∨ rest = '=' :: attached := by
  unfold classifyShort at found
  split at found
  · rw [classifyOther_attached?] at found
    cases found
  · split at found
    · cases found
    · cases found
      exact Or.inr rfl
    · cases found
      exact Or.inl rfl

/-- What is attached to a switch comes after its name. -/
theorem classify_attached? {text attached : List Char} {wordClass : WordClass}
    (read : classify text = .ok wordClass) (found : wordClass.attached? = some attached) :
    ∃ name, name ≠ [] ∧ text = name ++ attached := by
  unfold classify at read
  split at read
  · cases read
    cases found
  · exact splitEquals_attached (classifyLong_attached? read found)
  · rename_i c rest _ _
    cases read
    rcases classifyShort_attached? found with rfl | rfl
    · exact ⟨['-', c], by simp, rfl⟩
    · exact ⟨['-', c, '='], by simp, rfl⟩
  · cases read
    cases found

theorem bind_eq_ok {ε α β : Type} {run : Except ε α} {next : α → Except ε β} {result : β}
    (ends : run >>= next = .ok result) : ∃ value, run = .ok value ∧ next value = .ok result := by
  cases run with
  | error => cases ends
  | ok value => exact ⟨value, rfl, ends⟩

theorem bind_eq_error {ε α β : Type} {run : Except ε α} {next : α → Except ε β} {error : ε}
    (fails : run >>= next = .error error) :
    run = .error error ∨ ∃ value, run = .ok value ∧ next value = .error error := by
  cases run with
  | error =>
    cases fails
    exact Or.inl rfl
  | ok value => exact Or.inr ⟨value, rfl, fails⟩

theorem map_eq_ok {ε α β : Type} {run : Except ε α} {f : α → β} {result : β} (ends : run.map f = .ok result) :
    ∃ value, run = .ok value ∧ f value = result := by
  cases run with
  | error => cases ends
  | ok value => exact ⟨value, rfl, Except.ok.inj ends⟩

section Values

variable {release : Release} {holds : SwitchValue (List Char) → Prop}

theorem Request.hold_bare (switch : Switch) : (Request.bare switch).Hold holds := by
  unfold Request.bare
  split <;> trivial

theorem Request.hold_attached {switch : Switch} {text : List Char} {request : Request}
    (value : holds (.ofAttached release text)) (made : Request.attached release switch text = .ok request) :
    request.Hold holds := by
  unfold Request.attached at made
  split at made
  · cases made
    exact value
  · cases made

theorem Request.hold_stray {switch : Switch} {text : List Char} {requests : List Request}
    (made : Request.stray release switch text = .ok requests) : ∀ request ∈ requests, request.Hold holds := by
  unfold Request.stray at made
  split at made
  · cases made
  · cases made
    simp [Request.Hold]

/-- Requests that share one word have their value from the end of it. -/
theorem cluster_hold {divided : Bool} {switch : Switch} {text : List Char} {requests : List Request}
    (ends : ∀ name attached, text = name ++ attached → holds (.ofAttached release attached))
    (made : cluster release divided switch text = .ok requests) : ∀ request ∈ requests, request.Hold holds := by
  fun_induction cluster release divided switch text generalizing requests with
  | case1 =>
    obtain ⟨request, attached, rfl⟩ := map_eq_ok made
    simpa using Request.hold_attached (ends [] [] rfl) attached
  | case2 _ _ c rest =>
    obtain ⟨request, attached, rfl⟩ := map_eq_ok made
    simpa using Request.hold_attached (ends [] (c :: rest) rfl) attached
  | case3 => exact Request.hold_stray made
  | case4 _ _ _ _ next =>
    cases made
    simpa [Request.Hold] using Request.hold_bare next
  | case5 _ _ c _ _ _ d value _ ih =>
    obtain ⟨later, atLater, rfl⟩ := map_eq_ok made
    have tail := ih (fun name attached split => ends (c :: d :: name) attached (by simp [split])) atLater
    simpa [Request.Hold] using tail
  | case6 _ _ c _ _ _ d value _ ih =>
    obtain ⟨later, atLater, rfl⟩ := map_eq_ok made
    have tail := ih (fun name attached split => ends (c :: name) attached (by simp [split])) atLater
    simpa [Request.Hold] using tail

/-- A word and what is attached in it supply values of some sort. -/
def Classified (release : Release) (holds : SwitchValue (List Char) → Prop)
    (entry : List Char × WordClass) : Prop :=
  holds (.given entry.1) ∧ ∀ attached, entry.2.attached? = some attached →
    ∀ name rest, attached = name ++ rest → holds (.ofAttached release rest)

theorem classifyAll_classified {texts : List (List Char)} {classes : List (List Char × WordClass)}
    (supplies : ∀ text ∈ texts, Supplies release holds text) (read : classifyAll texts = .ok classes) :
    ∀ entry ∈ classes, Classified release holds entry := by
  induction texts generalizing classes with
  | nil =>
    cases read
    simp
  | cons text later ih =>
    obtain ⟨whole, ends⟩ := supplies text List.mem_cons_self
    have others : ∀ text ∈ later, Supplies release holds text :=
      fun text member => supplies text (List.mem_cons_of_mem _ member)
    unfold classifyAll at read
    obtain ⟨wordClass, atWord, read⟩ := bind_eq_ok read
    split at read
    · cases read
      simp only [List.mem_cons, List.mem_map]
      rintro entry (rfl | ⟨operand, member, rfl⟩)
      · exact ⟨whole, fun attached none => by cases none⟩
      · exact ⟨(others operand member).1, fun attached none => by cases none⟩
    · obtain ⟨rest, atRest, read⟩ := bind_eq_ok read
      cases read
      simp only [List.mem_cons]
      rintro entry (rfl | member)
      · refine ⟨whole, fun attached found name rest split => ?_⟩
        obtain ⟨front, someFront, rfl⟩ := classify_attached? atWord found
        exact ends (front ++ name) rest (by simp [someFront]) (by simp [split])
      · exact ih others atRest entry member

theorem WordClass.requests_hold {text : List Char} {wordClass : WordClass} {requests : List Request}
    (classified : Classified release holds (text, wordClass))
    (made : wordClass.requests release text = .ok requests) : ∀ request ∈ requests, request.Hold holds := by
  unfold WordClass.requests at made
  split at made
  · cases made
    simp
  · cases made
    simp
  · cases made
    simp [Request.Hold]
  · cases made
    simpa using Request.hold_bare _
  · obtain ⟨request, attached, rfl⟩ := map_eq_ok made
    simpa using Request.hold_attached (classified.2 _ rfl [] _ rfl) attached
  · cases made
    simpa using Request.hold_bare _
  · exact cluster_hold (classified.2 _ rfl) made

theorem supplyValue_hold {requests given : List Request} {later rest : List (List Char × WordClass)}
    (hold : ∀ request ∈ requests, request.Hold holds)
    (classified : ∀ entry ∈ later, Classified release holds entry)
    (supplied : supplyValue requests later = .ok (given, rest)) :
    (∀ request ∈ given, request.Hold holds) ∧ ∀ entry ∈ rest, Classified release holds entry := by
  unfold supplyValue at supplied
  split at supplied
  · split at supplied
    · cases supplied
      rename_i text rest
      refine ⟨fun request member => ?_, fun entry member => classified entry (List.mem_cons_of_mem _ member)⟩
      rcases List.mem_append.mp member with inside | last
      · exact hold request (List.dropLast_subset _ inside)
      · rw [List.mem_singleton.mp last]
        exact (classified _ List.mem_cons_self).1
    · cases supplied
  · cases supplied
    exact ⟨hold, classified⟩

theorem Arguments.Hold.setFlag {arguments : Arguments} (hold : arguments.Hold holds) (switch : Switch) :
    (arguments.setFlag switch).Hold holds := by
  cases switch <;> exact { hold with }

/-- Where a switch keeps a text only if it was given, the text is of the sort of its value. -/
theorem SwitchValue.holds_given? {value : SwitchValue (List Char)} (atValue : holds value) :
    ∀ text ∈ value.given?.map String.ofList, holds (.given text.toList) := by
  cases value with
  | given text => simpa [SwitchValue.given?] using atValue
  | blank => simp [SwitchValue.given?]

/-- A switch that is given more than once keeps all its values. -/
theorem SwitchValue.holds_append {values : List (SwitchValue (List Char))} {value : SwitchValue (List Char)}
    (hold : ∀ other ∈ values, holds other) (atValue : holds value) : ∀ other ∈ values ++ [value], holds other := by
  intro other member
  rcases List.mem_append.mp member with inside | last
  · exact hold other inside
  · rwa [List.mem_singleton.mp last]

theorem readCount_blank {switch : Switch} {value : SwitchValue (List Char)}
    (read : readCount switch value = .ok .blank) : value = .blank := by
  cases value with
  | blank => rfl
  | given text =>
    simp only [readCount] at read
    split at read <;> cases read

theorem Arguments.Hold.setValue {arguments next : Arguments} {switch : Switch} {value : SwitchValue (List Char)}
    (hold : arguments.Hold holds) (atValue : holds value) (set : arguments.setValue switch value = .ok next) :
    next.Hold holds := by
  cases switch with
  | output =>
    cases set
    exact { hold with output := SwitchValue.holds_given? atValue }
  | config =>
    cases set
    exact { hold with config := SwitchValue.holds_given? atValue }
  | language =>
    cases set
    refine { hold with language := ?_ }
    cases value <;> simpa [SwitchValue.map] using atValue
  | indent =>
    cases set
    exact { hold with indent := by simpa using atValue }
  | spaces =>
    obtain ⟨count, read, rfl⟩ := map_eq_ok set
    refine { hold with spaces := fun blank => ?_ }
    cases Option.some.inj blank
    exact readCount_blank read ▸ atValue
  | param =>
    cases set
    exact { hold with params := SwitchValue.holds_append hold.params atValue }
  | arg =>
    cases set
    exact { hold with args := SwitchValue.holds_append hold.args atValue }
  | help | tabs | debug | verbose | quiet =>
    cases set
    exact hold

theorem ArgumentState.note_arguments {state noted : ArgumentState} {switch : Switch}
    (made : state.note switch = .ok noted) : noted.arguments = state.arguments := by
  unfold ArgumentState.note at made
  split at made
  · cases made
  · cases made
    rfl

/-- One request keeps the sort of all values. -/
theorem ArgumentState.perform_hold {state next : ArgumentState} {request : Request}
    (hold : state.arguments.Hold holds) (atRequest : request.Hold holds) (made : state.perform request = .ok next) :
    next.arguments.Hold holds := by
  unfold ArgumentState.perform at made
  cases request with
  | flag switch =>
    obtain ⟨noted, note, made⟩ := bind_eq_ok made
    cases made
    rw [← ArgumentState.note_arguments note] at hold
    exact hold.setFlag switch
  | value switch given =>
    obtain ⟨arguments, set, made⟩ := bind_eq_ok made
    obtain ⟨noted, _, made⟩ := bind_eq_ok made
    cases made
    exact hold.setValue atRequest set
  | awaitValue => cases made
  | unknown =>
    cases made
    exact hold

theorem ArgumentState.performAll_hold {state next : ArgumentState} {requests : List Request}
    (hold : state.arguments.Hold holds) (every : ∀ request ∈ requests, request.Hold holds)
    (made : state.performAll requests = .ok next) : next.arguments.Hold holds := by
  induction requests generalizing state with
  | nil =>
    cases made
    exact hold
  | cons request later ih =>
    unfold ArgumentState.performAll at made
    split at made
    · cases made
      exact hold
    · obtain ⟨middle, first, rest⟩ := bind_eq_ok made
      have kept := ArgumentState.perform_hold hold (every request List.mem_cons_self) first
      exact ih kept (fun request member => every request (List.mem_cons_of_mem _ member)) rest

theorem ArgumentState.takeInput_hold {state : ArgumentState} {text : List Char} (hold : state.arguments.Hold holds)
    (given : holds (.given text)) : (state.takeInput text).arguments.Hold holds :=
  { hold with input := Or.inr (by simpa [ArgumentState.takeInput] using given) }

/-- The words of a command line, read one after another, keep the sort of all values. -/
theorem ArgumentState.consume_hold {steps : Nat} {state final : ArgumentState}
    {classes : List (List Char × WordClass)} (hold : state.arguments.Hold holds)
    (classified : ∀ entry ∈ classes, Classified release holds entry)
    (made : state.consume release steps classes = .ok final) : final.arguments.Hold holds := by
  fun_induction ArgumentState.consume release steps state classes with
  | case1 | case2 | case3 =>
    cases made
    exact hold
  | case4 _ _ _ _ _ _ ih | case7 _ _ _ _ _ _ ih | case9 _ _ _ _ _ _ _ ih =>
    exact ih hold (List.forall_mem_cons.mp classified).2 made
  | case5 _ _ _ _ _ _ _ ih =>
    obtain ⟨given, later⟩ := List.forall_mem_cons.mp classified
    exact ih (ArgumentState.takeInput_hold hold given.1) (List.forall_mem_cons.mp later).2 made
  | case6 _ _ _ _ _ _ _ ih =>
    obtain ⟨given, later⟩ := List.forall_mem_cons.mp classified
    exact ih (ArgumentState.takeInput_hold hold given.1) later made
  | case8 _ _ _ _ _ _ _ ih =>
    obtain ⟨given, later⟩ := List.forall_mem_cons.mp (List.forall_mem_cons.mp classified).2
    exact ih (ArgumentState.takeInput_hold hold given.1) later made
  | case10 _ _ _ _ _ _ _ _ ih =>
    obtain ⟨word, later⟩ := List.forall_mem_cons.mp classified
    obtain ⟨requests, asked, made⟩ := bind_eq_ok made
    obtain ⟨⟨given, rest⟩, supplied, made⟩ := bind_eq_ok made
    obtain ⟨next, performed, made⟩ := bind_eq_ok made
    obtain ⟨every, rest⟩ := supplyValue_hold (WordClass.requests_hold word asked) later supplied
    exact ih _ next (ArgumentState.performAll_hold hold every performed) rest made

/-- If all values that the words can supply are of some sort, then so are those that the arguments have. -/
theorem parseArguments_hold {words : List String} {arguments : Arguments}
    (supplies : ∀ word ∈ words, Supplies release holds word.toList)
    (parsed : parseArguments words release = .ok (.run arguments)) : arguments.Hold holds := by
  obtain ⟨classes, classified, parsed⟩ := bind_eq_ok parsed
  obtain ⟨state, consumed, parsed⟩ := bind_eq_ok parsed
  have texts : ∀ text ∈ words.map String.toList, Supplies release holds text := by simpa using supplies
  have start : Arguments.Hold holds {} :=
    ⟨Or.inl rfl, by simp, by simp, by simp, by simp, by simp, by simp, by simp⟩
  have hold := ArgumentState.consume_hold start (classifyAll_classified texts classified) consumed
  split at parsed
  · cases parsed
  · split at parsed
    · cases parsed
      exact hold
    · cases parsed

end Values

end QueryLayout
