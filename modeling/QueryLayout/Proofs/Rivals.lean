import QueryLayout.Proofs.SwitchValues

namespace QueryLayout

/-- Of the switches that say how to indent, at most one was given. -/
structure Arguments.OneIndent (arguments : Arguments) : Prop where
  spaces : arguments.tabs = true → arguments.spaces = none
  indent : arguments.tabs = true → arguments.indent = none
  both : arguments.spaces = none ∨ arguments.indent = none

/-- Every switch that says how to indent was noted, and no rival of a noted switch. -/
structure ArgumentState.Apart (state : ArgumentState) : Prop where
  tabs : state.arguments.tabs = true → .tabs ∈ state.given
  spaces : state.arguments.spaces ≠ none → .spaces ∈ state.given
  indent : state.arguments.indent ≠ none → .indent ∈ state.given
  apart : ∀ switch ∈ state.given, ∀ rival ∈ switch.rivals, rival ∉ state.given

theorem Switch.mem_rivals_iff {switch rival : Switch} :
    rival ∈ switch.rivals ↔ ∃ group ∈ Switch.groups, switch ∈ group ∧ rival ∈ group ∧ rival ≠ switch := by
  simp [Switch.rivals, and_assoc]

theorem Switch.rivals_symm {switch rival : Switch} (rivals : rival ∈ switch.rivals) : switch ∈ rival.rivals := by
  obtain ⟨group, isGroup, first, second, different⟩ := Switch.mem_rivals_iff.mp rivals
  exact Switch.mem_rivals_iff.mpr ⟨group, isGroup, second, first, different.symm⟩

theorem Switch.not_mem_rivals_self (switch : Switch) : switch ∉ switch.rivals := by
  intro rival
  obtain ⟨_, _, _, _, different⟩ := Switch.mem_rivals_iff.mp rival
  exact different rfl

section Keeping

variable {holds : ArgumentState → Prop}
  (perform : ∀ state next request, holds state → state.perform request = .ok next → holds next)

include perform

theorem ArgumentState.performAll_keeps {state final : ArgumentState} {requests : List Request} (start : holds state)
    (made : state.performAll requests = .ok final) : holds final := by
  induction requests generalizing state with
  | nil =>
    cases made
    exact start
  | cons request later ih =>
    unfold ArgumentState.performAll at made
    split at made
    · cases made
      exact start
    · obtain ⟨next, first, rest⟩ := bind_eq_ok made
      exact ih (perform state next request start first) rest

/-- What requests, operands and words left over keep is kept through the whole command line. -/
theorem ArgumentState.consume_keeps
    (takeInput : ∀ state text, holds state → holds (state.takeInput text))
    (noInput : ∀ state, holds state → holds { state with inputTaken := true })
    (setAside : ∀ state text, holds state → holds { state with extras := state.extras ++ [text] })
    {release : Release} {steps : Nat} {state final : ArgumentState} {classes : List (List Char × WordClass)}
    (start : holds state) (made : state.consume release steps classes = .ok final) : holds final := by
  fun_induction ArgumentState.consume release steps state classes with
  | case1 | case2 | case3 =>
    cases made
    exact start
  | case4 _ _ _ _ _ _ ih | case7 _ _ _ _ _ _ ih => exact ih (setAside _ _ start) made
  | case5 _ _ _ _ _ _ _ ih | case6 _ _ _ _ _ _ _ ih | case8 _ _ _ _ _ _ _ ih => exact ih (takeInput _ _ start) made
  | case9 _ _ _ _ _ _ _ ih => exact ih (noInput _ start) made
  | case10 _ _ _ _ _ _ _ _ ih =>
    obtain ⟨requests, _, made⟩ := bind_eq_ok made
    obtain ⟨⟨given, rest⟩, _, made⟩ := bind_eq_ok made
    obtain ⟨next, performed, made⟩ := bind_eq_ok made
    exact ih _ next (ArgumentState.performAll_keeps perform start performed) made

end Keeping

section Notes

variable {state noted next : ArgumentState} {switch : Switch}

theorem ArgumentState.note_eq_ok (made : state.note switch = .ok noted) :
    noted = { state with given := switch :: state.given } ∧ ∀ rival ∈ switch.rivals, rival ∉ state.given := by
  unfold ArgumentState.note at made
  split at made
  · cases made
  · rename_i none
    cases made
    exact ⟨rfl, by simpa using none⟩

/-- A switch that is noted goes with those noted before, since none of them is its rival. -/
theorem apart_cons {given : List Switch} (apart : ∀ switch ∈ given, ∀ rival ∈ switch.rivals, rival ∉ given)
    (free : ∀ rival ∈ switch.rivals, rival ∉ given) :
    ∀ other ∈ switch :: given, ∀ rival ∈ other.rivals, rival ∉ switch :: given := by
  rintro other member rival rivals (_ | ⟨_, again⟩)
  · rcases List.mem_cons.mp member with rfl | earlier
    · exact Switch.not_mem_rivals_self _ rivals
    · exact free other (Switch.rivals_symm rivals) earlier
  · rcases List.mem_cons.mp member with rfl | earlier
    · exact free rival rivals again
    · exact apart other earlier rival rivals again

theorem Arguments.setFlag_indents (arguments : Arguments) (switch : Switch) :
    ((arguments.setFlag switch).tabs = arguments.tabs ∨ switch = .tabs) ∧
      (arguments.setFlag switch).spaces = arguments.spaces ∧
        (arguments.setFlag switch).indent = arguments.indent := by
  cases switch <;> simp [Arguments.setFlag]

theorem Arguments.setValue_indents {arguments next : Arguments} {value : SwitchValue (List Char)}
    (set : arguments.setValue switch value = .ok next) :
    next.tabs = arguments.tabs ∧ (next.spaces = arguments.spaces ∨ switch = .spaces) ∧
      (next.indent = arguments.indent ∨ switch = .indent) := by
  cases switch with
  | spaces =>
    obtain ⟨count, _, rfl⟩ := map_eq_ok set
    simp
  | _ =>
    cases set
    simp

theorem ArgumentState.Apart.perform {request : Request} (apart : state.Apart)
    (made : state.perform request = .ok next) : next.Apart := by
  unfold ArgumentState.perform at made
  cases request with
  | flag switch =>
    obtain ⟨noted, note, made⟩ := bind_eq_ok made
    obtain ⟨rfl, free⟩ := ArgumentState.note_eq_ok note
    cases made
    obtain ⟨tabs, spaces, indent⟩ := state.arguments.setFlag_indents switch
    refine ⟨fun given => ?_, fun given => ?_, fun given => ?_, apart_cons apart.apart free⟩
    · rcases tabs with same | rfl
      · exact List.mem_cons_of_mem _ (apart.tabs (same ▸ given))
      · exact List.mem_cons_self
    · exact List.mem_cons_of_mem _ (apart.spaces (spaces ▸ given))
    · exact List.mem_cons_of_mem _ (apart.indent (indent ▸ given))
  | value switch value =>
    obtain ⟨arguments, set, made⟩ := bind_eq_ok made
    obtain ⟨noted, note, made⟩ := bind_eq_ok made
    obtain ⟨rfl, free⟩ := ArgumentState.note_eq_ok note
    cases made
    obtain ⟨tabs, spaces, indent⟩ := Arguments.setValue_indents set
    refine ⟨fun given => ?_, fun given => ?_, fun given => ?_, apart_cons apart.apart free⟩
    · exact List.mem_cons_of_mem _ (apart.tabs (tabs ▸ given))
    · rcases spaces with same | rfl
      · exact List.mem_cons_of_mem _ (apart.spaces (same ▸ given))
      · exact List.mem_cons_self
    · rcases indent with same | rfl
      · exact List.mem_cons_of_mem _ (apart.indent (same ▸ given))
      · exact List.mem_cons_self
  | awaitValue => cases made
  | unknown =>
    cases made
    exact { apart with }

theorem ArgumentState.Apart.oneIndent (apart : state.Apart) : state.arguments.OneIndent := by
  have rivals : Switch.spaces ∈ Switch.tabs.rivals ∧ Switch.indent ∈ Switch.tabs.rivals ∧
      Switch.indent ∈ Switch.spaces.rivals := by decide
  refine ⟨fun tabs => ?_, fun tabs => ?_, ?_⟩
  · by_contra spaces
    exact apart.apart _ (apart.tabs tabs) _ rivals.1 (apart.spaces spaces)
  · by_contra indent
    exact apart.apart _ (apart.tabs tabs) _ rivals.2.1 (apart.indent indent)
  · by_contra both
    obtain ⟨spaces, indent⟩ := not_or.mp both
    exact apart.apart _ (apart.spaces spaces) _ rivals.2.2 (apart.indent indent)

end Notes

/-- No command line can be understood that says twice how to indent. -/
theorem parseArguments_oneIndent {words : List String} {release : Release} {arguments : Arguments}
    (parsed : parseArguments words release = .ok (.run arguments)) : arguments.OneIndent := by
  obtain ⟨classes, _, parsed⟩ := bind_eq_ok parsed
  obtain ⟨state, consumed, parsed⟩ := bind_eq_ok parsed
  have start : ArgumentState.Apart {} := ⟨by simp, by simp, by simp, by simp⟩
  have apart : state.Apart := ArgumentState.consume_keeps (fun _ _ _ apart made => apart.perform made)
    (fun _ _ apart => { apart with }) (fun _ apart => { apart with }) (fun _ _ apart => { apart with })
    start consumed
  split at parsed
  · cases parsed
  · split at parsed
    · cases parsed
      exact apart.oneIndent
    · cases parsed

end QueryLayout
