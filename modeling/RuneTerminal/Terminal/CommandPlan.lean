import RuneTerminal.Go.Json

/-! A provider answers with the JSON of a plan, maybe with text around it. The plan is looked for in
the whole answer and between its outer braces, and the markers of a prompt are cut off its command
(`core/app/ai_terminal_command_plan.go`). -/

namespace RuneTerminal.Terminal

open Go.Json (decodeString decodeStruct parse unmarshal unmarshalText)
open Go.Strings (isSpace trimSpace)
open List

structure TerminalCommandPlanEnvelope where
  command : String := ""
  reason : String := ""
  summary : String := ""
  deriving DecidableEq

def planFields : List (Go.Json.Field TerminalCommandPlanEnvelope) :=
  [ ⟨"command", fun value plan =>
      (decodeString value plan.command).map fun text => { plan with command := text }⟩,
    ⟨"reason", fun value plan =>
      (decodeString value plan.reason).map fun text => { plan with reason := text }⟩,
    ⟨"summary", fun value plan =>
      (decodeString value plan.summary).map fun text => { plan with summary := text }⟩ ]

def unmarshalPlan (text : String) : Option TerminalCommandPlanEnvelope :=
  unmarshalText (decodeStruct planFields) {} text

/-- `ErrTerminalCommandPlanInvalid` with what is wrong. -/
structure TerminalCommandPlanInvalid where
  reason : String
  deriving DecidableEq

/-- From the first opening brace to the last closing one behind it. -/
def betweenBraces (text : List Char) : List Char :=
  (text.dropWhile (· != '{')).rdropWhile (· != '}')

/-- What a failed candidate leaves in the plan is written again by the next one. -/
def decodeTerminalCommandPlan (raw : String) :
    Except TerminalCommandPlanInvalid TerminalCommandPlanEnvelope :=
  let trimmed := trimSpace raw
  if trimmed = "" then .error ⟨"provider returned empty output"⟩
  else
    let object := betweenBraces trimmed.toList
    let candidates := trimmed :: if object = [] then [] else [String.ofList object]
    match candidates.findSome? unmarshalPlan with
    | some plan => .ok plan
    | none => .error ⟨"provider did not return valid JSON"⟩

/-- `strings.TrimPrefix` -/
def trimMarker (marker text : List Char) : List Char :=
  if marker.isPrefixOf text then text.drop marker.length else text

def normalizeTerminalPlanCommand (command : String) : String :=
  let unmarked := trimMarker ['$'] (trimMarker ['$', ' '] (trimSpace command).toList)
  let trimmed := trimSpace (String.ofList unmarked)
  if '\n' ∈ trimmed.toList ∨ '\r' ∈ trimmed.toList then "" else trimmed

/-- A text of JSON that stands for a plan, from its opening to its closing brace. -/
structure EncodesPlan (text : List Char) (plan : TerminalCommandPlanEnvelope) : Prop where
  object : ∃ inside, text = '{' :: inside ++ ['}']
  decoded : unmarshalPlan (String.ofList text) = some plan

variable {text before after : List Char} {plan : TerminalCommandPlanEnvelope} {p : Char → Bool}
  {c : Char}

theorem drop_while_append_cons (kept : p c = false) (before after : List Char) :
    (before ++ c :: after).dropWhile p = before.dropWhile p ++ c :: after := by
  induction before with
  | nil => simp [kept]
  | cons first before ih =>
    rw [cons_append, dropWhile_cons, dropWhile_cons, ih]
    split_ifs <;> rfl

theorem rdrop_while_append_cons (kept : p c = false) (before after : List Char) :
    (before ++ c :: after).rdropWhile p = before ++ c :: after.rdropWhile p := by
  unfold rdropWhile
  rw [reverse_append, reverse_cons, append_assoc, singleton_append,
    drop_while_append_cons kept]
  simp

section

variable (encodes : EncodesPlan text plan)
include encodes

theorem trim_around (before after : List Char) :
    trimSpace (String.ofList (before ++ text ++ after)) =
      String.ofList (before.dropWhile isSpace ++ text ++ after.rdropWhile isSpace) := by
  obtain ⟨⟨inside, rfl⟩, -⟩ := encodes
  unfold trimSpace
  rw [String.toList_ofList, append_assoc, cons_append, cons_append,
    drop_while_append_cons (by decide)]
  have split : before.dropWhile isSpace ++ '{' :: (inside ++ ['}'] ++ after) =
      (before.dropWhile isSpace ++ '{' :: inside) ++ '}' :: after := by simp
  rw [split, rdrop_while_append_cons (by decide)]
  simp

theorem between_braces_around (noOpening : '{' ∉ before) (noClosing : '}' ∉ after) :
    betweenBraces (before ++ text ++ after) = text := by
  obtain ⟨⟨inside, rfl⟩, -⟩ := encodes
  have front : before.dropWhile (· != '{') = [] := by
    apply dropWhile_eq_nil_iff.mpr
    intro c mem
    simpa using fun same : c = '{' => noOpening (same ▸ mem)
  have back : after.rdropWhile (· != '}') = [] := by
    apply rdropWhile_eq_nil_iff.mpr
    intro c mem
    simpa using fun same : c = '}' => noClosing (same ▸ mem)
  unfold betweenBraces
  rw [append_assoc, cons_append, cons_append, drop_while_append_cons (by decide),
    front, nil_append, append_assoc, singleton_append, ← cons_append,
    rdrop_while_append_cons (by decide), back]
  rfl

theorem unmarshal_plan_around (noOpening : '{' ∉ before) {read : TerminalCommandPlanEnvelope}
    (whole : unmarshalPlan (String.ofList (before ++ text ++ after)) = some read) :
    read = plan := by
  obtain ⟨⟨inside, rfl⟩, decoded⟩ := encodes
  unfold unmarshalPlan unmarshalText at decoded whole
  rw [String.toList_ofList] at decoded whole
  obtain ⟨value, parsed, decoded⟩ := Option.bind_eq_some_iff.mp decoded
  obtain ⟨other, parsedWhole, decodedWhole⟩ := Option.bind_eq_some_iff.mp whole
  rw [append_assoc, append_assoc, singleton_append] at parsedWhole
  rcases Go.Json.parse_between noOpening parsed parsedWhole with same | ⟨notNull, notObject⟩
  · rw [same, decoded] at decodedWhole
    exact (Option.some.inj decodedWhole).symm
  unfold unmarshal at decodedWhole
  split_ifs at decodedWhole
  cases other with
  | null => exact absurd rfl notNull
  | obj members => exact absurd rfl (notObject members)
  | _ => cases decodedWhole

theorem decode_around (noBraces : '{' ∉ before ++ after ∧ '}' ∉ before ++ after) :
    decodeTerminalCommandPlan (String.ofList (before ++ text ++ after)) = .ok plan := by
  have noOpening : '{' ∉ before.dropWhile isSpace := by
    intro mem
    have inside := (dropWhile_sublist isSpace).subset mem
    exact noBraces.1 (mem_append_left _ inside)
  have noClosing : '}' ∉ after.rdropWhile isSpace := by
    intro mem
    have start := rdropWhile_prefix isSpace after
    have inside := start.subset mem
    exact noBraces.2 (mem_append_right _ inside)
  have nonempty : text ≠ [] := by
    obtain ⟨⟨inside, rfl⟩, -⟩ := encodes
    simp
  have notBlank : String.ofList (before.dropWhile isSpace ++ text ++ after.rdropWhile isSpace) ≠
      "" := by
    intro blank
    have chars := congrArg String.toList blank
    simp [nonempty] at chars
  unfold decodeTerminalCommandPlan
  dsimp only
  rw [trim_around encodes, if_neg notBlank, String.toList_ofList,
    between_braces_around encodes noOpening noClosing, if_neg nonempty]
  cases whole : unmarshalPlan
      (String.ofList (before.dropWhile isSpace ++ text ++ after.rdropWhile isSpace)) with
  | some read =>
    rw [findSome?_cons, whole, unmarshal_plan_around encodes noOpening whole]
  | none => rw [findSome?_cons, whole, findSome?_cons, encodes.decoded]

end

theorem trim_space_length (text : List Char) :
    (trimSpace (String.ofList text)).toList.length ≤ text.length := by
  rw [trimSpace, String.toList_ofList, String.toList_ofList]
  have start := rdropWhile_prefix isSpace (text.dropWhile isSpace)
  exact start.length_le.trans (dropWhile_suffix _).length_le

theorem normalized_command_iff {command : String} (trimmed : trimSpace command = command)
    (nonempty : command ≠ "") (single : '\n' ∉ command.toList ∧ '\r' ∉ command.toList)
    (unmarked : ¬['$', ' '] <+: command.toList) :
    normalizeTerminalPlanCommand command = command ↔ command.toList.head? ≠ some '$' := by
  unfold normalizeTerminalPlanCommand
  dsimp only
  have noMarker : trimMarker ['$', ' '] command.toList = command.toList := by
    rw [trimMarker, if_neg (mt isPrefixOf_iff_prefix.mp unmarked)]
  rw [trimmed, noMarker]
  by_cases dollar : command.toList.head? = some '$'
  · obtain ⟨rest, text⟩ : ∃ rest, command.toList = '$' :: rest :=
      head?_eq_some_iff.mp dollar
    have dropped : trimMarker ['$'] command.toList = rest := by
      rw [text]
      rfl
    rw [dropped]
    refine iff_of_false ?_ (not_not.mpr dollar)
    intro same
    split_ifs at same
    · exact nonempty same.symm
    · have short := trim_space_length rest
      rw [same, text, length_cons] at short
      omega
  · have kept : trimMarker ['$'] command.toList = command.toList := by
      rw [trimMarker, if_neg]
      intro starts
      obtain ⟨rest, text⟩ := isPrefixOf_iff_prefix.mp starts
      exact dollar (text ▸ rfl)
    rw [kept, String.ofList_toList, trimmed, if_neg (by simp [single])]
    simp [dollar]

/-- A dollar sign is taken for the marker of a prompt even where it begins a variable. -/
theorem planned_command_iff (encodes : EncodesPlan text plan)
    (noBraces : '{' ∉ before ++ after ∧ '}' ∉ before ++ after)
    (trimmed : trimSpace plan.command = plan.command) (nonempty : plan.command ≠ "")
    (single : '\n' ∉ plan.command.toList ∧ '\r' ∉ plan.command.toList)
    (unmarked : ¬['$', ' '] <+: plan.command.toList) :
    (decodeTerminalCommandPlan (String.ofList (before ++ text ++ after))).map
      (fun plan => normalizeTerminalPlanCommand plan.command) =
      .ok plan.command ↔
    plan.command.toList.head? ≠ some '$' := by
  rw [decode_around encodes noBraces, ← normalized_command_iff trimmed nonempty single unmarked]
  exact ⟨fun same => Except.ok.inj same, fun same => congrArg Except.ok same⟩

def planText (command : String) : List Char :=
  ("\x7b\"command\":\"" ++ command ++ "\",\"summary\":\"List\"\x7d").toList

def plannedCommand (command : String) : TerminalCommandPlanEnvelope where
  command := command
  summary := "List"

theorem list_encoded :
    EncodesPlan (planText "ls \x7ba,b\x7d") (plannedCommand "ls \x7ba,b\x7d") where
  object := ⟨"\"command\":\"ls \x7ba,b\x7d\",\"summary\":\"List\"".toList, by decide +kernel⟩
  decoded := by decide +kernel

theorem home_encoded :
    EncodesPlan (planText "$HOME/bin/sync") (plannedCommand "$HOME/bin/sync") where
  object := ⟨"\"command\":\"$HOME/bin/sync\",\"summary\":\"List\"".toList, by decide +kernel⟩
  decoded := by decide +kernel

theorem fenced_plan_runs :
    (decodeTerminalCommandPlan
      (String.ofList ("```json\n".toList ++ planText "ls \x7ba,b\x7d" ++ "\n```".toList))).map
      (fun plan => normalizeTerminalPlanCommand plan.command) =
      .ok "ls \x7ba,b\x7d" := by
  have noBraces : '{' ∉ "```json\n".toList ++ "\n```".toList ∧
      '}' ∉ "```json\n".toList ++ "\n```".toList := by
    decide +kernel
  have trimmed : trimSpace "ls \x7ba,b\x7d" = "ls \x7ba,b\x7d" := by decide +kernel
  exact (planned_command_iff list_encoded noBraces trimmed (by decide) (by decide) (by decide)).mpr
    (by decide)

theorem dollar_command_changed :
    ¬∀ (text before after : List Char) (plan : TerminalCommandPlanEnvelope), EncodesPlan text plan →
      ('{' ∉ before ++ after ∧ '}' ∉ before ++ after) → trimSpace plan.command = plan.command →
      plan.command ≠ "" → ('\n' ∉ plan.command.toList ∧ '\r' ∉ plan.command.toList) →
      ¬['$', ' '] <+: plan.command.toList →
      (decodeTerminalCommandPlan (String.ofList (before ++ text ++ after))).map
        (fun plan => normalizeTerminalPlanCommand plan.command) =
        .ok plan.command := by
  intro always
  have trimmed : trimSpace "$HOME/bin/sync" = "$HOME/bin/sync" := by decide +kernel
  have ran := always _ [] [] _ home_encoded (by simp) trimmed (by decide) (by decide) (by decide)
  have changed : (decodeTerminalCommandPlan (String.ofList (planText "$HOME/bin/sync"))).map
      (fun plan => normalizeTerminalPlanCommand plan.command) = .ok "HOME/bin/sync" := by
    decide +kernel
  rw [nil_append, append_nil, changed] at ran
  exact absurd (Except.ok.inj ran) (by decide)

end RuneTerminal.Terminal
