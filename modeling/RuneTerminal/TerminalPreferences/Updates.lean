import RuneTerminal.TerminalPreferences.Values

/-! The UI sends every preference with each change, and each response overwrites its store. A
request that holds an old copy of the preferences it leaves alone puts it back. -/

namespace RuneTerminal.TerminalPreferences

open Kit List Option UpdatePayload

def noChange : UpdatePayload where
  fontSize := none
  lineHeight := none
  themeMode := none
  scrollback := none
  cursorStyle := none
  cursorBlink := none

def PreferenceChange.asked : PreferenceChange → UpdatePayload
  | .fontSize value => { noChange with fontSize := some (clampTerminalFontSize value) }
  | .lineHeight value => { noChange with lineHeight := some (clampTerminalLineHeight value) }
  | .scrollback value => { noChange with scrollback := some (clampTerminalScrollback value) }
  | .themeMode value => { noChange with themeMode := some value.text }
  | .cursorStyle value => { noChange with cursorStyle := some value.text }
  | .cursorBlink value => { noChange with cursorBlink := some value }
  | .defaults =>
    { fontSize := some defaultFontSize
      lineHeight := some defaultLineHeight
      themeMode := some defaultThemeMode
      scrollback := some defaultScrollback
      cursorStyle := some defaultCursorStyle
      cursorBlink := some true }

/-- A change of the UI with the settings in its store at the call, or what another
client sends. -/
inductive Request where
  | ui (made : PreferenceChange) (store : TerminalSettings)
  | client (payload : UpdatePayload)

def Request.fromUi : Request → Bool
  | .ui _ _ => true
  | .client _ => false

def Request.asked : Request → UpdatePayload
  | .ui made _ => made.asked
  | .client payload => payload

/-- Where the other preferences come from: the store of the UI or what was read. -/
def Request.copied (current : Preferences) : Request → Preferences
  | .ui _ store => store.preferences
  | .client _ => current

def Request.body (lib : LowerCase) : Request → UpdatePayload
  | .ui made store => ((made.next store).clamped lib).body lib
  | .client payload => payload

/-- How far a call is. Reading comes before the merge and the write. -/
inductive Call where
  | sent (request : Request)
  | read (request : Request) (current : Preferences)
  | saved (fromUi : Bool) (settings : Preferences)
  | refreshing
  | refreshed (settings : Preferences)
  | done

/-- `applied` lists what was asked for, in the order of the writes. `follows` tells that
the last write is by the UI or has been followed by a refresh. -/
structure System where
  stored : Preferences
  ui : TerminalPreferencesState
  loadPromise : Bool
  calls : List Call
  applied : List UpdatePayload
  follows : Bool

inductive SystemStep where
  | change (made : PreferenceChange)
  | submit (payload : UpdatePayload)
  | refresh
  | read (call : Nat)
  | write (call : Nat)
  | receive (call : Nat)

section

variable (lib : LowerCase)

def System.write (s : System) (call : Nat) (request : Request) (current : Preferences) : System :=
  let settings := normalizePreferences lib ((request.body lib).merge current)
  { s with
    stored := settings
    calls := s.calls.set call (.saved request.fromUi settings)
    applied := s.applied ++ [request.asked]
    follows := request.fromUi }

def systemStep (s : System) : SystemStep → Option System
  | .change made =>
    some { s with
      ui := s.ui.beginSaving
      calls := s.calls ++ [.sent (.ui made s.ui.settings)] }
  | .submit payload =>
    if payload.isEmpty then none
    else some { s with calls := s.calls ++ [.sent (.client payload)] }
  | .refresh =>
    if s.loadPromise then none
    else some { s with
      ui := s.ui.beginLoading
      loadPromise := true
      calls := s.calls ++ [.refreshing] }
  | .read call =>
    match s.calls[call]? with
    | some (.sent request) =>
      some { s with
        calls := s.calls.set call (.read request (normalizePreferences lib s.stored)) }
    | some .refreshing =>
      some { s with
        calls := s.calls.set call (.refreshed (normalizePreferences lib s.stored))
        follows := true }
    | _ => none
  | .write call =>
    match s.calls[call]? with
    | some (.read request current) => some (s.write lib call request current)
    | _ => none
  | .receive call =>
    match s.calls[call]? with
    | some (.saved true settings) =>
      some { s with
        ui := s.ui.finishSaving (normalizeTerminalSettings lib settings)
        calls := s.calls.set call .done }
    | some (.saved false _) => some { s with calls := s.calls.set call .done }
    | some (.refreshed settings) =>
      some { s with
        ui := s.ui.finishLoading (normalizeTerminalSettings lib settings)
        loadPromise := false
        calls := s.calls.set call .done }
    | _ => none

end

/-- No call has been made. The row is one that was stored, and the store of the UI has
its defaults or what a response said. -/
structure Starts (s : System) : Prop where
  stored : NormalPreferences s.stored
  ui : NormalPreferences s.ui.settings.preferences
  calls : s.calls = []
  applied : s.applied = []
  follows : s.follows = true → s.ui.settings.preferences = s.stored

def System.completed (s : System) : Bool :=
  s.calls.all fun
    | .done => true
    | _ => false

def Call.toUi : Call → Option Preferences
  | .saved true settings => some settings
  | .refreshed settings => some settings
  | _ => none

/-- A write finds the preferences that its caller does not ask to change as they were in
its copy. An old response comes while a current one is still on its way. -/
def orderly (s : System) : SystemStep → Bool
  | .write call =>
    match s.calls[call]? with
    | some (.read request current) =>
      request.asked.merge (request.copied current) = request.asked.merge s.stored
    | _ => true
  | .receive call =>
    match (s.calls[call]?).bind Call.toUi with
    | some settings =>
      settings = s.stored || (s.calls.set call .done).any fun other =>
        other.toUi = some s.stored
    | none => true
  | _ => true

def lastAsked {Value : Type} (field : UpdatePayload → Option Value)
    (applied : List UpdatePayload) : Option Value :=
  (applied.filterMap field).getLast?

/-- Each preference is the clamped value of the last applied request that asked to change it, or
what it was at the start. -/
structure KeepsChanges (lib : LowerCase) (start stored : Preferences)
    (applied : List UpdatePayload) : Prop where
  fontSize : stored.fontSize =
    ((lastAsked UpdatePayload.fontSize applied).map clampFontSize).getD start.fontSize
  lineHeight : stored.lineHeight =
    ((lastAsked UpdatePayload.lineHeight applied).map clampLineHeight).getD start.lineHeight
  themeMode : stored.themeMode =
    ((lastAsked UpdatePayload.themeMode applied).map (clampThemeMode lib)).getD start.themeMode
  scrollback : stored.scrollback =
    ((lastAsked UpdatePayload.scrollback applied).map clampScrollback).getD start.scrollback
  cursorStyle : stored.cursorStyle =
    ((lastAsked UpdatePayload.cursorStyle applied).map (clampCursorStyle lib)).getD
      start.cursorStyle
  cursorBlink : stored.cursorBlink =
    (lastAsked UpdatePayload.cursorBlink applied).getD start.cursorBlink

variable {applied : List UpdatePayload} {asked : UpdatePayload} {start : Preferences}
  {request : Request}

section

variable {Value : Type} {field : UpdatePayload → Option Value}

theorem last_asked_of_some {value : Value} (asks : field asked = some value) :
    lastAsked field (applied ++ [asked]) = some value := by
  simp [lastAsked, asks]

theorem last_asked_of_none (asks : field asked = none) :
    lastAsked field (applied ++ [asked]) = lastAsked field applied := by
  simp [lastAsked, asks]

theorem field_kept_iff (asked : UpdatePayload) (field : UpdatePayload → Option Value)
    (clamp : Value → Value) {start copy stored : Value}
    (kept : stored = ((lastAsked field applied).map clamp).getD start)
    (copyNormal : clamp copy = copy) : clamp ((field asked).getD copy) =
    ((lastAsked field (applied ++ [asked])).map clamp).getD start ↔
    (field asked).getD copy = (field asked).getD stored := by
  cases asks : field asked with
  | some value => simp [last_asked_of_some asks]
  | none =>
    rw [last_asked_of_none asks, ← kept, getD_none, getD_none, copyNormal]

end

section

variable (lib : LowerCase)

theorem keeps_changes_mk_iff {fontSize scrollback : Int} {lineHeight : ℚ}
    {themeMode cursorStyle : String} {cursorBlink : Bool} :
    KeepsChanges lib start ⟨fontSize, lineHeight, themeMode, scrollback, cursorStyle, cursorBlink⟩
      applied ↔
    fontSize = ((lastAsked UpdatePayload.fontSize applied).map clampFontSize).getD start.fontSize ∧
      lineHeight =
        ((lastAsked UpdatePayload.lineHeight applied).map clampLineHeight).getD start.lineHeight ∧
      themeMode =
        ((lastAsked UpdatePayload.themeMode applied).map (clampThemeMode lib)).getD
          start.themeMode ∧
      scrollback =
        ((lastAsked UpdatePayload.scrollback applied).map clampScrollback).getD start.scrollback ∧
      cursorStyle =
        ((lastAsked UpdatePayload.cursorStyle applied).map (clampCursorStyle lib)).getD
          start.cursorStyle ∧
      cursorBlink = (lastAsked UpdatePayload.cursorBlink applied).getD start.cursorBlink :=
  ⟨fun kept => ⟨kept.fontSize, kept.lineHeight, kept.themeMode, kept.scrollback,
    kept.cursorStyle, kept.cursorBlink⟩,
   fun ⟨font, line, theme, scroll, style, blink⟩ => ⟨font, line, theme, scroll, style, blink⟩⟩

theorem keeps_changes_iff {stored copy : Preferences} (kept : KeepsChanges lib start stored applied)
    (copyNormal : NormalPreferences copy) :
    KeepsChanges lib start (normalizePreferences lib (asked.merge copy)) (applied ++ [asked]) ↔
    asked.merge copy = asked.merge stored := by
  have same := normalize_of_normal lib copyNormal
  have fontSize := field_kept_iff asked fontSize clampFontSize
    kept.fontSize (congrArg Preferences.fontSize same)
  have lineHeight := field_kept_iff asked lineHeight clampLineHeight
    kept.lineHeight (congrArg Preferences.lineHeight same)
  have themeMode := field_kept_iff asked themeMode (clampThemeMode lib)
    kept.themeMode (congrArg Preferences.themeMode same)
  have scrollback := field_kept_iff asked scrollback clampScrollback
    kept.scrollback (congrArg Preferences.scrollback same)
  have cursorStyle := field_kept_iff asked cursorStyle
    (clampCursorStyle lib) kept.cursorStyle (congrArg Preferences.cursorStyle same)
  have cursorBlink : (asked.cursorBlink.getD copy.cursorBlink =
      (lastAsked cursorBlink (applied ++ [asked])).getD start.cursorBlink) ↔
        asked.cursorBlink.getD copy.cursorBlink = asked.cursorBlink.getD stored.cursorBlink := by
    simpa only [id_eq, map_id_apply] using field_kept_iff asked cursorBlink id
      (by simpa only [map_id_apply] using kept.cursorBlink) rfl
  simp only [UpdatePayload.merge, normalizePreferences, Preferences.mk.injEq]
  rw [keeps_changes_mk_iff, fontSize, lineHeight, themeMode, scrollback, cursorStyle, cursorBlink]

theorem keeps_changes_start (start : Preferences) : KeepsChanges lib start start [] :=
  ⟨rfl, rfl, rfl, rfl, rfl, rfl⟩

end

variable {current : Preferences}

section

variable (lib : LowerCase)

theorem clamped_change {store : TerminalSettings} (normal : NormalPreferences store.preferences)
    (made : PreferenceChange) :
    ((made.next store).clamped lib).preferences = made.asked.merge store.preferences := by
  have fontSize := font_size_of_normal normal
  have lineHeight := line_height_of_normal normal.lineHeight
  have scrollback := scrollback_of_normal normal
  simp only [TerminalSettings.preferences] at fontSize lineHeight scrollback
  cases made with
  | defaults =>
    have kept : (defaultTerminalSettings.next).clamped lib = defaultTerminalSettings :=
      clamped_next lib default_preferences_normal
    rw [PreferenceChange.next, resetTerminalDefaults, kept]
    rfl
  | fontSize | lineHeight | scrollback | themeMode | cursorStyle | cursorBlink =>
    simp only [PreferenceChange.next, setTerminalFontSize, setTerminalLineHeight,
      setTerminalScrollback, setTerminalThemeMode, setTerminalCursorStyle,
      setTerminalCursorBlink, NextSettings.clamped, TerminalSettings.next,
      TerminalSettings.preferences, PreferenceChange.asked, noChange, UpdatePayload.merge,
      getD_some, getD_none, fontSize, lineHeight, scrollback,
      theme_mode_text, cursor_style_text]

def Request.Normal : Request → Prop
  | .ui _ store => NormalPreferences store.preferences
  | .client _ => True

theorem merge_request (normal : request.Normal) (current : Preferences) :
    (request.body lib).merge current = request.asked.merge (request.copied current) := by
  cases request with
  | client payload => rfl
  | ui made store =>
    have sent := merge_body lib (clamped_normal lib (made.next store)) current
    exact sent.trans (clamped_change lib normal made)

theorem copied_normal (normal : request.Normal) (currentNormal : NormalPreferences current) :
    NormalPreferences (request.copied current) := by
  cases request with
  | client payload => exact currentNormal
  | ui made store => exact normal

end

def Call.Normal : Call → Prop
  | .sent request => request.Normal
  | .read request current => request.Normal ∧ NormalPreferences current
  | .saved _ settings => NormalPreferences settings
  | .refreshed settings => NormalPreferences settings
  | .refreshing => True
  | .done => True

/-- The run invariant. As long as the UI is to follow, it shows the stored preferences or
is about to. -/
structure KeptSoFar (lib : LowerCase) (start : Preferences) (s : System) : Prop where
  changes : KeepsChanges lib start s.stored s.applied
  stored : NormalPreferences s.stored
  ui : NormalPreferences s.ui.settings.preferences
  calls : ∀ call ∈ s.calls, call.Normal
  shown : s.follows = true → s.ui.settings.preferences = s.stored ∨
    ∃ call ∈ s.calls, call.toUi = some s.stored

section

variable (lib : LowerCase) {s : System}

theorem Starts.kept (starts : Starts s) : KeptSoFar lib s.stored s where
  changes := by
    rw [starts.applied]
    exact keeps_changes_start lib s.stored
  stored := starts.stored
  ui := starts.ui
  calls := by
    rw [starts.calls]
    simp
  shown follows := .inl (starts.follows follows)

section

variable (kept : KeptSoFar lib start s) {index call : Nat}
include kept

theorem write_keeps_changes_iff (isRead : s.calls[call]? = some (.read request current)) :
    KeepsChanges lib start (s.write lib call request current).stored
      (s.write lib call request current).applied ↔
    orderly s (.write call) = true := by
  obtain ⟨requestNormal, currentNormal⟩ := kept.calls _ (mem_of_getElem? isRead)
  have written : (s.write lib call request current).stored =
      normalizePreferences lib (request.asked.merge (request.copied current)) := by
    rw [System.write, merge_request lib requestNormal]
  rw [written]
  simp only [orderly, isRead, decide_eq_true_eq]
  exact keeps_changes_iff lib kept.changes (copied_normal requestNormal currentNormal)

theorem KeptSoFar.set_call (call : Call) (normal : call.Normal)
    (silent : ∀ earlier, s.calls[index]? = some earlier → earlier.toUi ≠ some s.stored) :
    KeptSoFar lib start { s with calls := s.calls.set index call } where
  changes := kept.changes
  stored := kept.stored
  ui := kept.ui
  calls := by
    intro other mem
    rcases mem_or_eq_of_mem_set mem with earlier | rfl
    · exact kept.calls other earlier
    · exact normal
  shown := by
    intro follows
    rcases kept.shown follows with current | ⟨other, mem, shows⟩
    · exact .inl current
    right
    obtain ⟨place, isOther⟩ := mem_iff_getElem?.mp mem
    have apart : index ≠ place := by
      rintro rfl
      exact silent other isOther shows
    refine ⟨other, mem_iff_getElem?.mpr ⟨place, ?_⟩, shows⟩
    rw [getElem?_set_ne apart]
    exact isOther

theorem KeptSoFar.add_call (call : Call) (normal : call.Normal) :
    KeptSoFar lib start { s with calls := s.calls ++ [call] } where
  changes := kept.changes
  stored := kept.stored
  ui := kept.ui
  calls := by
    intro other mem
    rcases mem_append.mp mem with earlier | new
    · exact kept.calls other earlier
    · rw [mem_singleton.mp new]
      exact normal
  shown := by
    intro follows
    rcases kept.shown follows with current | ⟨other, mem, shows⟩
    · exact .inl current
    · exact .inr ⟨other, mem_append_left _ mem, shows⟩

theorem KeptSoFar.same_settings (ui : TerminalPreferencesState)
    (same : ui.settings = s.ui.settings) (loadPromise : Bool) :
    KeptSoFar lib start { s with ui, loadPromise } where
  changes := kept.changes
  stored := kept.stored
  ui := by
    rw [same]
    exact kept.ui
  calls := kept.calls
  shown := by
    rw [same]
    exact kept.shown

theorem KeptSoFar.read (isSent : s.calls[call]? = some (.sent request)) :
    KeptSoFar lib start
      { s with calls := s.calls.set call (.read request (normalizePreferences lib s.stored)) } := by
  have normal : request.Normal := kept.calls _ (mem_of_getElem? isSent)
  apply kept.set_call lib (.read request _) ⟨normal, preferences_normal lib s.stored⟩
  intro earlier isEarlier
  rw [isSent] at isEarlier
  cases isEarlier
  exact nofun

theorem KeptSoFar.refreshed (isRefreshing : s.calls[call]? = some .refreshing) :
    KeptSoFar lib start { s with
      calls := s.calls.set call (.refreshed (normalizePreferences lib s.stored))
      follows := true } where
  changes := kept.changes
  stored := kept.stored
  ui := kept.ui
  calls := by
    intro other mem
    rcases mem_or_eq_of_mem_set mem with earlier | rfl
    · exact kept.calls other earlier
    · exact preferences_normal lib s.stored
  shown := by
    intro _
    right
    obtain ⟨inside, _⟩ := List.getElem?_eq_some_iff.mp isRefreshing
    refine ⟨_, mem_set inside _, ?_⟩
    rw [normalize_of_normal lib kept.stored]
    rfl

theorem KeptSoFar.write (isRead : s.calls[call]? = some (.read request current))
    (inOrder : orderly s (.write call) = true) :
    KeptSoFar lib start (s.write lib call request current) where
  changes := (write_keeps_changes_iff lib kept isRead).mpr inOrder
  stored := preferences_normal lib _
  ui := kept.ui
  calls := by
    intro other mem
    rcases mem_or_eq_of_mem_set mem with earlier | rfl
    · exact kept.calls other earlier
    · exact preferences_normal lib _
  shown := by
    intro fromUi
    right
    obtain ⟨inside, _⟩ := List.getElem?_eq_some_iff.mp isRead
    refine ⟨_, mem_set inside _, ?_⟩
    simp only [System.write] at fromUi ⊢
    rw [fromUi]
    rfl

theorem KeptSoFar.receive {call : Call} {settings : Preferences}
    (isCall : s.calls[index]? = some call) (shows : call.toUi = some settings)
    (inOrder : orderly s (.receive index) = true) {ui : TerminalPreferencesState}
    (shown : ui.settings = normalizeTerminalSettings lib settings) (loadPromise : Bool) :
    KeptSoFar lib start { s with ui, loadPromise, calls := s.calls.set index .done } := by
  have normal : NormalPreferences settings := by
    have callNormal := kept.calls _ (mem_of_getElem? isCall)
    cases call with
    | sent | read | refreshing | done => cases shows
    | saved fromUi saved =>
      cases fromUi with
      | false => cases shows
      | true =>
        cases shows
        exact callNormal
    | refreshed loaded =>
      cases shows
      exact callNormal
  have shownSettings : ui.settings.preferences = settings := by
    rw [shown]
    exact settings_of_normal lib normal
  constructor
  case changes => exact kept.changes
  case stored => exact kept.stored
  case ui =>
    rw [shownSettings]
    exact normal
  case calls =>
    intro other mem
    rcases mem_or_eq_of_mem_set mem with earlier | rfl
    · exact kept.calls other earlier
    · trivial
  case shown =>
    intro _
    rw [shownSettings]
    simpa [orderly, isCall, shows] using inOrder

theorem KeptSoFar.step {step : SystemStep} {next : System} (inOrder : orderly s step = true)
    (taken : systemStep lib s step = some next) : KeptSoFar lib start next := by
  cases step with
  | change made =>
    cases taken
    have saving : KeptSoFar lib start { s with ui := s.ui.beginSaving } :=
      kept.same_settings lib s.ui.beginSaving rfl s.loadPromise
    exact saving.add_call lib (.sent (.ui made s.ui.settings)) kept.ui
  | submit payload =>
    simp only [systemStep] at taken
    split_ifs at taken
    cases taken
    exact kept.add_call lib (.sent (.client payload)) trivial
  | refresh =>
    simp only [systemStep] at taken
    split_ifs at taken
    cases taken
    have loading := kept.same_settings lib s.ui.beginLoading rfl true
    exact loading.add_call lib .refreshing trivial
  | read call =>
    simp only [systemStep] at taken
    split at taken
    · cases taken
      exact kept.read lib ‹_›
    · cases taken
      exact kept.refreshed lib ‹_›
    · cases taken
  | write call =>
    simp only [systemStep] at taken
    split at taken
    · cases taken
      exact kept.write lib ‹_› inOrder
    · cases taken
  | receive call =>
    simp only [systemStep] at taken
    split at taken
    · rename_i isSaved
      cases taken
      exact kept.receive lib isSaved rfl inOrder rfl s.loadPromise
    · rename_i isSaved
      cases taken
      apply kept.set_call lib .done trivial
      intro earlier isEarlier
      rw [isSaved] at isEarlier
      cases isEarlier
      exact nofun
    · rename_i isRefreshed
      cases taken
      exact kept.receive lib isRefreshed rfl inOrder rfl false
    · cases taken

end

/-- If every step is orderly and all calls are done, each preference is stored as the last request
that asked for it wanted, and the UI shows what is stored if it follows. -/
theorem preference_changes_are_kept {first s : System} (starts : Starts first)
    (run : RunsTo (guarded orderly (systemStep lib)) first s) (completed : s.completed = true) :
    KeepsChanges lib first.stored s.stored s.applied ∧
    (s.follows = true → s.ui.settings.preferences = s.stored) := by
  have kept : KeptSoFar lib first.stored s := by
    apply run.preserves _ (starts.kept lib)
    intro earlier step next holds taken
    obtain ⟨inOrder, happens⟩ := guarded_eq_some.mp taken
    exact holds.step lib inOrder happens
  refine ⟨kept.changes, fun follows => ?_⟩
  rcases kept.shown follows with current | ⟨call, mem, shows⟩
  · exact current
  -- A call that is done shows nothing.
  have isDone := all_eq_true.mp completed call mem
  cases call with
  | done => cases shows
  | sent | read | saved | refreshing | refreshed => cases isDone

end

def asciiCase : LowerCase where
  toLower := String.map Char.toLower
  toLowerCase := String.map Char.toLower
  lower_small _ := Go.Strings.map_to_lower_small
  lower_case_small _ := Go.Strings.map_to_lower_small

def defaultSystem : System where
  stored := defaultTerminalSettings.preferences
  ui := { settings := defaultTerminalSettings, errorMessage := none, isLoading := false,
          isSaving := false }
  loadPromise := false
  calls := []
  applied := []
  follows := true

theorem default_system_starts : Starts defaultSystem where
  stored := default_preferences_normal
  ui := default_preferences_normal
  calls := rfl
  applied := rfl
  follows _ := rfl

def changesInTurn : List SystemStep :=
  [ .change (.fontSize (some 15)), .read 0, .write 0, .receive 0,
    .change (.themeMode .contrast), .read 1, .write 1, .receive 1 ]

def changesAtOnce : List SystemStep :=
  [ .change (.fontSize (some 15)), .change (.themeMode .contrast), .read 0, .write 0,
    .receive 0, .read 1, .write 1, .receive 1 ]

theorem changes_in_turn_kept :
    ∃ s, RunsTo (guarded orderly (systemStep asciiCase)) defaultSystem s ∧ s.applied.length = 2 ∧
      KeepsChanges asciiCase defaultSystem.stored s.stored s.applied ∧
      s.ui.settings.preferences = s.stored := by
  have tested : ((runActions (guarded orderly (systemStep asciiCase)) defaultSystem
      changesInTurn).map fun s => s.completed && s.follows && s.applied.length == 2) =
        some true := by
    decide +kernel
  obtain ⟨s, ran, holds⟩ := map_eq_some_iff.mp tested
  simp only [Bool.and_eq_true, beq_iff_eq] at holds
  obtain ⟨⟨completed, follows⟩, both⟩ := holds
  have run := runs_to_of_run ran
  obtain ⟨kept, shown⟩ :=
    preference_changes_are_kept asciiCase default_system_starts run completed
  exact ⟨s, run, both, kept, shown follows⟩

/-- The font size 15 is asked for and applied, and the default is stored in the end. -/
theorem changes_at_once_lose_the_first :
    Starts defaultSystem ∧
    ∃ s, RunsTo (systemStep asciiCase) defaultSystem s ∧ s.completed = true ∧
      lastAsked UpdatePayload.fontSize s.applied = some 15 ∧ s.stored.fontSize = 13 ∧
      ¬ KeepsChanges asciiCase defaultSystem.stored s.stored s.applied := by
  refine ⟨default_system_starts, ?_⟩
  have tested : ((runActions (systemStep asciiCase) defaultSystem changesAtOnce).map fun s =>
      s.completed && lastAsked fontSize s.applied == some 15 &&
        s.stored.fontSize == 13) = some true := by
    decide +kernel
  obtain ⟨s, ran, holds⟩ := map_eq_some_iff.mp tested
  simp only [Bool.and_eq_true, beq_iff_eq] at holds
  obtain ⟨⟨completed, asked⟩, stored⟩ := holds
  refine ⟨s, runs_to_of_run ran, completed, asked, stored, ?_⟩
  intro kept
  have lost := kept.fontSize
  rw [asked, stored] at lost
  exact absurd lost (by decide)

end RuneTerminal.TerminalPreferences
