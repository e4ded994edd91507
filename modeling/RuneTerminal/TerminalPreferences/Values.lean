import RuneTerminal.Go.Strings
import RuneTerminal.Commander.Transfer
import RuneTerminal.Kit.NearestDouble

/-! The preferences row of the server (`preferences.go`), the handler that changes it
(`handlers_terminal_settings.go`), and the store of the UI (`use-terminal-preferences.ts`,
`terminal-settings.ts`). -/

namespace RuneTerminal.TerminalPreferences

open Go.Strings Kit List

/-- `strings.ToLower` and `toLowerCase`, which leave a text of small letters as it is. -/
structure LowerCase where
  toLower : String → String
  toLowerCase : String → String
  lower_small : ∀ text : String, text.toList.all Char.isLower = true → toLower text = text
  lower_case_small : ∀ text : String, text.toList.all Char.isLower = true →
    toLowerCase text = text

def literal (hundredths : ℤ) : ℚ := nearestDouble (hundredths / 100)

def defaultFontSize : Int := 13
def minFontSize : Int := 11
def maxFontSize : Int := 16
def defaultLineHeight : ℚ := literal 125
def minLineHeight : ℚ := literal 105
def maxLineHeight : ℚ := literal 160
def defaultThemeMode : String := "adaptive"
def contrastThemeMode : String := "contrast"
def defaultScrollback : Int := 5000
def minScrollback : Int := 1000
def maxScrollback : Int := 20000
def defaultCursorStyle : String := "block"
def cursorStyleBar : String := "bar"
def cursorStyleUnderline : String := "underline"

structure Preferences where
  fontSize : Int
  lineHeight : ℚ
  themeMode : String
  scrollback : Int
  cursorStyle : String
  cursorBlink : Bool
  deriving DecidableEq

/-- `updateTerminalSettingsPayload`: the preferences that a request changes. -/
structure UpdatePayload where
  fontSize : Option Int
  lineHeight : Option ℚ
  themeMode : Option String
  scrollback : Option Int
  cursorStyle : Option String
  cursorBlink : Option Bool

def clampFontSize (value : Int) : Int :=
  if value < minFontSize then minFontSize
  else if value > maxFontSize then maxFontSize
  else if value = 0 then defaultFontSize
  else value

/-- `math.Round`: halves away from zero. -/
def roundAway (x : ℚ) : ℤ :=
  if x < 0 then -⌊-x + 1 / 2⌋ else ⌊x + 1 / 2⌋

def clampLineHeight (value : ℚ) : ℚ :=
  if value = 0 then defaultLineHeight
  else if value < minLineHeight then minLineHeight
  else if value > maxLineHeight then maxLineHeight
  else nearestDouble (roundAway (nearestDouble (value * 100)) / 100)

def clampScrollback (value : Int) : Int :=
  if value = 0 then defaultScrollback
  else if value < minScrollback then minScrollback
  else if value > maxScrollback then maxScrollback
  else value

section

variable (lib : LowerCase)

def clampThemeMode (value : String) : String :=
  let normalized := trimSpace (lib.toLower value)
  if normalized = "" ∨ normalized = defaultThemeMode then defaultThemeMode
  else if normalized = contrastThemeMode then contrastThemeMode
  else defaultThemeMode

def clampCursorStyle (value : String) : String :=
  let normalized := trimSpace (lib.toLower value)
  if normalized = "" ∨ normalized = defaultCursorStyle then defaultCursorStyle
  else if normalized = cursorStyleBar then cursorStyleBar
  else if normalized = cursorStyleUnderline then cursorStyleUnderline
  else defaultCursorStyle

/-- What `Update` stores and returns, and what `Snapshot` makes of the row. -/
def normalizePreferences (next : Preferences) : Preferences where
  fontSize := clampFontSize next.fontSize
  lineHeight := clampLineHeight next.lineHeight
  themeMode := clampThemeMode lib next.themeMode
  scrollback := clampScrollback next.scrollback
  cursorStyle := clampCursorStyle lib next.cursorStyle
  cursorBlink := next.cursorBlink

end

/-- The merge of `handleUpdateTerminalSettings`. -/
def UpdatePayload.merge (payload : UpdatePayload) (current : Preferences) : Preferences where
  fontSize := payload.fontSize.getD current.fontSize
  lineHeight := payload.lineHeight.getD current.lineHeight
  themeMode := payload.themeMode.getD current.themeMode
  scrollback := payload.scrollback.getD current.scrollback
  cursorStyle := payload.cursorStyle.getD current.cursorStyle
  cursorBlink := payload.cursorBlink.getD current.cursorBlink

def UpdatePayload.isEmpty (payload : UpdatePayload) : Bool :=
  payload.fontSize.isNone && payload.lineHeight.isNone && payload.themeMode.isNone &&
    payload.scrollback.isNone && payload.cursorStyle.isNone && payload.cursorBlink.isNone

inductive TerminalThemeMode where
  | adaptive
  | contrast
  deriving DecidableEq

inductive TerminalCursorStyle where
  | block
  | bar
  | underline
  deriving DecidableEq

def TerminalThemeMode.text : TerminalThemeMode → String
  | .adaptive => "adaptive"
  | .contrast => "contrast"

def TerminalCursorStyle.text : TerminalCursorStyle → String
  | .block => "block"
  | .bar => "bar"
  | .underline => "underline"

/-- A number of the UI. There is none for infinities and for what is not a number. -/
abbrev Number := Option ℚ

/-- `Math.round`: halves up. -/
def mathRound (x : ℚ) : ℤ := ⌊x + 1 / 2⌋

def clampTerminalFontSize : Number → Int
  | none => defaultFontSize
  | some value => min maxFontSize (max minFontSize (mathRound value))

def clampTerminalLineHeight : Number → ℚ
  | none => defaultLineHeight
  | some value =>
    let clamped := min maxLineHeight (max minLineHeight value)
    nearestDouble (mathRound (nearestDouble (clamped * 100)) / 100)

def clampTerminalScrollback : Number → Int
  | none => defaultScrollback
  | some value => min maxScrollback (max minScrollback (mathRound value))

structure TerminalSettings where
  fontSize : Int
  lineHeight : ℚ
  themeMode : TerminalThemeMode
  scrollback : Int
  cursorStyle : TerminalCursorStyle
  cursorBlink : Bool

structure TerminalPreferencesState where
  settings : TerminalSettings
  errorMessage : Option String
  isLoading : Bool
  isSaving : Bool

/-- The argument of `persistTerminalSettings`. -/
structure NextSettings where
  cursorBlink : Bool
  cursorStyle : TerminalCursorStyle
  fontSize : Number
  lineHeight : Number
  scrollback : Number
  themeMode : TerminalThemeMode

def defaultTerminalSettings : TerminalSettings where
  fontSize := defaultFontSize
  lineHeight := defaultLineHeight
  themeMode := .adaptive
  scrollback := defaultScrollback
  cursorStyle := .block
  cursorBlink := true

def TerminalSettings.next (settings : TerminalSettings) : NextSettings where
  cursorBlink := settings.cursorBlink
  cursorStyle := settings.cursorStyle
  fontSize := some settings.fontSize
  lineHeight := some settings.lineHeight
  scrollback := some settings.scrollback
  themeMode := settings.themeMode

section

variable (store : TerminalSettings)

def setTerminalFontSize (fontSize : Number) : NextSettings := { store.next with fontSize }
def setTerminalLineHeight (lineHeight : Number) : NextSettings := { store.next with lineHeight }
def setTerminalScrollback (scrollback : Number) : NextSettings := { store.next with scrollback }
def setTerminalThemeMode (themeMode : TerminalThemeMode) : NextSettings :=
  { store.next with themeMode }
def setTerminalCursorStyle (cursorStyle : TerminalCursorStyle) : NextSettings :=
  { store.next with cursorStyle }
def setTerminalCursorBlink (cursorBlink : Bool) : NextSettings := { store.next with cursorBlink }
def resetTerminalDefaults : NextSettings := defaultTerminalSettings.next

end

inductive PreferenceChange where
  | fontSize (value : Number)
  | lineHeight (value : Number)
  | scrollback (value : Number)
  | themeMode (value : TerminalThemeMode)
  | cursorStyle (value : TerminalCursorStyle)
  | cursorBlink (value : Bool)
  | defaults

def PreferenceChange.next (store : TerminalSettings) : PreferenceChange → NextSettings
  | .fontSize value => setTerminalFontSize store value
  | .lineHeight value => setTerminalLineHeight store value
  | .scrollback value => setTerminalScrollback store value
  | .themeMode value => setTerminalThemeMode store value
  | .cursorStyle value => setTerminalCursorStyle store value
  | .cursorBlink value => setTerminalCursorBlink store value
  | .defaults => resetTerminalDefaults

section

variable (lib : LowerCase)

def clampTerminalThemeMode (value : String) : TerminalThemeMode :=
  if lib.toLowerCase (Commander.trim value) = "contrast" then .contrast else .adaptive

def clampTerminalCursorStyle (value : String) : TerminalCursorStyle :=
  let normalized := lib.toLowerCase (Commander.trim value)
  if normalized = "bar" then .bar
  else if normalized = "underline" then .underline
  else .block

/-- What `persistTerminalSettings` passes on. -/
def NextSettings.clamped (next : NextSettings) : TerminalSettings where
  fontSize := clampTerminalFontSize next.fontSize
  lineHeight := clampTerminalLineHeight next.lineHeight
  themeMode := clampTerminalThemeMode lib next.themeMode.text
  scrollback := clampTerminalScrollback next.scrollback
  cursorStyle := clampTerminalCursorStyle lib next.cursorStyle.text
  cursorBlink := next.cursorBlink

/-- The body that `updateTerminalSettings` sends. -/
def TerminalSettings.body (settings : TerminalSettings) : UpdatePayload where
  fontSize := some (clampTerminalFontSize (some settings.fontSize))
  lineHeight := some (clampTerminalLineHeight (some settings.lineHeight))
  themeMode := some (clampTerminalThemeMode lib settings.themeMode.text).text
  scrollback := some (clampTerminalScrollback (some settings.scrollback))
  cursorStyle := some (clampTerminalCursorStyle lib settings.cursorStyle.text).text
  cursorBlink := some settings.cursorBlink

def normalizeTerminalSettings (payload : Preferences) : TerminalSettings where
  fontSize := clampTerminalFontSize (some payload.fontSize)
  lineHeight := clampTerminalLineHeight (some payload.lineHeight)
  themeMode := clampTerminalThemeMode lib payload.themeMode
  scrollback := clampTerminalScrollback (some payload.scrollback)
  cursorStyle := clampTerminalCursorStyle lib payload.cursorStyle
  cursorBlink := payload.cursorBlink

end

namespace TerminalPreferencesState

variable (state : TerminalPreferencesState)

/-- `persistTerminalSettings` up to the request. -/
def beginSaving : TerminalPreferencesState := { state with errorMessage := none, isSaving := true }

/-- `persistTerminalSettings` after the response. -/
def finishSaving (settings : TerminalSettings) : TerminalPreferencesState :=
  { state with settings, isSaving := false }

/-- `refreshTerminalPreferences` up to the request. -/
def beginLoading : TerminalPreferencesState :=
  { state with errorMessage := none, isLoading := true }

/-- `refreshTerminalPreferences` after the response. -/
def finishLoading (settings : TerminalSettings) : TerminalPreferencesState :=
  { state with settings, isLoading := false }

end TerminalPreferencesState

section

variable {k : ℤ} {value : ℚ}

theorem literal_bounds (low : 105 ≤ k) (high : k ≤ 160) :
    (k : ℚ) / 100 - 1 / 1000 < literal k ∧ literal k < (k : ℚ) / 100 + 1 / 1000 := by
  have lowCast : (105 : ℚ) ≤ k := by exact_mod_cast low
  have highCast : (k : ℚ) ≤ 160 := by exact_mod_cast high
  have error := nearest_double_error ((k : ℚ) / 100)
  rw [abs_of_nonneg (show (0 : ℚ) ≤ k / 100 by linarith), abs_le] at error
  unfold literal
  constructor <;> linarith

theorem hundredths_of_in_range (low : minLineHeight ≤ value) (high : value ≤ maxLineHeight) :
    ∃ k : ℤ, 105 ≤ k ∧ k ≤ 160 ∧
    mathRound (nearestDouble (value * 100)) = k ∧ roundAway (nearestDouble (value * 100)) = k := by
  have lowest := literal_bounds (k := 105) (by decide) (by decide)
  have highest := literal_bounds (k := 160) (by decide) (by decide)
  unfold minLineHeight at low
  unfold maxLineHeight at high
  push_cast at lowest highest
  have error := nearest_double_error (value * 100)
  rw [abs_of_nonneg (show (0 : ℚ) ≤ value * 100 by linarith), abs_le] at error
  have notNegative : ¬ nearestDouble (value * 100) < 0 := by linarith
  refine ⟨mathRound (nearestDouble (value * 100)), ?_, ?_, rfl, ?_⟩
  · exact Int.le_floor.mpr (by push_cast; linarith)
  · exact Int.lt_add_one_iff.mp (Int.floor_lt.mpr (by push_cast; linarith))
  · rw [roundAway, if_neg notNegative, mathRound]

theorem hundredths_of_literal (low : 105 ≤ k) (high : k ≤ 160) :
    mathRound (nearestDouble (literal k * 100)) = k ∧
    roundAway (nearestDouble (literal k * 100)) = k := by
  have bounds := literal_bounds low high
  have lowCast : (105 : ℚ) ≤ k := by exact_mod_cast low
  have highCast : (k : ℚ) ≤ 160 := by exact_mod_cast high
  have error := nearest_double_error (literal k * 100)
  rw [abs_of_nonneg (show (0 : ℚ) ≤ literal k * 100 by linarith), abs_le] at error
  have notNegative : ¬ nearestDouble (literal k * 100) < 0 := by linarith
  have rounded : ⌊nearestDouble (literal k * 100) + 1 / 2⌋ = k := by
    rw [Int.floor_eq_iff]
    constructor <;> linarith
  exact ⟨rounded, by rw [roundAway, if_neg notNegative, rounded]⟩

theorem literal_in_range (low : 105 ≤ k) (high : k ≤ 160) :
    minLineHeight ≤ literal k ∧ literal k ≤ maxLineHeight := by
  have bounds := literal_bounds low high
  have lowest := literal_bounds (k := 105) (by decide) (by decide)
  have highest := literal_bounds (k := 160) (by decide) (by decide)
  push_cast at lowest highest
  constructor
  · rcases eq_or_lt_of_le low with rfl | above
    · exact le_rfl
    · have aboveCast : (106 : ℚ) ≤ k := by exact_mod_cast above
      unfold minLineHeight
      linarith
  · rcases eq_or_lt_of_le high with rfl | below
    · exact le_rfl
    · have belowCast : (k : ℚ) ≤ 159 := by exact_mod_cast Int.le_sub_one_of_lt below
      unfold maxLineHeight
      linarith

def NormalLineHeight (value : ℚ) : Prop :=
  ∃ k : ℤ, 105 ≤ k ∧ k ≤ 160 ∧ value = literal k

theorem clamp_line_height_normal (value : ℚ) : NormalLineHeight (clampLineHeight value) := by
  unfold clampLineHeight
  split_ifs with zero low high
  · exact ⟨125, by decide, by decide, rfl⟩
  · exact ⟨105, by decide, by decide, rfl⟩
  · exact ⟨160, by decide, by decide, rfl⟩
  · obtain ⟨k, lowest, highest, _, rounded⟩ :=
      hundredths_of_in_range (not_lt.mp low) (not_lt.mp high)
    exact ⟨k, lowest, highest, by rw [rounded, literal]⟩

theorem clamp_line_height_of_normal (normal : NormalLineHeight value) :
    clampLineHeight value = value := by
  obtain ⟨k, low, high, rfl⟩ := normal
  have bounds := literal_bounds low high
  have inRange := literal_in_range low high
  have lowCast : (105 : ℚ) ≤ k := by exact_mod_cast low
  unfold clampLineHeight
  rw [if_neg (by linarith), if_neg (not_lt.mpr inRange.1), if_neg (not_lt.mpr inRange.2),
    (hundredths_of_literal low high).2, literal]

theorem line_height_of_normal (normal : NormalLineHeight value) :
    clampTerminalLineHeight (some value) = value := by
  obtain ⟨k, low, high, rfl⟩ := normal
  have inRange := literal_in_range low high
  simp only [clampTerminalLineHeight]
  rw [max_eq_right inRange.1, min_eq_right inRange.2, (hundredths_of_literal low high).1, literal]

end

structure NormalPreferences (prefs : Preferences) : Prop where
  fontSize : minFontSize ≤ prefs.fontSize ∧ prefs.fontSize ≤ maxFontSize
  lineHeight : NormalLineHeight prefs.lineHeight
  themeMode : prefs.themeMode ∈ [defaultThemeMode, contrastThemeMode]
  scrollback : minScrollback ≤ prefs.scrollback ∧ prefs.scrollback ≤ maxScrollback
  cursorStyle : prefs.cursorStyle ∈ [defaultCursorStyle, cursorStyleBar, cursorStyleUnderline]

def TerminalSettings.preferences (settings : TerminalSettings) : Preferences where
  fontSize := settings.fontSize
  lineHeight := settings.lineHeight
  themeMode := settings.themeMode.text
  scrollback := settings.scrollback
  cursorStyle := settings.cursorStyle.text
  cursorBlink := settings.cursorBlink

section

variable (lib : LowerCase)

theorem preferences_normal (next : Preferences) :
    NormalPreferences (normalizePreferences lib next) where
  fontSize := by
    simp only [normalizePreferences, clampFontSize, minFontSize, maxFontSize]
    split_ifs <;> omega
  lineHeight := clamp_line_height_normal next.lineHeight
  themeMode := by
    simp only [normalizePreferences, clampThemeMode]
    split_ifs <;> simp
  scrollback := by
    simp only [normalizePreferences, clampScrollback, minScrollback, maxScrollback,
      defaultScrollback]
    split_ifs <;> omega
  cursorStyle := by
    simp only [normalizePreferences, clampCursorStyle]
    split_ifs <;> simp

theorem default_preferences_normal : NormalPreferences defaultTerminalSettings.preferences where
  fontSize := by decide
  lineHeight := ⟨125, by decide, by decide, rfl⟩
  themeMode := by decide
  scrollback := by decide
  cursorStyle := by decide

theorem theme_mode_text (mode : TerminalThemeMode) :
    clampTerminalThemeMode lib mode.text = mode := by
  rw [clampTerminalThemeMode, lib.lower_case_small _ (by cases mode <;> decide)]
  cases mode <;> decide

theorem cursor_style_text (style : TerminalCursorStyle) :
    clampTerminalCursorStyle lib style.text = style := by
  rw [clampTerminalCursorStyle, lib.lower_case_small _ (by cases style <;> decide)]
  cases style <;> decide

variable {prefs : Preferences} (normal : NormalPreferences prefs)

include normal

theorem normalize_of_normal : normalizePreferences lib prefs = prefs := by
  obtain ⟨fontLow, fontHigh⟩ := normal.fontSize
  obtain ⟨scrollLow, scrollHigh⟩ := normal.scrollback
  have fontSize : clampFontSize prefs.fontSize = prefs.fontSize := by
    simp only [clampFontSize, minFontSize] at *
    split_ifs <;> omega
  have scrollback : clampScrollback prefs.scrollback = prefs.scrollback := by
    simp only [clampScrollback, minScrollback] at *
    split_ifs <;> omega
  have themeMode : clampThemeMode lib prefs.themeMode = prefs.themeMode := by
    have member := normal.themeMode
    simp only [mem_cons, not_mem_nil, or_false] at member
    rcases member with isDefault | isContrast
    · rw [isDefault, clampThemeMode, lib.lower_small _ (by decide)]
      decide
    · rw [isContrast, clampThemeMode, lib.lower_small _ (by decide)]
      decide
  have cursorStyle : clampCursorStyle lib prefs.cursorStyle = prefs.cursorStyle := by
    have member := normal.cursorStyle
    simp only [mem_cons, not_mem_nil, or_false] at member
    rcases member with isBlock | isBar | isUnderline
    · rw [isBlock, clampCursorStyle, lib.lower_small _ (by decide)]
      decide
    · rw [isBar, clampCursorStyle, lib.lower_small _ (by decide)]
      decide
    · rw [isUnderline, clampCursorStyle, lib.lower_small _ (by decide)]
      decide
  rw [normalizePreferences, fontSize, scrollback, themeMode, cursorStyle,
    clamp_line_height_of_normal normal.lineHeight]

theorem font_size_of_normal : clampTerminalFontSize (some prefs.fontSize) = prefs.fontSize := by
  obtain ⟨low, high⟩ := normal.fontSize
  have rounded : mathRound (prefs.fontSize : ℚ) = prefs.fontSize := by
    rw [mathRound, Int.floor_eq_iff]
    constructor <;> linarith
  rw [clampTerminalFontSize, rounded, max_eq_right low, min_eq_right high]

theorem scrollback_of_normal :
    clampTerminalScrollback (some prefs.scrollback) = prefs.scrollback := by
  obtain ⟨low, high⟩ := normal.scrollback
  have rounded : mathRound (prefs.scrollback : ℚ) = prefs.scrollback := by
    rw [mathRound, Int.floor_eq_iff]
    constructor <;> linarith
  rw [clampTerminalScrollback, rounded, max_eq_right low, min_eq_right high]

theorem theme_mode_of_normal :
    (clampTerminalThemeMode lib prefs.themeMode).text = prefs.themeMode := by
  have member := normal.themeMode
  simp only [mem_cons, not_mem_nil, or_false] at member
  rcases member with isDefault | isContrast
  · rw [isDefault]
    exact congrArg _ (theme_mode_text lib .adaptive)
  · rw [isContrast]
    exact congrArg _ (theme_mode_text lib .contrast)

theorem cursor_style_of_normal :
    (clampTerminalCursorStyle lib prefs.cursorStyle).text = prefs.cursorStyle := by
  have member := normal.cursorStyle
  simp only [mem_cons, not_mem_nil, or_false] at member
  rcases member with isBlock | isBar | isUnderline
  · rw [isBlock]
    exact congrArg _ (cursor_style_text lib .block)
  · rw [isBar]
    exact congrArg _ (cursor_style_text lib .bar)
  · rw [isUnderline]
    exact congrArg _ (cursor_style_text lib .underline)

theorem settings_of_normal : (normalizeTerminalSettings lib prefs).preferences = prefs := by
  simp only [TerminalSettings.preferences, normalizeTerminalSettings,
    font_size_of_normal normal, scrollback_of_normal normal,
    line_height_of_normal normal.lineHeight, theme_mode_of_normal lib
    normal, cursor_style_of_normal lib normal]

end

section

variable (lib : LowerCase)

theorem clamp_terminal_line_height_normal (value : Number) :
    NormalLineHeight (clampTerminalLineHeight value) := by
  cases value with
  | none => exact ⟨125, by decide, by decide, rfl⟩
  | some value =>
    have ordered : minLineHeight ≤ maxLineHeight :=
      (literal_in_range (k := 105) (by decide) (by decide)).2
    have above : minLineHeight ≤ min maxLineHeight (max minLineHeight value) :=
      le_min ordered (le_max_left _ _)
    obtain ⟨k, low, high, rounded, _⟩ := hundredths_of_in_range above (min_le_left _ _)
    refine ⟨k, low, high, ?_⟩
    simp only [clampTerminalLineHeight]
    rw [rounded, literal]

theorem clamped_normal (next : NextSettings) :
    NormalPreferences (next.clamped lib).preferences where
  fontSize := by
    cases sent : next.fontSize with
    | none => simp [TerminalSettings.preferences, NextSettings.clamped, sent,
        clampTerminalFontSize, defaultFontSize, minFontSize, maxFontSize]
    | some value => simp [TerminalSettings.preferences, NextSettings.clamped, sent,
        clampTerminalFontSize, minFontSize, maxFontSize]
  lineHeight := clamp_terminal_line_height_normal next.lineHeight
  themeMode := by
    cases kept : (next.clamped lib).themeMode <;>
      simp [TerminalSettings.preferences, kept, TerminalThemeMode.text, defaultThemeMode,
        contrastThemeMode]
  scrollback := by
    cases sent : next.scrollback with
    | none => simp [TerminalSettings.preferences, NextSettings.clamped, sent,
        clampTerminalScrollback, defaultScrollback, minScrollback, maxScrollback]
    | some value => simp [TerminalSettings.preferences, NextSettings.clamped, sent,
        clampTerminalScrollback, minScrollback, maxScrollback]
  cursorStyle := by
    cases kept : (next.clamped lib).cursorStyle <;>
      simp [TerminalSettings.preferences, kept, TerminalCursorStyle.text, defaultCursorStyle,
        cursorStyleBar, cursorStyleUnderline]

theorem merge_body {settings : TerminalSettings} (normal : NormalPreferences settings.preferences)
    (current : Preferences) : (settings.body lib).merge current = settings.preferences := by
  have fontSize := font_size_of_normal normal
  have lineHeight := line_height_of_normal normal.lineHeight
  have scrollback := scrollback_of_normal normal
  simp only [TerminalSettings.preferences] at fontSize lineHeight scrollback
  simp only [UpdatePayload.merge, TerminalSettings.body, TerminalSettings.preferences,
    Option.getD_some, fontSize, lineHeight, scrollback, theme_mode_text,
    cursor_style_text]

theorem clamped_next {store : TerminalSettings} (normal : NormalPreferences store.preferences) :
    store.next.clamped lib = store := by
  have fontSize := font_size_of_normal normal
  have lineHeight := line_height_of_normal normal.lineHeight
  have scrollback := scrollback_of_normal normal
  simp only [TerminalSettings.preferences] at fontSize lineHeight scrollback
  simp only [NextSettings.clamped, TerminalSettings.next, fontSize, lineHeight, scrollback,
    theme_mode_text, cursor_style_text]

end

end RuneTerminal.TerminalPreferences
