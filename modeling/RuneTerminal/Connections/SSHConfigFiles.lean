import RuneTerminal.Connections.SSHConfigValues
import RuneTerminal.Go.Json
import RuneTerminal.Go.Scanner

/-! `loadSSHConfigEntries` of `ssh_config_import.go`. A file that was read before gives nothing, so
that files that include each other come to an end. -/

namespace RuneTerminal.Connections

open Go Go.Strings List List.Subset

/-- The line up to a `#` outside of quotes; `quote` is the one that is open. -/
def stripCommentFrom : Option Char → List Char → List Char
  | _, [] => []
  | some quote, c :: rest => c :: stripCommentFrom (if c = quote then none else some quote) rest
  | none, c :: rest =>
    if c = '\'' ∨ c = '"' then c :: stripCommentFrom (some c) rest
    else if c = '#' then []
    else c :: stripCommentFrom none rest

def stripSSHConfigComment (line : String) : String :=
  trimSpace (String.ofList (stripCommentFrom none line.toList))

def isQuote (c : Char) : Bool := c == '"' || c == '\''

/-- The fields of a line; `Key=value` is two of them. -/
def sshConfigFields (line : String) : List String :=
  let line := stripSSHConfigComment (trimSpace line)
  if line = "" then []
  else
    let fields := fieldsFunc isSpace line.toList
    let fields :=
      match fields with
      | [] => []
      | first :: rest => if first.contains '=' then splitN ['='] 2 first ++ rest else fields
    fields.map fun field => String.ofList ((field.dropWhile isQuote).rdropWhile isQuote)

def knownKeywords : List String :=
  ["all", "canonical", "exec", "final", "host", "localnetwork", "localuser", "originalhost",
    "tagged", "user", "version"]

/-- One round of the loop over the values, with the keyword that was read last. -/
def matchConditionStep (toLower : String → String) (s : String × SSHConfigMatchCondition)
    (rawValue : String) : String × SSHConfigMatchCondition :=
  let (currentKeyword, condition) := s
  let value := toLower (trimSpace rawValue)
  if value = "" then s
  else if value ∈ knownKeywords then
    let condition := if value = "all" then { condition with all := true } else condition
    if value ≠ "all" ∧ value ≠ "host" ∧ value ≠ "originalhost" then
      (value, { condition with supported := false })
    else (value, condition)
  else if currentKeyword = "host" then
    (currentKeyword, { condition with hostPatterns := condition.hostPatterns ++ [rawValue] })
  else if currentKeyword = "originalhost" then
    (currentKeyword,
      { condition with originalHostPatterns := condition.originalHostPatterns ++ [rawValue] })
  else (currentKeyword, { condition with supported := false })

def parseSSHConfigMatchCondition (toLower : String → String) (values : List String) :
    SSHConfigMatchCondition :=
  if values.length = 1 ∧ values.all (fun value => Json.sameFolded "all" (trimSpace value)) then
    { all := true, supported := true }
  else (values.foldl (matchConditionStep toLower) ("", { supported := true })).2

/-- What the loader needs of the system; a file that can be read is one of finitely many. -/
structure SSHConfigFiles where
  toLower : String → String
  getwd : Option String
  home : Except String String
  readFile : String → Except String String
  glob : String → Except String (List String)
  readable : List String
  known : ∀ path text, readFile path = .ok text → path ∈ readable

def SSHConfigFiles.resolvedPath (files : SSHConfigFiles) (path : String) : String :=
  (Filepath.absText files.getwd (trimSpace path)).getD (trimSpace path)

def resolveSSHConfigIncludePaths (files : SSHConfigFiles) (basePath includePattern : String) :
    Except String (List String) := do
  let includePattern := trimSpace includePattern
  if includePattern = "" then return []
  let target ←
    if hasPrefix includePattern "~/" then
      files.home.map fun homeDir =>
        Filepath.joinTexts [homeDir, String.ofList (includePattern.toList.drop 2)]
    else if !Filepath.isRooted includePattern.toList then
      .ok (Filepath.joinTexts [Filepath.dirText basePath, includePattern])
    else .ok includePattern
  let found ← files.glob target
  return found.mergeSort

/-- What a line asks for: an entry, a remark about something that is skipped, or a file. -/
inductive LoadStep where
  | entry (entry : SSHConfigEntry)
  | skip (skipped : SSHConfigImportSkipped)
  | file (path : String)
  deriving DecidableEq

/-- The files of an `Include` line. -/
def includeSteps (files : SSHConfigFiles) (resolvedPath : String) (values : List String) :
    List LoadStep :=
  values.flatMap fun includePattern =>
    match resolveSSHConfigIncludePaths files resolvedPath includePattern with
    | .error err => [.skip { reason := "include_error:" ++ err }]
    | .ok found => found.map .file

def lineSteps (files : SSHConfigFiles) (resolvedPath line : String) : List LoadStep :=
  match sshConfigFields line with
  | [] => []
  | first :: values =>
    let key := files.toLower first
    if values = [] then []
    else if key = "host" then [.entry (.selector (.host values))]
    else if key = "match" then
      let condition := parseSSHConfigMatchCondition files.toLower values
      .entry (.selector (.matching condition)) ::
        if condition.supported then [] else [.skip { reason := "unsupported_match_criteria" }]
    else if key = "include" then includeSteps files resolvedPath values
    else [.entry (.setting key (trimSpace (" ".intercalate values)))]

def maxScanTokenSize : Nat := 65536

def scannedLines (text : String) : List String :=
  (scanTextLines maxScanTokenSize text.toList).1.map String.ofList

def fileSteps (files : SSHConfigFiles) (resolvedPath text : String) : List LoadStep :=
  (scannedLines text).flatMap (lineSteps files resolvedPath) ++
    if (scanTextLines maxScanTokenSize text.toList).2 then
      [.skip { reason := "bufio.Scanner: token too long" }]
    else []

structure Loaded where
  entries : List SSHConfigEntry := []
  skipped : List SSHConfigImportSkipped := []

def Loaded.append (first second : Loaded) : Loaded where
  entries := first.entries ++ second.entries
  skipped := first.skipped ++ second.skipped

def runStep (load : String → List String → Option (Except String Loaded × List String)) :
    LoadStep → List String → Option (Loaded × List String)
  | .entry entry, seen => some ({ entries := [entry] }, seen)
  | .skip skipped, seen => some ({ skipped := [skipped] }, seen)
  | .file path, seen =>
    (load path seen).map fun (nested, seen) =>
      match nested with
      | .error err => ({ skipped := [{ host := path, reason := err }] }, seen)
      | .ok loaded => (loaded, seen)

def runSteps (load : String → List String → Option (Except String Loaded × List String)) :
    List LoadStep → List String → Option (Loaded × List String)
  | [], seen => some ({}, seen)
  | step :: rest, seen => do
      let (first, seen) ← runStep load step seen
      let (others, seen) ← runSteps load rest seen
      return (first.append others, seen)

/-- Nothing if there are more files inside each other than `fuel`. -/
def loadFrom (files : SSHConfigFiles) (fuel : Nat) (path : String) (seen : List String) :
    Option (Except String Loaded × List String) :=
  let resolvedPath := files.resolvedPath path
  if resolvedPath ∈ seen then some (.ok {}, seen)
  else
    match files.readFile resolvedPath with
    | .error err => some (.error err, resolvedPath :: seen)
    | .ok text =>
      match fuel with
      | 0 => none
      | fuel + 1 =>
        (runSteps (loadFrom files fuel) (fileSteps files resolvedPath text)
          (resolvedPath :: seen)).map fun (loaded, seen) => (.ok loaded, seen)

def loadSSHConfigEntries (files : SSHConfigFiles) (path : String) :
    Option (Except String Loaded × List String) :=
  loadFrom files files.readable.length path []

theorem Loaded.append_assoc (first second third : Loaded) :
    (first.append second).append third = first.append (second.append third) := by
  unfold Loaded.append
  rw [List.append_assoc, List.append_assoc]

variable {seen last : List String} {steps : List LoadStep}
  {load : String → List String → Option (Except String Loaded × List String)} {loaded : Loaded}

theorem run_steps_append {front back : List LoadStep}
    (ran : runSteps load (front ++ back) seen = some (loaded, last)) :
    ∃ first middle second, runSteps load front seen = some (first, middle) ∧
    runSteps load back middle = some (second, last) ∧ loaded = first.append second := by
  induction front generalizing seen loaded with
  | nil => exact ⟨{}, seen, loaded, rfl, ran, rfl⟩
  | cons step front ih =>
    obtain ⟨⟨own, next⟩, stepped, ran⟩ := Option.bind_eq_some_iff.mp ran
    obtain ⟨⟨others, final⟩, rest, ran⟩ := Option.bind_eq_some_iff.mp ran
    cases ran
    obtain ⟨first, middle, second, frontRan, backRan, rfl⟩ := ih rest
    refine ⟨own.append first, middle, second, ?_, backRan, (own.append_assoc first second).symm⟩
    rw [runSteps, stepped]
    change (runSteps load front next).bind _ = _
    rw [frontRan]
    rfl

theorem run_steps_cons {step : LoadStep} {rest : List LoadStep}
    (ran : runSteps load (step :: rest) seen = some (loaded, last)) :
    ∃ own middle others, runStep load step seen = some (own, middle) ∧
    runSteps load rest middle = some (others, last) ∧ loaded = own.append others := by
  obtain ⟨⟨own, middle⟩, stepped, ran⟩ := Option.bind_eq_some_iff.mp ran
  obtain ⟨⟨others, final⟩, rest, ran⟩ := Option.bind_eq_some_iff.mp ran
  cases ran
  exact ⟨own, middle, others, stepped, rest, rfl⟩

theorem run_steps_seen
    (grows : ∀ path seen result last, load path seen = some (result, last) → seen ⊆ last)
    (ran : runSteps load steps seen = some (loaded, last)) : seen ⊆ last := by
  induction steps generalizing seen loaded with
  | nil =>
    cases ran
    exact refl _
  | cons step rest ih =>
    obtain ⟨own, middle, others, stepped, later, rfl⟩ := run_steps_cons ran
    have first : seen ⊆ middle := by
      cases step with
      | entry | skip =>
        cases stepped
        exact refl seen
      | file path =>
        obtain ⟨⟨result, next⟩, loads, nested⟩ := Option.map_eq_some_iff.mp stepped
        have same : next = middle := by
          cases result with
          | error | ok => exact (Prod.mk.inj nested).2
        rw [← same]
        exact grows path _ result next loads
    exact List.Subset.trans first (ih later)

variable {files : SSHConfigFiles}

section

variable {fuel : Nat} {path text : String} {result : Except String Loaded}

theorem load_from_old (old : files.resolvedPath path ∈ seen) :
    loadFrom files fuel path seen = some (.ok {}, seen) := by
  unfold loadFrom
  exact if_pos old

theorem load_from_unreadable {err : String} (new : files.resolvedPath path ∉ seen)
    (unreadable : files.readFile (files.resolvedPath path) = .error err) :
    loadFrom files fuel path seen = some (.error err, files.resolvedPath path :: seen) := by
  unfold loadFrom
  rw [if_neg new, unreadable]

theorem load_from_text (new : files.resolvedPath path ∉ seen)
    (reads : files.readFile (files.resolvedPath path) = .ok text) :
    loadFrom files 0 path seen = none ∧
    ∀ fuel,
      loadFrom files (fuel + 1) path seen =
        (runSteps (loadFrom files fuel) (fileSteps files (files.resolvedPath path) text)
          (files.resolvedPath path :: seen)).map fun (loaded, seen) => (.ok loaded, seen) := by
  refine ⟨?_, ?_⟩
  · unfold loadFrom
    rw [if_neg new, reads]
  · intro fuel
    rw [loadFrom]
    rw [if_neg new, reads]

theorem load_from_seen (fuel : Nat) (path : String) (seen : List String)
    (result : Except String Loaded) (last : List String)
    (loads : loadFrom files fuel path seen = some (result, last)) : seen ⊆ last := by
  induction fuel generalizing path seen result last with
  | zero =>
    by_cases old : files.resolvedPath path ∈ seen
    · rw [load_from_old old] at loads
      cases loads
      exact refl _
    cases reads : files.readFile (files.resolvedPath path) with
    | error err =>
      rw [load_from_unreadable old reads] at loads
      cases loads
      exact subset_cons_self _ _
    | ok text =>
      rw [(load_from_text old reads).1] at loads
      cases loads
  | succ fuel ih =>
    by_cases old : files.resolvedPath path ∈ seen
    · rw [load_from_old old] at loads
      cases loads
      exact refl _
    cases reads : files.readFile (files.resolvedPath path) with
    | error err =>
      rw [load_from_unreadable old reads] at loads
      cases loads
      exact subset_cons_self _ _
    | ok text =>
      rw [(load_from_text old reads).2] at loads
      obtain ⟨⟨loaded, final⟩, ran, same⟩ := Option.map_eq_some_iff.mp loads
      cases same
      exact List.Subset.trans (subset_cons_self _ _) (run_steps_seen ih ran)

def SSHConfigFiles.unseen (files : SSHConfigFiles) (seen : List String) : List String :=
  files.readable.filter (· ∉ seen)

theorem unseen_length_le (grown : seen ⊆ last) :
    (files.unseen last).length ≤ (files.unseen seen).length := by
  apply List.Sublist.length_le
  apply monotone_filter_right
  intro path isUnseen
  rw [decide_eq_true_eq] at isUnseen ⊢
  exact fun mem => isUnseen (grown mem)

theorem unseen_length_lt (readable : path ∈ files.readable) (unseen : path ∉ seen) :
    (files.unseen (path :: seen)).length < (files.unseen seen).length := by
  have fewer : files.unseen (path :: seen) = (files.unseen seen).filter (· ≠ path) := by
    unfold SSHConfigFiles.unseen
    rw [filter_filter]
    apply filter_congr
    intro other _
    simp
  rw [fewer, length_filter_lt_length_iff_exists]
  exact ⟨path, mem_filter.mpr ⟨readable, decide_eq_true unseen⟩, by simp⟩

theorem run_steps_total {load : String → List String → Option (Except String Loaded × List String)}
    {within : List String → Prop}
    (total : ∀ path seen, within seen →
      ∃ result last, load path seen = some (result, last) ∧ within last)
    (steps : List LoadStep) {seen : List String} (start : within seen) :
    ∃ loaded last, runSteps load steps seen = some (loaded, last) ∧ within last := by
  induction steps generalizing seen with
  | nil => exact ⟨{}, seen, rfl, start⟩
  | cons step rest ih =>
    have first : ∃ own middle, runStep load step seen = some (own, middle) ∧ within middle := by
      cases step with
      | entry | skip => exact ⟨_, seen, rfl, start⟩
      | file path =>
        obtain ⟨result, last, loads, later⟩ := total path seen start
        rw [runStep, loads]
        cases result with
        | error | ok => exact ⟨_, last, rfl, later⟩
    obtain ⟨own, middle, stepped, later⟩ := first
    obtain ⟨others, last, ran, final⟩ := ih later
    refine ⟨own.append others, last, ?_, final⟩
    rw [runSteps, stepped]
    change (runSteps load rest middle).bind _ = _
    rw [ran]
    rfl

theorem load_from_total (fuel : Nat) (path : String) (seen : List String)
    (enough : (files.unseen seen).length ≤ fuel) :
    ∃ result last, loadFrom files fuel path seen = some (result, last) := by
  induction fuel generalizing path seen with
  | zero =>
    by_cases old : files.resolvedPath path ∈ seen
    · exact ⟨_, _, load_from_old old⟩
    cases reads : files.readFile (files.resolvedPath path) with
    | error err => exact ⟨_, _, load_from_unreadable old reads⟩
    | ok text =>
      have fewer := unseen_length_lt (files.known _ text reads) old
      omega
  | succ fuel ih =>
    by_cases old : files.resolvedPath path ∈ seen
    · exact ⟨_, _, load_from_old old⟩
    cases reads : files.readFile (files.resolvedPath path) with
    | error err => exact ⟨_, _, load_from_unreadable old reads⟩
    | ok text =>
      have fewer := unseen_length_lt (files.known _ text reads) old
      have total : ∀ path seen, (files.unseen seen).length ≤ fuel →
          ∃ result last, loadFrom files fuel path seen = some (result, last) ∧
            (files.unseen last).length ≤ fuel := by
        intro path seen small
        obtain ⟨result, last, loads⟩ := ih path seen small
        have grown := load_from_seen fuel path seen result last loads
        exact ⟨result, last, loads, (unseen_length_le grown).trans small⟩
      obtain ⟨loaded, last, ran, _⟩ := @run_steps_total (loadFrom files fuel)
        (fun seen => (files.unseen seen).length ≤ fuel) total
        (fileSteps files (files.resolvedPath path) text)
        (files.resolvedPath path :: seen) (by omega)
      refine ⟨.ok loaded, last, ?_⟩
      rw [(load_from_text old reads).2, ran]
      rfl

theorem load_entries_total (files : SSHConfigFiles) (path : String) :
    ∃ result last, loadSSHConfigEntries files path = some (result, last) := by
  apply load_from_total
  exact length_filter_le _ _

structure FileCall where
  fuel : Nat
  path : String
  seen : List String

def FileCall.run (files : SSHConfigFiles) (call : FileCall) :
    Option (Except String Loaded × List String) :=
  loadFrom files call.fuel call.path call.seen

structure FileCall.Reads (files : SSHConfigFiles) (call : FileCall) (text : String) : Prop where
  new : files.resolvedPath call.path ∉ call.seen
  text : files.readFile (files.resolvedPath call.path) = .ok text

def FileCall.seenInside (files : SSHConfigFiles) (call : FileCall) : List String :=
  files.resolvedPath call.path :: call.seen

/-- The calls inside a call, at any depth, with the entries that are in front of theirs. -/
inductive Within (files : SSHConfigFiles) (root : FileCall) : FileCall → List SSHConfigEntry → Prop
  | root : Within files root root []
  | nested {outer : FileCall} {front : List SSHConfigEntry} {text path : String} {fuel : Nat}
      {before after : List LoadStep} {placed : Loaded} {seen : List String}
      (within : Within files root outer front) (reads : outer.Reads files text)
      (deeper : outer.fuel = fuel + 1)
      (steps : fileSteps files (files.resolvedPath outer.path) text = before ++ .file path :: after)
      (ran : runSteps (loadFrom files fuel) before (outer.seenInside files) = some (placed, seen)) :
      Within files root { fuel := fuel, path := path, seen := seen } (front ++ placed.entries)

theorem reads_runs {call : FileCall} (reads : call.Reads files text)
    (done : call.run files = some (result, last)) :
    ∃ fuel loaded, call.fuel = fuel + 1 ∧ result = .ok loaded ∧
      runSteps (loadFrom files fuel) (fileSteps files (files.resolvedPath call.path) text)
        (call.seenInside files) =
        some (loaded, last) := by
  unfold FileCall.run at done
  cases amount : call.fuel with
  | zero =>
    rw [amount, (load_from_text reads.new reads.text).1] at done
    cases done
  | succ fuel =>
    rw [amount, (load_from_text reads.new reads.text).2] at done
    obtain ⟨⟨loaded, final⟩, ran, same⟩ := Option.map_eq_some_iff.mp done
    cases same
    exact ⟨fuel, loaded, rfl, rfl, ran⟩

section

variable {root inner : FileCall} {front : List SSHConfigEntry}
  (within : Within files root inner front)
include within

theorem within_root_ok (reads : inner.Reads files text)
    (done : root.run files = some (result, last)) : ∃ loaded, result = .ok loaded := by
  induction within generalizing text with
  | root =>
    obtain ⟨_, loaded, _, isOk, _⟩ := reads_runs reads done
    exact ⟨loaded, isOk⟩
  | nested _ outerReads _ _ _ ih => exact ih outerReads

theorem within_placed (done : root.run files = some (.ok loaded, last)) :
    ∃ result innerLast, inner.run files = some (result, innerLast) ∧
    ∀ own, result = .ok own → ∃ rest, loaded.entries = front ++ own.entries ++ rest := by
  induction within with
  | root =>
    refine ⟨.ok loaded, last, done, ?_⟩
    intro own same
    cases same
    exact ⟨[], by rw [nil_append, append_nil]⟩
  | @nested outer front text path fuel before after placed seen _ reads deeper steps ran ih =>
    obtain ⟨result, outerLast, outerDone, outerPlaced⟩ := ih
    obtain ⟨ownFuel, outerLoaded, amount, rfl, outerRan⟩ := reads_runs reads outerDone
    obtain rfl : ownFuel = fuel := by omega
    rw [steps] at outerRan
    obtain ⟨first, middle, second, frontRan, backRan, rfl⟩ := run_steps_append outerRan
    rw [ran] at frontRan
    cases frontRan
    obtain ⟨nested, next, others, stepped, _, rfl⟩ := run_steps_cons backRan
    obtain ⟨⟨innerResult, innerLast⟩, innerDone, same⟩ := Option.map_eq_some_iff.mp stepped
    refine ⟨innerResult, innerLast, innerDone, ?_⟩
    intro own isOk
    cases isOk
    cases same
    obtain ⟨rest, whole⟩ := outerPlaced _ rfl
    refine ⟨others.entries ++ rest, ?_⟩
    rw [whole]
    simp [Loaded.append]

end

end

def entrySelector : SSHConfigEntry → Option SSHConfigSelector
  | .selector selector => some selector
  | .setting _ _ => none

def lastSelector (entries : List SSHConfigEntry) : Option SSHConfigSelector :=
  (entries.filterMap entrySelector).getLast?

def selectorInForce (entries : List SSHConfigEntry) : SSHConfigSelector :=
  (lastSelector entries).getD .global

theorem last_selector_append (front back : List SSHConfigEntry) :
    lastSelector (front ++ back) = (lastSelector back).or (lastSelector front) := by
  rw [lastSelector, filterMap_append, getLast?_append]
  rfl

theorem last_selector_settings {entries : List SSHConfigEntry}
    (settings : ∀ entry ∈ entries, ∃ key value, entry = .setting key value) :
    lastSelector entries = none := by
  have none : entries.filterMap entrySelector = [] := by
    rw [filterMap_eq_nil_iff]
    intro entry mem
    obtain ⟨key, value, rfl⟩ := settings entry mem
    rfl
  rw [lastSelector, none]
  rfl

section

variable {hostAlias : String}

theorem applicable_from_append (selector : SSHConfigSelector) (found : List (String × String))
    (front back : List SSHConfigEntry) :
    applicableFrom hostAlias selector found (front ++ back) =
      applicableFrom hostAlias ((lastSelector front).getD selector)
        (applicableFrom hostAlias selector found front) back := by
  induction front generalizing selector found with
  | nil => rfl
  | cons entry front ih =>
    have split : lastSelector (entry :: front) = (lastSelector front).or (lastSelector [entry]) :=
      last_selector_append [entry] front
    cases entry with
    | selector next =>
      have inForce : (lastSelector (.selector next :: front)).getD selector =
          (lastSelector front).getD next := by
        rw [split]
        cases lastSelector front with
        | none | some => rfl
      rw [inForce]
      exact ih next found
    | setting key value =>
      rw [cons_append, applicableFrom, applicableFrom]
      split_ifs
      · exact ih selector _
      · exact ih selector found

theorem applicable_settings_prefix (front back : List SSHConfigEntry) (hostAlias : String) :
    applicableSettings front hostAlias <+: applicableSettings (front ++ back) hostAlias := by
  unfold applicableSettings
  rw [applicable_from_append]
  exact applicable_from_front _ _ back

theorem applicable_settings_setting (front : List SSHConfigEntry) (key value hostAlias : String) :
    applicableSettings (front ++ [.setting key value]) hostAlias =
      applicableSettings front hostAlias ++
        if sshConfigSelectorApplies (selectorInForce front) hostAlias
            (firstValue "hostname" (applicableSettings front hostAlias)) then
          [(key, value)]
        else [] := by
  unfold applicableSettings selectorInForce
  rw [applicable_from_append, applicableFrom]
  split_ifs
  · rfl
  · exact (append_nil _).symm

end

theorem line_steps_include {resolvedPath line keyword : String} {patterns : List String}
    (fields : sshConfigFields line = keyword :: patterns)
    (isInclude : files.toLower keyword = "include") :
    lineSteps files resolvedPath line = includeSteps files resolvedPath patterns := by
  unfold lineSteps
  rw [fields]
  dsimp only
  rw [isInclude]
  by_cases none : patterns = []
  · rw [none]
    rfl
  · rw [if_neg none, if_neg (by decide), if_neg (by decide), if_pos rfl]

theorem run_steps_settings
    (settings : ∀ step ∈ steps, ∃ key value, step = .entry (.setting key value))
    (ran : runSteps load steps seen = some (loaded, last)) :
    ∀ entry ∈ loaded.entries, ∃ key value, entry = .setting key value := by
  induction steps generalizing seen loaded with
  | nil =>
    cases ran
    intro entry member
    cases member
  | cons step rest ih =>
    rw [forall_mem_cons] at settings
    obtain ⟨own, middle, others, stepped, later, rfl⟩ := run_steps_cons ran
    obtain ⟨key, value, rfl⟩ := settings.1
    cases stepped
    intro entry member
    rcases mem_cons.mp member with rfl | member
    · exact ⟨key, value, rfl⟩
    · exact ih settings.2 later entry member

/-- At any depth, behind an `Include` with no selector or file between them, a setting stands behind
what the `Include` places, and applies to the hosts of the last selector placed, or else of the one
in force in front. -/
theorem include_is_expanded_in_place (path : String) {inner : FileCall}
    {front : List SSHConfigEntry}
    (within : Within files { fuel := files.readable.length, path := path, seen := [] } inner front)
    {text : String} (reads : inner.Reads files text) {earlier between later : List String}
    {includeLine line : String}
    (lines : scannedLines text = earlier ++ includeLine :: (between ++ line :: later))
    {keyword : String} {patterns : List String}
    (fields : sshConfigFields includeLine = keyword :: patterns)
    (isInclude : files.toLower keyword = "include")
    (plain : ∀ other ∈ between, ∀ step ∈ lineSteps files (files.resolvedPath inner.path) other,
      ∃ key value, step = .entry (.setting key value))
    {key value : String}
    (sets : lineSteps files (files.resolvedPath inner.path) line = [.entry (.setting key value)]) :
    ∃ loaded last fuel before seen included next settings rest,
      loadSSHConfigEntries files path = some (.ok loaded, last) ∧
      runSteps (loadFrom files fuel)
          (earlier.flatMap (lineSteps files (files.resolvedPath inner.path)))
          (inner.seenInside files) = some (before, seen) ∧
      runSteps (loadFrom files fuel)
          (includeSteps files (files.resolvedPath inner.path) patterns) seen =
        some (included, next) ∧
      loaded.entries =
        front ++ before.entries ++ included.entries ++ settings ++ .setting key value :: rest ∧
      ∀ hostAlias,
        let inFront := front ++ before.entries ++ included.entries ++ settings
        applicableSettings (inFront ++ [.setting key value]) hostAlias =
            applicableSettings inFront hostAlias ++
              (if sshConfigSelectorApplies
                  ((lastSelector included.entries).getD (selectorInForce (front ++ before.entries)))
                  hostAlias (firstValue "hostname" (applicableSettings inFront hostAlias)) then
                [(key, value)]
              else []) ∧
          applicableSettings (inFront ++ [.setting key value]) hostAlias <+:
            applicableSettings loaded.entries hostAlias := by
  obtain ⟨result, last, total⟩ := load_entries_total files path
  obtain ⟨loaded, rfl⟩ := within_root_ok within reads total
  obtain ⟨_, _, innerDone, inPlace⟩ := within_placed within total
  obtain ⟨fuel, own, _, rfl, ran⟩ := reads_runs reads innerDone
  obtain ⟨rest, whole⟩ := inPlace own rfl
  -- the steps of the file fall apart at the lines
  rw [fileSteps, lines, flatMap_append, flatMap_cons, flatMap_append,
    flatMap_cons, line_steps_include fields isInclude, sets, append_assoc,
    append_assoc, append_assoc] at ran
  obtain ⟨before, seen, _, earlierRan, fromInclude, atEarlier⟩ := run_steps_append ran
  obtain ⟨included, next, _, includeRan, fromBetween, atInclude⟩ := run_steps_append fromInclude
  obtain ⟨settings, _, _, betweenRan, fromLine, atBetween⟩ := run_steps_append fromBetween
  obtain ⟨_, _, behind, stepped, _, atLine⟩ := run_steps_cons fromLine
  cases stepped
  have onlySettings : ∀ entry ∈ settings.entries, ∃ key value, entry = .setting key value := by
    apply run_steps_settings _ betweenRan
    intro step mem
    obtain ⟨other, isLine, isStep⟩ := mem_flatMap.mp mem
    exact plain other isLine step isStep
  have entries : loaded.entries =
      front ++ before.entries ++ included.entries ++ settings.entries ++
        .setting key value :: (behind.entries ++ rest) := by
    rw [whole, atEarlier, atInclude, atBetween, atLine]
    simp [Loaded.append]
  refine ⟨loaded, last, fuel, before, seen, included, next, settings.entries, _, total, earlierRan,
    includeRan, entries, ?_⟩
  intro hostAlias
  have inForce : selectorInForce (front ++ before.entries ++ included.entries ++ settings.entries) =
      (lastSelector included.entries).getD (selectorInForce (front ++ before.entries)) := by
    rw [selectorInForce, last_selector_append, last_selector_settings onlySettings,
      last_selector_append]
    cases lastSelector included.entries with
    | none | some => rfl
  refine ⟨?_, ?_⟩
  · rw [applicable_settings_setting, inForce]
  rw [entries]
  generalize front ++ before.entries ++ included.entries ++ settings.entries = inFront
  have starts := applicable_settings_prefix (inFront ++ [.setting key value])
    (behind.entries ++ rest) hostAlias
  rw [append_assoc] at starts
  exact starts

def sharedConfig : SSHConfigFiles where
  toLower := String.map Char.toLower
  getwd := none
  home := .error "$HOME is not defined"
  readFile path :=
    if path = "/ssh/config" then .ok "Host web\nInclude shared\nPort 22\nUser root\n"
    else if path = "/ssh/shared" then .ok "Host db\nHostName db.local\n"
    else .error "file does not exist"
  glob pattern := .ok [pattern]
  readable := ["/ssh/config", "/ssh/shared"]
  known := by
    intro path text reads
    split_ifs at reads with isConfig isShared
    · rw [isConfig]
      exact List.mem_cons_self
    · rw [isShared]
      exact List.mem_cons_of_mem _ List.mem_cons_self

def sharedCall : FileCall where
  fuel := 2
  path := "/ssh/config"
  seen := []

theorem shared_config_in_place :
    ∃ loaded last fuel before seen included next settings rest,
      loadSSHConfigEntries sharedConfig "/ssh/config" = some (.ok loaded, last) ∧
      runSteps (loadFrom sharedConfig fuel)
          (["Host web"].flatMap (lineSteps sharedConfig "/ssh/config")) ["/ssh/config"] =
        some (before, seen) ∧
      runSteps (loadFrom sharedConfig fuel)
          (includeSteps sharedConfig "/ssh/config" ["shared"]) seen = some (included, next) ∧
      loaded.entries =
        [] ++ before.entries ++ included.entries ++ settings ++ .setting "user" "root" :: rest ∧
      ∀ hostAlias,
        let inFront := [] ++ before.entries ++ included.entries ++ settings
        applicableSettings (inFront ++ [.setting "user" "root"]) hostAlias =
            applicableSettings inFront hostAlias ++
              (if sshConfigSelectorApplies
                  ((lastSelector included.entries).getD (selectorInForce ([] ++ before.entries)))
                  hostAlias (firstValue "hostname" (applicableSettings inFront hostAlias)) then
                [("user", "root")]
              else []) ∧
          applicableSettings (inFront ++ [.setting "user" "root"]) hostAlias <+:
            applicableSettings loaded.entries hostAlias := by
  have reads : sharedCall.Reads sharedConfig "Host web\nInclude shared\nPort 22\nUser root\n" := by
    constructor
    · decide
    · decide +kernel
  have plain : ∀ other ∈ ["Port 22"],
      ∀ step ∈ lineSteps sharedConfig (sharedConfig.resolvedPath sharedCall.path) other,
        ∃ key value, step = .entry (.setting key value) := by
    intro other isLine step isStep
    rw [mem_singleton.mp isLine] at isStep
    have single : lineSteps sharedConfig (sharedConfig.resolvedPath sharedCall.path) "Port 22" =
        [.entry (.setting "port" "22")] := by decide +kernel
    rw [single, mem_singleton] at isStep
    exact ⟨"port", "22", isStep⟩
  have placed := include_is_expanded_in_place "/ssh/config"
    (Within.root : Within sharedConfig sharedCall sharedCall []) reads
    (by decide +kernel : scannedLines _ =
      ["Host web"] ++ "Include shared" :: (["Port 22"] ++ "User root" :: []))
    (by decide +kernel : sshConfigFields "Include shared" = "Include" :: ["shared"])
    (by decide +kernel) plain
    (by decide +kernel : lineSteps sharedConfig _ "User root" = [.entry (.setting "user" "root")])
  exact placed

def sharedEntries : List SSHConfigEntry :=
  [.selector (.host ["web"]), .selector (.host ["db"]), .setting "hostname" "db.local",
    .setting "port" "22", .setting "user" "root"]

/-- The user behind the `Include` does not apply to the host of its block, but to that of the
included file. -/
theorem include_changes_the_scope :
    ((loadSSHConfigEntries sharedConfig "/ssh/config").bind fun result => result.1.toOption).map
      (·.entries) =
      some sharedEntries ∧
    (resolveSSHConfigCandidate sharedEntries "web").map (·.user) = .ok "" ∧
    (resolveSSHConfigCandidate sharedEntries "db").map (·.user) = .ok "root" := by
  decide +kernel

end RuneTerminal.Connections
