import RuneTerminal.Connections.SSHConfig

/-! Which settings apply to an alias, and what a candidate gets of them: for each key the first
value that is given. -/

namespace RuneTerminal.Connections

open Go Go.Strings Kit List

def PositiveMatch (candidate rawPattern : String) : Prop :=
  trimSpace rawPattern ≠ "" ∧ hasPrefix (trimSpace rawPattern) "!" = false ∧
    Filepath.matchName (trimSpace rawPattern) candidate = true

def NegatedMatch (candidate rawPattern : String) : Prop :=
  hasPrefix (trimSpace rawPattern) "!" = true ∧
    Filepath.matchName (trimSpace (String.ofList ((trimSpace rawPattern).toList.drop 1)))
      candidate = true

theorem matches_patterns_from_iff (candidate : String) (matchedPositive : Bool)
    (patterns : List String) : matchesPatternsFrom candidate matchedPositive patterns = true ↔
    (matchedPositive = true ∨ ∃ pattern ∈ patterns, PositiveMatch candidate pattern) ∧
    ∀ pattern ∈ patterns, ¬NegatedMatch candidate pattern := by
  induction patterns generalizing matchedPositive with
  | nil => simp [matchesPatternsFrom]
  | cons rawPattern rest ih =>
    rw [matchesPatternsFrom]
    by_cases blank : trimSpace rawPattern = ""
    · have notPositive : ¬PositiveMatch candidate rawPattern := fun positive => positive.1 blank
      have notNegated : ¬NegatedMatch candidate rawPattern := by
        intro negated
        rw [NegatedMatch, blank] at negated
        exact absurd negated.1 (by decide)
      rw [if_pos blank, ih]
      simp [notPositive, notNegated]
    rw [if_neg blank]
    cases negated : hasPrefix (trimSpace rawPattern) "!" with
    | true =>
      have notPositive : ¬PositiveMatch candidate rawPattern := by
        intro positive
        rw [PositiveMatch, negated] at positive
        cases positive.2.1
      cases isMatch : Filepath.matchName
          (trimSpace (String.ofList ((trimSpace rawPattern).toList.drop 1))) candidate with
      | true =>
        have isNegated : NegatedMatch candidate rawPattern := ⟨negated, isMatch⟩
        simp [isMatch, isNegated, -drop_one]
      | false =>
        have notNegated : ¬NegatedMatch candidate rawPattern := by
          intro both
          rw [NegatedMatch, isMatch] at both
          cases both.2
        simp [isMatch, ih, notPositive, notNegated, -drop_one]
    | false =>
      have notNegated : ¬NegatedMatch candidate rawPattern := by
        intro both
        rw [NegatedMatch, negated] at both
        cases both.1
      cases isMatch : Filepath.matchName (trimSpace rawPattern) candidate with
      | true =>
        have isPositive : PositiveMatch candidate rawPattern := ⟨blank, negated, isMatch⟩
        simp [isMatch, ih, isPositive, notNegated]
      | false =>
        have notPositive : ¬PositiveMatch candidate rawPattern := by
          intro positive
          rw [PositiveMatch, isMatch] at positive
          cases positive.2.2
        simp [isMatch, ih, notPositive, notNegated]

theorem matches_patterns_iff (patterns : List String) (candidate : String) :
    matchesSSHConfigPatterns patterns candidate = true ↔
    trimSpace candidate ≠ "" ∧ (∃ pattern ∈ patterns, PositiveMatch (trimSpace candidate) pattern) ∧
      ∀ pattern ∈ patterns, ¬NegatedMatch (trimSpace candidate) pattern := by
  unfold matchesSSHConfigPatterns
  by_cases blank : trimSpace candidate = ""
  · simp [blank]
  · rw [if_neg blank, matches_patterns_from_iff]
    simp [blank]

theorem matches_patterns_perm {patterns others : List String} (same : patterns.Perm others)
    (candidate : String) :
    matchesSSHConfigPatterns patterns candidate = matchesSSHConfigPatterns others candidate := by
  rw [Bool.eq_iff_iff, matches_patterns_iff, matches_patterns_iff]
  simp only [same.mem_iff]

def firstValue (key : String) (settings : List (String × String)) : String :=
  ((settings.find? fun setting => setting.1 = key ∧ setting.2 ≠ "").map Prod.snd).getD ""

/-- The first port that is not zero; a text in front of it that is no port is an error. -/
def firstPort (settings : List (String × String)) : Except String Int :=
  match settings.find? fun setting => setting.1 = "port" ∧ parsePort setting.2 ≠ some 0 with
  | none => .ok 0
  | some setting =>
    match parsePort setting.2 with
    | some port => .ok port
    | none => .error "invalid_port"

/-- The settings that apply to an alias, behind those that were found. -/
def applicableFrom (hostAlias : String) :
    SSHConfigSelector → List (String × String) → List SSHConfigEntry → List (String × String)
  | _, found, [] => found
  | _, found, .selector next :: rest => applicableFrom hostAlias next found rest
  | selector, found, .setting key value :: rest =>
    if sshConfigSelectorApplies selector hostAlias (firstValue "hostname" found) then
      applicableFrom hostAlias selector (found ++ [(key, value)]) rest
    else applicableFrom hostAlias selector found rest

/-- The settings whose selector applies to an alias, in the order of the entries. A
`Match host` looks at the host name that is set in front of it. -/
def applicableSettings (entries : List SSHConfigEntry) (hostAlias : String) :
    List (String × String) :=
  applicableFrom hostAlias .global [] entries

def summarize (hostAlias : String) (settings : List (String × String)) :
    Except String SSHConfigProfileCandidate :=
  (firstPort settings).map fun port =>
    { hostAlias := hostAlias
      host := firstValue "hostname" settings
      user := firstValue "user" settings
      port := port
      identityFile := firstValue "identityfile" settings }

def finishCandidate (hostAlias : String) (candidate : SSHConfigProfileCandidate) :
    Except String SSHConfigProfileCandidate :=
  let host := if trimSpace candidate.host = "" then hostAlias else candidate.host
  if isUnsupportedSSHConfigHostPattern host then .error "unsupported_hostname_pattern"
  else
    .ok { candidate with
      user := trimSpace candidate.user
      host := trimSpace host
      identityFile := trimSpace candidate.identityFile }

section

variable {hostAlias : String} {settings : List (String × String)}

theorem first_value_append (key : String) (settings : List (String × String))
    (setting : String × String) :
    firstValue key (settings ++ [setting]) =
      if firstValue key settings = "" ∧ setting.1 = key then setting.2
      else firstValue key settings := by
  unfold firstValue
  rw [find?_append]
  cases found : settings.find? fun setting => setting.1 = key ∧ setting.2 ≠ "" with
  | some first =>
    have given := find?_some found
    have nonempty : first.2 ≠ "" := (of_decide_eq_true given).2
    simp [nonempty]
  | none =>
    by_cases isKey : setting.1 = key
    · by_cases empty : setting.2 = ""
      · simp [empty]
      · simp [isKey, empty]
    · simp [isKey]

theorem first_port_append (settings : List (String × String)) (setting : String × String) :
    firstPort (settings ++ [setting]) =
      match firstPort settings with
      | .error err => .error err
      | .ok port =>
        if port ≠ 0 ∨ setting.1 ≠ "port" then .ok port
        else
          match parsePort setting.2 with
          | some own => .ok own
          | none => .error "invalid_port" := by
  unfold firstPort
  rw [find?_append]
  cases found : settings.find? fun setting =>
      setting.1 = "port" ∧ parsePort setting.2 ≠ some 0 with
  | some first =>
    have given := find?_some found
    have nonzero : parsePort first.2 ≠ some 0 := (of_decide_eq_true given).2
    cases parsed : parsePort first.2 with
    | none => simp [parsed]
    | some port =>
      rw [parsed] at nonzero
      have other : port ≠ 0 := fun zero => nonzero (congrArg some zero)
      simp [parsed, other]
  | none =>
    by_cases isPort : setting.1 = "port"
    · cases parsed : parsePort setting.2 with
      | none => simp [isPort, parsed]
      | some port =>
        by_cases zero : port = 0
        · simp [parsed, zero]
        · simp [isPort, parsed, zero]
    · simp [isPort]

variable {candidate : SSHConfigProfileCandidate}

section

variable (summarized : summarize hostAlias settings = .ok candidate)
include summarized

theorem summarize_eq_ok :
    firstPort settings = .ok candidate.port ∧
      candidate =
        { hostAlias := hostAlias
          host := firstValue "hostname" settings
          user := firstValue "user" settings
          port := candidate.port
          identityFile := firstValue "identityfile" settings } := by
  unfold summarize at summarized
  cases found : firstPort settings with
  | error err =>
    rw [found] at summarized
    cases summarized
  | ok port =>
    rw [found] at summarized
    cases summarized
    exact ⟨rfl, rfl⟩

theorem set_summarize (key value : String) :
    candidate.set key value = summarize hostAlias (settings ++ [(key, value)]) := by
  obtain ⟨isPort, fields⟩ := summarize_eq_ok summarized
  cases candidate with
  | mk ownAlias host user port file =>
    rw [SSHConfigProfileCandidate.mk.injEq] at fields
    obtain ⟨rfl, isHost, isUser, _, isFile⟩ := fields
    unfold SSHConfigProfileCandidate.set summarize
    rw [first_value_append, first_value_append, first_value_append, first_port_append, isPort,
      ← isHost, ← isUser, ← isFile]
    by_cases hostKey : key = "hostname"
    · by_cases unset : host = ""
      · simp [hostKey, unset, Except.map]
      · simp [hostKey, unset, Except.map]
    by_cases userKey : key = "user"
    · by_cases unset : user = ""
      · simp [userKey, unset, Except.map]
      · simp [userKey, unset, Except.map]
    by_cases portKey : key = "port"
    · by_cases unset : port = 0
      · cases parsed : parsePort value with
        | none | some => simp [portKey, unset, Except.map]
      · simp [portKey, unset, Except.map]
    by_cases fileKey : key = "identityfile"
    · by_cases unset : file = ""
      · simp [fileKey, unset, Except.map]
      · simp [fileKey, unset, Except.map]
    · simp [hostKey, userKey, portKey, fileKey, Except.map]

end

theorem applicable_from_front (selector : SSHConfigSelector) (found : List (String × String))
    (entries : List SSHConfigEntry) :
    found <+: applicableFrom hostAlias selector found entries := by
  induction entries generalizing selector found with
  | nil => exact prefix_refl found
  | cons entry rest ih =>
    cases entry with
    | selector next => exact ih next found
    | setting key value =>
      rw [applicableFrom]
      split_ifs
      · exact (prefix_append found _).trans (ih selector _)
      · exact ih selector found

theorem summarize_error {more : List (String × String)} {err : String}
    (failed : summarize hostAlias settings = .error err) (longer : settings <+: more) :
    summarize hostAlias more = .error err := by
  have isError : firstPort settings = .error err := by
    unfold summarize at failed
    cases found : firstPort settings with
    | error own =>
      rw [found] at failed
      exact congrArg Except.error (Except.error.inj failed)
    | ok port =>
      rw [found] at failed
      cases failed
  obtain ⟨rest, rfl⟩ := longer
  have stays : firstPort (settings ++ rest) = .error err := by
    induction rest using reverseRecOn with
    | nil => rw [append_nil, isError]
    | append_singleton rest setting ih => rw [← append_assoc, first_port_append, ih]
  rw [summarize, stays]
  rfl

section

variable (entries : List SSHConfigEntry)
include entries

theorem resolve_entries_from {selector : SSHConfigSelector}
    {found : List (String × String)} (summarized : summarize hostAlias found = .ok candidate) :
    (entries.foldlM resolveEntry (selector, candidate)).map Prod.snd =
    summarize hostAlias (applicableFrom hostAlias selector found entries) := by
  induction entries generalizing selector found candidate with
  | nil => exact summarized.symm
  | cons entry rest ih =>
    rw [foldlM_cons]
    cases entry with
    | selector next => exact ih summarized
    | setting key value =>
      obtain ⟨_, fields⟩ := summarize_eq_ok summarized
      have own : candidate.hostAlias = hostAlias := by rw [fields]
      have host : candidate.host = firstValue "hostname" found := by rw [fields]
      rw [resolveEntry, applicableFrom]
      rw [own, host]
      by_cases applies : sshConfigSelectorApplies selector hostAlias
          (firstValue "hostname" found) = true
      · rw [if_pos applies, if_pos applies, set_summarize summarized]
        cases next : summarize hostAlias (found ++ [(key, value)]) with
        | error err =>
          rw [summarize_error next (applicable_from_front selector _ rest)]
          rfl
        | ok result => exact ih next
      · rw [if_neg applies, if_neg applies]
        exact ih summarized

theorem resolve_entries_values (hostAlias : String) :
    (resolveEntries entries hostAlias).map Prod.snd =
      summarize hostAlias (applicableSettings entries hostAlias) :=
  resolve_entries_from entries rfl

theorem resolve_candidate_values (hostAlias : String) :
    resolveSSHConfigCandidate entries hostAlias =
      (summarize hostAlias (applicableSettings entries hostAlias)).bind
        (finishCandidate hostAlias) := by
  rw [← resolve_entries_values, resolveSSHConfigCandidate]
  cases resolveEntries entries hostAlias with
  | error reason => rfl
  | ok s =>
    generalize (if trimSpace s.2.host = "" then hostAlias else s.2.host) = host
    cases isUnsupportedSSHConfigHostPattern host with
    | true | false => rfl

end

end

/-- A candidate gets for each key the first value that is given and applies. A list of patterns
matches a nonblank name iff a positive pattern does and no negated one, in any order. -/
theorem ssh_config_gives_first_values :
    (∀ entries hostAlias,
      resolveSSHConfigCandidate entries hostAlias =
        (summarize hostAlias (applicableSettings entries hostAlias)).bind
          (finishCandidate hostAlias)) ∧
    (∀ patterns candidate, matchesSSHConfigPatterns patterns candidate = true ↔
      trimSpace candidate ≠ "" ∧
        (∃ pattern ∈ patterns, PositiveMatch (trimSpace candidate) pattern) ∧
        ∀ pattern ∈ patterns, ¬NegatedMatch (trimSpace candidate) pattern) ∧
    ∀ patterns others, patterns.Perm others →
      ∀ candidate,
        matchesSSHConfigPatterns patterns candidate = matchesSSHConfigPatterns others candidate :=
  ⟨resolve_candidate_values, matches_patterns_iff,
    fun _ _ same candidate => matches_patterns_perm same candidate⟩

/-- An empty value and the port zero count as not given, a text that is no port is an error, and no
pattern matches a blank name. -/
theorem ssh_config_skips_empty_values :
    applicableSettings [.setting "user" "", .setting "user" "root"] "web" =
      [("user", ""), ("user", "root")] ∧
    (resolveSSHConfigCandidate [.setting "user" "", .setting "user" "root"] "web").map (·.user) =
      .ok "root" ∧
    (resolveSSHConfigCandidate [.setting "port" "0", .setting "port" "22"] "web").map (·.port) =
      .ok 22 ∧
    resolveSSHConfigCandidate [.setting "port" "ssh"] "web" = .error "invalid_port" ∧
    Filepath.matchName "*" "" = true ∧ matchesSSHConfigPatterns ["*"] "" = false := by
  decide +kernel

end RuneTerminal.Connections
