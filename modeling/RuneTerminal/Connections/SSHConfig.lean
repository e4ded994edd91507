import RuneTerminal.Connections.Service

/-! The entries of a configuration with its includes in place, and the candidates that
`ssh_config_import.go` makes of them. -/

namespace RuneTerminal.Connections

open Go Go.Strings Kit List

structure SSHConfigMatchCondition where
  all : Bool := false
  hostPatterns : List String := []
  originalHostPatterns : List String := []
  supported : Bool
  deriving DecidableEq

inductive SSHConfigSelector where
  | global
  | host (patterns : List String)
  | matching (condition : SSHConfigMatchCondition)
  deriving DecidableEq

inductive SSHConfigEntry where
  | selector (selector : SSHConfigSelector)
  | setting (key value : String)
  deriving DecidableEq

def matchesPatternsFrom (candidate : String) : Bool → List String → Bool
  | matchedPositive, [] => matchedPositive
  | matchedPositive, rawPattern :: rest =>
    let pattern := trimSpace rawPattern
    if pattern = "" then matchesPatternsFrom candidate matchedPositive rest
    else
      let negated := hasPrefix pattern "!"
      let pattern :=
        if negated then trimSpace (String.ofList (pattern.toList.drop 1)) else pattern
      if !Filepath.matchName pattern candidate then
        matchesPatternsFrom candidate matchedPositive rest
      else if negated then false
      else matchesPatternsFrom candidate true rest

def matchesSSHConfigPatterns (patterns : List String) (candidate : String) : Bool :=
  if trimSpace candidate = "" then false
  else matchesPatternsFrom (trimSpace candidate) false patterns

def SSHConfigMatchCondition.matches (condition : SSHConfigMatchCondition)
    (hostAlias resolvedHost : String) : Bool :=
  if !condition.supported then false
  else if condition.all then true
  else
    let hostValue := if trimSpace resolvedHost = "" then hostAlias else trimSpace resolvedHost
    if condition.hostPatterns ≠ [] ∧
        !matchesSSHConfigPatterns condition.hostPatterns hostValue then false
    else if condition.originalHostPatterns ≠ [] ∧
        !matchesSSHConfigPatterns condition.originalHostPatterns hostAlias then false
    else decide (condition.hostPatterns ≠ [] ∨ condition.originalHostPatterns ≠ [])

def sshConfigSelectorApplies (selector : SSHConfigSelector) (hostAlias resolvedHost : String) :
    Bool :=
  match selector with
  | .global => true
  | .host patterns => matchesSSHConfigPatterns patterns hostAlias
  | .matching condition => condition.matches hostAlias resolvedHost

def isUnsupportedSSHConfigHostPattern (value : String) : Bool :=
  let value := trimSpace value
  decide (value = "") || value.toList.any fun c => c == '*' || c == '?' || c == '!'

def parsePort (value : String) : Option Int :=
  match atoi (trimSpace value) with
  | some port => if port < 0 ∨ port > 65535 then none else some port
  | none => none

/-- A setting that applies; a later value of a key that has one is not looked at. -/
def SSHConfigProfileCandidate.set (candidate : SSHConfigProfileCandidate) (key value : String) :
    Except String SSHConfigProfileCandidate :=
  if key = "hostname" then
    .ok (if candidate.host = "" then { candidate with host := value } else candidate)
  else if key = "user" then
    .ok (if candidate.user = "" then { candidate with user := value } else candidate)
  else if key = "port" then
    if candidate.port ≠ 0 then .ok candidate
    else
      match parsePort value with
      | some port => .ok { candidate with port := port }
      | none => .error "invalid_port"
  else if key = "identityfile" then
    .ok (if candidate.identityFile = "" then { candidate with identityFile := value }
      else candidate)
  else .ok candidate

def resolveEntry (s : SSHConfigSelector × SSHConfigProfileCandidate) (entry : SSHConfigEntry) :
    Except String (SSHConfigSelector × SSHConfigProfileCandidate) :=
  match entry with
  | .selector selector => .ok (selector, s.2)
  | .setting key value =>
    if sshConfigSelectorApplies s.1 s.2.hostAlias s.2.host then do
      let candidate ← s.2.set key value
      return (s.1, candidate)
    else .ok s

def resolveEntries (entries : List SSHConfigEntry) (hostAlias : String) :
    Except String (SSHConfigSelector × SSHConfigProfileCandidate) :=
  entries.foldlM resolveEntry (.global, { hostAlias := hostAlias, host := "" })

def resolveSSHConfigCandidate (entries : List SSHConfigEntry) (hostAlias : String) :
    Except String SSHConfigProfileCandidate := do
  let (_, candidate) ← resolveEntries entries hostAlias
  let host := if trimSpace candidate.host = "" then hostAlias else candidate.host
  if isUnsupportedSSHConfigHostPattern host then throw "unsupported_hostname_pattern"
  return {
    candidate with
    user := trimSpace candidate.user
    host := trimSpace host
    identityFile := trimSpace candidate.identityFile }

def sshConfigHostPatterns (entries : List SSHConfigEntry) : List String :=
  entries.flatMap fun
    | .selector (.host patterns) => patterns
    | _ => []

def patternAlias (rawPattern : String) : Option String :=
  (trimmedText rawPattern).filter fun pattern => !isUnsupportedSSHConfigHostPattern pattern

def sshConfigAliases (entries : List SSHConfigEntry) : List String :=
  (sshConfigHostPatterns entries).foldl (collectClean patternAlias) []

/-- The candidates in the order of their aliases, and what is skipped: the patterns
first, then the aliases that do not resolve. -/
def collectSSHConfigCandidates (entries : List SSHConfigEntry) :
    List SSHConfigProfileCandidate × List SSHConfigImportSkipped :=
  let patternsSkipped := (sshConfigHostPatterns entries).filterMap fun rawPattern =>
    match trimmedText rawPattern with
    | some pattern =>
      if isUnsupportedSSHConfigHostPattern pattern then
        some { host := pattern, reason := "unsupported_host_pattern" }
      else none
    | none => none
  let resolved := (sshConfigAliases entries).map fun hostAlias =>
    (hostAlias, resolveSSHConfigCandidate entries hostAlias)
  (resolved.filterMap fun result => result.2.toOption,
    patternsSkipped ++ resolved.filterMap fun result =>
      match result.2 with
      | .ok _ => none
      | .error reason => some { host := result.1, reason := reason })

/-- Some setting of the key applies to the alias where it stands and has a value. -/
def SSHConfigDefines (entries : List SSHConfigEntry) (hostAlias key : String) : Prop :=
  ∃ before value after selector candidate,
    entries = before ++ .setting key value :: after ∧
      resolveEntries before hostAlias = .ok (selector, candidate) ∧
      sshConfigSelectorApplies selector hostAlias candidate.host = true ∧ trimSpace value ≠ ""

variable {entries : List SSHConfigEntry} {hostAlias key : String} {entry : SSHConfigEntry}

theorem SSHConfigDefines.append (defined : SSHConfigDefines entries hostAlias key)
    (more : List SSHConfigEntry) : SSHConfigDefines (entries ++ more) hostAlias key := by
  rcases defined with ⟨before, value, after, selector, candidate, rfl, resolved, applies, given⟩
  refine ⟨before, value, after ++ more, selector, candidate, ?_, resolved, applies, given⟩
  rw [append_assoc, cons_append]

variable {candidate next : SSHConfigProfileCandidate} {value : String}

theorem set_cases (done : candidate.set key value = .ok next) :
    next = candidate ∨
    key = "hostname" ∧ candidate.host = "" ∧ next = { candidate with host := value } ∨
    key = "user" ∧ candidate.user = "" ∧ next = { candidate with user := value } ∨
    (key = "port" ∧ ∃ port, parsePort value = some port ∧ next = { candidate with port := port }) ∨
    key = "identityfile" ∧ candidate.identityFile = "" ∧
      next = { candidate with identityFile := value } := by
  unfold SSHConfigProfileCandidate.set at done
  split_ifs at done with isHost unset isUser unset isPort given isIdentity unset
  · cases done
    exact .inr (.inl ⟨isHost, unset, rfl⟩)
  · cases done
    exact .inl rfl
  · cases done
    exact .inr (.inr (.inl ⟨isUser, unset, rfl⟩))
  · cases done
    exact .inl rfl
  · cases done
    exact .inl rfl
  · split at done
    next port parsed =>
      cases done
      exact .inr (.inr (.inr (.inl ⟨isPort, port, parsed, rfl⟩)))
    · cases done
  · cases done
    exact .inr (.inr (.inr (.inr ⟨isIdentity, unset, rfl⟩)))
  · cases done
    exact .inl rfl
  · cases done
    exact .inl rfl

theorem set_host_alias (done : candidate.set key value = .ok next) :
    next.hostAlias = candidate.hostAlias := by
  rcases set_cases done with rfl | ⟨_, _, rfl⟩ | ⟨_, _, rfl⟩ | ⟨_, _, _, rfl⟩ | ⟨_, _, rfl⟩ <;> rfl

theorem parse_port_spec {port : Int} (parsed : parsePort value = some port) :
    (0 ≤ port ∧ port ≤ 65535) ∧ trimSpace value ≠ "" := by
  unfold parsePort at parsed
  constructor
  · split at parsed
    · split_ifs at parsed
      cases parsed
      omega
    · cases parsed
  · intro blank
    rw [blank] at parsed
    cases parsed

variable {s : SSHConfigSelector × SSHConfigProfileCandidate}

theorem resolve_entry_cases {next : SSHConfigSelector × SSHConfigProfileCandidate}
    (done : resolveEntry s entry = .ok next) : next.2 = s.2 ∨ ∃ key value,
    entry = .setting key value ∧ sshConfigSelectorApplies s.1 s.2.hostAlias s.2.host = true ∧
    s.2.set key value = .ok next.2 := by
  unfold resolveEntry at done
  split at done
  · cases done
    exact .inl rfl
  next key value =>
    split_ifs at done with applies
    · obtain ⟨candidate, isSet, done⟩ := bind_eq_ok done
      cases done
      exact .inr ⟨key, value, rfl, applies, isSet⟩
    · cases done
      exact .inl rfl

theorem resolve_entries_last {next : SSHConfigSelector × SSHConfigProfileCandidate}
    (resolved : resolveEntries (entries ++ [entry]) hostAlias = .ok next) :
    ∃ s, resolveEntries entries hostAlias = .ok s ∧ resolveEntry s entry = .ok next := by
  rw [resolveEntries, foldlM_append] at resolved
  obtain ⟨s, before, last⟩ := bind_eq_ok resolved
  obtain ⟨result, done, last⟩ := bind_eq_ok last
  cases last
  exact ⟨s, before, done⟩

theorem resolve_entries_keeps (holds : SSHConfigProfileCandidate → Prop)
    (start : holds { hostAlias := hostAlias, host := "" })
    (keeps : ∀ candidate key value next, holds candidate → candidate.set key value = .ok next →
      holds next)
    (resolved : resolveEntries entries hostAlias = .ok s) : holds s.2 := by
  induction entries using reverseRecOn generalizing s with
  | nil =>
    cases resolved
    exact start
  | append_singleton entries entry ih =>
    obtain ⟨before, earlier, last⟩ := resolve_entries_last resolved
    rcases resolve_entry_cases last with same | ⟨key, value, _, _, isSet⟩
    · rw [same]
      exact ih earlier
    · exact keeps _ key value _ (ih earlier) isSet

theorem resolve_entries_alias (resolved : resolveEntries entries hostAlias = .ok s) :
    s.2.hostAlias = hostAlias := by
  apply resolve_entries_keeps (fun candidate => candidate.hostAlias = hostAlias) rfl _ resolved
  intro candidate key value next same isSet
  exact (set_host_alias isSet).trans same

theorem resolve_entries_port (resolved : resolveEntries entries hostAlias = .ok s) :
    0 ≤ s.2.port ∧ s.2.port ≤ 65535 := by
  apply resolve_entries_keeps (fun candidate => 0 ≤ candidate.port ∧ candidate.port ≤ 65535)
    (by simp) _ resolved
  intro candidate key value next inRange isSet
  rcases set_cases isSet with
    rfl | ⟨_, _, rfl⟩ | ⟨_, _, rfl⟩ | ⟨_, port, parsed, rfl⟩ | ⟨_, _, rfl⟩
  · exact inRange
  · exact inRange
  · exact inRange
  · exact (parse_port_spec parsed).1
  · exact inRange

theorem resolve_entries_blank (blank : SSHConfigProfileCandidate → Prop)
    (start : blank { hostAlias := hostAlias, host := "" })
    (fills : ∀ candidate other value next, blank candidate → candidate.set other value = .ok next →
      blank next ∨ other = key ∧ trimSpace value ≠ "")
    (undefined : ¬SSHConfigDefines entries hostAlias key)
    (resolved : resolveEntries entries hostAlias = .ok s) : blank s.2 := by
  induction entries using reverseRecOn generalizing s with
  | nil =>
    cases resolved
    exact start
  | append_singleton entries entry ih =>
    obtain ⟨before, earlier, last⟩ := resolve_entries_last resolved
    have isBlank := ih (fun defined => undefined (defined.append [entry])) earlier
    rcases resolve_entry_cases last with same | ⟨other, value, rfl, applies, isSet⟩
    · rwa [same]
    rcases fills _ other value _ isBlank isSet with stays | ⟨rfl, given⟩
    · exact stays
    · rw [resolve_entries_alias earlier] at applies
      exact absurd ⟨entries, value, [], before.1, before.2, rfl, earlier, applies, given⟩
        undefined

theorem resolve_entries_text (field : SSHConfigProfileCandidate → String)
    (start : field { hostAlias := hostAlias, host := "" } = "")
    (sets : ∀ candidate other value next, candidate.set other value = .ok next →
      field next = field candidate ∨ other = key ∧ field next = value)
    (undefined : ¬SSHConfigDefines entries hostAlias key)
    (resolved : resolveEntries entries hostAlias = .ok s) : trimSpace (field s.2) = "" := by
  apply resolve_entries_blank (fun candidate => trimSpace (field candidate) = "") _ _ undefined
    resolved
  · rw [start]
    exact trim_space_empty
  intro candidate other value next isBlank isSet
  rcases sets candidate other value next isSet with same | ⟨isKey, filled⟩
  · rw [same]
    exact .inl isBlank
  · rw [filled]
    exact (em (trimSpace value = "")).imp id fun given => ⟨isKey, given⟩

section

variable (done : candidate.set key value = .ok next)
include done

theorem set_host : next.host = candidate.host ∨ key = "hostname" ∧ next.host = value := by
  rcases set_cases done with
    rfl | ⟨isKey, _, rfl⟩ | ⟨_, _, rfl⟩ | ⟨_, _, _, rfl⟩ | ⟨_, _, rfl⟩ <;> simp [*]

theorem set_user : next.user = candidate.user ∨ key = "user" ∧ next.user = value := by
  rcases set_cases done with
    rfl | ⟨_, _, rfl⟩ | ⟨isKey, _, rfl⟩ | ⟨_, _, _, rfl⟩ | ⟨_, _, rfl⟩ <;> simp [*]

theorem set_identity_file :
    next.identityFile = candidate.identityFile ∨
      key = "identityfile" ∧ next.identityFile = value := by
  rcases set_cases done with
    rfl | ⟨_, _, rfl⟩ | ⟨_, _, rfl⟩ | ⟨_, _, _, rfl⟩ | ⟨isKey, _, rfl⟩ <;> simp [*]

theorem set_port :
    next.port = candidate.port ∨ key = "port" ∧ parsePort value = some next.port := by
  rcases set_cases done with
    rfl | ⟨_, _, rfl⟩ | ⟨_, _, rfl⟩ | ⟨isKey, _, parsed, rfl⟩ | ⟨_, _, rfl⟩ <;> simp [*]

end

theorem resolve_entries_no_port (undefined : ¬SSHConfigDefines entries hostAlias "port")
    (resolved : resolveEntries entries hostAlias = .ok s) : s.2.port = 0 := by
  apply resolve_entries_blank (fun candidate => candidate.port = 0) rfl _ undefined resolved
  intro candidate other value next isBlank isSet
  rcases set_port isSet with same | ⟨isKey, parsed⟩
  · exact .inl (same.trans isBlank)
  · exact .inr ⟨isKey, (parse_port_spec parsed).2⟩

/-- A candidate as it is collected: a save accepts it, and it has no more than what
the configuration defines for its alias. -/
structure SSHConfigProfileCandidate.Collected (entries : List SSHConfigEntry)
    (candidate : SSHConfigProfileCandidate) : Prop where
  cleanAlias : CleanID candidate.hostAlias
  cleanHost : CleanID candidate.host
  port : 0 ≤ candidate.port ∧ candidate.port ≤ 65535
  hostDefault : ¬SSHConfigDefines entries candidate.hostAlias "hostname" →
    candidate.host = candidate.hostAlias
  userDefault : ¬SSHConfigDefines entries candidate.hostAlias "user" → candidate.user = ""
  portDefault : ¬SSHConfigDefines entries candidate.hostAlias "port" → candidate.port = 0
  identityDefault : ¬SSHConfigDefines entries candidate.hostAlias "identityfile" →
    candidate.identityFile = ""

theorem resolve_candidate_ok
    (resolved : resolveSSHConfigCandidate entries hostAlias = .ok candidate) :
    ∃ s, resolveEntries entries hostAlias = .ok s ∧
      candidate = { s.2 with
        user := trimSpace s.2.user
        host := trimSpace (if trimSpace s.2.host = "" then hostAlias else s.2.host)
        identityFile := trimSpace s.2.identityFile } := by
  obtain ⟨s, isRead, resolved⟩ := bind_eq_ok resolved
  refine ⟨s, isRead, ?_⟩
  dsimp only at resolved
  generalize (if trimSpace s.2.host = "" then hostAlias else s.2.host) = host at resolved ⊢
  split at resolved
  · cases resolved
  · cases resolved
    rfl

theorem resolve_candidate_collected (clean : CleanID hostAlias)
    (resolved : resolveSSHConfigCandidate entries hostAlias = .ok candidate) :
    candidate.hostAlias = hostAlias ∧ candidate.Collected entries := by
  obtain ⟨s, isRead, rfl⟩ := resolve_candidate_ok resolved
  have sameAlias := resolve_entries_alias isRead
  have inRange := resolve_entries_port isRead
  refine ⟨sameAlias, ?_⟩
  constructor
  · rwa [sameAlias]
  · apply clean_id_trim
    split
    · rw [clean.1]
      exact clean.2
    · next given => exact given
  · exact inRange
  · intro undefined
    rw [sameAlias] at undefined
    have blank := resolve_entries_text (·.host) rfl
      (fun _ _ _ _ isSet => set_host isSet) undefined isRead
    rw [if_pos blank, clean.1, sameAlias]
  · intro undefined
    rw [sameAlias] at undefined
    have blank := resolve_entries_text (·.user) rfl (fun _ _ _ _ isSet => set_user isSet)
      undefined isRead
    exact blank
  · intro undefined
    rw [sameAlias] at undefined
    have absent := resolve_entries_no_port undefined isRead
    exact absent
  intro undefined
  rw [sameAlias] at undefined
  have blank := resolve_entries_text (·.identityFile) rfl
    (fun _ _ _ _ isSet => set_identity_file isSet) undefined isRead
  exact blank

theorem ssh_config_alias_clean (mem : hostAlias ∈ sshConfigAliases entries) :
    CleanID hostAlias := by
  rcases mem_foldl_collect.mp mem with old | ⟨rawPattern, _, cleaned⟩
  · cases old
  · exact trimmed_text_clean (Option.filter_eq_some_iff.mp cleaned).1

theorem collected_spec (entries : List SSHConfigEntry) :
    (∀ candidate ∈ (collectSSHConfigCandidates entries).1, candidate.Collected entries) ∧
    ((collectSSHConfigCandidates entries).1.map (·.hostAlias)).Nodup := by
  have aliases : ∀ {aliases : List String} {candidate : SSHConfigProfileCandidate},
      candidate ∈ (aliases.map fun hostAlias =>
        (hostAlias, resolveSSHConfigCandidate entries hostAlias)).filterMap
          (fun result => result.2.toOption) →
      ∃ hostAlias ∈ aliases, resolveSSHConfigCandidate entries hostAlias = .ok candidate := by
    intro aliases candidate mem
    obtain ⟨_, isResult, found⟩ := mem_filterMap.mp mem
    obtain ⟨hostAlias, isAlias, rfl⟩ := mem_map.mp isResult
    cases resolved : resolveSSHConfigCandidate entries hostAlias with
    | error reason =>
      rw [resolved] at found
      cases found
    | ok result =>
      rw [resolved] at found
      cases found
      exact ⟨hostAlias, isAlias, resolved⟩
  have nodup : (sshConfigAliases entries).Nodup :=
    nodup_foldl_collect patternAlias _ nodup_nil
  have clean : ∀ hostAlias ∈ sshConfigAliases entries, CleanID hostAlias :=
    fun hostAlias mem => ssh_config_alias_clean mem
  constructor
  · intro candidate mem
    obtain ⟨hostAlias, isAlias, resolved⟩ := aliases mem
    exact (resolve_candidate_collected (clean hostAlias isAlias) resolved).2
  unfold collectSSHConfigCandidates
  generalize sshConfigAliases entries = all at nodup clean
  induction all with
  | nil => exact nodup_nil
  | cons hostAlias rest ih =>
    rw [nodup_cons] at nodup
    rw [forall_mem_cons] at clean
    have later := ih nodup.2 clean.2
    rw [map_cons]
    cases resolved : resolveSSHConfigCandidate entries hostAlias with
    | error reason => exact later
    | ok candidate =>
      refine nodup_cons.mpr ⟨?_, later⟩
      intro again
      obtain ⟨other, mem, sameAlias⟩ := mem_map.mp again
      obtain ⟨otherAlias, isAlias, otherResolved⟩ := aliases mem
      have own := (resolve_candidate_collected clean.1 resolved).1
      have others :=
        (resolve_candidate_collected (clean.2 otherAlias isAlias) otherResolved).1
      dsimp only at sameAlias
      rw [own, others] at sameAlias
      exact nodup.1 (sameAlias ▸ isAlias)

end RuneTerminal.Connections
