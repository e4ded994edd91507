import Mathlib.Data.List.Infix
import RuneTerminal.Go.FilepathMatch
import RuneTerminal.Policy.IgnoreRules

/-! `AddTrustedRule` and `AddIgnoreRule` of `core/policy/store.go`, the tools of `core/app` that
reach them, and their validators. -/

namespace RuneTerminal.Policy

open Go
open Go.Strings (trimSpace contains TextLibrary)
open Filepath

inductive StoreError where
  | invalidTrustedRule (reason : String)
  | invalidIgnoreRule (reason : String)
  | invalidInput (reason : String)
  | notWritten
  deriving DecidableEq

def validateTrustedRule (rule : TrustedRule) : Except String Unit :=
  if rule.scope ≠ .global ∧ rule.scope ≠ .workspace ∧ rule.scope ≠ .repo then
    .error "invalid trusted rule scope"
  else if rule.matcherType = .structured ∧ rule.structured = none then
    .error "structured matcher requires structured payload"
  else if rule.matcherType ≠ .structured ∧ trimSpace rule.matcher = "" then
    .error "trusted rule matcher is required"
  else if rule.subjectType ≠ .tool ∧ rule.subjectType ≠ .command ∧ rule.subjectType ≠ .path then
    .error "invalid trusted rule subject"
  else .ok ()

def validateIgnoreRule (rule : IgnoreRule) : Except String Unit :=
  if rule.scope ≠ .global ∧ rule.scope ≠ .workspace ∧ rule.scope ≠ .repo then
    .error "invalid ignore rule scope"
  else if rule.matcherType ≠ .exact ∧ rule.matcherType ≠ .glob ∧ rule.matcherType ≠ .regex then
    .error "invalid ignore matcher type"
  else if trimSpace rule.pattern = "" then .error "ignore rule pattern is required"
  else if rule.mode ≠ .deny ∧ rule.mode ≠ .metadataOnly ∧ rule.mode ≠ .redact then
    .error "invalid ignore mode"
  else .ok ()

def TrustedRule.stored (rule : TrustedRule) (newID : String) : TrustedRule :=
  { rule with id := if rule.id = "" then newID else rule.id, enabled := true }

def IgnoreRule.stored (rule : IgnoreRule) (newID : String) : IgnoreRule :=
  { rule with id := if rule.id = "" then newID else rule.id, enabled := true }

/-- The stored rule and the next configuration; `written` says whether it can be written. -/
def addTrustedRule (newID : String) (written : Bool) (cfg : Config) (rule : TrustedRule) :
    Except StoreError (TrustedRule × Config) :=
  let rule := rule.stored newID
  match validateTrustedRule rule with
  | .error reason => .error (.invalidTrustedRule reason)
  | .ok () =>
    if written then .ok (rule, { cfg with trustedRules := cfg.trustedRules ++ [rule] })
    else .error .notWritten

def addIgnoreRule (newID : String) (written : Bool) (cfg : Config) (rule : IgnoreRule) :
    Except StoreError (IgnoreRule × Config) :=
  let rule := rule.stored newID
  match validateIgnoreRule rule with
  | .error reason => .error (.invalidIgnoreRule reason)
  | .ok () =>
    if written then .ok (rule, { cfg with ignoreRules := cfg.ignoreRules ++ [rule] })
    else .error .notWritten

structure AddTrustedRuleInput where
  scope : Scope
  scopeRef : String := ""
  subjectType : SubjectType
  matcherType : MatcherType
  matcher : String := ""
  structured : Option StructuredMatcher := none

structure AddIgnoreRuleInput where
  scope : Scope
  scopeRef : String := ""
  matcherType : MatcherType
  pattern : String
  mode : IgnoreMode

def validateAddTrustedRuleInput (input : AddTrustedRuleInput) : Except String Unit :=
  if input.scope ≠ .global ∧ input.scope ≠ .workspace ∧ input.scope ≠ .repo then
    .error "trusted rule scope is required"
  else if input.subjectType ≠ .tool ∧ input.subjectType ≠ .command ∧
      input.subjectType ≠ .path then
    .error "trusted rule subject_type is required"
  else
    match input.matcherType with
    | .exact | .glob | .regex =>
      if trimSpace input.matcher = "" then .error "trusted rule matcher is required" else .ok ()
    | .structured =>
      if input.structured = none then .error "trusted rule structured payload is required"
      else .ok ()
    | .other _ => .error "trusted rule matcher_type is required"

def validateAddIgnoreRuleInput (input : AddIgnoreRuleInput) : Except String Unit :=
  if input.scope ≠ .global ∧ input.scope ≠ .workspace ∧ input.scope ≠ .repo then
    .error "ignore rule scope is required"
  else if input.matcherType ≠ .exact ∧ input.matcherType ≠ .glob ∧
      input.matcherType ≠ .regex then
    .error "ignore rule matcher_type is required"
  else if trimSpace input.pattern = "" then .error "ignore rule pattern is required"
  else if input.mode ≠ .deny ∧ input.mode ≠ .metadataOnly ∧ input.mode ≠ .redact then
    .error "ignore rule mode is required"
  else .ok ()

/-- What a tool knows of its surroundings. -/
structure ToolSurroundings where
  repoRoot : String
  workspaceID : String := ""
  snapshotID : String := ""

def normalizeScopeRef (env : ToolSurroundings) (scope : Scope) (scopeRef : String) : String :=
  if scopeRef ≠ "" then scopeRef
  else
    match scope with
    | .repo => env.repoRoot
    | .workspace => if env.workspaceID ≠ "" then env.workspaceID else env.snapshotID
    | _ => ""

def addTrustedRuleTool (env : ToolSurroundings) (newID : String) (written : Bool) (cfg : Config)
    (input : AddTrustedRuleInput) : Except StoreError (TrustedRule × Config) :=
  match validateAddTrustedRuleInput input with
  | .error reason => .error (.invalidInput reason)
  | .ok () =>
    addTrustedRule newID written cfg {
      id := ""
      scope := input.scope
      scopeRef := normalizeScopeRef env input.scope input.scopeRef
      subjectType := input.subjectType
      matcherType := input.matcherType
      matcher := input.matcher
      structured := input.structured
      enabled := false }

def addIgnoreRuleTool (env : ToolSurroundings) (newID : String) (written : Bool) (cfg : Config)
    (input : AddIgnoreRuleInput) : Except StoreError (IgnoreRule × Config) :=
  match validateAddIgnoreRuleInput input with
  | .error reason => .error (.invalidInput reason)
  | .ok () =>
    addIgnoreRule newID written cfg {
      id := ""
      scope := input.scope
      scopeRef := normalizeScopeRef env input.scope input.scopeRef
      matcherType := input.matcherType
      pattern := input.pattern
      mode := input.mode
      enabled := false }

def AcceptedTrustedRule (rule : TrustedRule) : Prop :=
  (∃ newID cfg given next, addTrustedRule newID true cfg given = .ok (rule, next)) ∨
    ∃ env newID cfg input next, addTrustedRuleTool env newID true cfg input = .ok (rule, next)

def AcceptedIgnoreRule (rule : IgnoreRule) : Prop :=
  (∃ newID cfg given next, addIgnoreRule newID true cfg given = .ok (rule, next)) ∨
    ∃ env newID cfg input next, addIgnoreRuleTool env newID true cfg input = .ok (rule, next)

variable {newID : String} {rule : TrustedRule} {next : Config}

theorem add_trusted_rule_accepts {written : Bool} {cfg : Config} {given : TrustedRule}
    (added : addTrustedRule newID written cfg given = .ok (rule, next)) :
    rule = given.stored newID ∧ validateTrustedRule rule = .ok () ∧
      next = { cfg with trustedRules := cfg.trustedRules ++ [rule] } := by
  unfold addTrustedRule at added
  dsimp only at added
  split at added
  · cases added
  next valid =>
    split_ifs at added
    cases added
    exact ⟨rfl, valid, rfl⟩

theorem add_ignore_rule_accepts {written : Bool} {cfg : Config} {given rule : IgnoreRule}
    (added : addIgnoreRule newID written cfg given = .ok (rule, next)) :
    rule = given.stored newID ∧ validateIgnoreRule rule = .ok () ∧
      next = { cfg with ignoreRules := cfg.ignoreRules ++ [rule] } := by
  unfold addIgnoreRule at added
  dsimp only at added
  split at added
  · cases added
  next valid =>
    split_ifs at added
    cases added
    exact ⟨rfl, valid, rfl⟩

theorem AcceptedTrustedRule.valid (accepted : AcceptedTrustedRule rule) :
    rule.enabled = true ∧ validateTrustedRule rule = .ok () := by
  rcases accepted with ⟨newID, cfg, given, next, added⟩ | ⟨env, newID, cfg, input, next, added⟩
  · obtain ⟨rfl, valid, _⟩ := add_trusted_rule_accepts added
    exact ⟨rfl, valid⟩
  unfold addTrustedRuleTool at added
  split at added
  · cases added
  · obtain ⟨rfl, valid, _⟩ := add_trusted_rule_accepts added
    exact ⟨rfl, valid⟩

theorem AcceptedIgnoreRule.valid {rule : IgnoreRule} (accepted : AcceptedIgnoreRule rule) :
    rule.enabled = true ∧ validateIgnoreRule rule = .ok () := by
  rcases accepted with ⟨newID, cfg, given, next, added⟩ | ⟨env, newID, cfg, input, next, added⟩
  · obtain ⟨rfl, valid, _⟩ := add_ignore_rule_accepts added
    exact ⟨rfl, valid⟩
  unfold addIgnoreRuleTool at added
  split at added
  · cases added
  · obtain ⟨rfl, valid, _⟩ := add_ignore_rule_accepts added
    exact ⟨rfl, valid⟩

-- Splitting the validators must not unfold this.
attribute [local irreducible] trimSpace

/-- `regexp.Compile`, which may fail, and the lower case of a character. -/
structure RegexpLibrary where
  compile : String → Option (String → Bool)
  lower : Char → Char

/-- The library as the evaluation uses it: what does not compile matches nothing. -/
def RegexpLibrary.text (lib : RegexpLibrary) : TextLibrary where
  matchRegexp pattern value := (lib.compile pattern).any fun re => re value
  toLower s := String.ofList (s.toList.map lib.lower)

/-- Why `matchString` gives up. -/
inductive MatchFailure where
  | badPattern
  | badExpression
  | unknownType

/-- The branches of `matchString`, with the failures that it takes for mismatches. -/
def matchStringOr (lib : RegexpLibrary) (matcherType : MatcherType) (matcher value : String) :
    Except MatchFailure Bool :=
  match matcherType with
  | .exact => .ok (matcher == value)
  | .glob =>
    match Filepath.matchError matcher value with
    | .ok matched => .ok matched
    | .error .badPattern => .error .badPattern
  | .regex =>
    match lib.compile matcher with
    | some re => .ok (re value)
    | none => .error .badExpression
  | .structured => .error .unknownType
  | .other _ => .error .unknownType

def PatternReadable (lib : RegexpLibrary) (matcherType : MatcherType) (pattern : String) : Prop :=
  match matcherType with
  | .exact => True
  | .glob => Filepath.patternWellFormed pattern = true
  | .regex => (lib.compile pattern).isSome = true
  | .structured => False
  | .other _ => False

def Reads (lib : RegexpLibrary) (matcherType : MatcherType) (pattern value : String) : Prop :=
  matchStringOr lib matcherType pattern value = .ok true

def NeverFails (lib : RegexpLibrary) (matcherType : MatcherType) (pattern : String) : Prop :=
  ∀ value, ∃ matched, matchStringOr lib matcherType pattern value = .ok matched

section

variable {lib : RegexpLibrary} {matcherType : MatcherType} {pattern value : String}

theorem match_string_iff : matchString lib.text matcherType pattern value = true ↔
    Reads lib matcherType pattern value := by
  cases matcherType with
  | exact | structured | other => simp [matchString, Reads, matchStringOr]
  | glob =>
    rw [matchString, match_name_iff, Reads, matchStringOr]
    cases matchError pattern value with
    | ok matched => simp
    | error failure => cases failure; simp
  | regex =>
    rw [matchString, Reads, matchStringOr, RegexpLibrary.text]
    cases compiled : lib.compile pattern <;> simp [compiled]

theorem match_string_or_ok_iff (value : String) :
    (∃ matched, matchStringOr lib matcherType pattern value = .ok matched) ↔
    PatternReadable lib matcherType pattern := by
  cases matcherType with
  | exact | structured | other => simp [matchStringOr, PatternReadable]
  | glob =>
    rw [PatternReadable, ← match_error_ok_iff pattern value, matchStringOr]
    cases matchError pattern value with
    | ok matched => simp
    | error failure => cases failure; simp
  | regex =>
    rw [PatternReadable, matchStringOr]
    cases lib.compile pattern <;> simp

theorem never_fails_iff :
    NeverFails lib matcherType pattern ↔ PatternReadable lib matcherType pattern := by
  constructor
  · intro never
    exact (match_string_or_ok_iff "").mp (never "")
  · intro readable value
    exact (match_string_or_ok_iff value).mpr readable

end

/-- The scope is the whole machine or names a workspace or a repository. -/
def NamesScope (scope : Scope) (scopeRef : String) : Prop :=
  scope = .global ∨ scopeRef ≠ ""

def inScopeOf (scopeRef : String) (ctx : Context) : Context :=
  { ctx with workspaceID := scopeRef, repoRoot := scopeRef }

theorem scope_matches_in_scope {scope : Scope} {scopeRef : String}
    (known : scope = .global ∨ scope = .workspace ∨ scope = .repo)
    (named : NamesScope scope scopeRef) (ctx : Context) :
    scopeMatches scope scopeRef (inScopeOf scopeRef ctx) = true := by
  rcases known with rfl | rfl | rfl
  · rfl
  · simpa [scopeMatches, inScopeOf, NamesScope] using named
  · simpa [scopeMatches, inScopeOf, NamesScope] using named

/-- The rule applies somewhere, and matching it never fails; a deny rule applies to what
its pattern matches in scope, as a whole or by its last component. -/
structure IgnoreRuleEffective (lib : RegexpLibrary) (rule : IgnoreRule) : Prop where
  applicable : ∃ ctx, ignoreRuleApplies lib.text rule ctx = true
  named : NamesScope rule.scope rule.scopeRef
  neverFails : NeverFails lib rule.matcherType rule.pattern
  denies : rule.mode = .deny → ∀ ctx, ignoreRuleApplies lib.text rule ctx = true ↔
    scopeMatches rule.scope rule.scopeRef ctx = true ∧ ∃ path ∈ ctx.affectedPaths,
      Reads lib rule.matcherType rule.pattern (Filepath.base path) ∨
        Reads lib rule.matcherType rule.pattern path

section

variable {lib : RegexpLibrary}

theorem ignore_rule_reads_iff {rule : IgnoreRule} (enabled : rule.enabled = true) (ctx : Context) :
    ignoreRuleApplies lib.text rule ctx = true ↔ scopeMatches rule.scope rule.scopeRef ctx = true ∧
    ∃ path ∈ ctx.affectedPaths, Reads lib rule.matcherType rule.pattern (Filepath.base path) ∨
    Reads lib rule.matcherType rule.pattern path := by
  rw [ignore_rule_applies_iff]
  simp only [enabled, match_string_iff, true_and]

theorem valid_ignore_rule_scope {rule : IgnoreRule} (valid : validateIgnoreRule rule = .ok ()) :
    rule.scope = .global ∨ rule.scope = .workspace ∨ rule.scope = .repo := by
  unfold validateIgnoreRule at valid
  split_ifs at valid with wrongScope
  tauto

theorem ignore_rule_effective_iff {rule : IgnoreRule} (accepted : AcceptedIgnoreRule rule) :
    IgnoreRuleEffective lib rule ↔
    NamesScope rule.scope rule.scopeRef ∧ PatternReadable lib rule.matcherType rule.pattern ∧
      ∃ value, Reads lib rule.matcherType rule.pattern value := by
  obtain ⟨enabled, valid⟩ := accepted.valid
  constructor
  · intro effective
    obtain ⟨ctx, applies⟩ := effective.applicable
    obtain ⟨_, path, _, matched⟩ := (ignore_rule_reads_iff enabled ctx).mp applies
    refine ⟨effective.named, never_fails_iff.mp effective.neverFails, ?_⟩
    rcases matched with base | whole
    · exact ⟨_, base⟩
    · exact ⟨_, whole⟩
  rintro ⟨named, readable, value, matched⟩
  constructor
  · let ctx : Context := { approvalTier := .safe, affectedPaths := [value] }
    refine ⟨inScopeOf rule.scopeRef ctx, ?_⟩
    rw [ignore_rule_reads_iff enabled]
    exact ⟨scope_matches_in_scope (valid_ignore_rule_scope valid) named ctx, value,
      List.mem_cons_self, .inr matched⟩
  · exact named
  · exact never_fails_iff.mpr readable
  · intro _ ctx
    exact ignore_rule_reads_iff enabled ctx

/-- The rule applies somewhere, and matching its text never fails. -/
structure TrustedRuleEffective (lib : RegexpLibrary) (rule : TrustedRule) : Prop where
  applicable : ∃ ctx, trustedRuleApplies lib.text rule ctx = true
  named : NamesScope rule.scope rule.scopeRef
  neverFails : rule.matcherType ≠ .structured → NeverFails lib rule.matcherType rule.matcher

theorem trusted_rule_reads_iff (enabled : rule.enabled = true)
    (text : rule.matcherType ≠ .structured) (ctx : Context) :
    trustedRuleApplies lib.text rule ctx = true ↔
      scopeMatches rule.scope rule.scopeRef ctx = true ∧
      (rule.subjectType = .tool ∧ Reads lib rule.matcherType rule.matcher ctx.toolName ∨
        rule.subjectType = .command ∧ Reads lib rule.matcherType rule.matcher ctx.summary ∨
        rule.subjectType = .path ∧
          ∃ path ∈ ctx.affectedPaths, Reads lib rule.matcherType rule.matcher path) := by
  unfold trustedRuleApplies
  cases inScope : scopeMatches rule.scope rule.scopeRef ctx with
  | false => simp
  | true =>
    rw [if_neg (by simp [enabled]), if_neg text]
    cases subject : rule.subjectType with
    | tool | command | path => simp [match_string_iff]
    | other raw => simp

theorem valid_trusted_rule (valid : validateTrustedRule rule = .ok ()) :
    (rule.scope = .global ∨ rule.scope = .workspace ∨ rule.scope = .repo) ∧
    (rule.matcherType = .structured → rule.structured ≠ none) ∧
    (rule.subjectType = .tool ∨ rule.subjectType = .command ∨ rule.subjectType = .path) := by
  unfold validateTrustedRule at valid
  split_ifs at valid with wrongScope noPayload noMatcher wrongSubject
  tauto

theorem contains_lower_part (lib : RegexpLibrary) {summary token : String}
    (part : token.toList <:+: summary.toList) :
    contains (lib.text.toLower summary) (lib.text.toLower token) = true := by
  obtain ⟨before, after, whole⟩ := part
  unfold contains
  rw [List.any_eq_true]
  refine ⟨(token.toList ++ after).map lib.lower, ?_, ?_⟩
  · rw [List.mem_tails]
    refine ⟨before.map lib.lower, ?_⟩
    simp [RegexpLibrary.text, ← whole]
  · rw [List.isPrefixOf_iff_prefix]
    refine ⟨after.map lib.lower, ?_⟩
    simp [RegexpLibrary.text]

/-- An operation that has everything that a structured matcher asks for. -/
def structuredContext (matcher : StructuredMatcher) : Context where
  toolName := matcher.toolNames.headD ""
  affectedWidgets := matcher.widgetIDs
  summary := String.ofList (matcher.summaryContains.flatMap String.toList)
  approvalTier := .safe

theorem match_structured_context (matcher : StructuredMatcher) (scopeRef : String) :
    matchStructured lib.text (some matcher) (inScopeOf scopeRef (structuredContext matcher)) =
      true := by
  have tool : (!matcher.toolNames.isEmpty &&
      !matcher.toolNames.contains (structuredContext matcher).toolName) = false := by
    rw [structuredContext]
    cases matcher.toolNames <;> simp
  have widget : (!matcher.widgetIDs.isEmpty &&
      !(structuredContext matcher).affectedWidgets.any matcher.widgetIDs.contains) = false := by
    rw [structuredContext]
    cases matcher.widgetIDs <;> simp
  have summary : ∀ token ∈ matcher.summaryContains,
      contains (lib.text.toLower (structuredContext matcher).summary)
        (lib.text.toLower token) = true := by
    intro token mem
    apply contains_lower_part
    obtain ⟨before, after, whole⟩ := List.append_of_mem mem
    refine ⟨before.flatMap String.toList, after.flatMap String.toList, ?_⟩
    simp [structuredContext, whole]
  unfold matchStructured
  simp only [inScopeOf, tool, widget, Bool.false_eq_true, if_false, List.all_eq_true]
  exact summary

theorem trusted_rule_effective_iff (accepted : AcceptedTrustedRule rule) :
    TrustedRuleEffective lib rule ↔
      NamesScope rule.scope rule.scopeRef ∧
      (rule.matcherType ≠ .structured →
        PatternReadable lib rule.matcherType rule.matcher ∧
        ∃ value, Reads lib rule.matcherType rule.matcher value) := by
  obtain ⟨enabled, valid⟩ := accepted.valid
  obtain ⟨known, payload, subject⟩ := valid_trusted_rule valid
  constructor
  · intro effective
    refine ⟨effective.named, ?_⟩
    intro text
    obtain ⟨ctx, applies⟩ := effective.applicable
    obtain ⟨_, matched⟩ := (trusted_rule_reads_iff enabled text ctx).mp applies
    refine ⟨never_fails_iff.mp (effective.neverFails text), ?_⟩
    rcases matched with ⟨_, tool⟩ | ⟨_, command⟩ | ⟨_, path, _, hit⟩
    · exact ⟨_, tool⟩
    · exact ⟨_, command⟩
    · exact ⟨path, hit⟩
  rintro ⟨named, readable⟩
  constructor
  · by_cases text : rule.matcherType = .structured
    · obtain ⟨matcher, isMatcher⟩ := Option.ne_none_iff_exists'.mp (payload text)
      refine ⟨inScopeOf rule.scopeRef (structuredContext matcher), ?_⟩
      have inScope := scope_matches_in_scope known named (structuredContext matcher)
      unfold trustedRuleApplies
      rw [if_neg (by simp [enabled, inScope]), if_pos text, isMatcher]
      exact match_structured_context matcher rule.scopeRef
    obtain ⟨_, value, matched⟩ := readable text
    let ctx : Context :=
      { toolName := value, summary := value, affectedPaths := [value], approvalTier := .safe }
    refine ⟨inScopeOf rule.scopeRef ctx, ?_⟩
    rw [trusted_rule_reads_iff enabled text]
    refine ⟨scope_matches_in_scope known named ctx, ?_⟩
    rcases subject with tool | command | path
    · exact .inl ⟨tool, matched⟩
    · exact .inr (.inl ⟨command, matched⟩)
    · exact .inr (.inr ⟨path, value, List.mem_cons_self, matched⟩)
  · exact named
  · exact fun text => never_fails_iff.mpr (readable text).1

end

/-- Accepted rules are effective exactly if they name their scope and have a pattern that
can be read and matches something. -/
theorem accepted_rules_effective_iff (lib : RegexpLibrary) :
    (∀ rule, AcceptedIgnoreRule rule → (IgnoreRuleEffective lib rule ↔
        NamesScope rule.scope rule.scopeRef ∧
          PatternReadable lib rule.matcherType rule.pattern ∧
            ∃ value, Reads lib rule.matcherType rule.pattern value)) ∧
      ∀ rule, AcceptedTrustedRule rule → (TrustedRuleEffective lib rule ↔
        NamesScope rule.scope rule.scopeRef ∧
          (rule.matcherType ≠ .structured →
            PatternReadable lib rule.matcherType rule.matcher ∧
              ∃ value, Reads lib rule.matcherType rule.matcher value)) :=
  ⟨fun _ accepted => ignore_rule_effective_iff accepted,
    fun _ accepted => trusted_rule_effective_iff accepted⟩

def literalExpressions : RegexpLibrary where
  compile pattern := if pattern.toList.all Char.isAlphanum then some (· == pattern) else none
  lower := Char.toLower

def denyGlob (pattern : String) : IgnoreRule where
  id := "ignore_1"
  scope := .global
  matcherType := .glob
  pattern := pattern
  mode := .deny
  enabled := true

def denyGlobInput (pattern : String) : AddIgnoreRuleInput where
  scope := .global
  matcherType := .glob
  pattern := pattern
  mode := .deny

theorem accepted_rules_effective_pem :
    IgnoreRuleEffective literalExpressions (denyGlob "*.pem") := by
  have added : (addIgnoreRuleTool { repoRoot := "/repo" } "ignore_1" true (defaultConfig "/repo" [])
      (denyGlobInput "*.pem")).map Prod.fst = .ok (denyGlob "*.pem") := by
    decide +kernel
  have accepted : AcceptedIgnoreRule (denyGlob "*.pem") := by
    cases stored : addIgnoreRuleTool { repoRoot := "/repo" } "ignore_1" true
        (defaultConfig "/repo" []) (denyGlobInput "*.pem") with
    | error err =>
      rw [stored] at added
      cases added
    | ok result =>
      rw [stored] at added
      have same : result.1 = denyGlob "*.pem" := Except.ok.inj added
      exact .inr ⟨_, _, _, _, result.2, by rw [stored, ← same]⟩
  apply ((accepted_rules_effective_iff literalExpressions).1 _ accepted).mpr
  refine ⟨.inl rfl, ?_, "server.pem", ?_⟩
  · exact (by decide +kernel : Filepath.patternWellFormed "*.pem" = true)
  · have matched : Filepath.matchError "*.pem" "server.pem" = .ok true := by decide +kernel
    simp only [Reads, matchStringOr, denyGlob, matched]

/-- A deny rule whose class is not closed is accepted and denies nothing. -/
theorem unclosed_class_denies_nothing : ¬∀ lib :
    RegexpLibrary, (∀ rule, AcceptedIgnoreRule rule → IgnoreRuleEffective lib rule) ∧
    ∀ rule, AcceptedTrustedRule rule → TrustedRuleEffective lib rule := by
  intro claim
  have effective := (claim literalExpressions).1 (denyGlob "secret[0-9") ?_
  · obtain ⟨matched, reads⟩ := effective.neverFails "secret1"
    cases reads
  · refine .inr ⟨{ repoRoot := "/repo" }, "ignore_1", { }, denyGlobInput "secret[0-9",
      { ignoreRules := [denyGlob "secret[0-9"] }, ?_⟩
    decide +kernel

section

open List

/-- The configuration after a sequence of calls that add rules, the failing ones among them. -/
def afterCalls {Rule : Type}
    (add : String → Bool → Config → Rule → Except StoreError (Rule × Config)) (cfg : Config)
    (calls : List (String × Bool × Rule)) : Config :=
  calls.foldl (fun cfg (newID, written, rule) =>
    match add newID written cfg rule with
    | .ok (_, next) => next
    | .error _ => cfg) cfg

variable (lib : TextLibrary) (ctx : Context) (cfg : Config)

def NoLooser (next : Config) : Prop :=
  next.defaultCapabilities = cfg.defaultCapabilities ∧
    (AsksConfirmation lib cfg ctx → AsksConfirmation lib next ctx)

theorem ignore_calls_tighten (calls : List (String × Bool × IgnoreRule)) :
    NoLooser lib ctx cfg (afterCalls addIgnoreRule cfg calls) := by
  refine foldlRecOn (motive := NoLooser lib ctx cfg) calls _ ⟨rfl, id⟩ ?_
  rintro current ⟨same, asks⟩ ⟨newID, written, given⟩ -
  dsimp only
  split
  · next rule next added =>
    obtain ⟨-, -, rfl⟩ := add_ignore_rule_accepts added
    refine ⟨same, fun before => (asks before).imp_right (Or.imp_left ?_)⟩
    rintro ⟨checks, unapproved, denier, first, denies⟩
    exact ⟨checks, unapproved, denier, by rw [find?_append, first, Option.some_or], denies⟩
  · exact ⟨same, asks⟩

theorem trusted_calls_loosen (calls : List (String × Bool × TrustedRule)) :
    NoLooser lib ctx (afterCalls addTrustedRule cfg calls) cfg := by
  refine foldlRecOn (motive := (NoLooser lib ctx · cfg)) calls _ ⟨rfl, id⟩ ?_
  rintro current ⟨same, asks⟩ ⟨newID, written, given⟩ -
  dsimp only
  split
  · next rule next added =>
    obtain ⟨-, -, rfl⟩ := add_trusted_rule_accepts added
    refine ⟨same, fun after => asks (after.imp_right (Or.imp_right ?_))⟩
    rintro ⟨unapproved, destructive | ⟨dangerous, untrusted⟩⟩
    · exact ⟨unapproved, .inl destructive⟩
    refine ⟨unapproved, .inr ⟨dangerous, fun ⟨⟨known, mem, applies⟩, auto⟩ => ?_⟩⟩
    exact untrusted ⟨⟨known, mem_append_left _ mem, applies⟩, auto⟩
  · exact ⟨same, asks⟩

variable {lib ctx cfg}

theorem NoLooser.misses_iff (noLooser : NoLooser lib ctx cfg next) :
    MissesCapability next ctx ↔ MissesCapability cfg ctx := by
  unfold MissesCapability Granted
  rw [noLooser.1]

theorem NoLooser.allowed (noLooser : NoLooser lib ctx cfg next)
    (allowed : (evaluate lib next ctx).allowed = true) : (evaluate lib cfg ctx).allowed = true := by
  rw [evaluate_allowed_iff] at allowed ⊢
  rw [noLooser.misses_iff] at allowed
  exact allowed.imp_right (mt noLooser.2)

/-- Added ignore rules allow nothing new and added trusted rules forbid nothing, and neither changes
the verdict on what the user has approved. -/
theorem added_rules_bound_verdicts (lib : TextLibrary) (cfg : Config) (ctx : Context)
    (ignores : List (String × Bool × IgnoreRule)) (trusts : List (String × Bool × TrustedRule)) :
    let ignoring := afterCalls addIgnoreRule cfg ignores
    let trusting := afterCalls addTrustedRule cfg trusts
    ((evaluate lib ignoring ctx).allowed = true → (evaluate lib cfg ctx).allowed = true) ∧
    ((evaluate lib cfg ctx).allowed = true → (evaluate lib trusting ctx).allowed = true) ∧
    (ctx.hasApproval = true →
      (evaluate lib ignoring ctx).allowed = (evaluate lib trusting ctx).allowed) := by
  intro ignoring trusting
  have tight := ignore_calls_tighten lib ctx cfg ignores
  have loose := trusted_calls_loosen lib ctx cfg trusts
  refine ⟨tight.allowed, loose.allowed, fun approved => ?_⟩
  have asksNot : ∀ config, ¬AsksConfirmation lib config ctx := by
    simp [AsksConfirmation, OutsideRoots, AwaitsApproval, approved]
  rw [Bool.eq_iff_iff, evaluate_allowed_iff, evaluate_allowed_iff, tight.misses_iff,
    ← loose.misses_iff]
  simp only [asksNot]

end

end RuneTerminal.Policy
