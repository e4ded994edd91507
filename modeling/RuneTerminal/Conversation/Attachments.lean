import RuneTerminal.Conversation.Store
import RuneTerminal.Go.Scanner
import RuneTerminal.Kit.PathWalk
import RuneTerminal.Kit.Transition
import RuneTerminal.Kit.Utf8
import RuneTerminal.Policy.IgnoreRules

/-! The attachment resolver of `core/app`: an attachment is looked up by its canonical path, the
policy is asked about that path, and the text of a file goes into the prompt unless policy, size or
type speak against it. -/

namespace RuneTerminal.Conversation

open Go
open Go.Strings (trimSpace hasPrefix TextLibrary)
open Kit (FileTree.Tree FileTree.Node)
open Policy (EvaluationProfile IgnoreMode Reason IgnoreRule evaluate matchString scopeMatches)
open List

inductive DiskError where
  | notExist
  | other (text : String)
  deriving DecidableEq

structure FileInfo where
  isDir : Bool
  size : Int
  modTime : Int

/-- What the calls of `path/filepath` and `os` give. An opened file is what reading it
to its end gives. -/
structure Disk where
  evalSymlinks : String → Except DiskError String
  stat : String → Except DiskError FileInfo
  openFile : String → Except DiskError (Except DiskError Bytes)

structure FileData where
  payload : Bytes
  modTime : Int

def diskError : Kit.FileTree.OsError → DiskError
  | .notExist => .notExist
  | .notDir => .other "not a directory"
  | .tooManyLinks => .other "too many links"
  | .exist => .other "file exists"
  | .nameTooLong => .other "file name too long"
  | .invalid => .other "invalid argument"
  | .crossDevice => .other "invalid cross-device link"
  | .busy => .other "device or resource busy"

def nodeInfo : FileTree.Node Filepath.Name FileData → FileInfo
  | .file data => { isDir := false, size := data.payload.length, modTime := data.modTime }
  | _ => { isDir := true, size := 0, modTime := 0 }

def nodePayload : FileTree.Node Filepath.Name FileData → Except DiskError Bytes
  | .file data => .ok data.payload
  | _ => .error (.other "is a directory")

/-- The calls on a tree. A relative path depends on the working directory, so it has
calls of its own. -/
def treeDisk (relative : Disk) (tree : FileTree.Tree Filepath.Name FileData) : Disk where
  evalSymlinks path :=
    if Filepath.isAbs path.toList then
      match Kit.FileTree.evalSymlinks tree (Filepath.cleanPath path.toList) with
      | .ok place => .ok (String.ofList (Filepath.writePath place))
      | .error err => .error (diskError err)
    else relative.evalSymlinks path
  stat path :=
    if Filepath.isAbs path.toList then
      match Kit.FileTree.stat tree (Filepath.cleanPath path.toList) with
      | .ok (_, node) => .ok (nodeInfo node)
      | .error err => .error (diskError err)
    else relative.stat path
  openFile path :=
    if Filepath.isAbs path.toList then
      match Kit.FileTree.stat tree (Filepath.cleanPath path.toList) with
      | .ok (_, node) => .ok (nodePayload node)
      | .error err => .error (diskError err)
    else relative.openFile path

inductive AttachmentError where
  | invalidAttachmentPath
  | attachmentNotFound (path : String)
  | attachmentNotFile (path : String)
  | policyDenied (path : String) (reason : Reason) (ignoreRuleID : String)
      (ignoreMode : IgnoreMode)
  | disk (err : DiskError)
  deriving DecidableEq

/-- An attachment as it was found, with the text that the prompt gets. -/
structure ResolvedAttachment where
  reference : AttachmentReference
  content : String := ""
  contentRead : Bool := false
  truncated : Bool := false
  skipped : Bool := false
  skipReason : String := ""
  detectedMime : String
  deriving DecidableEq

structure AttachmentResolverLimits where
  maxFileBytes : Int
  maxReadBytes : Int
  maxChars : Int

structure AttachmentPolicyGuard where
  config : Policy.Config
  context : Policy.Context

def defaultAttachmentResolverLimits : AttachmentResolverLimits where
  maxFileBytes := 256 * 1024
  maxReadBytes := 32 * 1024
  maxChars := 8000

def AttachmentResolverLimits.orDefault (limits : AttachmentResolverLimits) :
    AttachmentResolverLimits where
  maxFileBytes := if limits.maxFileBytes < 1 then 256 * 1024 else limits.maxFileBytes
  maxReadBytes := if limits.maxReadBytes < 1 then 32 * 1024 else limits.maxReadBytes
  maxChars := if limits.maxChars < 1 then 8000 else limits.maxChars

/-- The functions of the standard library behind a text or a type of a file. -/
structure Library where
  text : TextLibrary
  typeByExtension : String → String

def lookupError (path : String) : DiskError → AttachmentError
  | .notExist => .attachmentNotFound path
  | err => .disk err

def statAttachmentPath (disk : Disk) (rawPath : String) :
    Except AttachmentError (String × FileInfo) :=
  let path := trimSpace rawPath
  if path = "" then .error .invalidAttachmentPath
  else
    let normalizedPath := Filepath.clean path
    if normalizedPath = "." ∨ ¬Filepath.isAbs normalizedPath.toList then
      .error .invalidAttachmentPath
    else
      match disk.evalSymlinks normalizedPath with
      | .error err => .error (lookupError normalizedPath err)
      | .ok evaluated =>
        let canonicalPath := Filepath.clean evaluated
        if canonicalPath = "." ∨ ¬Filepath.isAbs canonicalPath.toList then
          .error .invalidAttachmentPath
        else
          match disk.stat canonicalPath with
          | .error err => .error (lookupError canonicalPath err)
          | .ok info =>
            if info.isDir then .error (.attachmentNotFile canonicalPath)
            else .ok (canonicalPath, info)

/-- `strings.ToValidUTF8` with nothing in the place of other bytes; the first `skipped`
bytes belong to a character that has been read. -/
def validChars : Nat → Bytes → List Char
  | _, [] => []
  | skipped + 1, _ :: rest => validChars skipped rest
  | 0, byte :: rest =>
    match (byte :: rest).toByteArray.utf8DecodeChar? 0 with
    | some c => c :: validChars (c.utf8Size - 1) rest
    | none => validChars 0 rest

def readAttachmentText (disk : Disk) (path : String) (maxReadBytes maxChars : Int) :
    Except AttachmentError (String × Bool) :=
  match disk.openFile path with
  | .error err => .error (lookupError path err)
  | .ok (.error err) => .error (.disk err)
  | .ok (.ok bytes) =>
    let payload := bytes.take (maxReadBytes + 1).toNat
    let tooLong : Bool := maxReadBytes < payload.length
    let kept := if tooLong then payload.take maxReadBytes.toNat else payload
    let text := trimSpace (String.ofList (validChars 0 kept))
    if text = "" then .ok ("", tooLong)
    else if maxChars < text.length then
      .ok (String.ofList (text.toList.take maxChars.toNat), true)
    else .ok (text, tooLong)

def attachmentMimeType (lib : Library) (path fallback : String) : String :=
  if trimSpace fallback ≠ "" then trimSpace fallback
  else
    let detected := trimSpace (lib.typeByExtension (Filepath.ext path))
    if detected ≠ "" then detected else "application/octet-stream"

def textMimeTypes : List String :=
  [ "application/json",
    "application/ld+json",
    "application/xml",
    "application/yaml",
    "application/x-yaml",
    "application/x-sh",
    "application/javascript" ]

def textExtensions : List String :=
  [ ".txt", ".md", ".markdown", ".rst",
    ".json", ".jsonl", ".yaml", ".yml", ".toml", ".ini",
    ".xml", ".csv", ".log",
    ".go", ".ts", ".tsx", ".js", ".jsx", ".mjs", ".cjs",
    ".py", ".rs", ".java", ".kt", ".swift", ".c", ".h", ".cpp", ".hpp",
    ".sh", ".bash", ".zsh", ".fish", ".sql", ".graphql" ]

def isTextLikeAttachment (lib : Library) (path mimeType : String) : Bool :=
  let mimeType := lib.text.toLower (trimSpace mimeType)
  if hasPrefix mimeType "text/" then true
  else if textMimeTypes.contains mimeType then true
  else textExtensions.contains (lib.text.toLower (Filepath.ext path))

def firstNonEmptyValue (values : List String) : String :=
  (values.find? (trimSpace · ≠ "")).getD ""

def AttachmentPolicyGuard.contextFor (guard : AttachmentPolicyGuard) (path : String) :
    Policy.Context :=
  { guard.context with affectedPaths := [path] }

/-- The reason to skip the text of the file, which is empty where there is none. -/
def evaluateAttachmentPolicy (lib : Library) (guard : Option AttachmentPolicyGuard)
    (path : String) : Except AttachmentError String :=
  match guard with
  | none => .ok ""
  | some guard =>
    let decision := Policy.evaluate lib.text guard.config (guard.contextFor path)
    if !decision.allowed || decision.requiresConfirmation then
      .error
        (.policyDenied path decision.reason decision.matchedIgnoreRuleID decision.ignoreMode)
    else
      match decision.ignoreMode with
      | .metadataOnly => .ok "policy_metadata_only"
      | .redact => .ok "policy_redacted"
      | _ => .ok ""

/-- One round of the loop of `resolveConversationAttachmentsWithPolicy`. -/
def resolveAttachment (lib : Library) (disk : Disk) (limits : AttachmentResolverLimits)
    (guard : Option AttachmentPolicyGuard) (attachment : AttachmentReference) :
    Except AttachmentError ResolvedAttachment :=
  match statAttachmentPath disk attachment.path with
  | .error err => .error err
  | .ok (path, info) =>
    let detectedMime := attachmentMimeType lib path attachment.mimeType
    let resolved : ResolvedAttachment :=
      { reference :=
          { attachment with
            path := path
            name := firstNonEmptyValue [trimSpace attachment.name, Filepath.base path]
            size := info.size
            modifiedTime := info.modTime
            mimeType := detectedMime }
        detectedMime := detectedMime }
    match evaluateAttachmentPolicy lib guard path with
    | .error err => .error err
    | .ok policySkipReason =>
      if policySkipReason ≠ "" then
        .ok { resolved with skipped := true, skipReason := policySkipReason }
      else if info.size > limits.maxFileBytes then
        .ok { resolved with skipped := true, skipReason := "file_too_large" }
      else if !isTextLikeAttachment lib path detectedMime then
        .ok { resolved with skipped := true, skipReason := "unsupported_type" }
      else
        match readAttachmentText disk path limits.maxReadBytes limits.maxChars with
        | .error err => .error err
        | .ok (content, truncated) =>
          .ok { resolved with
            content := content
            contentRead := content ≠ ""
            truncated := truncated }

def resolveConversationAttachmentsWithPolicy (lib : Library) (disk : Disk)
    (attachments : List AttachmentReference) (limits : AttachmentResolverLimits)
    (guard : Option AttachmentPolicyGuard) : Except AttachmentError (List ResolvedAttachment) :=
  attachments.mapM (resolveAttachment lib disk limits.orDefault guard)

def attachmentLines (number : Nat) (attachment : ResolvedAttachment) : List String :=
  [ s!"[{number}] {attachment.reference.name}",
    s!"- path: {attachment.reference.path}",
    s!"- mime_type: {attachment.reference.mimeType}",
    s!"- size_bytes: {attachment.reference.size}",
    s!"- modified_unix: {attachment.reference.modifiedTime}" ] ++
  if attachment.skipped then [s!"- status: skipped ({attachment.skipReason})"]
  else if attachment.contentRead then
    [ s!"- status: included (truncated={attachment.truncated})",
      "- content_excerpt:",
      "```text",
      attachment.content,
      "```" ]
  else ["- status: included (no_text_content)"]

def buildAttachmentContextBlock (attachments : List ResolvedAttachment) : String :=
  if attachments = [] then ""
  else
    let visible := attachments.take 4
    let omitted := attachments.length - visible.length
    let lines := "Attachment context (local references, bounded):" ::
      (visible.zipIdx 1).flatMap (fun (attachment, number) => attachmentLines number attachment) ++
        if omitted = 0 then [] else [s!"- additional_attachments_omitted: {omitted}"]
    trimSpace ("\n".intercalate lines)

def buildPromptWithAttachmentContext (prompt : String) (attachments : List ResolvedAttachment) :
    String :=
  let basePrompt := trimSpace prompt
  let contextBlock := buildAttachmentContextBlock attachments
  if contextBlock = "" then basePrompt
  else if basePrompt = "" then contextBlock
  else basePrompt ++ "\n\n" ++ contextBlock

def canonicalizeExistingPath (disk : Disk) (path : String) : String :=
  let path := trimSpace path
  if path = "" then ""
  else
    let cleaned := Filepath.clean path
    match disk.evalSymlinks cleaned with
    | .error _ => cleaned
    | .ok canonical => Filepath.clean canonical

def canonicalizeAttachmentPolicyConfig (disk : Disk) (config : Policy.Config) : Policy.Config :=
  { config with
    allowedRoots := config.allowedRoots.map (canonicalizeExistingPath disk)
    ignoreRules := config.ignoreRules.map fun rule =>
      if rule.scope = .repo then
        { rule with scopeRef := canonicalizeExistingPath disk rule.scopeRef }
      else rule
    trustedRules := config.trustedRules.map fun rule =>
      if rule.scope = .repo then
        { rule with scopeRef := canonicalizeExistingPath disk rule.scopeRef }
      else rule }

/-- What the guard is made of: the configuration in the store, the repository of the
runtime and the context of the conversation. -/
structure AttachmentRequest where
  config : Policy.Config
  runtimeRepoRoot : String
  contextRepoRoot : String := ""
  workspaceID : String := ""
  profile : EvaluationProfile := {}

def attachmentPolicyGuard (disk : Disk) (request : AttachmentRequest) : AttachmentPolicyGuard :=
  let runtimeRoot := trimSpace request.runtimeRepoRoot
  let repoRoot := if runtimeRoot = "" then trimSpace request.contextRepoRoot else runtimeRoot
  { config := canonicalizeAttachmentPolicyConfig disk request.config
    context :=
      { toolName := "agent.conversation.attachment"
        summary := "include conversation attachment"
        workspaceID := trimSpace request.workspaceID
        repoRoot := canonicalizeExistingPath disk repoRoot
        requiredCapabilities := ["workspace:read"]
        approvalTier := .safe
        requiresAllowedRoots := true
        checksIgnoreRules := true
        evaluationProfile := request.profile } }

/-- The prompt for the provider that `prepareConversationSubmit` builds. -/
def providerPrompt (lib : Library) (disk : Disk) (request : AttachmentRequest) (prompt : String)
    (attachments : List AttachmentReference) : Except AttachmentError String :=
  (resolveConversationAttachmentsWithPolicy lib disk attachments defaultAttachmentResolverLimits
    (some (attachmentPolicyGuard disk request))).map (buildPromptWithAttachmentContext prompt)

variable {path : String}

section

variable (lib : Library) (guard : AttachmentPolicyGuard)

def Protects (rule : IgnoreRule) (path : String) : Prop :=
  rule.enabled = true ∧ scopeMatches rule.scope rule.scopeRef guard.context = true ∧
    (matchString lib.text rule.matcherType rule.pattern (Filepath.base path) = true ∨
      matchString lib.text rule.matcherType rule.pattern path = true)

def KnownMode (mode : IgnoreMode) : Prop :=
  mode = .deny ∨ mode = .metadataOnly ∨ mode = .redact

def Allowed (path : String) : Prop :=
  (evaluate lib.text guard.config (guard.contextFor path)).allowed = true ∧
    (evaluate lib.text guard.config (guard.contextFor path)).requiresConfirmation = false

/-- The policy allows the file to be read, and no rule protects it, unless the first one
that does has a mode that the store does not accept. -/
def Cleared (path : String) : Prop :=
  Allowed lib guard path ∧
    ∀ passed rule rest, guard.config.ignoreRules = passed ++ rule :: rest →
      (∀ other ∈ passed, ¬Protects lib guard other path) → Protects lib guard rule path →
      ¬KnownMode rule.mode

theorem protects_iff {rule : IgnoreRule} : Protects lib guard rule path ↔
    Policy.ignoreRuleApplies lib.text rule (guard.contextFor path) = true := by
  rw [Policy.ignore_rule_applies_iff]
  constructor
  · rintro ⟨enabled, inScope, hit⟩
    exact ⟨enabled, inScope, path, mem_singleton_self path, hit⟩
  · rintro ⟨enabled, inScope, other, mem, hit⟩
    rw [mem_singleton.mp mem] at hit
    exact ⟨enabled, inScope, hit⟩

variable {lib guard}

theorem cleared_of_no_reason (checks : guard.context.checksIgnoreRules = true)
    (unapproved : guard.context.hasApproval = false)
    (evaluated : evaluateAttachmentPolicy lib (some guard) path = .ok "") :
    Cleared lib guard path := by
  unfold evaluateAttachmentPolicy at evaluated
  dsimp only at evaluated
  split_ifs at evaluated with refused
  have isAllowed : Allowed lib guard path := by
    rw [Bool.or_eq_true, not_or] at refused
    exact ⟨by simpa using refused.1, by simpa using refused.2⟩
  refine ⟨isAllowed, ?_⟩
  intro passed rule rest split first protects
  have found : guard.config.ignoreRules.find?
      (Policy.ignoreRuleApplies lib.text · (guard.contextFor path)) = some rule := by
    rw [find?_eq_some_iff_append]
    refine ⟨(protects_iff lib guard).mp protects, passed, rest, split, ?_⟩
    intro other mem
    simpa [protects_iff] using first other mem
  have mode := Policy.evaluate_ignore_mode lib.text guard.config (guard.contextFor path) checks
    isAllowed.1
  rw [mode, found] at evaluated
  rintro (deny | metadata | redact)
  · -- A deny rule in the first place asks for a confirmation.
    have asks : Policy.AsksConfirmation lib.text guard.config (guard.contextFor path) :=
      .inr (.inl ⟨checks, unapproved, rule, found, deny⟩)
    exact ((Policy.evaluate_allowed_iff lib.text guard.config _).mp isAllowed.1).2 asks
  · simp [metadata] at evaluated
  · simp [redact] at evaluated

end

section

variable {lib : Library} {disk : Disk} {limits : AttachmentResolverLimits}
  {guard : AttachmentPolicyGuard} {attachment : AttachmentReference}

theorem resolve_attachment_text {resolved : ResolvedAttachment}
    (resolves : resolveAttachment lib disk limits (some guard) attachment = .ok resolved)
    (hasText : resolved.content ≠ "") :
    (∃ info, statAttachmentPath disk attachment.path = .ok (resolved.reference.path, info)) ∧
    evaluateAttachmentPolicy lib (some guard) resolved.reference.path = .ok "" ∧
    ∃ truncated,
      readAttachmentText disk resolved.reference.path limits.maxReadBytes limits.maxChars =
        .ok (resolved.content, truncated) := by
  unfold resolveAttachment at resolves
  cases located : statAttachmentPath disk attachment.path with
  | error err =>
    rw [located] at resolves
    cases resolves
  | ok found =>
    obtain ⟨path, info⟩ := found
    rw [located] at resolves
    dsimp only at resolves
    cases judged : evaluateAttachmentPolicy lib (some guard) path with
    | error err =>
      rw [judged] at resolves
      cases resolves
    | ok reason =>
      rw [judged] at resolves
      dsimp only at resolves
      split_ifs at resolves with skips tooLarge unsupported
      · cases resolves
        exact absurd rfl hasText
      · cases resolves
        exact absurd rfl hasText
      · cases resolves
        exact absurd rfl hasText
      cases read : readAttachmentText disk path limits.maxReadBytes limits.maxChars with
      | error err =>
        rw [read] at resolves
        cases resolves
      | ok excerpt =>
        obtain ⟨content, truncated⟩ := excerpt
        rw [read] at resolves
        cases resolves
        rw [not_not.mp skips] at judged
        exact ⟨⟨info, rfl⟩, judged, truncated, read⟩

/-- The disks differ only in files that the policy does not clear. -/
structure SameCleared (lib : Library) (guard : AttachmentPolicyGuard) (disk other : Disk) :
    Prop where
  evalSymlinks : other.evalSymlinks = disk.evalSymlinks
  stat : other.stat = disk.stat
  openFile : ∀ rawPath path info, statAttachmentPath disk rawPath = .ok (path, info) →
    Cleared lib guard path → other.openFile path = disk.openFile path

theorem stat_attachment_path_congr {other : Disk} (same : SameCleared lib guard disk other)
    (rawPath : String) : statAttachmentPath other rawPath = statAttachmentPath disk rawPath := by
  unfold statAttachmentPath
  rw [same.evalSymlinks, same.stat]

theorem resolve_attachment_congr (checks : guard.context.checksIgnoreRules = true)
    (unapproved : guard.context.hasApproval = false) {other : Disk}
    (same : SameCleared lib guard disk other) :
    resolveAttachment lib other limits (some guard) attachment =
      resolveAttachment lib disk limits (some guard) attachment := by
  unfold resolveAttachment
  rw [stat_attachment_path_congr same]
  cases located : statAttachmentPath disk attachment.path with
  | error err => rfl
  | ok found =>
    obtain ⟨path, info⟩ := found
    dsimp only
    cases judged : evaluateAttachmentPolicy lib (some guard) path with
    | error err => rfl
    | ok reason =>
      dsimp only
      by_cases skips : reason ≠ ""
      · rw [if_pos skips, if_pos skips]
      rw [not_not.mp skips] at judged
      have opened := same.openFile _ path info located
        (cleared_of_no_reason checks unapproved judged)
      unfold readAttachmentText
      rw [opened]

end

section

variable (lib : Library) (disk : Disk) (request : AttachmentRequest)

/-- The text of the attachment is an excerpt of the file that its path leads to, and the
policy clears that file. -/
def ClearedText (limits : AttachmentResolverLimits) (attachment : AttachmentReference)
    (resolved : ResolvedAttachment) : Prop :=
  ∃ path info truncated, statAttachmentPath disk attachment.path = .ok (path, info) ∧
    readAttachmentText disk path limits.orDefault.maxReadBytes limits.orDefault.maxChars =
      .ok (resolved.content, truncated) ∧
    Cleared lib (attachmentPolicyGuard disk request) path

/-- The text of a file gets into the result and into the prompt only if the policy clears
the canonical path of the file. -/
theorem attachment_text_is_cleared (limits : AttachmentResolverLimits)
    (attachments : List AttachmentReference) :
    (∀ resolved : List ResolvedAttachment,
      resolveConversationAttachmentsWithPolicy lib disk attachments limits
        (some (attachmentPolicyGuard disk request)) =
        .ok resolved →
      ∀ (index : Nat) item, resolved[index]? = some item → item.content ≠ "" →
        ∃ attachment, attachments[index]? = some attachment ∧
          ClearedText lib disk request limits attachment item) ∧
    ∀ other, SameCleared lib (attachmentPolicyGuard disk request) disk other →
      resolveConversationAttachmentsWithPolicy lib other attachments limits
          (some (attachmentPolicyGuard other request)) =
          resolveConversationAttachmentsWithPolicy lib disk attachments limits
            (some (attachmentPolicyGuard disk request)) ∧
        ∀ prompt,
          providerPrompt lib other request prompt attachments =
            providerPrompt lib disk request prompt attachments := by
  constructor
  · intro resolved resolves index item isItem hasText
    obtain ⟨attachment, isAttachment, one⟩ := Kit.result_of_map_m resolves isItem
    obtain ⟨⟨info, located⟩, judged, truncated, read⟩ := resolve_attachment_text one hasText
    refine ⟨attachment, isAttachment, item.reference.path, info, truncated, located, read, ?_⟩
    exact cleared_of_no_reason rfl rfl judged
  intro other same
  have sameGuard : attachmentPolicyGuard other request = attachmentPolicyGuard disk request := by
    have canonical : canonicalizeExistingPath other = canonicalizeExistingPath disk := by
      funext path
      unfold canonicalizeExistingPath
      rw [same.evalSymlinks]
    unfold attachmentPolicyGuard canonicalizeAttachmentPolicyConfig
    rw [canonical]
  have sameRounds : ∀ limits, resolveAttachment lib other limits
        (some (attachmentPolicyGuard disk request)) =
      resolveAttachment lib disk limits (some (attachmentPolicyGuard disk request)) := by
    intro limits
    funext attachment
    exact resolve_attachment_congr rfl rfl same
  constructor
  · unfold resolveConversationAttachmentsWithPolicy
    rw [sameGuard, sameRounds]
  · intro prompt
    unfold providerPrompt resolveConversationAttachmentsWithPolicy
    rw [sameGuard, sameRounds]

end

def nameW : Filepath.Name := ⟨"w".toList, by decide⟩

def nameNotes : Filepath.Name := ⟨"notes.txt".toList, by decide⟩

def nameKey : Filepath.Name := ⟨"server.pem".toList, by decide⟩

/-- A repository `/w` with a file, and a link to it whose name a rule is about. -/
def linkedKey : FileTree.Tree Filepath.Name FileData :=
  ((Kit.FileTree.Tree.bare.create [nameW] .dir rfl rfl).create [nameW, nameNotes]
    (.file { payload := [104, 105], modTime := 7 }) rfl rfl).create
    [nameW, nameKey] (.link ⟨false, [.name nameNotes]⟩) rfl rfl

def noRelativePaths : Disk where
  evalSymlinks _ := .error .notExist
  stat _ := .error .notExist
  openFile _ := .error .notExist

def plainLibrary : Library where
  text := Policy.plainText
  typeByExtension _ := ""

def globRule (pattern : String) (mode : IgnoreMode) : IgnoreRule where
  id := "ignore-1"
  scope := .global
  matcherType := .glob
  pattern := pattern
  mode := mode
  enabled := true

def ruleRequest (pattern : String) (mode : IgnoreMode) : AttachmentRequest where
  config := { Policy.defaultConfig "/w" [] with ignoreRules := [globRule pattern mode] }
  runtimeRepoRoot := "/w"

def attachmentOf (path : String) : AttachmentReference where
  id := "att_1"
  name := ""
  path := path
  mimeType := "text/plain"
  size := 2
  modifiedTime := 7

def resolvedNotes : ResolvedAttachment where
  reference := { attachmentOf "/w/notes.txt" with name := "notes.txt" }
  content := "hi"
  contentRead := true
  detectedMime := "text/plain"

theorem resolve_linked_key :
    resolveConversationAttachmentsWithPolicy plainLibrary (treeDisk noRelativePaths linkedKey)
      [attachmentOf "/w/server.pem"] defaultAttachmentResolverLimits
      (some
        (attachmentPolicyGuard (treeDisk noRelativePaths linkedKey) (ruleRequest "*.pem" .deny))) =
      .ok [resolvedNotes] := by
  decide +kernel

theorem resolve_unknown_mode :
    resolveConversationAttachmentsWithPolicy plainLibrary (treeDisk noRelativePaths linkedKey)
      [attachmentOf "/w/notes.txt"] defaultAttachmentResolverLimits
      (some
        (attachmentPolicyGuard (treeDisk noRelativePaths linkedKey)
          (ruleRequest "*.txt" (.other "hide")))) =
      .ok [resolvedNotes] := by
  decide +kernel

theorem glob_rule_protects (disk : Disk) (mode : IgnoreMode) {pattern : String}
    (hit : Filepath.matchName pattern (Filepath.base path) = true) :
    globRule pattern mode ∈
      (attachmentPolicyGuard disk (ruleRequest pattern mode)).config.ignoreRules ∧
    Protects plainLibrary (attachmentPolicyGuard disk (ruleRequest pattern mode))
      (globRule pattern mode) path :=
  ⟨mem_singleton_self _, rfl, rfl, .inl hit⟩

theorem attachment_text_is_cleared_notes :
    ∃ attachment, [attachmentOf "/w/server.pem"][0]? = some attachment ∧
      ClearedText plainLibrary (treeDisk noRelativePaths linkedKey) (ruleRequest "*.pem" .deny)
        defaultAttachmentResolverLimits attachment resolvedNotes :=
  (attachment_text_is_cleared plainLibrary (treeDisk noRelativePaths linkedKey)
    (ruleRequest "*.pem" .deny) defaultAttachmentResolverLimits
    [attachmentOf "/w/server.pem"]).1 _ resolve_linked_key 0 resolvedNotes rfl (by decide)

def UnprotectedNames (lib : Library) (guard : AttachmentPolicyGuard)
    (attachment : AttachmentReference) (resolved : ResolvedAttachment) : Prop :=
  ∀ rule ∈ guard.config.ignoreRules,
    ¬Protects lib guard rule (Filepath.clean (trimSpace attachment.path)) ∧
      ¬Protects lib guard rule resolved.reference.path

/-- The text of a protected key is read through a link, and a rule with a mode that the
store does not accept protects nothing. -/
theorem linked_key_is_read :
    (¬∀ lib relative tree request limits attachments (resolved : List ResolvedAttachment),
      resolveConversationAttachmentsWithPolicy lib (treeDisk relative tree) attachments limits
        (some (attachmentPolicyGuard (treeDisk relative tree) request)) =
        .ok resolved →
      ∀ (index : Nat) attachment item, attachments[index]? = some attachment →
        resolved[index]? = some item → item.content ≠ "" →
        Allowed lib (attachmentPolicyGuard (treeDisk relative tree) request) item.reference.path ∧
          UnprotectedNames lib (attachmentPolicyGuard (treeDisk relative tree) request) attachment
            item) ∧
    ¬∀ lib relative tree request limits attachments (resolved : List ResolvedAttachment),
      resolveConversationAttachmentsWithPolicy lib (treeDisk relative tree) attachments limits
        (some (attachmentPolicyGuard (treeDisk relative tree) request)) =
        .ok resolved →
      ∀ item ∈ resolved, item.content ≠ "" →
        ∀ rule ∈ (attachmentPolicyGuard (treeDisk relative tree) request).config.ignoreRules,
          ¬Protects lib (attachmentPolicyGuard (treeDisk relative tree) request) rule
            item.reference.path := by
  constructor
  · intro claim
    have unprotected := (claim plainLibrary noRelativePaths linkedKey
      (ruleRequest "*.pem" .deny) _ _ _ resolve_linked_key 0
        (attachmentOf "/w/server.pem") resolvedNotes rfl rfl (by decide)).2
    have hit : Filepath.matchName "*.pem"
        (Filepath.base (Filepath.clean (trimSpace "/w/server.pem"))) = true := by
      decide +kernel
    have protects := glob_rule_protects (treeDisk noRelativePaths linkedKey) .deny hit
    exact (unprotected _ protects.1).1 protects.2
  · intro claim
    have unprotected := claim plainLibrary noRelativePaths linkedKey
      (ruleRequest "*.txt" (.other "hide")) _ _ _ resolve_unknown_mode resolvedNotes
      mem_cons_self (by decide)
    have hit : Filepath.matchName "*.txt" (Filepath.base "/w/notes.txt") = true := by
      decide +kernel
    have protects := glob_rule_protects (treeDisk noRelativePaths linkedKey) (.other "hide") hit
    exact unprotected _ protects.1 protects.2

end RuneTerminal.Conversation
