import RuneTerminal.Go.Scanner

/-! `core/audit/log.go`: events are appended as lines of JSON, and read back line by line. An append
may fail with the start of its line written. The encoding is a parameter. -/

namespace RuneTerminal.Audit

open Go List

/-- `timestamp` counts from the zero time. -/
structure Event where
  id : String := ""
  toolName : String := ""
  summary : String := ""
  workspaceID : String := ""
  promptProfileID : String := ""
  roleID : String := ""
  modeID : String := ""
  securityPosture : String := ""
  approvalTier : String := ""
  effectiveApprovalTier : String := ""
  trustedRuleID : String := ""
  ignoreRuleID : String := ""
  ignoreMode : String := ""
  success : Bool := false
  error : String := ""
  timestamp : Nat := 0
  approvalUsed : Bool := false
  actionSource : String := ""
  targetSession : String := ""
  targetConnectionID : String := ""
  affectedPaths : List String := []
  affectedWidgets : List String := []
  deriving DecidableEq

/-- `json.Marshal` and `json.Unmarshal` of an event. -/
structure JSONLibrary where
  marshal : Event → Option Bytes
  unmarshal : Bytes → Option Event

def maxAuditLineBytes : Nat := 1024 * 1024

/-- How far an append gets: the file is not opened, the write gives up behind so many
bytes, or it succeeds. -/
inductive WriteOutcome where
  | notOpened
  | givesUp (written : Nat)
  | succeeds
  deriving DecidableEq

structure AppendCall where
  event : Event
  newID : String
  now : Nat
  outcome : WriteOutcome

def AppendCall.recorded (call : AppendCall) : Event :=
  { call.event with
    id := if call.event.id = "" then call.newID else call.event.id
    timestamp := if call.event.timestamp = 0 then call.now else call.event.timestamp }

/-- The file after a call, and whether the call succeeds. The file is created when it is
opened, before the event is encoded. -/
def append (json : JSONLibrary) (file : Option Bytes) (call : AppendCall) :
    Option Bytes × Bool :=
  if call.outcome = .notOpened then (file, false)
  else
    let data := file.getD []
    match json.marshal call.recorded with
    | none => (some data, false)
    | some payload =>
      let line := payload ++ [newline]
      match call.outcome with
      | .notOpened => (file, false)
      | .givesUp written => (some (data ++ line.take written), false)
      | .succeeds => (some (data ++ line), true)

def collectEvent (limit : Int) (events : List Event) (event : Event) : List Event :=
  if 0 < limit then
    if events.length < limit then events ++ [event] else events.tail ++ [event]
  else events ++ [event]

def list (json : JSONLibrary) (file : Option Bytes) (limit : Int) : Except String (List Event) :=
  match file with
  | none => .ok []
  | some data =>
    let (lines, tooLong) := scanLines maxAuditLineBytes data
    let events := lines.foldl
      (fun events line =>
        match json.unmarshal line with
        | none => events
        | some event => collectEvent limit events event) []
    if tooLong then .error "bufio.Scanner: token too long" else .ok events

def lastEvents (limit : Int) (events : List Event) : List Event :=
  if 0 < limit then events.drop (events.length - limit.toNat) else events

theorem collect_events (limit : Int) (events : List Event) :
    events.foldl (collectEvent limit) [] = lastEvents limit events := by
  by_cases positive : 0 < limit
  · have window : collectEvent limit = Kit.pushWindow limit.toNat := by
      funext kept event
      have bound : (kept.length : Int) < limit ↔ kept.length < limit.toNat := by omega
      simp only [collectEvent, Kit.pushWindow, if_pos positive, bound]
    rw [window, Kit.foldl_push_window (by omega), lastEvents, if_pos positive]
  · have grows : collectEvent limit = fun kept event => kept ++ [event] := by
      funext kept event
      rw [collectEvent, if_neg positive]
    rw [grows, lastEvents, if_neg positive, foldl_append_eq_append, nil_append,
      ← flatMap_def, flatMap_singleton']

theorem list_eq (json : JSONLibrary) (data : Bytes) (limit : Int) :
    list json (some data) limit =
      if (scanLines maxAuditLineBytes data).2 then .error "bufio.Scanner: token too long"
      else .ok
        (lastEvents limit ((scanLines maxAuditLineBytes data).1.filterMap json.unmarshal)) := by
  have read : ∀ (lines : List Bytes) (events : List Event),
      lines.foldl (fun events line =>
        match json.unmarshal line with
        | none => events
        | some event => collectEvent limit events event) events =
      (lines.filterMap json.unmarshal).foldl (collectEvent limit) events := by
    intro lines
    induction lines with
    | nil => exact fun events => rfl
    | cons line lines ih =>
      intro events
      rw [foldl_cons, filterMap_cons]
      cases json.unmarshal line with
      | none => exact ih events
      | some event => exact ih (collectEvent limit events event)
  rw [← collect_events, ← read]
  rfl

structure Run where
  file : Option Bytes := none
  appended : List Event := []

def Run.append (json : JSONLibrary) (run : Run) (call : AppendCall) : Run :=
  let (file, succeeded) := Audit.append json run.file call
  { file := file
    appended := if succeeded then run.appended ++ [call.recorded] else run.appended }

def Run.after (json : JSONLibrary) (calls : List AppendCall) : Run :=
  calls.foldl (Run.append json) {}

def Run.ReadsBack (json : JSONLibrary) (run : Run) : Prop :=
  ∀ limit, list json run.file limit = .ok (lastEvents limit run.appended)

def IsStart (json : JSONLibrary) (piece : Bytes) : Prop :=
  piece ≠ [] ∧ ∃ event payload, json.marshal event = some payload ∧ piece <+: payload

/-- An event is encoded on one line, without control characters, and decoded back. An object that
another one starts in or behind is no JSON value. -/
structure JSONLibrary.Documented (json : JSONLibrary) : Prop where
  nonempty : ∀ event, json.marshal event ≠ some []
  oneLine : ∀ event payload, json.marshal event = some payload →
    newline ∉ payload ∧ carriageReturn ∉ payload
  decodes : ∀ event payload, json.marshal event = some payload →
    json.unmarshal payload = some event
  oneValue : ∀ pieces : List Bytes, (∀ piece ∈ pieces, IsStart json piece) →
    2 ≤ pieces.length → json.unmarshal pieces.flatten = none

inductive Left where
  | nothing
  | start (piece : Bytes)
  | line (payload : Bytes) (succeeded : Bool)

def AppendCall.left (json : JSONLibrary) (call : AppendCall) : Left :=
  match json.marshal call.recorded, call.outcome with
  | _, .notOpened => .nothing
  | none, _ => .nothing
  | some payload, .givesUp written =>
    if written = 0 then .nothing
    else if written ≤ payload.length then .start (payload.take written)
    else .line payload false
  | some payload, .succeeds => .line payload true

/-- The closed lines and the pieces behind them. -/
structure Shape where
  closed : List (List Bytes) := []
  pieces : List Bytes := []

def Shape.extend (json : JSONLibrary) (shape : Shape) (call : AppendCall) : Shape :=
  match call.left json with
  | .nothing => shape
  | .start piece => { shape with pieces := shape.pieces ++ [piece] }
  | .line payload _ => { closed := shape.closed ++ [shape.pieces ++ [payload]] }

def Shape.after (json : JSONLibrary) (calls : List AppendCall) : Shape :=
  calls.foldl (Shape.extend json) {}

def AppendCall.KeepsReadable (json : JSONLibrary) (pieces : List Bytes) (call : AppendCall) :
    Prop :=
  match call.left json with
  | .nothing => True
  | .start piece =>
    (pieces ++ [piece]).flatten.length < maxAuditLineBytes ∧
      (pieces = [] → json.unmarshal piece = none)
  | .line payload succeeded =>
    (pieces ++ [payload]).flatten.length < maxAuditLineBytes ∧ (pieces = [] ↔ succeeded = true)

variable {event : Event} {payload piece : Bytes}

section

variable {json : JSONLibrary} {call : AppendCall} {line : List Bytes} {calls : List AppendCall}
  {run : Run}

theorem run_after_last (calls : List AppendCall) (call : AppendCall) :
    Run.after json (calls ++ [call]) = (Run.after json calls).append json call := by
  rw [Run.after, foldl_append]
  rfl

theorem shape_after_last (calls : List AppendCall) (call : AppendCall) :
    Shape.after json (calls ++ [call]) = (Shape.after json calls).extend json call := by
  rw [Shape.after, foldl_append]
  rfl

variable (json) in
theorem append_left (run : Run) (call : AppendCall) :
    match call.left json with
    | .nothing => (run.append json call).file.getD [] = run.file.getD [] ∧
        (run.append json call).appended = run.appended
    | .start piece => (run.append json call).file.getD [] = run.file.getD [] ++ piece ∧
        (run.append json call).appended = run.appended
    | .line payload succeeded =>
      (run.append json call).file.getD [] = run.file.getD [] ++ (payload ++ [newline]) ∧
        (run.append json call).appended =
          if succeeded then run.appended ++ [call.recorded] else run.appended := by
  unfold AppendCall.left Run.append append
  cases outcome : call.outcome with
  | notOpened | succeeds => cases json.marshal call.recorded <;> simp
  | givesUp written =>
    cases json.marshal call.recorded with
    | none => simp
    | some payload =>
      by_cases nothing : written = 0
      · simp [nothing]
      by_cases start : written ≤ payload.length
      · simp [nothing, start, take_append_of_le_length]
      have whole : (payload ++ [newline]).take written = payload ++ [newline] := by
        apply take_of_length_le
        rw [length_append, length_singleton]
        omega
      simp [nothing, start, whole]

variable (json) in
theorem left_marshal (call : AppendCall) :
    match call.left json with
    | .nothing => True
    | .start piece => IsStart json piece
    | .line payload _ => json.marshal call.recorded = some payload := by
  unfold AppendCall.left
  cases marshalled : json.marshal call.recorded with
  | none => cases call.outcome <;> trivial
  | some payload =>
    cases call.outcome with
    | notOpened => trivial
    | succeeds => rfl
    | givesUp written =>
      by_cases nothing : written = 0
      · simp [nothing]
      by_cases start : written ≤ payload.length
      · have nonempty : payload.take written ≠ [] := by
          intro empty
          have sizes := congrArg length empty
          rw [length_take, length_nil] at sizes
          omega
        simp only [nothing, start, if_true, if_false]
        exact ⟨nonempty, _, payload, marshalled, take_prefix written payload⟩
      · simp [nothing, start]

/-- The file is made of the lines and pieces, which are starts of encoded events. -/
structure Shape.Describes (json : JSONLibrary) (shape : Shape) (run : Run) : Prop where
  file : run.file.getD [] = joinLines (shape.closed.map List.flatten) shape.pieces.flatten
  starts : ∀ line ∈ shape.closed ++ [shape.pieces], ∀ piece ∈ line, IsStart json piece

theorem IsStart.of_marshal (documented : json.Documented)
    (marshalled : json.marshal event = some payload) : IsStart json payload := by
  refine ⟨?_, event, payload, marshalled, prefix_refl payload⟩
  rintro rfl
  exact documented.nonempty event marshalled

variable {shape : Shape}

theorem Shape.Describes.append (documented : json.Documented) (described : shape.Describes json run)
    (call : AppendCall) : (shape.extend json call).Describes json (run.append json call) := by
  obtain ⟨file, starts⟩ := described
  rw [forall_mem_append, forall_mem_singleton] at starts
  have bytes := append_left json run call
  have marshalled := left_marshal json call
  unfold Shape.extend
  cases left : call.left json with
  | nothing =>
    rw [left] at bytes
    constructor
    · rw [bytes.1, file]
    · rw [forall_mem_append, forall_mem_singleton]
      exact starts
  | start piece =>
    rw [left] at bytes marshalled
    constructor
    · rw [bytes.1, file]
      simp [joinLines]
    rw [forall_mem_append, forall_mem_singleton]
    refine ⟨starts.1, ?_⟩
    rw [forall_mem_append, forall_mem_singleton]
    exact ⟨starts.2, marshalled⟩
  | line payload succeeded =>
    rw [left] at bytes marshalled
    constructor
    · rw [bytes.1, file]
      simp [joinLines]
    rw [forall_mem_append, forall_mem_append, forall_mem_singleton]
    refine ⟨⟨starts.1, ?_⟩, by simp⟩
    rw [forall_mem_append, forall_mem_singleton]
    exact ⟨starts.2, IsStart.of_marshal documented marshalled⟩

theorem shape_describes (documented : json.Documented) (calls : List AppendCall) :
    (Shape.after json calls).Describes json (Run.after json calls) := by
  induction calls using reverseRecOn with
  | nil =>
    constructor
    · rfl
    · simp [Shape.after]
  | append_singleton calls call ih =>
    rw [shape_after_last, run_after_last]
    exact ih.append documented call

def Shape.lines (shape : Shape) : List (List Bytes) :=
  if shape.pieces = [] then shape.closed else shape.closed ++ [shape.pieces]

def decodeLine (json : JSONLibrary) (line : List Bytes) : Option Event :=
  json.unmarshal line.flatten

theorem starts_clean (documented : json.Documented) (starts : ∀ piece ∈ line, IsStart json piece) :
    newline ∉ line.flatten ∧ carriageReturn ∉ line.flatten := by
  have clean : ∀ byte ∈ line.flatten, byte ≠ newline ∧ byte ≠ carriageReturn := by
    intro byte mem
    obtain ⟨piece, isPiece, inside⟩ := mem_flatten.mp mem
    obtain ⟨_, event, payload, marshalled, start⟩ := starts piece isPiece
    obtain ⟨noNewline, noReturn⟩ := documented.oneLine event payload marshalled
    have whole := start.subset inside
    exact ⟨ne_of_mem_of_not_mem whole noNewline, ne_of_mem_of_not_mem whole noReturn⟩
  exact ⟨fun mem => (clean _ mem).1 rfl, fun mem => (clean _ mem).2 rfl⟩

theorem flatten_starts_eq_nil (starts : ∀ piece ∈ line, IsStart json piece) :
    line.flatten = [] ↔ line = [] := by
  constructor
  · intro empty
    rw [flatten_eq_nil_iff] at empty
    apply eq_nil_iff_forall_not_mem.mpr
    intro piece mem
    exact (starts piece mem).1 (empty piece mem)
  · rintro rfl
    rfl

theorem list_get (file : Option Bytes) (limit : Int) :
    list json file limit = list json (some (file.getD [])) limit := by
  cases file with
  | some data => rfl
  | none =>
    simp [list, scanLines, splitLines]

theorem list_described (documented : json.Documented) (described : shape.Describes json run)
    (limit : Int) :
    list json run.file limit =
      if ∀ line ∈ shape.lines, line.flatten.length < maxAuditLineBytes then
        .ok (lastEvents limit (shape.lines.filterMap (decodeLine json)))
      else .error "bufio.Scanner: token too long" := by
  obtain ⟨file, starts⟩ := described
  have linesStart : ∀ line ∈ shape.lines, ∀ piece ∈ line, IsStart json piece := by
    intro line mem
    apply starts line
    unfold Shape.lines at mem
    split at mem
    · exact mem_append_left _ mem
    · exact mem
  rw [forall_mem_append, forall_mem_singleton] at starts
  have split : splitLines (run.file.getD []) = shape.lines.map flatten := by
    rw [file, split_join_lines]
    · unfold Shape.lines
      simp only [flatten_starts_eq_nil starts.2]
      split
      · rfl
      · rw [map_append]
        rfl
    · intro bytes mem
      obtain ⟨line, isLine, rfl⟩ := mem_map.mp mem
      exact (starts_clean documented (starts.1 line isLine)).1
    · exact (starts_clean documented starts.2).1
  rw [list_get, list_eq, scanLines, split]
  by_cases fits : ∀ line ∈ shape.lines, line.flatten.length < maxAuditLineBytes
  · have noneLong : ((shape.lines.map flatten).any fun line =>
        decide (maxAuditLineBytes ≤ line.length)) = false := by
      simpa using fits
    have all : (shape.lines.map flatten).takeWhile
        (fun line => decide (line.length < maxAuditLineBytes)) =
          shape.lines.map flatten := by
      simpa using fits
    have kept : (shape.lines.map flatten).map dropCR = shape.lines.map flatten := by
      rw [map_map]
      apply map_congr_left
      intro line mem
      exact drop_cr_of_not_mem (starts_clean documented (linesStart line mem)).2
    rw [noneLong, all, kept, filterMap_map, if_pos fits]
    rfl
  · have someLong : ((shape.lines.map flatten).any fun line =>
        decide (maxAuditLineBytes ≤ line.length)) = true := by
      simpa using fits
    rw [someLong, if_neg fits]
    rfl

/-- All limits say the same: no line is too long, and the lines decode to what was
appended. -/
theorem reads_back_iff (documented : json.Documented) (described : shape.Describes json run) :
    run.ReadsBack json ↔ (∀ line ∈ shape.lines, line.flatten.length < maxAuditLineBytes) ∧
    shape.lines.filterMap (decodeLine json) = run.appended := by
  constructor
  · intro reads
    have all := reads 0
    rw [list_described documented described] at all
    split_ifs at all with fits
    exact ⟨fits, Except.ok.inj all⟩
  · rintro ⟨fits, decoded⟩ limit
    rw [list_described documented described, if_pos fits, decoded]

/-- The closed lines are what was appended, and the pieces behind them are nothing. -/
structure Shape.Settled (json : JSONLibrary) (shape : Shape) (run : Run) : Prop where
  fits : ∀ line ∈ shape.closed ++ [shape.pieces], line.flatten.length < maxAuditLineBytes
  decoded : shape.closed.filterMap (decodeLine json) = run.appended
  undecoded : shape.pieces ≠ [] → decodeLine json shape.pieces = none

section

variable (documented : json.Documented)
include documented

theorem Shape.Settled.reads_back (described : shape.Describes json run)
    (settled : shape.Settled json run) : run.ReadsBack json := by
  rw [reads_back_iff documented described]
  unfold Shape.lines
  split
  · exact ⟨fun line mem => settled.fits line (mem_append_left _ mem), settled.decoded⟩
  next pending =>
    refine ⟨settled.fits, ?_⟩
    rw [filterMap_append, settled.decoded, filterMap_cons_none (settled.undecoded pending),
      filterMap_nil, append_nil]

theorem decode_behind_pieces {pieces : List Bytes} (starts : ∀ piece ∈ pieces, IsStart json piece)
    (isStart : IsStart json piece) (pending : pieces ≠ []) :
    decodeLine json (pieces ++ [piece]) = none := by
  apply documented.oneValue
  · rw [forall_mem_append, forall_mem_singleton]
    exact ⟨starts, isStart⟩
  · have positive := length_pos_of_ne_nil pending
    rw [length_append, length_singleton]
    omega

section

variable (described : shape.Describes json run) (settled : shape.Settled json run)
include described settled

theorem Shape.Settled.append (keeps : call.KeepsReadable json shape.pieces) :
    (shape.extend json call).Settled json (run.append json call) := by
  obtain ⟨fits, decoded, undecoded⟩ := settled
  have starts := described.starts
  rw [forall_mem_append, forall_mem_singleton] at starts fits
  have events := append_left json run call
  have marshalled := left_marshal json call
  unfold AppendCall.KeepsReadable at keeps
  unfold Shape.extend
  cases left : call.left json with
  | nothing =>
    rw [left] at events
    constructor
    · rw [forall_mem_append, forall_mem_singleton]
      exact fits
    · rw [events.2]
      exact decoded
    · exact undecoded
  | start piece =>
    rw [left] at events marshalled keeps
    constructor
    · rw [forall_mem_append, forall_mem_singleton]
      exact ⟨fits.1, keeps.1⟩
    · rw [events.2]
      exact decoded
    intro _
    by_cases alone : shape.pieces = []
    · dsimp only
      rw [alone, nil_append, decodeLine, flatten_singleton]
      exact keeps.2 alone
    · exact decode_behind_pieces documented starts.2 marshalled alone
  | line payload succeeded =>
    rw [left] at events marshalled keeps
    constructor
    · rw [forall_mem_append, forall_mem_append, forall_mem_singleton]
      exact ⟨⟨fits.1, keeps.1⟩, by simp [maxAuditLineBytes]⟩
    · rw [events.2]
      rw [filterMap_append, decoded]
      by_cases alone : shape.pieces = []
      · have read : decodeLine json (shape.pieces ++ [payload]) = some call.recorded := by
          rw [alone, nil_append, decodeLine, flatten_singleton]
          exact documented.decodes _ _ marshalled
        rw [if_pos (keeps.2.mp alone), filterMap_cons_some read, filterMap_nil]
      · have read := decode_behind_pieces documented starts.2
          (IsStart.of_marshal documented marshalled) alone
        rw [if_neg fun succeeds => alone (keeps.2.mpr succeeds), filterMap_cons_none read,
          filterMap_nil, append_nil]
    · intro pending
      exact absurd rfl pending

theorem keeps_readable_of_reads_back (reads : (run.append json call).ReadsBack json) :
    call.KeepsReadable json shape.pieces := by
  have starts := described.starts
  rw [forall_mem_append, forall_mem_singleton] at starts
  rw [reads_back_iff documented (described.append documented call)] at reads
  have events := append_left json run call
  have marshalled := left_marshal json call
  unfold AppendCall.KeepsReadable
  unfold Shape.extend at reads
  cases left : call.left json with
  | nothing => trivial
  | start piece =>
    rw [left] at events reads
    have lines : Shape.lines { shape with pieces := shape.pieces ++ [piece] } =
        shape.closed ++ [shape.pieces ++ [piece]] := by
      simp [Shape.lines]
    rw [lines, forall_mem_append, forall_mem_singleton, filterMap_append,
      settled.decoded, events.2] at reads
    refine ⟨reads.1.2, ?_⟩
    intro alone
    have nothing := append_right_eq_self.mp reads.2
    rw [alone, filterMap_eq_nil_iff] at nothing
    have undecoded := nothing [piece] mem_cons_self
    rwa [decodeLine, flatten_singleton] at undecoded
  | line payload succeeded =>
    rw [left] at events marshalled reads
    have lines : Shape.lines { closed := shape.closed ++ [shape.pieces ++ [payload]] } =
        shape.closed ++ [shape.pieces ++ [payload]] := by
      simp [Shape.lines]
    rw [lines, forall_mem_append, forall_mem_singleton, filterMap_append,
      settled.decoded, events.2] at reads
    refine ⟨reads.1.2, ?_⟩
    by_cases alone : shape.pieces = []
    · have read : decodeLine json (shape.pieces ++ [payload]) = some call.recorded := by
        rw [alone, nil_append, decodeLine, flatten_singleton]
        exact documented.decodes _ _ marshalled
      have grown := reads.2
      rw [filterMap_cons_some read] at grown
      cases succeeded with
      | true => exact ⟨fun _ => rfl, fun _ => alone⟩
      | false => exact absurd (append_right_eq_self.mp grown) (cons_ne_nil _ _)
    · have read := decode_behind_pieces documented starts.2
        (IsStart.of_marshal documented marshalled) alone
      have same := reads.2
      rw [filterMap_cons_none read, filterMap_nil, append_nil] at same
      cases succeeded with
      | false => exact ⟨fun empty => absurd empty alone, fun wrong => absurd wrong (by decide)⟩
      | true =>
        exact absurd (append_right_eq_self.mp same.symm) (cons_ne_nil _ _)

end

theorem settled_after {calls : List AppendCall}
    (keeps : ∀ before call after, calls = before ++ call :: after →
      (Shape.after json before).Settled json (Run.after json before) →
      call.KeepsReadable json (Shape.after json before).pieces) :
    (Shape.after json calls).Settled json (Run.after json calls) := by
  induction calls using reverseRecOn with
  | nil =>
    constructor
    · simp [Shape.after, maxAuditLineBytes]
    · rfl
    · exact fun pending => absurd rfl pending
  | append_singleton calls call ih =>
    have before : (Shape.after json calls).Settled json (Run.after json calls) := by
      apply ih
      rintro front other after rfl
      exact keeps front other (after ++ [call]) (by rw [append_assoc, cons_append])
    rw [shape_after_last, run_after_last]
    exact before.append documented (shape_describes documented calls)
      (keeps calls call [] rfl before)

end

/-- Every call keeps the log readable, exactly if after every call it reads back as what
was appended. -/
theorem audit_log_reads_back (documented : json.Documented) (calls : List AppendCall) :
    (∀ front, front <+: calls → (Run.after json front).ReadsBack json) ↔ ∀ before call after,
    calls = before ++ call :: after → call.KeepsReadable json (Shape.after json before).pieces := by
  constructor
  · intro reads before call after whole
    have step : ∀ front other, front ++ [other] <+: calls →
        (Shape.after json front).Settled json (Run.after json front) →
        other.KeepsReadable json (Shape.after json front).pieces := by
      intro front other start settled
      have last := reads _ start
      rw [run_after_last] at last
      exact keeps_readable_of_reads_back documented (shape_describes documented front) settled last
    have start : before ++ [call] <+: calls := by
      exact ⟨after, by rw [whole, append_assoc, singleton_append]⟩
    apply step before call start
    apply settled_after documented
    rintro front other rest rfl settled
    apply step front other _ settled
    rw [append_assoc] at whole
    exact ⟨rest ++ call :: after, by rw [whole, append_assoc]; rfl⟩
  · rintro keeps front ⟨rest, whole⟩
    have settled : (Shape.after json front).Settled json (Run.after json front) := by
      apply settled_after documented
      rintro before call after rfl _
      apply keeps before call (after ++ rest)
      rw [← whole, append_assoc, cons_append]
    exact settled.reads_back documented (shape_describes documented front)

end

def ascii (text : String) : Bytes := text.toList.map fun c => c.toNat.toUInt8

def openEvent : Event where
  id := "audit_1"
  toolName := "open"
  success := true
  timestamp := 1

def openText : Bytes := ascii
  ("\x7b\"id\":\"audit_1\",\"tool_name\":\"open\",\"success\":true," ++
    "\"timestamp\":\"0001-01-01T00:00:00.000000001Z\"\x7d")

def closeEvent : Event where
  id := "audit_2"
  toolName := "close"
  success := true
  timestamp := 1

def closeText : Bytes := ascii
  ("\x7b\"id\":\"audit_2\",\"tool_name\":\"close\",\"success\":true," ++
    "\"timestamp\":\"0001-01-01T00:00:00.000000001Z\"\x7d")

def twoEvents : JSONLibrary where
  marshal event :=
    if event = openEvent then some openText else if event = closeEvent then some closeText else none
  unmarshal bytes :=
    if bytes = openText then some openEvent else if bytes = closeText then some closeEvent else none

private theorem two_events_cases (marshalled : twoEvents.marshal event = some payload) :
    event = openEvent ∧ payload = openText ∨ event = closeEvent ∧ payload = closeText := by
  simp only [twoEvents] at marshalled
  split_ifs at marshalled with isOpened isClosed
  · exact .inl ⟨isOpened, (Option.some.inj marshalled).symm⟩
  · exact .inr ⟨isClosed, (Option.some.inj marshalled).symm⟩

private theorem two_events_brace (start : IsStart twoEvents piece) : 1 ≤ piece.count 123 := by
  obtain ⟨nonempty, event, payload, marshalled, rest, whole⟩ := start
  obtain ⟨byte, bytes, rfl⟩ := exists_cons_of_ne_nil nonempty
  have first : byte = 123 := by
    have heads := congrArg head? whole
    rcases two_events_cases marshalled with ⟨_, rfl⟩ | ⟨_, rfl⟩
    · exact Option.some.inj (heads.trans (by decide +kernel))
    · exact Option.some.inj (heads.trans (by decide +kernel))
  rw [first, count_cons_self]
  omega

private theorem two_events_documented : twoEvents.Documented := by
  constructor
  · intro event empty
    rcases two_events_cases empty with ⟨_, same⟩ | ⟨_, same⟩
    · exact absurd same (by decide +kernel)
    · exact absurd same (by decide +kernel)
  · intro event payload marshalled
    rcases two_events_cases marshalled with ⟨_, rfl⟩ | ⟨_, rfl⟩ <;> decide +kernel
  · intro event payload marshalled
    rcases two_events_cases marshalled with ⟨rfl, rfl⟩ | ⟨rfl, rfl⟩ <;> decide +kernel
  intro pieces starts several
  have braces : pieces.length ≤ pieces.flatten.count 123 := by
    clear several
    induction pieces with
    | nil => exact Nat.zero_le _
    | cons piece pieces ih =>
      rw [forall_mem_cons] at starts
      have first := two_events_brace starts.1
      have rest := ih starts.2
      rw [flatten_cons, count_append, length_cons]
      omega
  have notOpened : pieces.flatten ≠ openText := by
    intro same
    have one : openText.count 123 = 1 := by decide +kernel
    rw [same] at braces
    omega
  have notClosed : pieces.flatten ≠ closeText := by
    intro same
    have one : closeText.count 123 = 1 := by decide +kernel
    rw [same] at braces
    omega
  simp only [twoEvents, if_neg notOpened, if_neg notClosed]

def threeCalls : List AppendCall :=
  [⟨openEvent, "audit_1", 1, .succeeds⟩, ⟨openEvent, "audit_1", 1, .givesUp 0⟩,
    ⟨closeEvent, "audit_2", 1, .succeeds⟩]

theorem audit_log_reads_back_closed :
    list twoEvents (Run.after twoEvents threeCalls).file 0 = .ok [openEvent, closeEvent] := by
  have reads := (audit_log_reads_back two_events_documented threeCalls).mpr ?_ _
    (prefix_refl _) 0
  · exact reads
  intro before call after whole
  rcases before with _ | ⟨first, _ | ⟨second, _ | ⟨third, before⟩⟩⟩
  · cases whole
    exact ⟨by decide +kernel, fun _ => rfl, fun _ => rfl⟩
  · cases whole
    trivial
  · cases whole
    exact ⟨by decide +kernel, fun _ => rfl, fun _ => rfl⟩
  · simp [threeCalls] at whole

/-- An event is lost behind the start of a line that was given up. -/
theorem torn_line_hides_next : ¬∀ json :
    JSONLibrary, json.Documented → ∀ calls, (Run.after json calls).ReadsBack json := by
  intro claim
  have reads := claim twoEvents two_events_documented
    [⟨openEvent, "audit_1", 1, .givesUp 5⟩, ⟨closeEvent, "audit_2", 1, .succeeds⟩] 0
  have lost := congrArg Except.toOption reads
  revert lost
  decide +kernel

end RuneTerminal.Audit
