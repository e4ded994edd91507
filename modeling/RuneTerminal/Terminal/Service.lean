import Mathlib.Data.Finset.Basic
import RuneTerminal.Go.Strings
import RuneTerminal.Kit.Table
import RuneTerminal.Kit.Transition

/-! The operations of `core/terminal/service.go` on the session groups, one definition for each
section under the lock. Between the two sections of a start other calls may run. -/

namespace RuneTerminal.Terminal

open Go.Strings (trimSpace)
open Kit List Table

inductive Status where
  | starting
  | running
  | exited
  | failed
  | disconnected

structure State where
  widgetID : String
  sessionID : String
  shell : String
  restored : Bool := false
  connectionID : String := ""
  connectionName : String := ""
  connectionKind : String := ""
  remoteLaunchMode : String := ""
  remoteSessionName : String := ""
  pid : Int
  status : Status
  startedAt : Nat
  lastOutputAt : Option Nat := none
  exitCode : Option Int := none
  canSendInput : Bool
  canInterrupt : Bool
  workingDir : String := ""

structure OutputChunk where
  seq : Nat
  data : String
  timestamp : Nat

structure SSHConfig where
  launchMode : String := ""
  tmuxSession : String := ""
  deriving DecidableEq

structure ConnectionSpec where
  id : String := ""
  name : String := ""
  kind : String := ""
  ssh : Option SSHConfig := none
  deriving DecidableEq

structure LaunchOptions where
  widgetID : String
  sessionID : String := ""
  shell : String := ""
  workingDir : String := ""
  connection : ConnectionSpec := {}
  restored : Bool := false
  deriving DecidableEq

/-- `launch` is an error of the launcher, which has a text of its own. -/
inductive TerminalError where
  | widgetIDRequired
  | widgetNotFound (widgetID : String)
  | sessionNotFound (sessionID : String)
  | activeSessionMissing
  | launch (text : String)

def TerminalError.text : TerminalError → String
  | .widgetIDRequired => "widget id is required"
  | .widgetNotFound widgetID => "terminal widget not found: " ++ widgetID
  | .sessionNotFound sessionID => "terminal session not found: " ++ sessionID
  | .activeSessionMissing => "terminal session not found: active session is missing"
  | .launch text => text

def normalizeConnectionSpec (connection : ConnectionSpec) : ConnectionSpec :=
  let kind := if trimSpace connection.kind = "" then "local" else trimSpace connection.kind
  if kind = "local" then
    { connection with
      kind := kind
      id := if connection.id = "" then "local" else connection.id
      name := if connection.name = "" then "Local Machine" else connection.name }
  else { connection with kind := kind }

/-- `defaultShell` is the shell of the environment. -/
def normalizeLaunchOptions (defaultShell : String) (opts : LaunchOptions) : LaunchOptions :=
  { opts with
    shell := if opts.shell = "" then defaultShell else opts.shell
    sessionID := trimSpace opts.sessionID
    connection := normalizeConnectionSpec opts.connection }

def resolveSessionID (opts : LaunchOptions) : String :=
  if opts.sessionID ≠ "" then opts.sessionID else opts.widgetID

def sessionStartKey (widgetID sessionID : String) : String := widgetID ++ ":" ++ sessionID

def resolveShellName (defaultShell : String) (opts : LaunchOptions) : String :=
  if opts.connection.kind = "ssh" then "ssh"
  else if opts.shell ≠ "" then opts.shell
  else defaultShell

def resolveWorkingDir (opts : LaunchOptions) : String :=
  if opts.connection.kind = "ssh" then "" else opts.workingDir

def remoteText (field : SSHConfig → String) (opts : LaunchOptions) : String :=
  if opts.connection.kind ≠ "ssh" then ""
  else
    match opts.connection.ssh with
    | none => ""
    | some config => trimSpace (field config)

def resolveRemoteLaunchMode : LaunchOptions → String := remoteText SSHConfig.launchMode

def resolveRemoteSessionName : LaunchOptions → String := remoteText SSHConfig.tmuxSession

def launchedState (defaultShell : String) (opts : LaunchOptions) (sessionID : String) (pid : Int)
    (startedAt : Nat) : State where
  widgetID := opts.widgetID
  sessionID := sessionID
  shell := resolveShellName defaultShell opts
  restored := opts.restored
  connectionID := opts.connection.id
  connectionName := opts.connection.name
  connectionKind := opts.connection.kind
  remoteLaunchMode := resolveRemoteLaunchMode opts
  remoteSessionName := resolveRemoteSessionName opts
  pid := pid
  status := .running
  startedAt := startedAt
  canSendInput := true
  canInterrupt := true
  workingDir := resolveWorkingDir opts

/-- `handle` tells two session objects apart that have the same identifier. -/
structure Session where
  handle : Nat
  state : State
  chunks : List OutputChunk := []

def maxBufferedChunks : Nat := 512

def nextSeq (sess : Session) : Nat :=
  match sess.chunks.getLast? with
  | none => 1
  | some last => last.seq + 1

/-- A chunk of output gets the next number, and the oldest chunks make room for it. -/
def appendChunk (sess : Session) (data : String) (now : Nat) : OutputChunk × Session :=
  let chunk : OutputChunk := { seq := nextSeq sess, data := data, timestamp := now }
  let chunks := sess.chunks ++ [chunk]
  let kept :=
    if maxBufferedChunks < chunks.length then chunks.drop (chunks.length - maxBufferedChunks)
    else chunks
  (chunk, { sess with chunks := kept, state := { sess.state with lastOutputAt := some now } })

structure Group where
  activeSessionID : String
  sessionOrder : List String
  sessions : Table String Session
  subscribers : Finset Nat

def Group.started (sessionID : String) (sess : Session) : Group where
  activeSessionID := sessionID
  sessionOrder := [sessionID]
  sessions := Table.empty.insert sessionID sess
  subscribers := ∅

def Group.add (group : Group) (sessionID : String) (sess : Session) : Group :=
  { group with
    activeSessionID := sessionID
    sessionOrder := group.sessionOrder ++ [sessionID]
    sessions := group.sessions.insert sessionID sess }

def Group.update (group : Group) (sessionID : String) (sess : Session) : Group :=
  { group with sessions := group.sessions.insert sessionID sess }

def Group.activate (group : Group) (sessionID : String) : Group :=
  { group with activeSessionID := sessionID }

def Group.remove (group : Group) (sessionID : String) : Group :=
  let sessionOrder := group.sessionOrder.filter (· ≠ sessionID)
  { group with
    sessions := group.sessions.erase sessionID
    sessionOrder := sessionOrder
    activeSessionID :=
      if group.activeSessionID = sessionID then sessionOrder.getLast?.getD ""
      else group.activeSessionID }

def activeGroupSession (group : Group) : Except TerminalError Session :=
  let sessionID := trimSpace group.activeSessionID
  if sessionID = "" then .error .activeSessionMissing
  else
    match group.sessions sessionID with
    | none => .error (.sessionNotFound sessionID)
    | some sess => .ok sess

def activeGroupState (group : Group) : Except TerminalError State :=
  (activeGroupSession group).map Session.state

/-- The order lists the sessions once each, there are some, and one of them is active. -/
structure Group.WellFormed (group : Group) : Prop where
  nodup : group.sessionOrder.Nodup
  keys : ∀ id, id ∈ group.sessionOrder ↔ (group.sessions id).isSome = true
  nonempty : ∃ id, (group.sessions id).isSome = true
  active : (group.sessions group.activeSessionID).isSome = true

namespace Group.WellFormed

variable {group : Group} {sessionID : String} {sess : Session}

theorem started : (Group.started sessionID sess).WellFormed where
  nodup := nodup_singleton sessionID
  keys id := by
    by_cases same : id = sessionID
    · simp [Group.started, same]
    · simp [Group.started, same, insert_of_ne same, empty]
  nonempty := ⟨sessionID, by simp [Group.started]⟩
  active := by simp [Group.started]

section

variable (wellFormed : group.WellFormed)
include wellFormed

theorem add (absent : group.sessions sessionID = none) :
    (group.add sessionID sess).WellFormed where
  nodup := by
    have unlisted : sessionID ∉ group.sessionOrder := by
      rw [wellFormed.keys, absent]
      exact Bool.false_ne_true
    apply nodup_append.mpr
    refine ⟨wellFormed.nodup, nodup_singleton sessionID, ?_⟩
    intro id listed other isNew same
    rw [mem_singleton.mp isNew] at same
    exact unlisted (same ▸ listed)
  keys id := by
    rw [Group.add, mem_append, wellFormed.keys]
    by_cases same : id = sessionID
    · simp [same]
    · simp [same, insert_of_ne same]
  nonempty := ⟨sessionID, by simp [Group.add]⟩
  active := by simp [Group.add]

theorem update (present : (group.sessions sessionID).isSome = true) :
    (group.update sessionID sess).WellFormed := by
  have sameKeys : ∀ id, ((group.update sessionID sess).sessions id).isSome =
      (group.sessions id).isSome := by
    intro id
    by_cases same : id = sessionID
    · simp [Group.update, same, present]
    · simp [Group.update, insert_of_ne same]
  rcases wellFormed.nonempty with ⟨id, isSession⟩
  exact
    { nodup := wellFormed.nodup
      keys := fun id => (wellFormed.keys id).trans (by rw [sameKeys])
      nonempty := ⟨id, (sameKeys id).trans isSession⟩
      active := (sameKeys _).trans wellFormed.active }

theorem activate (present : (group.sessions sessionID).isSome = true) :
    (group.activate sessionID).WellFormed :=
  { wellFormed with active := present }

theorem keys_remove (id : String) : id ∈ (group.remove sessionID).sessionOrder ↔
    ((group.remove sessionID).sessions id).isSome = true := by
  rw [Group.remove, mem_filter, wellFormed.keys]
  by_cases same : id = sessionID
  · simp [same]
  · simp [same, erase_of_ne same]

theorem remove
    (others : (group.remove sessionID).sessionOrder ≠ []) :
    (group.remove sessionID).WellFormed where
  nodup := wellFormed.nodup.filter _
  keys := wellFormed.keys_remove
  nonempty := by
    rcases exists_mem_of_ne_nil _ others with ⟨id, listed⟩
    exact ⟨id, (wellFormed.keys_remove id).mp listed⟩
  active := by
    by_cases wasActive : group.activeSessionID = sessionID
    · have last : (group.remove sessionID).activeSessionID =
          (group.remove sessionID).sessionOrder.getLast others := by
        have chosen : (group.remove sessionID).activeSessionID =
            (group.remove sessionID).sessionOrder.getLast?.getD "" := if_pos wasActive
        rw [chosen, getLast?_eq_some_getLast others, Option.getD_some]
      rw [← wellFormed.keys_remove, last]
      exact getLast_mem others
    · have stays : (group.remove sessionID).activeSessionID = group.activeSessionID :=
        if_neg wasActive
      have kept : (group.remove sessionID).sessions group.activeSessionID =
          group.sessions group.activeSessionID := erase_of_ne wasActive
      rw [stays, kept]
      exact wellFormed.active

end

end Group.WellFormed

structure Service where
  groups : Table String Group := Table.empty
  starting : Finset String := ∅

inductive Caller where
  | startSession
  | createSession
  deriving DecidableEq

/-- A call that has left its first section and launches a process. -/
structure Launch where
  caller : Caller
  opts : LaunchOptions
  sessionID : String
  deriving DecidableEq

def Launch.startKey (launch : Launch) : String :=
  sessionStartKey launch.opts.widgetID launch.sessionID

/-- How the first section ends: the call returns, it waits for a launch of another
call, or it launches a process itself. -/
inductive Begun where
  | done (result : Except TerminalError State)
  | waits (startKey : String)
  | launches (launch : Launch)

def Service.startCall (s : Service) (launch : Launch) : Service × Begun :=
  if launch.startKey ∈ s.starting then (s, .waits launch.startKey)
  else ({ s with starting := insert launch.startKey s.starting }, .launches launch)

def Service.beginStart (defaultShell : String) (s : Service) (opts : LaunchOptions) :
    Service × Begun :=
  if opts.widgetID = "" then (s, .done (.error .widgetIDRequired))
  else
    let opts := normalizeLaunchOptions defaultShell opts
    match s.groups opts.widgetID with
    | some existing => (s, .done (activeGroupState existing))
    | none =>
      s.startCall { caller := .startSession, opts := opts, sessionID := resolveSessionID opts }

def Service.beginCreate (defaultShell : String) (s : Service) (opts : LaunchOptions) :
    Service × Begun :=
  if opts.widgetID = "" then (s, .done (.error .widgetIDRequired))
  else
    let opts := normalizeLaunchOptions defaultShell opts
    let sessionID := resolveSessionID opts
    match s.groups opts.widgetID with
    | none => (s, .done (.error (.widgetNotFound opts.widgetID)))
    | some group =>
      match group.sessions sessionID with
      | some existing => (s, .done (.ok existing.state))
      | none => s.startCall { caller := .createSession, opts := opts, sessionID := sessionID }

def Service.failLaunch (s : Service) (launch : Launch) (text : String) :
    Service × Except TerminalError State :=
  ({ s with starting := s.starting.erase launch.startKey }, .error (.launch text))

def Service.finishStart (s : Service) (launch : Launch) (sess : Session) :
    Service × Except TerminalError State :=
  ({ groups := s.groups.insert launch.opts.widgetID (Group.started launch.sessionID sess)
     starting := s.starting.erase launch.startKey }, .ok sess.state)

def Service.finishCreate (s : Service) (launch : Launch) (sess : Session) :
    Service × Except TerminalError State :=
  match s.groups launch.opts.widgetID with
  | none =>
    ({ s with starting := s.starting.erase launch.startKey },
      .error (.widgetNotFound launch.opts.widgetID))
  | some group =>
    ({ groups := s.groups.insert launch.opts.widgetID (group.add launch.sessionID sess)
       starting := s.starting.erase launch.startKey }, .ok sess.state)

def Service.finish (s : Service) (launch : Launch) (sess : Session) :
    Service × Except TerminalError State :=
  match launch.caller with
  | .startSession => s.finishStart launch sess
  | .createSession => s.finishCreate launch sess

def Service.closeSession (s : Service) (widgetID : String) : Except TerminalError Service :=
  match s.groups widgetID with
  | none => .error (.widgetNotFound widgetID)
  | some _ => .ok { s with groups := s.groups.erase widgetID }

def Service.closeWidgetSession (s : Service) (widgetID sessionID : String) :
    Except TerminalError Service :=
  match s.groups widgetID with
  | none => .error (.widgetNotFound widgetID)
  | some group =>
    match group.sessions sessionID with
    | none => .error (.sessionNotFound sessionID)
    | some _ =>
      let rest := group.remove sessionID
      if rest.sessionOrder = [] then .ok { s with groups := s.groups.erase widgetID }
      else .ok { s with groups := s.groups.insert widgetID rest }

def Service.setActiveSession (s : Service) (widgetID sessionID : String) :
    Except TerminalError (Service × State) :=
  match s.groups widgetID with
  | none => .error (.widgetNotFound widgetID)
  | some group =>
    match group.sessions sessionID with
    | none => .error (.sessionNotFound sessionID)
    | some sess =>
      .ok ({ s with groups := s.groups.insert widgetID (group.activate sessionID) }, sess.state)

/-- A session object is changed by its own goroutine, if it is still the one of its group. -/
def Service.updateSession (s : Service) (widgetID sessionID : String) (handle : Nat)
    (change : Session → Session) : Service :=
  match s.groups widgetID with
  | none => s
  | some group =>
    match group.sessions sessionID with
    | none => s
    | some current =>
      if current.handle ≠ handle then s
      else { s with groups := s.groups.insert widgetID (group.update sessionID (change current)) }

/-- `failed` is whether waiting for the process gave an error. -/
def exitedSession (exitCode : Int) (failed : Bool) (now : Nat) (sess : Session) : Session :=
  { sess with
    state := { sess.state with
      exitCode := some exitCode
      lastOutputAt := some now
      canSendInput := false
      canInterrupt := false
      status := if failed = true ∨ exitCode ≠ 0 then .failed else .exited } }

def Service.waitForExit (s : Service) (widgetID sessionID : String) (handle : Nat)
    (exitCode : Int) (failed : Bool) (now : Nat) : Service :=
  s.updateSession widgetID sessionID handle (exitedSession exitCode failed now)

def Service.consumeOutput (s : Service) (widgetID sessionID : String) (handle : Nat)
    (data : String) (now : Nat) : Service :=
  s.updateSession widgetID sessionID handle fun sess => (appendChunk sess data now).2

/-- The service, and the calls that are launching a process. -/
structure System where
  service : Service := {}
  launches : List Launch := []
  nextHandle : Nat := 0

inductive Action where
  | startSession (opts : LaunchOptions)
  | createSession (opts : LaunchOptions)
  | launched (launch : Launch) (pid : Int) (startedAt : Nat)
  | launchFailed (launch : Launch) (text : String)
  | closeSession (widgetID : String)
  | closeWidgetSession (widgetID sessionID : String)
  | setActiveSession (widgetID sessionID : String)
  | exited (widgetID sessionID : String) (handle : Nat) (exitCode : Int) (failed : Bool)
      (now : Nat)
  | output (widgetID sessionID : String) (handle : Nat) (data : String) (now : Nat)

def System.begin (s : System) (begun : Service × Begun) : System :=
  match begun.2 with
  | .launches launch => { s with service := begun.1, launches := launch :: s.launches }
  | _ => { s with service := begun.1 }

def System.finish (s : System) (launch : Launch) (service : Service) : System :=
  { service := service
    launches := s.launches.erase launch
    nextHandle := s.nextHandle + 1 }

def System.replace (s : System) : Except TerminalError Service → System
  | .error _ => s
  | .ok service => { s with service := service }

def step (defaultShell : String) (s : System) : Action → Option System
  | .startSession opts => some (s.begin (s.service.beginStart defaultShell opts))
  | .createSession opts => some (s.begin (s.service.beginCreate defaultShell opts))
  | .launched launch pid startedAt =>
    if launch ∈ s.launches then
      some (s.finish launch (s.service.finish launch
        { handle := s.nextHandle
          state := launchedState defaultShell launch.opts launch.sessionID pid startedAt }).1)
    else none
  | .launchFailed launch text =>
    if launch ∈ s.launches then some (s.finish launch (s.service.failLaunch launch text).1)
    else none
  | .closeSession widgetID => some (s.replace (s.service.closeSession widgetID))
  | .closeWidgetSession widgetID sessionID =>
    some (s.replace (s.service.closeWidgetSession widgetID sessionID))
  | .setActiveSession widgetID sessionID =>
    some (s.replace ((s.service.setActiveSession widgetID sessionID).map Prod.fst))
  | .exited widgetID sessionID handle exitCode failed now =>
    some { s with
      service := s.service.waitForExit widgetID sessionID handle exitCode failed now }
  | .output widgetID sessionID handle data now =>
    some { s with service := s.service.consumeOutput widgetID sessionID handle data now }

end RuneTerminal.Terminal
