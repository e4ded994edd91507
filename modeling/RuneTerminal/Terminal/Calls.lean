import RuneTerminal.Terminal.Service

/-! The calls of `core/terminal/service.go` and `core/app/terminal_session_actions.go`. A call is a
program of locked sections; launching and closing processes are steps of their own. -/

namespace RuneTerminal.Terminal

open Go.Strings (trimSpace)
open Kit

/-- What a call still has to do, as calls of the service and what follows on their
results. `observes` waits for the first output of a process and only reads. -/
inductive Program where
  | returned
  | getState (widgetID : String) (next : Except TerminalError State → Program)
  | startSession (opts : LaunchOptions) (next : Except TerminalError State → Program)
  | createSession (opts : LaunchOptions) (next : Except TerminalError State → Program)
  | setActiveSession (widgetID sessionID : String) (next : Except TerminalError State → Program)
  | closeSession (widgetID : String) (next : Except TerminalError Unit → Program)
  | closeWidgetSession (widgetID sessionID : String) (next : Except TerminalError Unit → Program)
  | close (next : Program)
  | observes (next : Except TerminalError Unit → Program)

/-- What the calls read of their environment. -/
structure Environment where
  defaultShell : String
  repoRoot : String
  isAvailableLocalShell : String → Bool

/-- A widget of the workspace, with the connection that its record names. There is none
where the widget is not a terminal or its connection is not found. -/
structure Widget where
  id : String
  connection : Option ConnectionSpec

def observeConnectionLaunch (connection : ConnectionSpec)
    (next : Except TerminalError Unit → Program) : Program :=
  if connection.kind ≠ "ssh" then next (.ok ()) else .observes next

def afterLaunch (widgetID sessionID : String) (connection : ConnectionSpec) :
    Except TerminalError State → Program
  | .error _ => .returned
  | .ok _ =>
    observeConnectionLaunch connection fun
      | .error _ => .closeWidgetSession widgetID sessionID fun _ => .returned
      | .ok _ => .returned

def isWidgetNotFound : Except TerminalError State → Bool
  | .error (.widgetNotFound _) => true
  | _ => false

def closesQuietly : Except TerminalError Unit → Bool
  | .ok _ => true
  | .error (.widgetNotFound _) => true
  | .error (.sessionNotFound _) => true
  | .error .activeSessionMissing => true
  | .error _ => false

def isLocal (connection : ConnectionSpec) : Bool :=
  connection.kind = "local" || connection.kind = ""

/-- The options with which a session is launched again, or none when the shell that was asked for is
refused. Without an active session `active` is none. -/
def restartOptions (env : Environment) (widgetID : String) (connection : ConnectionSpec)
    (requested : String) (active : Option State) : Option LaunchOptions :=
  let text (field : State → String) : String := (active.map field).getD ""
  let sessionID :=
    if trimSpace (text State.sessionID) ≠ "" then text State.sessionID else widgetID
  let shell := trimSpace (text State.shell)
  let opts : LaunchOptions :=
    if isLocal connection then
      { widgetID := widgetID
        sessionID := sessionID
        shell := if shell = "" then env.defaultShell else shell
        workingDir := if trimSpace (text State.workingDir) ≠ "" then text State.workingDir
          else env.repoRoot
        connection := connection }
    else
      { widgetID := widgetID
        sessionID := sessionID
        shell := shell
        workingDir := ""
        connection := connection }
  if trimSpace requested = "" then some opts
  else if !isLocal connection then none
  else if !env.isAvailableLocalShell (trimSpace requested) then none
  else some { opts with shell := trimSpace requested }

def restartTerminalSession (env : Environment) (widget : Widget) (requested : String) : Program :=
  match widget.connection with
  | none => .returned
  | some connection =>
    .getState widget.id fun active =>
      match restartOptions env widget.id connection requested active.toOption with
      | none => .returned
      | some opts =>
        .closeWidgetSession widget.id opts.sessionID fun closed =>
          if !closesQuietly closed then .returned
          else
            .getState widget.id fun found =>
              if isWidgetNotFound found then
                .startSession opts (afterLaunch widget.id opts.sessionID connection)
              else .createSession opts (afterLaunch widget.id opts.sessionID connection)

def launchSibling (env : Environment) (widgetID sessionID : String) (connection : ConnectionSpec)
    (starts : Bool) (workingDir : String) : Program :=
  let opts : LaunchOptions :=
    { widgetID := widgetID
      sessionID := sessionID
      workingDir := if connection.kind ≠ "local" then ""
        else if trimSpace workingDir ≠ "" then workingDir else env.repoRoot
      connection := connection }
  if starts then .startSession opts (afterLaunch widgetID sessionID connection)
  else .createSession opts (afterLaunch widgetID sessionID connection)

/-- `newID` is the identifier that the call draws. -/
def createTerminalSiblingSession (env : Environment) (widget : Widget) (newID : String) :
    Program :=
  match widget.connection with
  | none => .returned
  | some connection =>
    .getState widget.id fun found =>
      let starts := isWidgetNotFound found
      let sessionID := if starts then widget.id else newID
      if connection.kind = "local" then
        .getState widget.id fun active =>
          launchSibling env widget.id sessionID connection starts
            ((active.toOption.map State.workingDir).getD "")
      else launchSibling env widget.id sessionID connection starts ""

inductive Operation where
  | startSession (opts : LaunchOptions)
  | createSession (opts : LaunchOptions)
  | restartTerminalSession (widget : Widget) (requested : String)
  | createTerminalSiblingSession (widget : Widget) (newID : String)
  | setActiveSession (widgetID sessionID : String)
  | closeSession (widgetID : String)
  | closeWidgetSession (widgetID sessionID : String)
  | close

def Operation.program (env : Environment) : Operation → Program
  | .startSession opts => .startSession opts fun _ => .returned
  | .createSession opts => .createSession opts fun _ => .returned
  | .restartTerminalSession widget requested =>
    Terminal.restartTerminalSession env widget requested
  | .createTerminalSiblingSession widget newID =>
    Terminal.createTerminalSiblingSession env widget newID
  | .setActiveSession widgetID sessionID =>
    .setActiveSession widgetID sessionID fun _ => .returned
  | .closeSession widgetID => .closeSession widgetID fun _ => .returned
  | .closeWidgetSession widgetID sessionID =>
    .closeWidgetSession widgetID sessionID fun _ => .returned
  | .close => .close .returned

/-- A call between two of its sections: it launches a process, waits for the launch of another call,
or closes the processes of the sessions that it has removed. `overtaken` is whether `Close` has run
since the launch began. -/
inductive Thread where
  | ready (program : Program)
  | launching (launch : Launch) (overtaken : Bool) (next : Except TerminalError State → Program)
  | waiting (next : Except TerminalError State → Program)
  | closing (handles : List Nat) (next : Except TerminalError Unit → Program)

/-- A process that the launcher has returned, and the session that it was launched for. -/
structure Process where
  handle : Nat
  widgetID : String
  sessionID : String
  overtaken : Bool
  closed : Bool := false

structure Calls where
  service : Service := {}
  threads : List Thread := []
  processes : List Process := []
  nextHandle : Nat := 0

inductive CallAction where
  | call (operation : Operation)
  | run (thread : Nat)
  | launched (thread : Nat) (pid : Int) (startedAt : Nat)
  | launchFailed (thread : Nat) (text : String)
  | waited (thread : Nat) (result : Except TerminalError State)
  | processClosed (thread : Nat) (result : Except TerminalError Unit)
  | observed (thread : Nat) (result : Except TerminalError Unit)
  | exited (widgetID sessionID : String) (handle : Nat) (exitCode : Int) (failed : Bool)
      (now : Nat)
  | output (widgetID sessionID : String) (handle : Nat) (data : String) (now : Nat)

def Group.handles (group : Group) : List Nat :=
  group.sessionOrder.filterMap fun id => (group.sessions id).map Session.handle

def Service.getState (s : Service) (widgetID : String) : Except TerminalError State :=
  match s.groups widgetID with
  | none => .error (.widgetNotFound widgetID)
  | some group => activeGroupState group

/-- The locked section of `Close`. -/
def Service.close (_ : Service) : Service := {}

/-- The handles of all groups. A table is not listed, the processes are. -/
def Calls.handles (s : Calls) : List Nat :=
  (s.processes.filter fun process =>
    match s.service.groups process.widgetID with
    | none => false
    | some group => process.handle ∈ group.handles).map Process.handle

def Thread.handles : Thread → List Nat
  | .closing handles _ => handles
  | _ => []

def Process.close (handle : Nat) (process : Process) : Process :=
  { process with closed := process.closed || process.handle = handle }

def Thread.overtake : Thread → Thread
  | .launching launch _ next => .launching launch true next
  | thread => thread

namespace Calls

def continueWith (s : Calls) (id : Nat) (thread : Thread) : Calls :=
  { s with threads := s.threads.set id thread }

def begin (s : Calls) (id : Nat) (begun : Service × Begun)
    (next : Except TerminalError State → Program) : Calls :=
  let s := { s with service := begun.1 }
  match begun.2 with
  | .done result => s.continueWith id (.ready (next result))
  | .waits _ => s.continueWith id (.waiting next)
  | .launches launch => s.continueWith id (.launching launch false next)

def closeSession (s : Calls) (id : Nat) (widgetID : String)
    (next : Except TerminalError Unit → Program) : Calls :=
  match s.service.groups widgetID, s.service.closeSession widgetID with
  | some group, .ok service =>
    { s with service := service }.continueWith id
      (.closing group.handles fun _ => next (.ok ()))
  | _, .error err => s.continueWith id (.ready (next (.error err)))
  | none, .ok _ => s

def closeWidgetSession (s : Calls) (id : Nat) (widgetID sessionID : String)
    (next : Except TerminalError Unit → Program) : Calls :=
  match (s.service.groups widgetID).bind fun group => group.sessions sessionID,
      s.service.closeWidgetSession widgetID sessionID with
  | some sess, .ok service =>
    { s with service := service }.continueWith id (.closing [sess.handle] next)
  | _, .error err => s.continueWith id (.ready (next (.error err)))
  | none, .ok _ => s

def setActiveSession (s : Calls) (id : Nat) (widgetID sessionID : String)
    (next : Except TerminalError State → Program) : Calls :=
  match s.service.setActiveSession widgetID sessionID with
  | .error err => s.continueWith id (.ready (next (.error err)))
  | .ok (service, state) =>
    { s with service := service }.continueWith id (.ready (next (.ok state)))

def close (s : Calls) (id : Nat) (next : Program) : Calls :=
  { s with
    service := s.service.close
    threads := s.threads.map Thread.overtake }.continueWith id
      (.closing s.handles fun _ => next)

def run (env : Environment) (s : Calls) (id : Nat) : Program → Option Calls
  | .returned => none
  | .getState widgetID next =>
    some (s.continueWith id (.ready (next (s.service.getState widgetID))))
  | .startSession opts next =>
    some (s.begin id (s.service.beginStart env.defaultShell opts) next)
  | .createSession opts next =>
    some (s.begin id (s.service.beginCreate env.defaultShell opts) next)
  | .setActiveSession widgetID sessionID next =>
    some (s.setActiveSession id widgetID sessionID next)
  | .closeSession widgetID next => some (s.closeSession id widgetID next)
  | .closeWidgetSession widgetID sessionID next =>
    some (s.closeWidgetSession id widgetID sessionID next)
  | .close next => some (s.close id next)
  | .observes _ => none

/-- The section after a launch. The process of a session that found no group is closed
before the call goes on. -/
def launched (env : Environment) (s : Calls) (id : Nat) (launch : Launch) (overtaken : Bool)
    (next : Except TerminalError State → Program) (pid : Int) (startedAt : Nat) : Calls :=
  let finished := s.service.finish launch
    { handle := s.nextHandle
      state := launchedState env.defaultShell launch.opts launch.sessionID pid startedAt }
  let process : Process :=
    { handle := s.nextHandle
      widgetID := launch.opts.widgetID
      sessionID := launch.sessionID
      overtaken := overtaken }
  { s with
    service := finished.1
    processes := process :: s.processes
    nextHandle := s.nextHandle + 1 }.continueWith id
      (match finished.2 with
        | .ok state => .ready (next (.ok state))
        | .error err => .closing [s.nextHandle] fun _ => next (.error err))

def launchFailed (s : Calls) (id : Nat) (launch : Launch)
    (next : Except TerminalError State → Program) (text : String) : Calls :=
  let finished := s.service.failLaunch launch text
  { s with service := finished.1 }.continueWith id (.ready (next finished.2))

def processClosed (s : Calls) (id : Nat) (handles : List Nat)
    (next : Except TerminalError Unit → Program) (result : Except TerminalError Unit) : Calls :=
  match handles with
  | [] => s.continueWith id (.ready (next (.ok ())))
  | handle :: rest =>
    { s with processes := s.processes.map (Process.close handle) }.continueWith id
      (if rest = [] then .ready (next result) else .closing rest next)

end Calls

def callStep (env : Environment) (s : Calls) : CallAction → Option Calls
  | .call operation =>
    some { s with threads := s.threads ++ [.ready (operation.program env)] }
  | .run id =>
    match s.threads[id]? with
    | some (.ready program) => s.run env id program
    | _ => none
  | .launched id pid startedAt =>
    match s.threads[id]? with
    | some (.launching launch overtaken next) =>
      some (s.launched env id launch overtaken next pid startedAt)
    | _ => none
  | .launchFailed id text =>
    match s.threads[id]? with
    | some (.launching launch _ next) => some (s.launchFailed id launch next text)
    | _ => none
  | .waited id result =>
    match s.threads[id]? with
    | some (.waiting next) => some (s.continueWith id (.ready (next result)))
    | _ => none
  | .processClosed id result =>
    match s.threads[id]? with
    | some (.closing handles next) => some (s.processClosed id handles next result)
    | _ => none
  | .observed id result =>
    match s.threads[id]? with
    | some (.ready (.observes next)) => some (s.continueWith id (.ready (next result)))
    | _ => none
  | .exited widgetID sessionID handle exitCode failed now =>
    some { s with
      service := s.service.waitForExit widgetID sessionID handle exitCode failed now }
  | .output widgetID sessionID handle data now =>
    some { s with service := s.service.consumeOutput widgetID sessionID handle data now }

end RuneTerminal.Terminal
