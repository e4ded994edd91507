import RuneTerminal.Commander.Transfer
import RuneTerminal.Kit.Table

/-! What `use-terminal-session.ts` keeps for a widget, without error texts, shell options and
listeners. Functions are cut at every `await`. -/

namespace RuneTerminal.TerminalView

open Commander (trim)
open Kit List

inductive TerminalRuntimeStatus where
  | starting
  | running
  | exited
  | failed
  | disconnected
  | other (name : String)
  deriving DecidableEq

structure TerminalRuntimeState where
  sessionID : String
  status : TerminalRuntimeStatus := .running
  shell : Option String := none
  ssh : Bool := false
  canInterrupt : Bool := false

structure TerminalOutputChunk where
  seq : Nat
  data : String

structure TerminalSnapshot where
  state : TerminalRuntimeState
  chunks : List TerminalOutputChunk
  nextSeq : Nat
  activeSessionID : Option String := none
  sessions : List TerminalRuntimeState := []

/-- The chunks have increasing numbers, and the next one comes after them. -/
structure TerminalSnapshot.Ordered (snapshot : TerminalSnapshot) : Prop where
  increasing : (snapshot.chunks.map TerminalOutputChunk.seq).Pairwise (· < ·)
  below : ∀ chunk ∈ snapshot.chunks, chunk.seq < snapshot.nextSeq

structure SentSnapshot where
  snapshot : TerminalSnapshot
  ordered : snapshot.Ordered

/-- `isLoadingShells` and the command counter are only shown. -/
structure Flags where
  isCreatingSession : Bool := false
  isInterrupting : Bool := false
  isLoading : Bool := false
  isRecoveringStream : Bool := false
  isRestarting : Bool := false
  isSwitchingShell : Bool := false
  streamRetryCount : Nat := 0

/-- `id` tells apart the objects that a widget has one after the other; `load` is the call that is
loading into this one, and nothing in the program reads it. -/
structure TerminalSessionRecord where
  id : Nat
  loadPromise : Bool := false
  retainers : Nat := 0
  streamClose : Option Nat := none
  streamReconnectTimer : Bool := false
  flags : Flags := {}
  snapshot : Option TerminalSnapshot := none
  load : Option Nat := none

inductive Request where
  | create
  | focus (sessionID : String)
  | close (sessionID : String)
  | restart
  | switchShell (shellPath : String)
  | recover
  | interrupt
  deriving DecidableEq

section

variable (record : TerminalSessionRecord)

def shouldAutoRecoverStream (snapshot : Option TerminalSnapshot) : Bool :=
  snapshot.any fun snapshot =>
    snapshot.state.status == .running || snapshot.state.status == .starting

def activeSessionID : Option String :=
  record.snapshot.map fun snapshot =>
    snapshot.activeSessionID.getD snapshot.state.sessionID

def currentShell : String :=
  trim ((record.snapshot.bind fun snapshot => snapshot.state.shell).getD "")

def isBusy : Bool :=
  record.flags.isCreatingSession || record.flags.isInterrupting || record.flags.isRestarting

def refuses : Request → Bool
  | .create => isBusy record
  | .focus sessionID =>
    trim sessionID == "" || some sessionID == activeSessionID record || isBusy record
  | .close sessionID =>
    trim sessionID == "" ||
      (record.snapshot.elim 0 fun snapshot => snapshot.sessions.length) ≤ 1 || isBusy record
  | .restart => record.flags.isInterrupting || record.flags.isRestarting
  | .switchShell shellPath =>
    trim shellPath == "" || trim shellPath == currentShell record ||
      (record.snapshot.any fun snapshot => snapshot.state.ssh) || isBusy record ||
      record.flags.isSwitchingShell
  | .recover => isBusy record || record.flags.isLoading
  | .interrupt =>
    record.flags.isInterrupting || record.flags.isRestarting ||
      !record.snapshot.any fun snapshot => snapshot.state.canInterrupt

def restartsToRecover : Bool :=
  record.snapshot.any fun snapshot =>
    snapshot.state.status == .exited || snapshot.state.status == .failed ||
      snapshot.state.status == .disconnected

end

/-- Who waits for a reload. -/
inductive Caller where
  | create
  | focus
  | close
  | restart
  | switchShell
  | recover
  | timer

def restarting (flags : Flags) : Flags :=
  { flags with isCreatingSession := false, isInterrupting := false, isRestarting := true }

def Flags.sent (flags : Flags) : Caller → Flags
  | .create => { flags with isCreatingSession := true }
  | .focus | .close => { flags with isLoading := true }
  | .restart => restarting flags
  | .switchShell => { restarting flags with isSwitchingShell := true }
  | .recover => { flags with isRecoveringStream := true, streamRetryCount := 0 }
  | .timer => flags

def Flags.settled (flags : Flags) : Caller → Flags
  | .create => { flags with isCreatingSession := false }
  | .restart => { flags with isInterrupting := false, isRestarting := false }
  | .switchShell =>
    { flags with isInterrupting := false, isRestarting := false, isSwitchingShell := false }
  | .focus | .close | .recover | .timer => flags

def Flags.refused (flags : Flags) : Caller → Flags
  | .create => { flags with isCreatingSession := false }
  | .focus | .close => { flags with isLoading := false }
  | .restart =>
    { flags with isCreatingSession := false, isInterrupting := false, isRestarting := false }
  | .switchShell =>
    { flags with
      isCreatingSession := false
      isInterrupting := false
      isRestarting := false
      isSwitchingShell := false }
  | .recover | .timer => flags

def Flags.recovered (flags : Flags) : Flags :=
  if flags.isRecoveringStream || flags.streamRetryCount > 0 then
    { flags with isRecoveringStream := false, streamRetryCount := 0 }
  else flags

def appendTerminalChunk (snapshot : TerminalSnapshot) (chunk : TerminalOutputChunk) :
    TerminalSnapshot :=
  { snapshot with
    chunks := snapshot.chunks ++ [chunk]
    nextSeq := max snapshot.nextSeq (chunk.seq + 1) }

theorem append_ordered {snapshot : TerminalSnapshot} (ordered : snapshot.Ordered)
    {chunk : TerminalOutputChunk} (ahead : snapshot.nextSeq ≤ chunk.seq) :
    (appendTerminalChunk snapshot chunk).Ordered := by
  unfold appendTerminalChunk
  constructor
  · rw [map_append, pairwise_append]
    refine ⟨ordered.increasing, pairwise_singleton _ _, ?_⟩
    intro first mem second isLast
    obtain ⟨earlier, isChunk, rfl⟩ := mem_map.mp mem
    obtain rfl := mem_singleton.mp isLast
    have before := ordered.below earlier isChunk
    omega
  · intro other mem
    dsimp only
    rcases mem_append.mp mem with isOld | isNew
    · have before := ordered.below other isOld
      omega
    · obtain rfl := mem_singleton.mp isNew
      omega

/-- A connection of `connectTerminalStream`. `ended` is that its `done` has settled and the
handlers of it have not run. -/
structure Stream where
  nextSeq : Nat
  isOpen : Bool := true
  attached : Bool := false
  closedByClient : Bool := false
  ended : Bool := false

structure ReloadOptions where
  preserveRecoveryState : Bool := false
  silent : Bool := false

def Caller.options : Caller → ReloadOptions
  | .recover | .timer => { preserveRecoveryState := true, silent := true }
  | _ => {}

/-- `ensureTerminalSession`, or `reloadTerminalSessionRecord` for a caller. -/
inductive Load where
  | ensure
  | reload (caller : Caller)

/-- What a call waits for. -/
inductive Stage where
  | calling (caller : Caller)
  | interrupting
  | fetching (load : Load)
  | connecting (load : Load) (nextSeq : Nat)
  | connected (load : Load) (stream : Nat)
  | attached (load : Load)
  | returning (load : Load)

structure Pending where
  record : Nat
  stage : Stage

/-- One widget: its record in `terminalSessionRecords`, the calls that wait, and the streams. -/
structure Store where
  current : Option TerminalSessionRecord := none
  nextRecord : Nat := 0
  calls : Table Nat Pending := Table.empty
  streams : Table Nat Stream := Table.empty
  nextStream : Nat := 0

section

variable (s : Store)

def Store.wait (call record : Nat) (stage : Stage) : Store :=
  { s with calls := Table.insert s.calls call { record := record, stage := stage } }

def Store.finish (call : Nat) : Store := { s with calls := Table.erase s.calls call }

def Store.withRecord (record : TerminalSessionRecord) : Store :=
  { s with current := some record }

/-- `isActiveTerminalSessionRecord` -/
def Store.active (record : Nat) : Option TerminalSessionRecord :=
  s.current.filter fun current => current.id == record

/-- `terminalSessionRecords.get`, with a new record when there is none. -/
def Store.getRecord : TerminalSessionRecord × Store :=
  match s.current with
  | some record => (record, s)
  | none =>
    let record : TerminalSessionRecord := { id := s.nextRecord }
    (record, { s with current := some record, nextRecord := s.nextRecord + 1 })

def Store.closeStream (stream : Nat) (byClient : Bool) : Store :=
  match s.streams stream with
  | none => s
  | some connection =>
    { s with
      streams := Table.insert s.streams stream
        { connection with
          isOpen := false, closedByClient := connection.closedByClient || byClient } }

/-- `clearTerminalStreamConnection`, without the handle of the record. -/
def Store.clearConnection (record : TerminalSessionRecord) : Store :=
  match record.streamClose with
  | none => s
  | some stream => s.closeStream stream true

end

/-- The start of `reloadTerminalSessionRecord`. A record that is not in the map any more has
no stream and no timer. -/
def startReload (s : Store) (call id : Nat) (caller : Caller) : Store :=
  match s.active id with
  | none => s.wait call id (.fetching (.reload caller))
  | some record =>
    let flags :=
      if caller.options.silent then record.flags else { record.flags with isLoading := true }
    ((s.clearConnection record).withRecord
      { record with
        streamReconnectTimer := false, streamClose := none, flags := flags,
        load := some call }).wait call id (.fetching (.reload caller))

/-- The start of `ensureTerminalSession`. -/
def startEnsure (s : Store) (call : Nat) (record : TerminalSessionRecord) : Store :=
  if record.loadPromise then s.withRecord record
  else
    (s.withRecord
      { record with
        loadPromise := true
        flags :=
          { record.flags with
            isLoading := true
            isCreatingSession := false
            isInterrupting := false
            isRestarting := false }
        load := some call }).wait call record.id (.fetching .ensure)

/-- `scheduleTerminalStreamReconnect` for a record in the map. -/
def scheduleReconnect (record : TerminalSessionRecord) : TerminalSessionRecord :=
  if record.retainers = 0 then record
  else if !shouldAutoRecoverStream record.snapshot then
    { record with flags := { record.flags with isRecoveringStream := false } }
  else
    { record with
      streamReconnectTimer := true
      flags :=
        { record.flags with
          isRecoveringStream := true, streamRetryCount := record.flags.streamRetryCount + 1 } }

def Flags.loaded (flags : Flags) : Load → Flags
  | .ensure => {}
  | .reload caller =>
    if caller.options.preserveRecoveryState then { flags with isLoading := false }
    else { flags with isLoading := false, isRecoveringStream := false, streamRetryCount := 0 }

def takeSnapshot (s : Store) (call id : Nat) (load : Load) (sent : SentSnapshot) : Store :=
  match s.active id with
  | none => s.wait call id (.returning load)
  | some record =>
    (s.withRecord
      { record with
        flags := record.flags.loaded load
        snapshot := some sent.snapshot }).wait call id (.connecting load sent.snapshot.nextSeq)

def failedRecord (record : TerminalSessionRecord) : Load → TerminalSessionRecord
  | .ensure =>
    { record with
      flags :=
        { record.flags with
          isCreatingSession := false
          isInterrupting := false
          isRecoveringStream := false
          isLoading := false
          isRestarting := false } }
  | .reload caller =>
    if caller.options.preserveRecoveryState && shouldAutoRecoverStream record.snapshot then
      scheduleReconnect record
    else { record with flags := { record.flags with isLoading := false } }

def failLoad (s : Store) (call id : Nat) (load : Load) : Store :=
  match s.active id with
  | none => s.wait call id (.returning load)
  | some record =>
    (s.withRecord { failedRecord record load with load := none }).wait call id (.returning load)

def connectStream (s : Store) (call id : Nat) (load : Load) (nextSeq : Nat) : Store :=
  { s with
    streams := Table.insert s.streams s.nextStream { nextSeq := nextSeq }
    nextStream := s.nextStream + 1 }.wait call id (.connected load s.nextStream)

/-- The rest of `attachTerminalStream`: the handle of the record is overwritten. -/
def attachStream (s : Store) (call id : Nat) (load : Load) (stream : Nat) : Store :=
  match s.active id with
  | none => (s.closeStream stream false).wait call id (.attached load)
  | some record =>
    match s.streams stream with
    | none => s
    | some connection =>
      ({ s with
          streams := Table.insert s.streams stream { connection with attached := true } }.withRecord
        { record with streamClose := some stream, load := none }).wait call id (.attached load)

def afterAttach (s : Store) (call id : Nat) (load : Load) : Store :=
  match load, s.active id with
  | .reload _, some record =>
    (s.withRecord { record with flags := record.flags.recovered }).wait call id (.returning load)
  | _, _ => s.wait call id (.returning load)

def afterLoad (s : Store) (call id : Nat) (load : Load) : Store :=
  match s.active id with
  | none => s.finish call
  | some record =>
    match load with
    | .ensure => (s.withRecord { record with loadPromise := false }).finish call
    | .reload caller =>
      (s.withRecord { record with flags := record.flags.settled caller }).finish call

/-- What a call has waited for. -/
inductive Answer where
  | done
  | sent (snapshot : SentSnapshot)
  | interrupted (state : TerminalRuntimeState)
  | failed

inductive Action where
  | render
  | mount (call : Nat)
  | unmount
  | request (call : Nat) (request : Request)
  | resume (call : Nat) (answer : Answer)
  | output (stream : Nat) (data : String)
  | finish (stream : Nat)
  | report (stream : Nat)
  | fire (call : Nat)

def Request.caller : Request → Option Caller
  | .create => some .create
  | .focus _ => some .focus
  | .close _ => some .close
  | .restart => some .restart
  | .switchShell _ => some .switchShell
  | .recover => some .recover
  | .interrupt => none

def startRequest (s : Store) (call : Nat) (record : TerminalSessionRecord) (request : Request) :
    Store :=
  match request.caller with
  | none =>
    (s.withRecord
      { record with
        flags :=
          { record.flags with
            isCreatingSession := false, isInterrupting := true } }).wait call record.id
      .interrupting
  | some .recover =>
    if restartsToRecover record then
      (s.withRecord { record with flags := record.flags.sent .restart }).wait call record.id
        (.calling .restart)
    else
      startReload (s.withRecord { record with flags := record.flags.sent .recover }) call
        record.id .recover
  | some caller =>
    (s.withRecord { record with flags := record.flags.sent caller }).wait call record.id
      (.calling caller)

/-- The answer to `interruptTerminal` goes to the record that is in the map then. -/
def afterInterrupt (s : Store) (call : Nat) (state : Option TerminalRuntimeState) : Store :=
  match s.current with
  | none => s.finish call
  | some record =>
    (s.withRecord
      { record with
        flags := { record.flags with isCreatingSession := false, isInterrupting := false }
        snapshot := record.snapshot.map fun snapshot =>
          { snapshot with state := state.getD snapshot.state } }).finish call

def refuseRequest (s : Store) (call id : Nat) (caller : Caller) : Store :=
  match s.active id with
  | none => s.finish call
  | some record =>
    (s.withRecord { record with flags := record.flags.refused caller }).finish call

def resume (s : Store) (call : Nat) (pending : Pending) (answer : Answer) : Option Store :=
  let id := pending.record
  match pending.stage, answer with
  | .calling caller, .done => some (startReload s call id caller)
  | .calling caller, .failed => some (refuseRequest s call id caller)
  | .interrupting, .interrupted state => some (afterInterrupt s call (some state))
  | .interrupting, .failed => some (afterInterrupt s call none)
  | .fetching load, .sent snapshot => some (takeSnapshot s call id load snapshot)
  | .fetching load, .failed => some (failLoad s call id load)
  | .connecting load nextSeq, .done => some (connectStream s call id load nextSeq)
  | .connecting load _, .failed => some (failLoad s call id load)
  | .connected load stream, .done => some (attachStream s call id load stream)
  | .attached load, .done => some (afterAttach s call id load)
  | .returning load, .done => some (afterLoad s call id load)
  | _, _ => none

/-- `onOutput` adds the chunk to the record that is in the map then. -/
def deliver (s : Store) (stream : Nat) (connection : Stream) (data : String) : Store :=
  let chunk : TerminalOutputChunk := { seq := connection.nextSeq, data := data }
  let delivered :=
    { s with
      streams := Table.insert s.streams stream
        { connection with nextSeq := connection.nextSeq + 1 } }
  match s.current with
  | none => delivered
  | some record =>
    delivered.withRecord
      { record with
        flags := record.flags.recovered
        snapshot := record.snapshot.map fun snapshot => appendTerminalChunk snapshot chunk }

def unmount (s : Store) : Store :=
  match s.current with
  | none => s
  | some record =>
    if record.retainers - 1 > 0 then
      s.withRecord { record with retainers := record.retainers - 1 }
    else { s.clearConnection record with current := none }

def step (s : Store) : Action → Option Store
  | .render => some s.getRecord.2
  | .mount call =>
    if (s.calls call).isSome then none
    else
      let (record, opened) := s.getRecord
      some (startEnsure opened call { record with retainers := record.retainers + 1 })
  | .unmount => some (unmount s)
  | .request call request =>
    if (s.calls call).isSome then none
    else
      let (record, opened) := s.getRecord
      some (if refuses record request then opened else startRequest opened call record request)
  | .resume call answer => (s.calls call).bind fun pending => resume s call pending answer
  | .output stream data =>
    (s.streams stream).bind fun connection =>
      if connection.isOpen && connection.attached then some (deliver s stream connection data)
      else none
  | .finish stream =>
    (s.streams stream).bind fun connection =>
      if connection.isOpen && connection.attached then
        some { s with
          streams := Table.insert s.streams stream
            { connection with isOpen := false, ended := true } }
      else none
  | .report stream =>
    (s.streams stream).bind fun connection =>
      if connection.ended then
        let told :=
          { s with streams := Table.insert s.streams stream { connection with ended := false } }
        some (if connection.closedByClient then told
          else { told with current := told.current.map scheduleReconnect })
      else none
  | .fire call =>
    if (s.calls call).isSome then none
    else
      s.current.bind fun record =>
        if record.streamReconnectTimer then
          let fired := s.withRecord { record with streamReconnectTimer := false }
          some (if record.retainers = 0 then fired
            else startReload fired call record.id .timer)
        else none

end RuneTerminal.TerminalView
