import Mathlib.Data.List.Sort
import RuneTerminal.Go.Filepath
import RuneTerminal.Kit.Transition

/-! `core/db/migrator.go`: the migrations of a directory, one transaction each, a copy of the
database that replaces it on commit. `Open` of `core/db/open.go` sets the pragmas of the connection;
only then does SQLite enforce foreign keys there. -/

namespace RuneTerminal.Db

open Go
open Go.Strings (atoi trimSpace)
open Kit List

variable {Content : Type}

section

structure Migration where
  version : Int
  name : String
  sql : String
  deriving DecidableEq

/-- The causes are texts of the file system and of the database. -/
inductive MigrationError where
  | ensureTable (cause : String)
  | readApplied (cause : String)
  | scanApplied (cause : String)
  | readDirectory (cause : String)
  | invalidVersion (name : String)
  | readFile (name cause : String)
  | begin (cause : String)
  | apply (name cause : String)
  | record (name cause : String)
  | commit (name cause : String)

def MigrationError.text : MigrationError → String
  | .ensureTable cause => "ensure schema_migrations table: " ++ cause
  | .readApplied cause => "read applied migrations: " ++ cause
  | .scanApplied cause => cause
  | .readDirectory cause => "read migrations directory: " ++ cause
  | .invalidVersion name => "invalid migration version " ++ name.quote
  | .readFile name cause => "read migration " ++ name ++ ": " ++ cause
  | .begin cause => "begin migration tx: " ++ cause
  | .apply name cause => "apply migration " ++ name ++ ": " ++ cause
  | .record name cause => "record migration " ++ name ++ ": " ++ cause
  | .commit name cause => "commit migration " ++ name ++ ": " ++ cause

/-- An entry of the migrations directory, with what reading it as a file gives. -/
structure DirEntry where
  name : String
  isDir : Bool := false
  raw : Except String String

def parseMigrationVersion (name : String) : Except MigrationError Int :=
  match atoi (String.ofList (name.toList.takeWhile (· ≠ '_'))) with
  | none => .error (.invalidVersion name)
  | some version => .ok version

def loadMigration (entry : DirEntry) : Except MigrationError Migration :=
  match parseMigrationVersion entry.name with
  | .error err => .error err
  | .ok version =>
    match entry.raw with
    | .error cause => .error (.readFile entry.name cause)
    | .ok raw => .ok { version := version, name := entry.name, sql := trimSpace raw }

def loadEmbeddedMigrations (directory : Except String (List DirEntry)) :
    Except MigrationError (List Migration) :=
  match directory with
  | .error cause => .error (.readDirectory cause)
  | .ok entries =>
    let files := entries.filter fun entry => !entry.isDir && Filepath.ext entry.name == ".sql"
    (files.mapM loadMigration).map fun migrations =>
      migrations.insertionSort fun first second => first.version ≤ second.version

structure Row where
  version : Int
  name : String
  appliedAt : String

/-- The table of versions, once it has been created, and everything else. -/
structure Database (Content : Type) where
  content : Content
  schemaMigrations : Option (List Row) := none

variable {execContext : String → Except String Unit}

def Database.rows (db : Database Content) : List Row := db.schemaMigrations.getD []

def Database.versions (db : Database Content) : List Int := db.rows.map Row.version

/-- `CREATE TABLE IF NOT EXISTS`. -/
def Database.ensureTable (db : Database Content) : Database Content :=
  { db with schemaMigrations := some db.rows }

def Database.insertVersion (db : Database Content) (item : Migration) (now : String) :
    Except String (Database Content) :=
  match db.schemaMigrations with
  | none => .error "no such table: schema_migrations"
  | some rows =>
    if item.version ∈ rows.map Row.version then
      .error "UNIQUE constraint failed: schema_migrations.version"
    else
      .ok { db with
        schemaMigrations :=
          some (rows ++ [{ version := item.version, name := item.name, appliedAt := now }]) }

/-- Which statement of a run comes next. `applied` are the versions that were read, `rest` the
migrations still to come, and `tx` the database as the transaction of `item` sees it. -/
inductive Phase (Content : Type) where
  | idle
  | ensuring
  | reading
  | scanning
  | loading (applied : List Int)
  | applying (applied : List Int) (rest : List Migration)
  | executing (applied : List Int) (rest : List Migration) (item : Migration)
      (tx : Database Content)
  | recording (applied : List Int) (rest : List Migration) (item : Migration)
      (tx : Database Content)
  | committing (applied : List Int) (rest : List Migration) (item : Migration)
      (tx : Database Content)
  | returned (result : Except MigrationError Unit)

/-- `committed` are the migrations whose transaction was committed, the oldest first. -/
structure System (Content : Type) where
  db : Database Content
  phase : Phase Content := .idle
  committed : List Migration := []

inductive Action where
  | migrate
  | proceed (now : String)
  | fail (cause : String)

def Phase.openItem : Phase Content → Option Migration
  | .executing _ _ item _ | .recording _ _ item _ | .committing _ _ item _ => some item
  | _ => none

def Phase.failure (cause : String) : Phase Content → Option MigrationError
  | .ensuring => some (.ensureTable cause)
  | .reading => some (.readApplied cause)
  | .scanning => some (.scanApplied cause)
  | .applying applied (item :: _) =>
    if item.version ∈ applied then none else some (.begin cause)
  | .executing _ _ item _ => if item.sql = "" then none else some (.apply item.name cause)
  | .recording _ _ item _ => some (.record item.name cause)
  | .committing _ _ item _ => some (.commit item.name cause)
  | _ => none

def System.fail (s : System Content) (err : MigrationError) : System Content :=
  { s with phase := .returned (.error err) }

def System.moveTo (s : System Content) (phase : Phase Content) : System Content :=
  { s with phase := phase }

section

variable (exec : String → Content → Except String Content)
  (directory : Except String (List DirEntry))

def effect (content : Content) (item : Migration) : Except String Content :=
  if item.sql = "" then .ok content else exec item.sql content

def System.proceed (s : System Content) (now : String) : Option (System Content) :=
  match s.phase with
  | .idle | .returned _ => none
  | .ensuring => some { s with db := s.db.ensureTable, phase := .reading }
  | .reading => some (s.moveTo .scanning)
  | .scanning => some (s.moveTo (.loading s.db.versions))
  | .loading applied =>
    match loadEmbeddedMigrations directory with
    | .error err => some (s.fail err)
    | .ok migrations => some (s.moveTo (.applying applied migrations))
  | .applying _ [] => some (s.moveTo (.returned (.ok ())))
  | .applying applied (item :: rest) =>
    if item.version ∈ applied then some (s.moveTo (.applying applied rest))
    else some (s.moveTo (.executing applied rest item s.db))
  | .executing applied rest item tx =>
    match effect exec tx.content item with
    | .error cause => some (s.fail (.apply item.name cause))
    | .ok content => some (s.moveTo (.recording applied rest item { tx with content := content }))
  | .recording applied rest item tx =>
    match tx.insertVersion item now with
    | .error cause => some (s.fail (.record item.name cause))
    | .ok recorded => some (s.moveTo (.committing applied rest item recorded))
  | .committing applied rest item tx =>
    some
      { db := tx
        phase := .applying applied rest
        committed := s.committed ++ [item] }

def step (s : System Content) : Action → Option (System Content)
  | .migrate =>
    match s.phase with
    | .idle | .returned _ => some (s.moveTo .ensuring)
    | _ => none
  | .proceed now => s.proceed exec directory now
  | .fail cause => (s.phase.failure cause).map s.fail

end

structure Pragma where
  name : String
  value : String

def Pragma.statement (pragma : Pragma) : String :=
  "PRAGMA " ++ pragma.name ++ " = " ++ pragma.value ++ ";"

/-- The pragmas of `Open`, in their order. -/
def openPragmas : List Pragma :=
  [⟨"journal_mode", "WAL"⟩, ⟨"synchronous", "NORMAL"⟩, ⟨"busy_timeout", "5000"⟩]

inductive OpenError where
  | directory (cause : String)
  | sqlOpen (cause : String)
  | pragma (name cause : String)
  | migrate (err : MigrationError)

def OpenError.text : OpenError → String
  | .directory cause => cause
  | .sqlOpen cause => cause
  | .pragma name cause => "set " ++ name ++ " failed: " ++ cause
  | .migrate err => err.text

/-- An open connection, and what its pragmas have switched on. -/
structure Connection where
  foreignKeys : Bool := false

def Connection.set (connection : Connection) (pragma : Pragma) : Connection :=
  if pragma.name = "foreign_keys" then { foreignKeys := pragma.value ∈ ["ON", "TRUE", "YES", "1"] }
  else connection

/-- `execContext` runs a statement on the connection. -/
def setPragmas (execContext : String → Except String Unit) (connection : Connection) :
    List Pragma → Except OpenError Connection
  | [] => .ok connection
  | pragma :: rest =>
    match execContext pragma.statement with
    | .error cause => .error (.pragma pragma.name cause)
    | .ok () => setPragmas execContext (connection.set pragma) rest

/-- `Open`, with what the directory, the driver, the statements and the migrations give. -/
def openDatabase (mkdirAll sqlOpen : Except String Unit)
    (execContext : String → Except String Unit) (migrate : Except MigrationError Unit) :
    Except OpenError Connection :=
  match mkdirAll with
  | .error cause => .error (.directory cause)
  | .ok () =>
    match sqlOpen with
    | .error cause => .error (.sqlOpen cause)
    | .ok () =>
      match setPragmas execContext {} openPragmas with
      | .error err => .error err
      | .ok connection =>
        match migrate with
        | .error err => .error (.migrate err)
        | .ok () => .ok connection

variable {conn : Connection}

theorem set_pragmas_foreign_keys {pragmas : List Pragma} {final : Connection}
    (others : ∀ pragma ∈ pragmas, pragma.name ≠ "foreign_keys")
    (done : setPragmas execContext conn pragmas = .ok final) :
    final.foreignKeys = conn.foreignKeys := by
  induction pragmas generalizing conn with
  | nil =>
    cases done
    rfl
  | cons pragma rest ih =>
    unfold setPragmas at done
    split at done
    · cases done
    · rw [ih (fun other mem => others other (List.mem_cons_of_mem _ mem)) done,
        Connection.set, if_neg (others pragma List.mem_cons_self)]

theorem opened_without_foreign_keys {mkdirAll sqlOpen : Except String Unit}
    {migrate : Except MigrationError Unit}
    (opened : openDatabase mkdirAll sqlOpen execContext migrate = .ok conn) :
    conn.foreignKeys = false := by
  unfold openDatabase at opened
  split at opened
  · cases opened
  split at opened
  · cases opened
  split at opened
  · cases opened
  next final done =>
    split at opened
    · cases opened
    · cases opened
      exact set_pragmas_foreign_keys (by decide) done

end

variable {exec : String → Content → Except String Content}
  {directory : Except String (List DirEntry)} {migrations rest : List Migration} {start : Content}
  {s next : System Content} {item : Migration} {now : String}

section

variable (loaded : loadEmbeddedMigrations directory = .ok migrations)
include loaded

theorem load_sorted : (migrations.map Migration.version).Pairwise (· ≤ ·) := by
  unfold loadEmbeddedMigrations at loaded
  split at loaded
  · cases loaded
  dsimp only at loaded
  cases files : (filter _ _).mapM loadMigration with
  | error err =>
    rw [files] at loaded
    cases loaded
  | ok found =>
    rw [files] at loaded
    cases loaded
    rw [pairwise_map]
    exact pairwise_insertionSort _ _

theorem load_ascending (nodup : (migrations.map Migration.version).Nodup) :
    (migrations.map Migration.version).Pairwise (· < ·) :=
  ((load_sorted loaded).and nodup).imp fun ordered => lt_of_le_of_ne ordered.1 ordered.2

end

theorem take_next {done : Nat} (found : migrations[done]? = some item) :
    migrations.take (done + 1) = migrations.take done ++ [item] := by
  rw [take_add_one, found, Option.toList_some]

theorem of_drop_eq_cons {done : Nat} (dropped : item :: rest = migrations.drop done) :
    migrations[done]? = some item ∧ rest = migrations.drop (done + 1) := by
  constructor
  · rw [← head?_drop, ← dropped, head?_cons]
  · rw [← tail_drop, ← dropped, tail_cons]

theorem version_mem_take_iff (nodup : (migrations.map Migration.version).Nodup) {known done : Nat}
    {item : Migration} (found : migrations[done]? = some item) :
    item.version ∈ (migrations.take known).map Migration.version ↔ done < known := by
  have bound := (List.getElem?_eq_some_iff.mp found).1
  constructor
  · intro mem
    rcases mem_map.mp mem with ⟨other, isEarly, same⟩
    rcases mem_iff_getElem?.mp isEarly with ⟨index, foundOther⟩
    rw [getElem?_take] at foundOther
    split at foundOther
    · have sameVersion : (migrations.map Migration.version)[done]? =
          (migrations.map Migration.version)[index]? := by
        rw [getElem?_map, getElem?_map, found, foundOther, Option.map_some,
          Option.map_some, same]
      have samePlace :=
        (getElem?_inj (by rwa [length_map]) nodup).mp sameVersion
      omega
    · cases foundOther
  · intro early
    apply mem_map_of_mem
    apply mem_iff_getElem?.mpr
    exact ⟨done, by rw [getElem?_take, if_pos early, found]⟩

variable {tx : Database Content}

theorem insert_version_ok {recorded : Database Content}
    (inserted : tx.insertVersion item now = .ok recorded) :
    recorded.content = tx.content ∧ recorded.versions = tx.versions ++ [item.version] := by
  unfold Database.insertVersion at inserted
  split at inserted
  · cases inserted
  next rows isRows =>
    split at inserted
    · cases inserted
    · cases inserted
      refine ⟨rfl, ?_⟩
      simp [Database.versions, Database.rows, isRows]

structure AtItem (migrations : List Migration) (committed : List Migration)
    (applied : List Int) (rest : List Migration) (item : Migration) : Prop where
  place : ∃ known done, known ≤ done ∧
    applied = (migrations.take known).map Migration.version ∧
    migrations[done]? = some item ∧ rest = migrations.drop (done + 1) ∧
    committed = migrations.take done

def Progress (exec : String → Content → Except String Content) (migrations : List Migration)
    (s : System Content) : Prop :=
  match s.phase with
  | .loading applied => applied = s.committed.map Migration.version
  | .applying applied rest => ∃ known done, known ≤ migrations.length ∧
      applied = (migrations.take known).map Migration.version ∧ rest = migrations.drop done ∧
      s.committed = migrations.take (max known done)
  | .executing applied rest item tx => AtItem migrations s.committed applied rest item ∧ tx = s.db
  | .recording applied rest item tx => AtItem migrations s.committed applied rest item ∧
      effect exec s.db.content item = .ok tx.content ∧ tx.versions = s.db.versions
  | .committing applied rest item tx => AtItem migrations s.committed applied rest item ∧
      effect exec s.db.content item = .ok tx.content ∧
      tx.versions = s.db.versions ++ [item.version]
  | .returned (.ok ()) => s.committed = migrations
  | _ => True

structure Applied (exec : String → Content → Except String Content) (migrations : List Migration)
    (start : Content) (s : System Content) : Prop where
  ordered : s.committed <+: migrations
  effects : s.committed.foldlM (effect exec) start = .ok s.db.content
  recorded : s.db.versions = s.committed.map Migration.version
  progress : Progress exec migrations s

structure Fresh (start : Content) (s : System Content) : Prop where
  content : s.db.content = start
  rows : s.db.rows = []
  phase : s.phase = .idle
  committed : s.committed = []

namespace Applied

theorem of_fresh (fresh : Fresh start s) : Applied exec migrations start s where
  ordered := by
    rw [fresh.committed]
    exact nil_prefix
  effects := by
    rw [fresh.committed, fresh.content]
    rfl
  recorded := by
    rw [fresh.committed, Database.versions, fresh.rows]
    rfl
  progress := by
    rw [Progress, fresh.phase]
    trivial

section

variable (applied : Applied exec migrations start s) {phase : Phase Content}
include applied

theorem move_to (progress : Progress exec migrations (s.moveTo phase)) :
    Applied exec migrations start (s.moveTo phase) :=
  ⟨applied.ordered, applied.effects, applied.recorded, progress⟩

theorem fail (err : MigrationError) : Applied exec migrations start (s.fail err) :=
  ⟨applied.ordered, applied.effects, applied.recorded, trivial⟩

theorem commit {versions : List Int} (place : AtItem migrations s.committed versions rest item)
    (effects : effect exec s.db.content item = .ok tx.content)
    (recorded : tx.versions = s.db.versions ++ [item.version]) :
    Applied exec migrations start
      { db := tx, phase := .applying versions rest, committed := s.committed ++ [item] } := by
  rcases place with ⟨known, done, behind, isApplied, found, isRest, committed⟩
  have bound := (List.getElem?_eq_some_iff.mp found).1
  have whole : s.committed ++ [item] = migrations.take (done + 1) := by
    rw [take_next found, committed]
  exact
    { ordered := by
        rw [whole]
        exact take_prefix _ _
      effects := by
        rw [foldlM_append, applied.effects]
        change (effect exec s.db.content item >>= fun content =>
          [].foldlM (effect exec) content) = _
        rw [effects]
        rfl
      recorded := by
        rw [recorded, applied.recorded, map_append, map_singleton]
      progress := ⟨known, done + 1, by omega, isApplied, isRest, by
        rw [whole, Nat.max_eq_right (by omega)]⟩ }

section

variable (loaded : loadEmbeddedMigrations directory = .ok migrations)
  (nodup : (migrations.map Migration.version).Nodup)
include loaded nodup

theorem proceed (taken : s.proceed exec directory now = some next) :
    Applied exec migrations start next := by
  have progress := applied.progress
  unfold System.proceed at taken
  unfold Progress at progress
  split at taken
  next => cases taken
  next => cases taken
  next =>
    cases taken
    exact ⟨applied.ordered, applied.effects, applied.recorded, trivial⟩
  next =>
    cases taken
    exact applied.move_to trivial
  next =>
    cases taken
    exact applied.move_to applied.recorded
  next versions isPhase =>
    rw [loaded] at taken
    rw [isPhase] at progress
    cases taken
    rcases applied.ordered with ⟨later, whole⟩
    apply applied.move_to
    refine ⟨s.committed.length, 0, ?_, ?_, rfl, ?_⟩
    · rw [← whole, length_append]
      exact Nat.le_add_right _ _
    · rw [← whole, take_left, progress]
    · rw [← whole, Nat.max_zero, take_left]
      rfl
  next versions isPhase =>
    rw [isPhase] at progress
    rcases progress with ⟨known, done, inside, isApplied, isRest, committed⟩
    cases taken
    have finished := drop_eq_nil_iff.mp isRest.symm
    apply applied.move_to
    change s.committed = migrations
    rw [committed, take_of_length_le (by omega)]
  next versions item rest isPhase =>
    rw [isPhase] at progress
    rcases progress with ⟨known, done, inside, isApplied, isRest, committed⟩
    rcases of_drop_eq_cons isRest with ⟨found, others⟩
    have early := @version_mem_take_iff _ nodup known _ _ found
    rw [← isApplied] at early
    split at taken
    next mem =>
      cases taken
      have passed := early.mp mem
      apply applied.move_to
      refine ⟨known, done + 1, inside, isApplied, others, ?_⟩
      change s.committed = _
      rw [committed, Nat.max_eq_left (by omega), Nat.max_eq_left (by omega)]
    next unknown =>
      cases taken
      have behind : known ≤ done := Nat.le_of_not_lt (mt early.mpr unknown)
      apply applied.move_to
      refine ⟨⟨known, done, behind, isApplied, found, others, ?_⟩, rfl⟩
      change s.committed = _
      rw [committed, Nat.max_eq_right behind]
  next versions rest item tx isPhase =>
    rw [isPhase] at progress
    rcases progress with ⟨place, rfl⟩
    split at taken
    · cases taken
      exact applied.fail _
    next content done =>
      cases taken
      exact applied.move_to ⟨place, done, rfl⟩
  next versions rest item tx isPhase =>
    rw [isPhase] at progress
    rcases progress with ⟨place, effects, unrecorded⟩
    split at taken
    · cases taken
      exact applied.fail _
    next recorded inserted =>
      cases taken
      rcases insert_version_ok inserted with ⟨content, versions⟩
      refine applied.move_to ⟨place, ?_, ?_⟩
      · rw [content]
        exact effects
      · rw [versions, unrecorded]
        rfl
  next versions rest item tx isPhase =>
    rw [isPhase] at progress
    rcases progress with ⟨place, effects, recorded⟩
    cases taken
    exact applied.commit place effects recorded

theorem step {action : Action}
    (taken : Db.step exec directory s action = some next) : Applied exec migrations start next := by
  cases action with
  | migrate =>
    rw [Db.step] at taken
    split at taken
    · cases taken
      exact applied.move_to trivial
    · cases taken
      exact applied.move_to trivial
    · cases taken
  | proceed now => exact applied.proceed loaded nodup taken
  | fail cause =>
    rcases Option.map_eq_some_iff.mp taken with ⟨err, _, rfl⟩
    exact applied.fail err

end

end

end Applied

theorem applied_of_reachable (loaded : loadEmbeddedMigrations directory = .ok migrations)
    (nodup : (migrations.map Migration.version).Nodup)
    (reachable : Reachable (Fresh start) (step exec directory) s) :
    Applied exec migrations start s := by
  apply reachable.invariant
  · intro first fresh
    exact Applied.of_fresh fresh
  · intro before action after applied taken
    exact applied.step loaded nodup taken

theorem open_item_not_recorded (applied : Applied exec migrations start s)
    (nodup : (migrations.map Migration.version).Nodup) (isOpen : s.phase.openItem = some item) :
    item.version ∉ s.db.versions := by
  have place : ∃ versions rest, AtItem migrations s.committed versions rest item := by
    have progress := applied.progress
    unfold Progress at progress
    unfold Phase.openItem at isOpen
    split at isOpen
    case h_1 versions rest open_ tx isPhase | h_2 versions rest open_ tx isPhase |
        h_3 versions rest open_ tx isPhase =>
      cases isOpen
      rw [isPhase] at progress
      exact ⟨versions, rest, progress.1⟩
    case h_4 => cases isOpen
  rcases place with ⟨versions, rest, known, done, _, _, found, _, committed⟩
  rw [applied.recorded, committed, version_mem_take_iff nodup found]
  exact Nat.lt_irrefl done

theorem proceed_cases (taken : s.proceed exec directory now = some next) :
    (∃ err, next = s.fail err) ∨ ∀ err, next.phase ≠ .returned (.error err) := by
  unfold System.proceed at taken
  split at taken
  case h_1 | h_2 => cases taken
  case h_3 | h_4 | h_5 | h_7 | h_11 =>
    cases taken
    exact .inr fun _ same => by cases same
  case h_6 | h_9 | h_10 =>
    split at taken
    · cases taken
      exact .inl ⟨_, rfl⟩
    · cases taken
      exact .inr fun _ same => by cases same
  case h_8 =>
    split at taken
    · cases taken
      exact .inr fun _ same => by cases same
    · cases taken
      exact .inr fun _ same => by cases same

theorem failed_statement_unchanged {action : Action} {err : MigrationError}
    (taken : step exec directory s action = some next)
    (failed : next.phase = .returned (.error err)) :
    next.db = s.db ∧ next.committed = s.committed := by
  cases action with
  | migrate =>
    rw [step] at taken
    split at taken
    · cases taken
      cases failed
    · cases taken
      cases failed
    · cases taken
  | proceed now =>
    rcases proceed_cases taken with ⟨_, rfl⟩ | others
    · exact ⟨rfl, rfl⟩
    · exact absurd failed (others err)
  | fail cause =>
    rcases Option.map_eq_some_iff.mp taken with ⟨_, _, rfl⟩
    exact ⟨rfl, rfl⟩

/-- In every sequence of runs the content is the effect of the committed migrations, once each and
in ascending order, and they are the recorded ones. -/
theorem migrations_apply_exactly_once (loaded : loadEmbeddedMigrations directory = .ok migrations)
    (distinct : (migrations.map Migration.version).Nodup)
    (reachable : Reachable (Fresh start) (step exec directory) s) :
    s.committed.foldlM (effect exec) start = .ok s.db.content ∧
    s.db.versions = s.committed.map Migration.version ∧
    s.db.versions.Pairwise (· < ·) ∧
    (∀ item ∈ s.committed, item ∈ migrations) ∧
    (∀ item, s.phase.openItem = some item → item.version ∉ s.db.versions) ∧
    ∀ action next err, step exec directory s action = some next →
      next.phase = .returned (.error err) → next.db = s.db ∧ next.committed = s.committed := by
  have applied := applied_of_reachable loaded distinct reachable
  refine ⟨applied.effects, applied.recorded, ?_, ?_, ?_, ?_⟩
  · rw [applied.recorded]
    exact (load_ascending loaded distinct).sublist (applied.ordered.sublist.map _)
  · intro item mem
    exact applied.ordered.subset mem
  · intro item isOpen
    exact open_item_not_recorded applied distinct isOpen
  · intro action next err taken failed
    exact failed_statement_unchanged taken failed

def logged (sql : String) (content : List String) : Except String (List String) :=
  if sql = "" then .error "incomplete input" else .ok (content ++ [sql])

def twoFiles : Except String (List DirEntry) :=
  .ok [{ name := "0010_index.sql", raw := .ok "CREATE INDEX i\n" },
    { name := "0002_init.sql", raw := .ok "CREATE TABLE t\n" },
    { name := "notes.txt", raw := .ok "" }, { name := "old", isDir := true, raw := .ok "" }]

def twoMigrations : List Migration :=
  [{ version := 2, name := "0002_init.sql", sql := "CREATE TABLE t" },
    { version := 10, name := "0010_index.sql", sql := "CREATE INDEX i" }]

def interrupted : List Action :=
  .migrate :: (List.replicate 11 (.proceed "") ++ .fail "disk full" :: .migrate ::
    List.replicate 10 (.proceed ""))

theorem migrations_apply_exactly_once_interrupted : ∃ s,
    Reachable (Fresh []) (step logged twoFiles) s ∧
      s.db.content = ["CREATE TABLE t", "CREATE INDEX i"] ∧
      s.committed.foldlM (effect logged) [] = .ok s.db.content ∧
      s.db.versions.Pairwise (· < ·) := by
  have ran : (runActions (step logged twoFiles) { db := { content := [] } } interrupted).map
      (fun s => s.db.content) = some ["CREATE TABLE t", "CREATE INDEX i"] := by
    decide +kernel
  have kept : (loadEmbeddedMigrations twoFiles).toOption = some twoMigrations := by
    decide +kernel
  rcases Option.map_eq_some_iff.mp ran with ⟨s, isRun, content⟩
  have reachable : Reachable (Fresh []) (step logged twoFiles) s :=
    ⟨_, ⟨rfl, rfl, rfl, rfl⟩, runs_to_of_run isRun⟩
  have applied := migrations_apply_exactly_once (to_option_eq_some kept) (by decide) reachable
  exact ⟨s, reachable, content, applied.1, applied.2.2.1⟩

end RuneTerminal.Db
