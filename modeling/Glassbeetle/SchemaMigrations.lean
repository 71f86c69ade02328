import Glassbeetle.DataSchema
import Glassbeetle.LedgeredSteps
import Glassbeetle.SchemaGrowth

set_option autoImplicit false

/-!
# Schema migrations

What every start of the API runs on the database before it serves a request.
-/
namespace Glassbeetle.SchemaMigrations
open JsText Transactions SqlTables SchemaGrowth DataSchema

/-- A row of `schema_migrations`. -/
structure Entry where
  name : JsString
  appliedAt : JsString
  deriving DecidableEq

structure Database where
  catalogue : DataCatalogue
  schemaMigrations : Option (List Entry)

def initialMigrationName : JsString := js "001_initial_bootstrap"

structure IncrementalMigration where
  name : JsString
  sql : List TableStatement

def userProfile002 : TableDefinition where
  columns := [nullable .text .id, preset .integer .singleton (.integer 1),
    nullable .text .displayName, nullable .text .pronouns, nullable .text .about,
    nullable .text .locale, nullable .text .timezone,
    preset .integer .includeInPrompts (.integer 1), nullable .text .picturePath,
    nullable .text .pictureUpdatedAt, required .text .createdAt, required .text .updatedAt]
  unique := [[.id], [.singleton]]
  checks := [.among .singleton [.integer 1]]

def spendBudget003 : TableDefinition where
  columns := [nullable .text .id, preset .integer .singleton (.integer 1), nullable .real .limitUsd,
    preset .text .period (text "monthly"), required .text .createdAt, required .text .updatedAt]
  unique := [[.id], [.singleton]]
  checks := [.among .singleton [.integer 1],
    .among .period [text "daily", text "weekly", text "monthly"]]

def migrationsAfterBootstrap : List IncrementalMigration :=
  [⟨js "002_user_profile", [.createTable true .userProfile userProfile002]⟩,
    ⟨js "003_spend_budget", [.createTable true .spendBudget spendBudget003]⟩,
    ⟨js "004_chat_compaction_sequence",
      [.addColumn .chats (nullable .integer .compactedBeforeSequence)]⟩,
    ⟨js "005_team_orchestration_strategies",
      [.addColumn .teams (preset .text .strategy (text "sequential")),
        .addColumn .teams ⟨.maxTurnsPerInteraction, .integer, false, some (.integer 5), none⟩,
        .addColumn .teamMembers (preset .integer .isCoordinator (.integer 0))]⟩]

/-- Where a start reads the clock, and where it may be stopped: by an error that is not SQLite's
verdict on the statement, or by the end of the process. -/
inductive Point where
  | ledger
  | opening (migration : JsString)
  | file (path : SqlFile) (n : ℕ)
  | statement (migration : JsString) (n : ℕ)
  | record (migration : JsString)
  | commit (migration : JsString)

structure Start where
  fails : Point → Bool
  clock : Point → JsString

def Start.fault (start : Start) (point : Point) : Option SqlError :=
  if start.fails point then some .environment else none

/-- The repository's `data/` directory, which a packaged build does not have. -/
abbrev DataDir := SqlFile → Option (JsString → List TableStatement)

def loadSqlContent (dataDir : Option DataDir) (now : JsString) (path : SqlFile) :
    List TableStatement :=
  match dataDir.bind (· path) with
  | some sql => sql now
  | none => fallbackSql now path

/-- The files and the bundled copies "must be kept in step". -/
def InStep (dataDir : Option DataDir) : Prop :=
  ∀ directory ∈ dataDir, ∀ path sql, directory path = some sql → ∀ now, sql now = fallbackSql now path

/-- The errors that a migration's statement may meet: `duplicate column name`, `no such table`. -/
def passedOver : SqlError → Bool
  | .duplicateColumn | .noSuchTable => true
  | _ => false

abbrev Transaction := StateT Database (Except SqlError) Unit

def execStatement (fault : Option SqlError) (sql : TableStatement) : Transaction :=
  statement fault fun db =>
    (execute sql db.catalogue).map fun catalogue => ((), { db with catalogue })

def catching (tolerated : SqlError → Bool) (body : Transaction) : Transaction := fun db =>
  match body db with
  | .ok after => .ok after
  | .error e => if tolerated e then .ok ((), db) else .error e

def execAll (tolerated : SqlError → Bool) (fault : ℕ → Option SqlError) :
    ℕ → List TableStatement → Transaction
  | _, [] => pure ()
  | n, sql :: rest => do
    catching tolerated (execStatement (fault n) sql)
    execAll tolerated fault (n + 1) rest

/-- `db.exec(sql)`. -/
def exec (fault : ℕ → Option SqlError) (sql : List TableStatement) : Transaction :=
  execAll (fun _ => false) fault 0 sql

def execFiles (dataDir : Option DataDir) (start : Start) : List SqlFile → Transaction
  | [] => pure ()
  | path :: rest => do
    exec (fun n => start.fault (.file path n)) (loadSqlContent dataDir (start.clock (.file path 0)) path)
    execFiles dataDir start rest

/-- `name` is `UNIQUE` in the ledger. -/
def insertEntry (name appliedAt : JsString) : Transaction := fun db =>
  match db.schemaMigrations with
  | none => .error .noSuchTable
  | some entries =>
    if entries.any (·.name = name) then .error .constraint
    else .ok ((), { db with schemaMigrations := some (entries ++ [⟨name, appliedAt⟩]) })

def isApplied (db : Database) (name : JsString) : Bool :=
  (db.schemaMigrations.getD []).any (·.name = name)

def recorded (start : Start) (name : JsString) (body : Transaction) (db : Database) :
    Except SqlError Unit × Database :=
  transaction (start.fault (.opening name)) (start.fault (.commit name)) (do
    body
    statement (start.fault (.record name)) (insertEntry name (start.clock (.record name)))) db

def applyInitialBootstrap (dataDir : Option DataDir) (start : Start) (db : Database) :
    Except SqlError Unit × Database :=
  if isApplied db initialMigrationName then (.ok (), db)
  else recorded start initialMigrationName (execFiles dataDir start migrationFileSequence) db

def applyIncrementalMigrations (start : Start) :
    List IncrementalMigration → Database → Except SqlError Unit × Database
  | [], db => (.ok (), db)
  | migration :: rest, db =>
    if isApplied db migration.name then applyIncrementalMigrations start rest db
    else
      match recorded start migration.name
        (execAll passedOver (fun n => start.fault (.statement migration.name n)) 0 migration.sql) db with
      | (.ok (), after) => applyIncrementalMigrations start rest after
      | (.error e, after) => (.error e, after)

/-- `CREATE TABLE IF NOT EXISTS schema_migrations`. -/
def createLedger (db : Database) : Database :=
  { db with schemaMigrations := some (db.schemaMigrations.getD []) }

def runMigrations (dataDir : Option DataDir) (start : Start) (db : Database) :
    Except SqlError Unit × Database :=
  match start.fault .ledger with
  | some e => (.error e, db)
  | none =>
    match applyInitialBootstrap dataDir start (createLedger db) with
    | (.ok (), after) => applyIncrementalMigrations start migrationsAfterBootstrap after
    | (.error e, after) => (.error e, after)

def leftBy (dataDir : Option DataDir) (db : Database) (start : Start) : Database :=
  (runMigrations dataDir start db).2

/-! ### The two phases as one run of recorded steps -/

inductive Migration where
  | bootstrap
  | incremental (migration : IncrementalMigration)

def Migration.name : Migration → JsString
  | .bootstrap => initialMigrationName
  | .incremental migration => migration.name

def allMigrations : List Migration := .bootstrap :: migrationsAfterBootstrap.map .incremental

def applied (db : Database) (migration : Migration) : Bool := isApplied db migration.name

def Migration.body (dataDir : Option DataDir) (start : Start) : Migration → Transaction
  | .bootstrap => execFiles dataDir start migrationFileSequence
  | .incremental migration =>
    execAll passedOver (fun n => start.fault (.statement migration.name n)) 0 migration.sql

def attempt (dataDir : Option DataDir) (start : Start) (migration : Migration) (db : Database) :
    Except SqlError Unit × Database :=
  recorded start migration.name (migration.body dataDir start) db

def quiet (clock : Point → JsString) : Start := ⟨fun _ => false, clock⟩

theorem incremental_steps (dataDir : Option DataDir) (start : Start)
    (migrations : List IncrementalMigration) (db : Database) :
    applyIncrementalMigrations start migrations db =
      LedgeredSteps.runSteps applied (attempt dataDir start) (migrations.map .incremental) db := by
  induction migrations generalizing db with
  | nil => rfl
  | cons migration rest ih =>
    rw [List.map_cons, applyIncrementalMigrations, LedgeredSteps.runSteps]
    by_cases happlied : isApplied db migration.name = true
    · have hstep : applied db (.incremental migration) = true := happlied
      rw [if_pos happlied, if_pos hstep, ih]
    · have hstep : ¬ applied db (.incremental migration) = true := happlied
      rw [if_neg happlied, if_neg hstep, attempt, Migration.name, Migration.body]
      rcases recorded start migration.name _ db with ⟨_ | _, after⟩
      · rfl
      · exact ih after

theorem runMigrations_steps (dataDir : Option DataDir) (start : Start) (db : Database)
    (h : start.fault .ledger = none) :
    runMigrations dataDir start db =
      LedgeredSteps.runSteps applied (attempt dataDir start) allMigrations (createLedger db) := by
  simp only [runMigrations, h, allMigrations, incremental_steps dataDir start]
  rw [LedgeredSteps.runSteps, applyInitialBootstrap]
  by_cases happlied : isApplied (createLedger db) initialMigrationName = true
  · have hstep : applied (createLedger db) .bootstrap = true := happlied
    rw [if_pos happlied, if_pos hstep]
  · have hstep : ¬ applied (createLedger db) .bootstrap = true := happlied
    rw [if_neg happlied, if_neg hstep, attempt, Migration.name, Migration.body]
    rcases recorded start initialMigrationName _ (createLedger db) with ⟨_ | _, after⟩
    · rfl
    · rfl

/-! ### One transaction -/

theorem catching_none (tolerated : SqlError → Bool) (sql : TableStatement) (db : Database) :
    catching tolerated (execStatement none sql) db =
      (SchemaGrowth.attempt tolerated sql db.catalogue).map fun catalogue =>
        ((), { db with catalogue }) := by
  cases hrun : execute sql db.catalogue with
  | ok next => simp [catching, execStatement, statement, SchemaGrowth.attempt, hrun, Except.map]
  | error e =>
    cases htolerated : tolerated e with
    | true =>
      simp [catching, execStatement, statement, SchemaGrowth.attempt, hrun, Except.map, htolerated]
    | false =>
      simp [catching, execStatement, statement, SchemaGrowth.attempt, hrun, Except.map, htolerated]

theorem catching_ok (tolerated : SqlError → Bool) (henvironment : tolerated .environment = false)
    (fault : Option SqlError) (hfault : ∀ e, fault = some e → e = .environment)
    (sql : TableStatement) (db after : Database)
    (h : catching tolerated (execStatement fault sql) db = .ok ((), after)) :
    ∃ catalogue, SchemaGrowth.attempt tolerated sql db.catalogue = .ok catalogue ∧
      after = { db with catalogue } := by
  cases fault with
  | some e =>
    obtain rfl := hfault e rfl
    simp [catching, execStatement, statement, henvironment] at h
  | none =>
    rw [catching_none] at h
    cases hrun : SchemaGrowth.attempt tolerated sql db.catalogue with
    | error e => simp [hrun, Except.map] at h
    | ok catalogue =>
      rw [hrun] at h
      cases h
      exact ⟨catalogue, rfl, rfl⟩

theorem fault_environment (start : Start) (point : Point) (e : SqlError)
    (h : start.fault point = some e) : e = .environment := by
  unfold Start.fault at h
  split at h
  · exact (Option.some.inj h).symm
  · cases h

theorem execAll_ok (tolerated : SqlError → Bool) (henvironment : tolerated .environment = false)
    (start : Start) (point : ℕ → Point) (sql : List TableStatement) (n : ℕ) (db after : Database)
    (h : execAll tolerated (fun n => start.fault (point n)) n sql db = .ok ((), after)) :
    ∃ catalogue, attemptAll tolerated sql db.catalogue = .ok catalogue ∧
      after = { db with catalogue } := by
  induction sql generalizing n db with
  | nil =>
    obtain ⟨-, rfl⟩ := pure_ok () () db after h
    exact ⟨db.catalogue, rfl, rfl⟩
  | cons first rest ih =>
    obtain ⟨_, mid, hfirst, hrest⟩ := bind_ok _ _ db () after h
    obtain ⟨next, hnext, rfl⟩ := catching_ok tolerated henvironment _
      (fault_environment start (point n)) first db mid hfirst
    obtain ⟨last, hlast, rfl⟩ := ih (n + 1) _ hrest
    refine ⟨last, ?_, rfl⟩
    simp only [attemptAll, hnext]
    exact hlast

theorem execAll_quiet (tolerated : SqlError → Bool) (clock : Point → JsString) (point : ℕ → Point)
    (sql : List TableStatement) (n : ℕ) (db : Database) (catalogue : DataCatalogue)
    (h : attemptAll tolerated sql db.catalogue = .ok catalogue) :
    execAll tolerated (fun n => (quiet clock).fault (point n)) n sql db =
      .ok ((), { db with catalogue }) := by
  induction sql generalizing n db with
  | nil =>
    cases h
    rfl
  | cons first rest ih =>
    unfold attemptAll at h
    cases hfirst : SchemaGrowth.attempt tolerated first db.catalogue with
    | error e => simp [hfirst] at h
    | ok next =>
      simp only [hfirst] at h
      change (catching tolerated (execStatement none first) db >>= fun p =>
        execAll tolerated _ (n + 1) rest p.2) = _
      rw [catching_none, hfirst]
      exact ih (n + 1) { db with catalogue := next } h

theorem attemptAll_append (tolerated : SqlError → Bool) (first second : List TableStatement)
    (catalogue next : DataCatalogue) (h : attemptAll tolerated first catalogue = .ok next) :
    attemptAll tolerated (first ++ second) catalogue = attemptAll tolerated second next := by
  induction first generalizing catalogue with
  | nil =>
    cases h
    rfl
  | cons sql rest ih =>
    simp only [attemptAll, List.cons_append] at h ⊢
    cases hrun : SchemaGrowth.attempt tolerated sql catalogue with
    | error e => simp [hrun] at h
    | ok mid =>
      simp only [hrun] at h ⊢
      exact ih mid h

theorem attemptAll_split (tolerated : SqlError → Bool) (first second : List TableStatement)
    (catalogue last : DataCatalogue)
    (h : attemptAll tolerated (first ++ second) catalogue = .ok last) :
    ∃ next, attemptAll tolerated first catalogue = .ok next ∧
      attemptAll tolerated second next = .ok last := by
  induction first generalizing catalogue with
  | nil => exact ⟨catalogue, rfl, h⟩
  | cons sql rest ih =>
    simp only [attemptAll, List.cons_append] at h ⊢
    cases hrun : SchemaGrowth.attempt tolerated sql catalogue with
    | error e => simp [hrun] at h
    | ok mid =>
      simp only [hrun] at h ⊢
      exact ih mid h

def filesSql (dataDir : Option DataDir) (clock : Point → JsString) (paths : List SqlFile) :
    List TableStatement :=
  paths.flatMap fun path => loadSqlContent dataDir (clock (.file path 0)) path

def Migration.sql (dataDir : Option DataDir) (clock : Point → JsString) :
    Migration → List TableStatement
  | .bootstrap => filesSql dataDir clock migrationFileSequence
  | .incremental migration => migration.sql

def Migration.tolerated : Migration → SqlError → Bool
  | .bootstrap => fun _ => false
  | .incremental _ => passedOver

theorem execFiles_ok (dataDir : Option DataDir) (start : Start) (paths : List SqlFile)
    (db after : Database) (h : execFiles dataDir start paths db = .ok ((), after)) :
    ∃ catalogue, attemptAll (fun _ => false) (filesSql dataDir start.clock paths) db.catalogue =
        .ok catalogue ∧ after = { db with catalogue } := by
  induction paths generalizing db with
  | nil =>
    obtain ⟨-, rfl⟩ := pure_ok () () db after h
    exact ⟨db.catalogue, rfl, rfl⟩
  | cons path rest ih =>
    obtain ⟨_, mid, hfirst, hrest⟩ := bind_ok _ _ db () after h
    obtain ⟨next, hnext, rfl⟩ := execAll_ok _ rfl start (.file path) _ 0 db mid hfirst
    obtain ⟨last, hlast, rfl⟩ := ih _ hrest
    refine ⟨last, ?_, rfl⟩
    rw [filesSql, List.flatMap_cons, attemptAll_append _ _ _ _ next hnext]
    exact hlast

theorem execFiles_quiet (dataDir : Option DataDir) (clock : Point → JsString)
    (paths : List SqlFile) (db : Database) (catalogue : DataCatalogue)
    (h : attemptAll (fun _ => false) (filesSql dataDir clock paths) db.catalogue = .ok catalogue) :
    execFiles dataDir (quiet clock) paths db = .ok ((), { db with catalogue }) := by
  induction paths generalizing db with
  | nil =>
    cases h
    rfl
  | cons path rest ih =>
    rw [filesSql, List.flatMap_cons] at h
    obtain ⟨next, hnext, hlast⟩ := attemptAll_split _ _ _ _ _ h
    change (execAll (fun _ => false) (fun n => (quiet clock).fault (.file path n)) 0
      (loadSqlContent dataDir (clock (.file path 0)) path) db >>= fun p =>
        execFiles dataDir (quiet clock) rest p.2) = _
    rw [execAll_quiet _ clock (.file path) _ 0 db next hnext]
    exact ih { db with catalogue := next } hlast

theorem body_ok (dataDir : Option DataDir) (start : Start) (migration : Migration)
    (db after : Database) (h : migration.body dataDir start db = .ok ((), after)) :
    ∃ catalogue, attemptAll migration.tolerated (migration.sql dataDir start.clock) db.catalogue =
        .ok catalogue ∧ after = { db with catalogue } := by
  cases migration with
  | bootstrap => exact execFiles_ok dataDir start _ db after h
  | incremental migration =>
    exact execAll_ok passedOver rfl start (.statement migration.name) _ 0 db after h

theorem body_quiet (dataDir : Option DataDir) (clock : Point → JsString) (migration : Migration)
    (db : Database) (catalogue : DataCatalogue)
    (h : attemptAll migration.tolerated (migration.sql dataDir clock) db.catalogue = .ok catalogue) :
    migration.body dataDir (quiet clock) db = .ok ((), { db with catalogue }) := by
  cases migration with
  | bootstrap => exact execFiles_quiet dataDir clock _ db catalogue h
  | incremental migration =>
    exact execAll_quiet passedOver clock (.statement migration.name) _ 0 db catalogue h

structure Commits (dataDir : Option DataDir) (migration : Migration) (clock : Point → JsString)
    (db after : Database) : Prop where
  catalogue : attemptAll migration.tolerated (migration.sql dataDir clock) db.catalogue =
    .ok after.catalogue
  ledger : ∃ entries, db.schemaMigrations = some entries ∧
    after.schemaMigrations = some (entries ++ [⟨migration.name, clock (.record migration.name)⟩])
  missing : isApplied db migration.name = false

theorem insertEntry_ok (name appliedAt : JsString) (db after : Database)
    (h : insertEntry name appliedAt db = .ok ((), after)) :
    after.catalogue = db.catalogue ∧ isApplied db name = false ∧
      ∃ entries, db.schemaMigrations = some entries ∧
        after.schemaMigrations = some (entries ++ [⟨name, appliedAt⟩]) := by
  unfold insertEntry at h
  cases hledger : db.schemaMigrations with
  | none => simp [hledger] at h
  | some entries =>
    simp only [hledger] at h
    split at h
    · cases h
    · next hnew =>
      cases h
      exact ⟨rfl, by simpa [isApplied, hledger] using hnew, entries, rfl, rfl⟩

theorem attempt_whole (dataDir : Option DataDir) (start : Start) (migration : Migration)
    (db : Database) :
    Atomic (fun db _ after => Commits dataDir migration start.clock db after) db
      (attempt dataDir start migration db) := by
  refine transaction_atomic _ _ _ _ db fun _ after hrun => ?_
  obtain ⟨_, mid, hbody, hrecord⟩ := bind_ok _ _ db () after hrun
  obtain ⟨catalogue, hcatalogue, rfl⟩ := body_ok dataDir start migration db mid hbody
  obtain ⟨hsame, hmissing, hledger⟩ := insertEntry_ok _ _ _ after (statement_ok _ _ _ () after hrecord).2
  exact ⟨hcatalogue.trans (congrArg Except.ok hsame.symm), hledger, hmissing⟩

theorem transaction_quiet (body : Transaction) (db after : Database)
    (h : body db = .ok ((), after)) : transaction none none body db = (.ok (), after) := by
  have hrun : (do
      statement none (pure ())
      let a ← body
      statement none (pure ())
      return a : Transaction) db = .ok ((), after) := by
    change (body db >>= fun p => Except.ok ((), p.2)) = _
    rw [h]
    rfl
  simp only [transaction, autocommit, hrun]

theorem commits_quiet (dataDir : Option DataDir) (migration : Migration)
    (clock : Point → JsString) (db after : Database)
    (h : Commits dataDir migration clock db after) :
    attempt dataDir (quiet clock) migration db = (.ok (), after) := by
  obtain ⟨entries, hledger, hafter⟩ := h.ledger
  apply transaction_quiet
  change (migration.body dataDir (quiet clock) db >>= fun p =>
    insertEntry migration.name (clock (.record migration.name)) p.2) = _
  rw [body_quiet dataDir clock migration db after.catalogue h.catalogue]
  have hnew : entries.any (·.name = migration.name) = false := by
    simpa [isApplied, hledger] using h.missing
  change insertEntry _ _ _ = _
  simp only [insertEntry, hledger, hnew, Bool.false_eq_true, if_false, ← hafter]

theorem commits_applied (dataDir : Option DataDir) (migration : Migration)
    (clock : Point → JsString) (db after : Database)
    (h : Commits dataDir migration clock db after) (other : Migration) :
    applied after other = (applied db other || other.name = migration.name) := by
  obtain ⟨entries, hledger, hafter⟩ := h.ledger
  simp [applied, isApplied, hledger, hafter, List.any_append, eq_comm]

/-! ### Starts that stop anywhere -/

theorem migrations_names : (allMigrations.map Migration.name).Nodup := by decide +kernel

def Point.owner : Point → JsString
  | .ledger => []
  | .file _ _ => initialMigrationName
  | .opening name | .statement name _ | .record name | .commit name => name

theorem commits_congr (dataDir : Option DataDir) (migration : Migration)
    (clock other : Point → JsString) (hclock : ∀ point : Point, point.owner = migration.name →
      clock point = other point) (db after : Database) (h : Commits dataDir migration clock db after) :
    Commits dataDir migration other db after := by
  have hsql : migration.sql dataDir clock = migration.sql dataDir other := by
    cases migration with
    | bootstrap =>
      change filesSql _ _ _ = filesSql _ _ _
      apply List.flatMap_congr
      intro path _
      rw [hclock (.file path 0) rfl]
    | incremental migration => rfl
  refine ⟨hsql ▸ h.catalogue, ?_, h.missing⟩
  rw [← hclock (.record migration.name) rfl]
  exact h.ledger

/-- The readings of several starts, each of another migration's transaction, as one clock. -/
theorem brought_clock (dataDir : Option DataDir) (migrations : List Migration)
    (hnames : (migrations.map Migration.name).Nodup) (s t : Database)
    (h : LedgeredSteps.Brought applied (Commits dataDir) migrations s t) :
    ∃ clock : Point → JsString, LedgeredSteps.Brought applied
      (fun migration (_ : Unit) => Commits dataDir migration clock) migrations s t := by
  induction h with
  | done s => exact ⟨fun _ => [], .done s⟩
  | skip migration rest s t happlied _ ih =>
    obtain ⟨clock, hrest⟩ := ih (List.nodup_cons.mp hnames).2
    exact ⟨clock, .skip migration rest s t happlied hrest⟩
  | take migration rest s u t moment hmissing htake _ ih =>
    simp only [List.map_cons, List.nodup_cons] at hnames
    obtain ⟨clock, hrest⟩ := ih hnames.2
    refine ⟨fun point => if point.owner = migration.name then moment point else clock point,
      .take migration rest s u t () hmissing ?_ (LedgeredSteps.brought_imp _ _ _ rest u t ?_ hrest)⟩
    · refine commits_congr dataDir migration moment _ ?_ s u htake
      intro point howner
      rw [if_pos howner]
    · intro other hother _ s after hcommits
      refine commits_congr dataDir other clock _ ?_ s after hcommits
      intro point howner
      rw [if_neg]
      intro hname
      exact hnames.1 (List.mem_map.mpr ⟨other, hother, howner.symm.trans hname⟩)

theorem whole (dataDir : Option DataDir) (start : Start) :
    LedgeredSteps.Whole (fun migration (clock : Point → JsString) => Commits dataDir migration clock)
      (attempt dataDir start) := by
  intro migration db
  have hwhole := attempt_whole dataDir start migration db
  rcases hrun : attempt dataDir start migration db with ⟨_ | _, after⟩
  · rw [hrun] at hwhole
    exact hwhole
  · rw [hrun] at hwhole
    exact ⟨start.clock, hwhole⟩

theorem commits_records (dataDir : Option DataDir) (migration : Migration)
    (clock : Point → JsString) (db after : Database) (h : Commits dataDir migration clock db after) :
    applied after migration = true := by
  simp [commits_applied dataDir migration clock db after h]

theorem commits_retains (dataDir : Option DataDir) (migration : Migration)
    (clock : Point → JsString) (db after : Database) (other : Migration)
    (h : Commits dataDir migration clock db after) (hother : applied db other = true) :
    applied after other = true := by
  simp [commits_applied dataDir migration clock db after h, hother]

theorem createLedger_some (db : Database) (h : db.schemaMigrations.isSome = true) :
    createLedger db = db := by
  obtain ⟨entries, hentries⟩ := Option.isSome_iff_exists.mp h
  obtain ⟨catalogue, _⟩ := db
  simp only at hentries
  subst hentries
  rfl

/-- What a start leaves is what it found, or the steps it took from the ledger on. -/
theorem leftBy_cases (dataDir : Option DataDir) (start : Start) (db : Database) :
    leftBy dataDir db start = db ∨
      leftBy dataDir db start = (LedgeredSteps.runSteps applied (attempt dataDir start)
        allMigrations (createLedger db)).2 := by
  cases hfault : start.fault .ledger with
  | some e =>
    left
    simp [leftBy, runMigrations, hfault]
  | none =>
    right
    rw [leftBy, runMigrations_steps dataDir start db hfault]

theorem runSteps_ledger (dataDir : Option DataDir) (start : Start) (migrations : List Migration)
    (db : Database) (h : db.schemaMigrations.isSome = true) :
    (LedgeredSteps.runSteps applied (attempt dataDir start) migrations
      db).2.schemaMigrations.isSome = true := by
  refine LedgeredSteps.runSteps_invariant applied (Commits dataDir) (attempt dataDir start)
    (fun db => db.schemaMigrations.isSome = true) (whole dataDir start) migrations ?_ db h
  intro migration _ clock s after _ hcommits
  obtain ⟨_, _, hafter⟩ := hcommits.ledger
  simp [hafter]

/-- The induction is on the starts: each leaves either what it found, or a run of steps that the
next one resumes. -/
theorem starts_brought (dataDir : Option DataDir) (starts : List Start) (db t : Database)
    (h : LedgeredSteps.Brought applied (Commits dataDir) allMigrations
      (createLedger (starts.foldl (leftBy dataDir) db)) t) :
    LedgeredSteps.Brought applied (Commits dataDir) allMigrations (createLedger db) t := by
  induction starts generalizing db with
  | nil => exact h
  | cons start rest ih =>
    rw [List.foldl_cons] at h
    have hrest := ih _ h
    rcases leftBy_cases dataDir start db with hleft | hleft
    · rwa [hleft] at hrest
    · rw [hleft, createLedger_some _ (runSteps_ledger dataDir start _ _ rfl)] at hrest
      exact LedgeredSteps.resume applied (Commits dataDir)
        (fun migration clock => commits_records dataDir migration clock)
        (fun migration clock s after other => commits_retains dataDir migration clock s after other)
        (attempt dataDir start) (whole dataDir start) allMigrations (createLedger db) t hrest

theorem runMigrations_brought (dataDir : Option DataDir) (start : Start) (db final : Database)
    (h : runMigrations dataDir start db = (.ok (), final)) :
    LedgeredSteps.Brought applied (Commits dataDir) allMigrations (createLedger db) final ∧
      final.schemaMigrations.isSome = true := by
  have hledger : start.fault .ledger = none := by
    cases hfault : start.fault .ledger with
    | none => rfl
    | some e => simp [runMigrations, hfault] at h
  rw [runMigrations_steps dataDir start db hledger] at h
  have hbrought := LedgeredSteps.runSteps_brought applied (Commits dataDir) (attempt dataDir start)
    (whole dataDir start) allMigrations _ (by rw [h])
  have hsome := runSteps_ledger dataDir start allMigrations (createLedger db) rfl
  rw [h] at hbrought hsome
  exact ⟨hbrought, hsome⟩

theorem runMigrations_applied (dataDir : Option DataDir) (start : Start) (db final : Database)
    (h : runMigrations dataDir start db = (.ok (), final)) :
    ∀ migration ∈ allMigrations, applied final migration = true :=
  LedgeredSteps.brought_applied applied (Commits dataDir)
    (fun migration clock => commits_records dataDir migration clock)
    (fun migration clock s after other => commits_retains dataDir migration clock s after other)
    allMigrations _ final (runMigrations_brought dataDir start db final h).1

theorem leftBy_final (dataDir : Option DataDir) (start next : Start) (db final : Database)
    (h : runMigrations dataDir start db = (.ok (), final)) : leftBy dataDir final next = final := by
  rcases leftBy_cases dataDir next final with hleft | hleft
  · exact hleft
  · rw [hleft, createLedger_some final (runMigrations_brought dataDir start db final h).2,
      LedgeredSteps.runSteps_applied applied _ _ _ (runMigrations_applied dataDir start db final h)]

/-- However many starts were stopped, and wherever, the first that goes through leaves the database
as one undisturbed start would have, and no later one changes it. -/
theorem interrupted_starts_resume (dataDir : Option DataDir) (starts : List Start) (last : Start)
    (db final : Database)
    (h : runMigrations dataDir last (starts.foldl (leftBy dataDir) db) = (.ok (), final)) :
    (∃ clock, runMigrations dataDir (quiet clock) db = (.ok (), final)) ∧
      ∀ later : List Start, later.foldl (leftBy dataDir) final = final := by
  constructor
  · have hall := starts_brought dataDir starts db final (runMigrations_brought dataDir last _ final h).1
    obtain ⟨clock, hclock⟩ := brought_clock dataDir allMigrations migrations_names _ _ hall
    refine ⟨clock, ?_⟩
    rw [runMigrations_steps dataDir (quiet clock) db rfl]
    exact LedgeredSteps.brought_run applied _ (attempt dataDir (quiet clock))
      (fun migration _ s after => commits_quiet dataDir migration clock s after) allMigrations _ _
      hclock
  · intro later
    induction later with
    | nil => rfl
    | cons next rest ih => rw [List.foldl_cons, leftBy_final dataDir last next _ final h, ih]

/-- A database of which only the last migration is missing, and a start that stops within it. -/
def almostCurrent : Database where
  catalogue := ⟨fun
    | .teams => some ⟨⟨[nullable .text .id, required .text .name], [[.id]], []⟩, [fun _ => none]⟩
    | .teamMembers => some ⟨⟨[owningReference .teamId .teams], [[.teamId]], []⟩, []⟩
    | _ => none, []⟩
  schemaMigrations := some ((allMigrations.dropLast.map Migration.name).map (⟨·, []⟩))

def stoppedWithin : Start where
  fails
    | .statement _ n => n == 1
    | _ => false
  clock _ := []

theorem interrupted_starts_resume_within : ∃ final,
    (∃ clock, runMigrations none (quiet clock) almostCurrent = (.ok (), final)) ∧
      ∀ later : List Start, later.foldl (leftBy none) final = final :=
  ⟨_, interrupted_starts_resume none [stoppedWithin] (quiet fun _ => []) almostCurrent _ rfl⟩

end Glassbeetle.SchemaMigrations
