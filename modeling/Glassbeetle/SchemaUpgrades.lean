import Glassbeetle.SchemaMigrations

set_option autoImplicit false

namespace Glassbeetle.SchemaUpgrades
open JsText SqlTables SchemaGrowth DataSchema SchemaMigrations

/-! ### A database that had nothing -/

def allIndexes : List (Index TableName ColumnName) :=
  [.providers, .agents, .teams, .chats, .artifacts, .analytics].flatMap areaIndexes

theorem createTables (names : List TableName) (catalogue : DataCatalogue) (hnodup : names.Nodup)
    (hnew : ∀ name ∈ names, catalogue.tables name = none) :
    ∃ after, attemptAll (fun _ => false)
        (names.map fun name => .createTable false name (schema name)) catalogue = .ok after ∧
      (∀ name ∈ names, after.tables name = some ⟨schema name, []⟩) ∧
      (∀ name ∉ names, after.tables name = catalogue.tables name) ∧
      after.indexes = catalogue.indexes := by
  induction names generalizing catalogue with
  | nil => exact ⟨catalogue, rfl, by simp, by simp, rfl⟩
  | cons name rest ih =>
    simp only [List.nodup_cons] at hnodup
    simp only [List.mem_cons, forall_eq_or_imp] at hnew
    have hfirst : SchemaGrowth.attempt (fun _ => false) (.createTable false name (schema name))
        catalogue = .ok (catalogue.setTable name ⟨schema name, []⟩) := by
      simp [SchemaGrowth.attempt, execute, hnew.1]
    obtain ⟨after, hrun, hmem, hothers, hindexes⟩ :=
      ih (catalogue.setTable name ⟨schema name, []⟩) hnodup.2 fun other hother => by
        rw [setTable_of_ne catalogue name other _ fun h => hnodup.1 (h ▸ hother)]
        exact hnew.2 other hother
    refine ⟨after, by simp only [List.map_cons, attemptAll, hfirst, hrun], ?_, ?_, hindexes⟩
    · simp only [List.mem_cons, forall_eq_or_imp]
      exact ⟨(hothers name hnodup.1).trans (setTable_self catalogue name _), hmem⟩
    · intro other hother
      simp only [List.mem_cons, not_or] at hother
      rw [hothers other hother.2, setTable_of_ne catalogue name other _ hother.1]

theorem createIndexes (indexes : List (Index TableName ColumnName)) (catalogue : DataCatalogue)
    (hnodup : (catalogue.indexes ++ indexes).Nodup)
    (htables : ∀ index ∈ indexes, ∃ table, catalogue.tables index.table = some table ∧
      index.columns.all (· ∈ table.definition.names) = true) :
    attemptAll (fun _ => false) (indexes.map .createIndex) catalogue =
      .ok { catalogue with indexes := catalogue.indexes ++ indexes } := by
  induction indexes generalizing catalogue with
  | nil => simp [attemptAll]
  | cons index rest ih =>
    simp only [List.mem_cons, forall_eq_or_imp] at htables
    obtain ⟨⟨table, htable, hcolumns⟩, hrest⟩ := htables
    have hnew : index ∉ catalogue.indexes := by
      rw [List.nodup_append] at hnodup
      intro hmem
      exact hnodup.2.2 index hmem index List.mem_cons_self rfl
    have hfirst : SchemaGrowth.attempt (fun _ => false) (.createIndex index) catalogue =
        .ok { catalogue with indexes := catalogue.indexes ++ [index] } := by
      simp only [SchemaGrowth.attempt, execute, htable, if_neg hnew, if_pos hcolumns]
    simp only [List.map_cons, attemptAll, hfirst]
    rw [ih { catalogue with indexes := catalogue.indexes ++ [index] } (by simpa using hnodup) hrest]
    simp

def tablesBeforeSeed : List TableName :=
  [.systemPrompts, .providers, .models, .providerCredentials, .agents, .agentMemories, .teams,
    .teamMembers, .projects, .chats, .messages, .sharedMemories, .artifacts, .usageEvents, .backups,
    .backupPolicy]

def tablesAfterSeed : List TableName := [.userProfile, .spendBudget]

theorem fallback_statements (now : SqlFile → JsString) :
    (migrationFileSequence.flatMap fun path => fallbackSql (now path) path) =
      .pragma :: (tablesBeforeSeed.map (fun name => .createTable false name (schema name)) ++
        (.insert .backupPolicy (seedRow (now .seed)) ::
          (tablesAfterSeed.map (fun name => .createTable false name (schema name)) ++
            allIndexes.map .createIndex))) := rfl

theorem tables_split (name : TableName) : name ∈ tablesBeforeSeed ∨ name ∈ tablesAfterSeed := by
  cases name <;> decide

theorem index_columns : ∀ index ∈ allIndexes,
    index.columns.all (· ∈ (schema index.table).names) = true :=
  each_of_all _ (by decide)

theorem fresh_catalogue (now : SqlFile → JsString) : ∃ catalogue,
    attemptAll (fun _ => false) (migrationFileSequence.flatMap fun path => fallbackSql (now path) path)
      ⟨fun _ => none, []⟩ = .ok catalogue ∧
    (∀ name, ∃ rows, catalogue.tables name = some ⟨schema name, rows⟩) ∧
    catalogue.indexes = allIndexes := by
  obtain ⟨first, hfirst, hbefore, hothers, hnone⟩ :=
    createTables tablesBeforeSeed ⟨fun _ => none, []⟩ (by decide) (by simp)
  have hpolicy := hbefore .backupPolicy (by decide)
  have hseed : SchemaGrowth.attempt (fun _ => false) (.insert .backupPolicy (seedRow (now .seed)))
      first = .ok (first.setTable .backupPolicy ⟨schema .backupPolicy, [seedRow (now .seed)]⟩) := by
    have hadmits : (schema .backupPolicy).admits (seedRow (now .seed)) = true := rfl
    simp [SchemaGrowth.attempt, execute, hpolicy, hadmits]
  obtain ⟨second, hsecond, hafter, hkept, hsame⟩ := createTables tablesAfterSeed
    (first.setTable .backupPolicy ⟨schema .backupPolicy, [seedRow (now .seed)]⟩) (by decide) (by
      intro name hname
      have hnew : name ∉ tablesBeforeSeed ∧ name ≠ .backupPolicy := by
        revert name
        exact each_of_all _ (by decide)
      rw [setTable_of_ne first _ name _ hnew.2, hothers name hnew.1])
  have htables : ∀ name, ∃ rows, second.tables name = some ⟨schema name, rows⟩ := by
    intro name
    by_cases hlast : name ∈ tablesAfterSeed
    · exact ⟨[], hafter name hlast⟩
    · rw [hkept name hlast]
      by_cases hpolicy : name = .backupPolicy
      · subst hpolicy
        exact ⟨_, setTable_self first _ _⟩
      · rw [setTable_of_ne first _ name _ hpolicy]
        exact ⟨[], hbefore name ((tables_split name).resolve_right hlast)⟩
  have hindexes : second.indexes = [] := hsame.trans hnone
  have hcreated := createIndexes allIndexes second (by rw [hindexes]; decide) (by
    intro index hindex
    obtain ⟨rows, htable⟩ := htables index.table
    exact ⟨_, htable, index_columns index hindex⟩)
  refine ⟨{ second with indexes := second.indexes ++ allIndexes }, ?_, htables, by simp [hindexes]⟩
  rw [fallback_statements]
  simp only [attemptAll, SchemaGrowth.attempt, execute]
  rw [attemptAll_append _ _ _ _ first hfirst]
  simp only [attemptAll, hseed]
  rw [attemptAll_append _ _ _ _ second hsecond, hcreated]

/-! ### Databases of earlier releases -/

def ledgerNames (db : Database) : List JsString := (db.schemaMigrations.getD []).map Entry.name

def missing (db : Database) : List TableStatement :=
  (migrationsAfterBootstrap.filter fun migration => !isApplied db migration.name).flatMap
    IncrementalMigration.sql

structure Blank (db : Database) : Prop where
  tables : ∀ name, db.catalogue.tables name = none
  indexes : db.catalogue.indexes = []
  ledger : ledgerNames db = []

/-- What an installation may hold: it was bootstrapped by some release, whose tables may lack what
the migrations not recorded would add. -/
structure Released (db : Database) : Prop where
  initial : isApplied db initialMigrationName = true
  within : Within schema (missing db) db.catalogue
  indexes : db.catalogue.indexes = allIndexes
  once : (ledgerNames db).Nodup
  known : ledgerNames db ⊆ allMigrations.map Migration.name

/-- The schema of today, and every migration recorded once. -/
structure Current (db : Database) : Prop where
  tables : ∀ name, ∃ table, db.catalogue.tables name = some table ∧
    Same table.definition (schema name)
  indexes : db.catalogue.indexes = allIndexes
  recorded : (ledgerNames db).Perm (allMigrations.map Migration.name)

theorem isApplied_iff (db : Database) (name : JsString) :
    isApplied db name = true ↔ name ∈ ledgerNames db := by
  simp [isApplied, ledgerNames]

theorem migrations_grow : ∀ migration ∈ migrationsAfterBootstrap, ∀ sql ∈ migration.sql,
    Grows schema sql := by
  simp only [migrationsAfterBootstrap, List.mem_cons, List.not_mem_nil, or_false,
    forall_eq_or_imp, forall_eq]
  refine ⟨⟨List.Perm.refl _, rfl, rfl⟩, ⟨List.Perm.refl _, rfl, rfl⟩, ⟨by decide, by simp [nullable]⟩,
    ⟨by decide, by simp [preset]⟩, ⟨by decide, by simp⟩, ⟨by decide, by simp [preset]⟩⟩

theorem ledgerNames_commits (dataDir : Option DataDir) (migration : Migration)
    (clock : Point → JsString) (db after : Database)
    (h : Commits dataDir migration clock db after) :
    ledgerNames after = ledgerNames db ++ [migration.name] := by
  obtain ⟨entries, hledger, hafter⟩ := h.ledger
  simp [ledgerNames, hledger, hafter]

theorem missing_commits (dataDir : Option DataDir) (migration : IncrementalMigration)
    (hmem : migration ∈ migrationsAfterBootstrap) (clock : Point → JsString) (db after : Database)
    (h : Commits dataDir (.incremental migration) clock db after) :
    missing db ⊆ migration.sql ++ missing after := by
  intro sql hsql
  simp only [missing, List.mem_flatMap, List.mem_filter, Bool.not_eq_true'] at hsql
  obtain ⟨other, ⟨hother, happlied⟩, hsql⟩ := hsql
  by_cases hname : other.name = migration.name
  · have hsame : other = migration := by
      refine List.inj_on_of_nodup_map ?_ hother hmem hname
      exact (List.nodup_cons.mp migrations_names).2
    exact List.mem_append_left _ (hsame ▸ hsql)
  · refine List.mem_append_right _ (List.mem_flatMap.mpr ⟨other, ?_, hsql⟩)
    have hstill := commits_applied dataDir _ clock db after h (.incremental other)
    simp only [applied, Migration.name, happlied, hname, decide_false, Bool.or_self] at hstill
    exact List.mem_filter.mpr ⟨hother, by simp [hstill]⟩

theorem released_recorded (dataDir : Option DataDir) (migration : Migration)
    (hmem : migration ∈ allMigrations) (clock : Point → JsString) (db after : Database)
    (hnodup : (ledgerNames db).Nodup) (hknown : ledgerNames db ⊆ allMigrations.map Migration.name)
    (h : Commits dataDir migration clock db after) :
    (ledgerNames after).Nodup ∧ ledgerNames after ⊆ allMigrations.map Migration.name := by
  have hnew : migration.name ∉ ledgerNames db := by
    rw [← isApplied_iff, h.missing]
    exact Bool.false_ne_true
  rw [ledgerNames_commits dataDir migration clock db after h]
  constructor
  · rw [List.nodup_append]
    refine ⟨hnodup, List.nodup_singleton _, ?_⟩
    intro name hname other hother
    rw [List.mem_singleton.mp hother]
    exact fun hsame => hnew (hsame ▸ hname)
  · intro name hname
    rcases List.mem_append.mp hname with hold | hlast
    · exact hknown hold
    · rw [List.mem_singleton.mp hlast]
      exact List.mem_map_of_mem hmem

theorem released_grown (db : Database) (h : Released db) (migration : IncrementalMigration)
    (hmem : migration ∈ migrationsAfterBootstrap) (rest : List TableStatement)
    (hrest : missing db ⊆ migration.sql ++ rest) :
    ∃ catalogue, attemptAll passedOver migration.sql db.catalogue = .ok catalogue ∧
      Within schema rest catalogue ∧ db.catalogue.Keeps catalogue ∧
        catalogue.indexes = db.catalogue.indexes :=
  attemptAll_grown schema passedOver schema_names rfl rfl migration.sql rest
    (migrations_grow migration hmem) db.catalogue
    (within_mono schema _ _ db.catalogue h.within hrest)

theorem commits_released (dataDir : Option DataDir) (migration : Migration)
    (hmem : migration ∈ allMigrations) (clock : Point → JsString) (db after : Database)
    (hdb : Released db) (h : Commits dataDir migration clock db after) :
    Released after ∧ db.catalogue.Keeps after.catalogue := by
  cases migration with
  | bootstrap =>
    have hmissing := h.missing
    simp [Migration.name, hdb.initial] at hmissing
  | incremental migration =>
    have hincremental : migration ∈ migrationsAfterBootstrap := by
      simpa [allMigrations] using hmem
    obtain ⟨catalogue, hrun, hwithin, hkeeps, hindexes⟩ := released_grown db hdb migration
      hincremental (missing after) (missing_commits dataDir migration hincremental clock db after h)
    obtain rfl : catalogue = after.catalogue := Except.ok.inj (hrun.symm.trans h.catalogue)
    obtain ⟨honce, hknown⟩ :=
      released_recorded dataDir _ hmem clock db after hdb.once hdb.known h
    have hinitial := commits_retains dataDir _ clock db after .bootstrap h hdb.initial
    exact ⟨⟨hinitial, hwithin, hindexes.trans hdb.indexes, honce, hknown⟩, hkeeps⟩

theorem filesSql_fallback (dataDir : Option DataDir) (hstep : InStep dataDir)
    (clock : Point → JsString) (paths : List SqlFile) :
    filesSql dataDir clock paths =
      paths.flatMap fun path => fallbackSql (clock (.file path 0)) path := by
  apply List.flatMap_congr
  intro path _
  unfold loadSqlContent
  split
  · next sql hsql =>
    obtain ⟨directory, hdirectory, hpath⟩ := Option.bind_eq_some_iff.mp hsql
    exact hstep directory hdirectory path sql hpath _
  · rfl

theorem blank_catalogue (db : Database) (h : Blank db) : db.catalogue = ⟨fun _ => none, []⟩ := by
  obtain ⟨⟨tables, indexes⟩, _⟩ := db
  have htables : tables = fun _ => none := funext h.tables
  have hindexes : indexes = [] := h.indexes
  rw [htables, hindexes]

/-- The bootstrap of a database that had nothing cannot fail, and lacks nothing. -/
theorem blank_bootstrap (dataDir : Option DataDir) (hstep : InStep dataDir)
    (clock : Point → JsString) (db : Database) (h : Blank db) :
    ∃ catalogue, attemptAll (fun _ => false) (Migration.bootstrap.sql dataDir clock) db.catalogue =
        .ok catalogue ∧ (∀ rest, Within schema rest catalogue) ∧ catalogue.indexes = allIndexes := by
  obtain ⟨catalogue, hrun, htables, hindexes⟩ := fresh_catalogue fun path => clock (.file path 0)
  refine ⟨catalogue, ?_, ?_, hindexes⟩
  · rw [Migration.sql, filesSql_fallback dataDir hstep, blank_catalogue db h]
    exact hrun
  · intro rest
    have hwhole : ∀ name table, catalogue.tables name = some table →
        table.definition = schema name := by
      intro name table htable
      obtain ⟨rows, hrows⟩ := htables name
      rw [hrows] at htable
      cases htable
      rfl
    refine ⟨?_, ?_, ?_⟩
    · intro name table htable
      rw [hwhole name table htable]
      exact ⟨schema_names name, fun _ hcolumn => hcolumn, rfl, rfl⟩
    · intro name hnone
      obtain ⟨rows, hrows⟩ := htables name
      simp [hrows] at hnone
    · intro name table htable column hcolumn hlacks
      rw [hwhole name table htable] at hlacks
      exact absurd hcolumn hlacks

theorem commits_blank (dataDir : Option DataDir) (hstep : InStep dataDir)
    (clock : Point → JsString) (db after : Database) (hdb : Blank db)
    (h : Commits dataDir .bootstrap clock db after) :
    Released after ∧ db.catalogue.Keeps after.catalogue := by
  obtain ⟨catalogue, hrun, hwithin, hindexes⟩ := blank_bootstrap dataDir hstep clock db hdb
  obtain rfl : catalogue = after.catalogue := Except.ok.inj (hrun.symm.trans h.catalogue)
  obtain ⟨honce, hknown⟩ := released_recorded dataDir .bootstrap List.mem_cons_self clock db after
    (by simp [hdb.ledger]) (by simp [hdb.ledger]) h
  refine ⟨⟨commits_records dataDir .bootstrap clock db after h, hwithin _, hindexes, honce, hknown⟩, ?_⟩
  intro name table htable
  simp [hdb.tables name] at htable

theorem commits_sound (dataDir : Option DataDir) (hstep : InStep dataDir) (migration : Migration)
    (hmem : migration ∈ allMigrations) (clock : Point → JsString) (db after : Database)
    (hdb : Blank db ∧ migration = .bootstrap ∨ Released db)
    (h : Commits dataDir migration clock db after) :
    Released after ∧ db.catalogue.Keeps after.catalogue := by
  rcases hdb with ⟨hblank, rfl⟩ | hreleased
  · exact commits_blank dataDir hstep clock db after hblank h
  · exact commits_released dataDir migration hmem clock db after hreleased h

theorem commits_exists (dataDir : Option DataDir) (hstep : InStep dataDir) (migration : Migration)
    (hmem : migration ∈ allMigrations) (clock : Point → JsString) (db : Database)
    (hdb : Blank db ∧ migration = .bootstrap ∨ Released db)
    (hledger : db.schemaMigrations.isSome = true) (happlied : applied db migration = false) :
    ∃ after, Commits dataDir migration clock db after := by
  obtain ⟨entries, hentries⟩ := Option.isSome_iff_exists.mp hledger
  have hrun : ∃ catalogue, attemptAll migration.tolerated (migration.sql dataDir clock)
      db.catalogue = .ok catalogue := by
    rcases hdb with ⟨hblank, rfl⟩ | hreleased
    · obtain ⟨catalogue, hrun, -⟩ := blank_bootstrap dataDir hstep clock db hblank
      exact ⟨catalogue, hrun⟩
    · cases migration with
      | bootstrap => simp [applied, Migration.name, hreleased.initial] at happlied
      | incremental migration =>
        obtain ⟨catalogue, hrun, -⟩ := released_grown db hreleased migration
          (by simpa [allMigrations] using hmem) (missing db) (List.subset_append_right _ _)
        exact ⟨catalogue, hrun⟩
  obtain ⟨catalogue, hrun⟩ := hrun
  exact ⟨⟨catalogue, some (entries ++ [⟨migration.name, clock (.record migration.name)⟩])⟩, hrun,
    ⟨entries, hentries, rfl⟩, happlied⟩

theorem blank_missing (db : Database) (h : Blank db) : applied db .bootstrap = false := by
  rw [← Bool.not_eq_true, applied, isApplied_iff, h.ledger]
  exact List.not_mem_nil

section Steps

variable (dataDir : Option DataDir) (hstep : InStep dataDir) (start : Start)
include hstep

theorem released_steps (migrations : List Migration) (hsub : migrations ⊆ allMigrations)
    (base : DataCatalogue) (db : Database) (hdb : Released db) (hbase : base.Keeps db.catalogue) :
    Released (LedgeredSteps.runSteps applied (SchemaMigrations.attempt dataDir start) migrations db).2 ∧
      base.Keeps (LedgeredSteps.runSteps applied (SchemaMigrations.attempt dataDir start) migrations db).2.catalogue := by
  refine LedgeredSteps.runSteps_invariant applied (Commits dataDir) (SchemaMigrations.attempt dataDir start)
    (fun db => Released db ∧ base.Keeps db.catalogue) (whole dataDir start) migrations ?_ db
    ⟨hdb, hbase⟩
  intro migration hmem clock s after hs hcommits
  obtain ⟨hreleased, hkeeps⟩ :=
    commits_sound dataDir hstep migration (hsub hmem) clock s after (.inr hs.1) hcommits
  exact ⟨hreleased, keeps_trans base s.catalogue after.catalogue hs.2 hkeeps⟩

theorem steps_sound (db : Database) (hdb : Blank db ∨ Released db) :
    let left := (LedgeredSteps.runSteps applied (SchemaMigrations.attempt dataDir start) allMigrations db).2
    (Blank left ∨ Released left) ∧ db.catalogue.Keeps left.catalogue := by
  rcases hdb with hblank | hreleased
  · have hwhole := attempt_whole dataDir start .bootstrap db
    rcases hrun : attempt dataDir start .bootstrap db with ⟨_ | _, after⟩
    · rw [hrun] at hwhole
      obtain rfl : after = db := hwhole
      simp only [allMigrations, LedgeredSteps.runSteps, blank_missing after hblank,
        Bool.false_eq_true, if_false, hrun]
      exact ⟨.inl hblank, keeps_refl after.catalogue⟩
    · rw [hrun] at hwhole
      obtain ⟨hafter, hkeeps⟩ := commits_blank dataDir hstep start.clock db after hblank hwhole
      simp only [allMigrations, LedgeredSteps.runSteps, blank_missing db hblank,
        Bool.false_eq_true, if_false, hrun]
      obtain ⟨hlast, hall⟩ := released_steps dataDir hstep start
        (migrationsAfterBootstrap.map .incremental) (List.subset_cons_self _ _) db.catalogue after
        hafter hkeeps
      exact ⟨.inr hlast, hall⟩
  · obtain ⟨hlast, hall⟩ := released_steps dataDir hstep start allMigrations (List.Subset.refl _)
      db.catalogue db hreleased (keeps_refl _)
    exact ⟨.inr hlast, hall⟩

variable (hquiet : ∀ point, start.fails point = false)
include hquiet

theorem attempt_through (migration : Migration) (hmem : migration ∈ allMigrations) (db : Database)
    (hdb : Blank db ∧ migration = .bootstrap ∨ Released db)
    (hledger : db.schemaMigrations.isSome = true) (happlied : applied db migration = false) :
    ∃ after, attempt dataDir start migration db = (.ok (), after) ∧
      after.schemaMigrations.isSome = true ∧ Released after := by
  obtain ⟨after, hcommits⟩ :=
    commits_exists dataDir hstep migration hmem start.clock db hdb hledger happlied
  have hstart : start = quiet start.clock := by
    obtain ⟨fails, clock⟩ := start
    have hfails : fails = fun _ => false := funext hquiet
    rw [hfails]
    rfl
  obtain ⟨_, _, hafter⟩ := hcommits.ledger
  refine ⟨after, ?_, by simp [hafter],
    (commits_sound dataDir hstep migration hmem start.clock db after hdb hcommits).1⟩
  rw [hstart]
  exact commits_quiet dataDir migration start.clock db after hcommits

theorem steps_through (db : Database) (hdb : Blank db ∨ Released db)
    (hledger : db.schemaMigrations.isSome = true) :
    ∃ final, LedgeredSteps.runSteps applied (SchemaMigrations.attempt dataDir start) allMigrations db =
      (.ok (), final) := by
  have hrest : ∀ migrations ⊆ allMigrations, ∀ db : Database,
      db.schemaMigrations.isSome = true ∧ Released db →
      ∃ final, LedgeredSteps.runSteps applied (SchemaMigrations.attempt dataDir start) migrations db =
        (.ok (), final) := by
    intro migrations hsub
    refine LedgeredSteps.runSteps_through applied (SchemaMigrations.attempt dataDir start)
      (fun db => db.schemaMigrations.isSome = true ∧ Released db) migrations ?_
    intro migration hmem s hs happlied
    exact attempt_through dataDir hstep start hquiet migration (hsub hmem) s (.inr hs.2) hs.1 happlied
  rcases hdb with hblank | hreleased
  · obtain ⟨after, hrun, hafter⟩ := attempt_through dataDir hstep start hquiet .bootstrap
      List.mem_cons_self db (.inl ⟨hblank, rfl⟩) hledger (blank_missing db hblank)
    simp only [allMigrations, LedgeredSteps.runSteps, blank_missing db hblank,
      Bool.false_eq_true, if_false, hrun]
    exact hrest (migrationsAfterBootstrap.map .incremental) (List.subset_cons_self _ _) after hafter
  · exact hrest allMigrations (List.Subset.refl _) db ⟨hledger, hreleased⟩

end Steps

/-! ### The life of an installation -/

/-- A start, or the application at work on the rows of the tables there are. -/
inductive Event where
  | start (opened : Start)
  | serve (rows : TableName → List TableRow)

def replaceRows (rows : TableName → List TableRow) (db : Database) : Database :=
  { db with catalogue := { db.catalogue with
      tables := fun name => (db.catalogue.tables name).map fun table => { table with rows := rows name } } }

def Event.step (dataDir : Option DataDir) (db : Database) : Event → Database
  | .start opened => leftBy dataDir db opened
  | .serve rows => replaceRows rows db

theorem createLedger_sound (db : Database) (h : Blank db ∨ Released db) :
    Blank (createLedger db) ∨ Released (createLedger db) := by
  rcases h with h | h
  · exact .inl ⟨h.tables, h.indexes, h.ledger⟩
  · exact .inr ⟨h.initial, h.within, h.indexes, h.once, h.known⟩

theorem replaceRows_sound (rows : TableName → List TableRow) (db : Database)
    (h : Blank db ∨ Released db) : Blank (replaceRows rows db) ∨ Released (replaceRows rows db) := by
  rcases h with h | h
  · refine .inl ⟨?_, h.indexes, h.ledger⟩
    intro name
    simp [replaceRows, h.tables name]
  · refine .inr ⟨h.initial, ⟨?_, ?_, ?_⟩, h.indexes, h.once, h.known⟩
    · intro name table htable
      obtain ⟨before, hbefore, rfl⟩ := Option.map_eq_some_iff.mp htable
      exact h.within.table name before hbefore
    · intro name hnone
      exact h.within.absent name (Option.map_eq_none_iff.mp hnone)
    · intro name table htable
      obtain ⟨before, hbefore, rfl⟩ := Option.map_eq_some_iff.mp htable
      exact h.within.column name before hbefore

theorem leftBy_sound (dataDir : Option DataDir) (hstep : InStep dataDir) (start : Start)
    (db : Database) (h : Blank db ∨ Released db) :
    (Blank (leftBy dataDir db start) ∨ Released (leftBy dataDir db start)) ∧
      db.catalogue.Keeps (leftBy dataDir db start).catalogue := by
  rcases leftBy_cases dataDir start db with hleft | hleft
  · rw [hleft]
    exact ⟨h, keeps_refl db.catalogue⟩
  · rw [hleft]
    exact steps_sound dataDir hstep start (createLedger db) (createLedger_sound db h)

theorem life_sound (dataDir : Option DataDir) (hstep : InStep dataDir) (life : List Event)
    (db : Database) (h : Blank db ∨ Released db) :
    Blank (life.foldl (Event.step dataDir) db) ∨ Released (life.foldl (Event.step dataDir) db) := by
  induction life generalizing db with
  | nil => exact h
  | cons event rest ih =>
    cases event with
    | start opened => exact ih _ (leftBy_sound dataDir hstep opened db h).1
    | serve rows => exact ih _ (replaceRows_sound rows db h)

theorem released_current (db : Database) (h : Released db)
    (hall : ∀ migration ∈ allMigrations, applied db migration = true) : Current db where
  tables := by
    have hnone : missing db = [] := by
      simp only [missing, List.flatMap_eq_nil_iff, List.mem_filter, Bool.not_eq_true']
      rintro migration ⟨hmem, hmissing⟩
      have happlied := hall (.incremental migration) (List.mem_cons_of_mem _ (List.mem_map_of_mem hmem))
      simp [applied, Migration.name, hmissing] at happlied
    exact within_same schema schema_names db.catalogue (hnone ▸ h.within)
  indexes := h.indexes
  recorded := by
    apply (List.perm_ext_iff_of_nodup h.once migrations_names).mpr
    intro name
    refine ⟨fun hname => h.known hname, ?_⟩
    intro hname
    obtain ⟨migration, hmem, rfl⟩ := List.mem_map.mp hname
    exact (isApplied_iff db _).mp (hall migration hmem)

theorem quiet_start (dataDir : Option DataDir) (hstep : InStep dataDir) (start : Start)
    (hquiet : ∀ point, start.fails point = false) (db : Database) (h : Blank db ∨ Released db) :
    ∃ final, runMigrations dataDir start db = (.ok (), final) := by
  have hledger : start.fault .ledger = none := by simp [Start.fault, hquiet]
  rw [runMigrations_steps dataDir start _ hledger]
  exact steps_through dataDir hstep start hquiet _ (createLedger_sound db h) rfl

theorem finished_start (dataDir : Option DataDir) (hstep : InStep dataDir) (start : Start)
    (db final : Database) (h : Blank db ∨ Released db)
    (hfinal : runMigrations dataDir start db = (.ok (), final)) :
    Current final ∧ db.catalogue.Keeps final.catalogue := by
  obtain ⟨hsound, hkeeps⟩ := leftBy_sound dataDir hstep start db h
  have hleft : leftBy dataDir db start = final := by rw [leftBy, hfinal]
  rw [hleft] at hsound hkeeps
  have hall := runMigrations_applied dataDir start db final hfinal
  refine ⟨released_current final (hsound.resolve_left ?_) hall, hkeeps⟩
  intro hblank
  have hmissing := blank_missing final hblank
  simp [hall .bootstrap List.mem_cons_self] at hmissing

/-- Whatever release bootstrapped an installation, and however its starts were stopped since, an
undisturbed start goes through, and one that goes through leaves the schema of a fresh installation
around the rows that were there. -/
theorem upgrade_matches_bootstrap (dataDir : Option DataDir) (hstep : InStep dataDir)
    (db : Database) (h : Blank db ∨ Released db) (life : List Event) (last : Start) :
    ((∀ point, last.fails point = false) →
      ∃ final, runMigrations dataDir last (life.foldl (Event.step dataDir) db) = (.ok (), final)) ∧
    ∀ final, runMigrations dataDir last (life.foldl (Event.step dataDir) db) = (.ok (), final) →
      Current final ∧ (life.foldl (Event.step dataDir) db).catalogue.Keeps final.catalogue := by
  have hreached := life_sound dataDir hstep life db h
  constructor
  · intro hquiet
    exact quiet_start dataDir hstep last hquiet _ hreached
  · intro final hfinal
    exact finished_start dataDir hstep last _ final hreached hfinal

def laterColumns : List (TableName × TableColumn) :=
  [(.chats, nullable .integer .compactedBeforeSequence),
    (.teams, preset .text .strategy (text "sequential")),
    (.teams, ⟨.maxTurnsPerInteraction, .integer, false, some (.integer 5), none⟩),
    (.teamMembers, preset .integer .isCoordinator (.integer 0))]

def firstTable (name : TableName) : Option (Table TableName ColumnName Cell) :=
  if name ∈ tablesAfterSeed then none
  else some ⟨{ schema name with
    columns := (schema name).columns.filter fun column => (name, column) ∉ laterColumns }, []⟩

def firstRelease : Database :=
  ⟨⟨firstTable, allIndexes⟩, some [⟨initialMigrationName, js "2026-01-01T00:00:00.000Z"⟩]⟩

theorem firstRelease_released : Released firstRelease where
  initial := by decide
  within := by
    have hmissing : missing firstRelease =
        migrationsAfterBootstrap.flatMap IncrementalMigration.sql := rfl
    rw [hmissing]
    refine ⟨?_, ?_, ?_⟩
    · intro name table htable
      change firstTable name = some table at htable
      unfold firstTable at htable
      split at htable
      · cases htable
      · cases htable
        refine ⟨?_, List.filter_subset_self _, rfl, rfl⟩
        exact (schema_names name).sublist (List.Sublist.map _ List.filter_sublist)
    · intro name hnone
      change firstTable name = none at hnone
      unfold firstTable at hnone
      split at hnone
      · next hlater =>
        simp only [tablesAfterSeed, List.mem_cons, List.not_mem_nil, or_false] at hlater
        rcases hlater with rfl | rfl
        · exact ⟨userProfile002, by simp [migrationsAfterBootstrap]⟩
        · exact ⟨spendBudget003, by simp [migrationsAfterBootstrap]⟩
      · cases hnone
    · intro name table htable column hcolumn hlacks
      change firstTable name = some table at htable
      unfold firstTable at htable
      split at htable
      · cases htable
      · cases htable
        have hlater : (name, column) ∈ laterColumns := by
          by_contra hearly
          exact hlacks (List.mem_filter.mpr ⟨hcolumn, by simpa using hearly⟩)
        simp only [laterColumns, List.mem_cons, Prod.mk.injEq, List.not_mem_nil, or_false] at hlater
        rcases hlater with ⟨rfl, rfl⟩ | ⟨rfl, rfl⟩ | ⟨rfl, rfl⟩ | ⟨rfl, rfl⟩ <;>
          simp [migrationsAfterBootstrap]
  indexes := rfl
  once := List.nodup_singleton _
  known := by
    intro name hname
    exact List.mem_cons.mpr (.inl (List.mem_singleton.mp hname))

theorem upgrade_matches_bootstrap_first : ∃ final,
    runMigrations none (quiet fun _ => [])
        ([.start stoppedWithin, .serve fun _ => []].foldl (Event.step none) firstRelease) =
      (.ok (), final) ∧ Current final := by
  obtain ⟨hquiet, hfinal⟩ := upgrade_matches_bootstrap none (by simp [InStep]) firstRelease
    (.inr firstRelease_released) [.start stoppedWithin, .serve fun _ => []] (quiet fun _ => [])
  obtain ⟨final, hrun⟩ := hquiet fun _ => rfl
  exact ⟨final, hrun, (hfinal final hrun).1⟩

end Glassbeetle.SchemaUpgrades
