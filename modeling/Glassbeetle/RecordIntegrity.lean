import Glassbeetle.RecordLifecycle

set_option autoImplicit false

namespace Glassbeetle.RecordIntegrity
open JsText Utf8Text ExecutionChain SqlTables ForeignKeys DataSchema RecordLifecycle

/-! ### Writing a chat -/

theorem given_some (value : Option JsString) (h : given value = true) : value.isSome = true := by
  cases value with
  | none => simp [given] at h
  | some _ => rfl

theorem ownerRule_ok (dto : CreateChatDto) (h : assertOwnerRule dto = .ok ()) :
    given dto.agentId = !given dto.teamId := by
  unfold assertOwnerRule at h
  cases hagent : given dto.agentId <;> cases hteam : given dto.teamId <;> simp [hagent, hteam] at h ⊢

theorem assertReferenced_ok (db : DataStore) (table : TableName) (code field : String)
    (id : Option JsString) (h : assertReferenced db table code field id = .ok ()) (text : JsString)
    (htext : id = some text) (hfilled : text ≠ []) :
    ∃ row ∈ db table, row .id = some (.text (stored text)) := by
  subst htext
  change (if text.isEmpty || (db table).any (hasId text) then Except.ok ()
    else .error (unknownReference code field text)) = .ok () at h
  split_ifs at h with hrow
  simp only [Bool.or_eq_true, List.isEmpty_iff, List.any_eq_true] at hrow
  obtain ⟨row, hmem, hid⟩ := hrow.resolve_left hfilled
  exact ⟨row, hmem, of_decide_eq_true hid⟩

structure Checked (dto : CreateChatDto) (db : DataStore) : Prop where
  owner : given dto.agentId = !given dto.teamId
  agent : ∀ id, dto.agentId = some id → id ≠ [] →
    ∃ row ∈ db .agents, row .id = some (.text (stored id))
  team : ∀ id, dto.teamId = some id → id ≠ [] →
    ∃ row ∈ db .teams, row .id = some (.text (stored id))
  project : ∀ id, dto.projectId = some id → id ≠ [] →
    ∃ row ∈ db .projects, row .id = some (.text (stored id))

theorem createChecks_ok (dto : CreateChatDto) (db : DataStore)
    (h : createChecks dto db = .ok ()) : Checked dto db := by
  unfold createChecks at h
  obtain ⟨_, -, h⟩ := ok_of_bind _ _ _ h
  obtain ⟨_, howner, h⟩ := ok_of_bind _ _ _ h
  obtain ⟨_, hagent, h⟩ := ok_of_bind _ _ _ h
  obtain ⟨_, hteam, hproject⟩ := ok_of_bind _ _ _ h
  exact ⟨ownerRule_ok dto howner, assertReferenced_ok db _ _ _ _ hagent,
    assertReferenced_ok db _ _ _ _ hteam, assertReferenced_ok db _ _ _ _ hproject⟩

theorem chat_admits (row : TableRow) (hcreated : (row .createdAt).isSome = true)
    (hupdated : (row .updatedAt).isSome = true) :
    (schema .chats).admits row = ((row .agentId).isSome != (row .teamId).isSome) := by
  simp [Definition.admits, schema, chats, nullable, optionalReference, stamps, required, Check.holds,
    hcreated, hupdated]

theorem chat_parents : parents (schema .chats) =
    [(.projectId, .projects), (.agentId, .agents), (.teamId, .teams)] := rfl

theorem chat_distinct (row other : TableRow) (id : JsString)
    (hid : row .id = some (.text (stored id))) :
    (schema .chats).distinct other row = !hasId id other := by
  cases hother : other .id with
  | none => simp [Definition.distinct, schema, chats, clash, hasId, hother]
  | some value =>
    simp [Definition.distinct, schema, chats, clash, hasId, hother, hid, beq_eq_decide]

section Creating
variable (db : DataStore) (dto : CreateChatDto) (id now : JsString)

def createdRow : TableRow := storedRow (mapCreateChatDtoToRow dto id now)

theorem created_admits : (schema .chats).admits (createdRow dto id now) =
    (dto.agentId.isSome != dto.teamId.isSome) := by
  unfold createdRow
  rw [chat_admits _ rfl rfl]
  simp [storedRow, mapCreateChatDtoToRow]

theorem created_distinct : (db .chats).all (fun other =>
    (schema .chats).distinct other (createdRow dto id now)) = !(db .chats).any (hasId id) := by
  have hdistinct : (fun other => (schema .chats).distinct other (createdRow dto id now)) =
      fun other => !hasId id other := by
    funext other
    exact chat_distinct _ other id rfl
  rw [hdistinct, List.not_any_eq_all_not]

theorem created_refers (column : ColumnName) (table : TableName) (htable : table ≠ .chats)
    (reference : Option JsString)
    (hcell : mapCreateChatDtoToRow dto id now column = reference.map .text) :
    refers .id (Function.update db .chats (db .chats ++ [createdRow dto id now]))
        (createdRow dto id now) (column, table) =
      reference.all fun id => (db table).any (hasId id) := by
  have hrow : createdRow dto id now column = reference.map fun id => .text (stored id) := by
    unfold createdRow storedRow
    rw [hcell, Option.map_map]
    rfl
  unfold refers
  rw [Function.update_of_ne htable, hrow]
  cases reference with
  | none => rfl
  | some id =>
    dsimp only [Option.map_some, Option.isNone_some, Option.all_some]
    rw [Bool.false_or]
    congr 1
    funext row
    simp [names, hasId, beq_eq_decide]

def unknownProject (dto : CreateChatDto) (db : DataStore) : Bool :=
  decide (dto.projectId = some []) && !(db .projects).any (hasId [])

theorem checked_all (reference : Option JsString) (table : TableName)
    (hchecked : ∀ id, reference = some id → id ≠ [] →
      ∃ row ∈ db table, row .id = some (.text (stored id)))
    (hempty : reference = some [] → (db table).any (hasId []) = true) :
    (reference.all fun id => (db table).any (hasId id)) = true := by
  cases hreference : reference with
  | none => rfl
  | some id =>
    rw [Option.all_some]
    by_cases hid : id = []
    · subst hid
      exact hempty hreference
    · obtain ⟨row, hrow, hname⟩ := hchecked id hreference hid
      exact List.any_eq_true.mpr ⟨row, hrow, decide_eq_true hname⟩

theorem checked_one (hchecked : Checked dto db)
    (hone : (dto.agentId.isSome && dto.teamId.isSome) = false) :
    (dto.agentId.isSome != dto.teamId.isSome) = true ∧ dto.agentId ≠ some [] ∧
      dto.teamId ≠ some [] := by
  have howner := hchecked.owner
  have hblank : given (some []) = false := rfl
  cases hagent : given dto.agentId with
  | true =>
    have hsome := given_some _ hagent
    have hteam : dto.teamId = none := by simpa [hsome] using hone
    refine ⟨by simp [hsome, hteam], ?_, by simp [hteam]⟩
    intro hempty
    rw [hempty, hblank] at hagent
    cases hagent
  | false =>
    rw [hagent] at howner
    have hsome := given_some dto.teamId (by simpa using howner.symm)
    have hnone : dto.agentId = none := by simpa [hsome] using hone
    refine ⟨by simp [hsome, hnone], by simp [hnone], ?_⟩
    intro hempty
    rw [hempty, hblank] at howner
    cases howner

theorem insert_checked (hdb : Valid db) (hchecked : Checked dto db) :
    insert .id schema db .chats (createdRow dto id now) =
      if dto.agentId.isSome && dto.teamId.isSome then .error .check
      else if (db .chats).any (hasId id) then .error .unique
      else if unknownProject dto db then .error .foreignKey
      else .ok (Function.update db .chats (db .chats ++ [createdRow dto id now])) := by
  rw [insert_outcome ColumnName.id schema db .chats _ hdb, created_admits, created_distinct,
    chat_parents]
  cases hone : dto.agentId.isSome && dto.teamId.isSome with
  | true =>
    obtain ⟨hagent, hteam⟩ := Bool.and_eq_true_iff.mp hone
    rw [hagent, hteam]
    rfl
  | false =>
    obtain ⟨hsome, hagent, hteam⟩ := checked_one db dto hchecked hone
    rw [if_pos hsome, if_neg Bool.false_ne_true]
    cases hused : (db .chats).any (hasId id) with
    | true => rfl
    | false =>
      have hproject : (dto.projectId.all fun id => (db .projects).any (hasId id)) =
          !unknownProject dto db := by
        unfold unknownProject
        by_cases hempty : dto.projectId = some []
        · rw [hempty, Option.all_some, decide_eq_true rfl, Bool.true_and, Bool.not_not]
        · rw [decide_eq_false hempty, Bool.false_and, Bool.not_false]
          exact checked_all db _ _ hchecked.project fun h => absurd h hempty
      have hrefers : [(ColumnName.projectId, TableName.projects), (.agentId, .agents),
          (.teamId, .teams)].all (refers .id
            (Function.update db .chats (db .chats ++ [createdRow dto id now]))
            (createdRow dto id now)) = !unknownProject dto db := by
        have hagents := checked_all db _ _ hchecked.agent fun h => absurd h hagent
        have hteams := checked_all db _ _ hchecked.team fun h => absurd h hteam
        have hrefers := created_refers db dto id now
        simp only [List.all_cons, List.all_nil,
          hrefers .projectId .projects (by decide) dto.projectId rfl,
          hrefers .agentId .agents (by decide) dto.agentId rfl,
          hrefers .teamId .teams (by decide) dto.teamId rfl, hproject, hagents, hteams, Bool.and_true]
      rw [hrefers]
      cases unknownProject dto db <;> rfl

/-- What a create comes to: one of its checks fails, or one of the table's, which a blank owner beside
the other one, an identifier in use or an empty project meets, or the chat is stored. -/
theorem createChat_outcome (hdb : Valid db) :
    createChat dto id now db = answer db do
      createChecks dto db
      if dto.agentId.isSome && dto.teamId.isSome then .error (constraintFailed .check)
      else if (db .chats).any (hasId id) then .error (constraintFailed .unique)
      else if unknownProject dto db then .error (constraintFailed .foreignKey)
      else return (mapChatRowToResponse (mapCreateChatDtoToRow dto id now),
        Function.update db .chats (db .chats ++ [createdRow dto id now])) := by
  unfold createChat
  cases hchecks : createChecks dto db with
  | error e => rfl
  | ok _ =>
    have hinsert := insert_checked db dto id now hdb (createChecks_ok dto db hchecks)
    unfold createdRow at hinsert
    simp only [bind, Except.bind, hinsert]
    cases dto.agentId.isSome && dto.teamId.isSome with
    | true => rfl
    | false =>
      cases (db .chats).any (hasId id) with
      | true => rfl
      | false => cases unknownProject dto db <;> rfl

end Creating

theorem createChat_outcome_blank :
    createChat ⟨none, none, some (js "agent"), some [], false⟩ (js "next") (js "now") agentChat =
      (.error (constraintFailed .check), agentChat) := by
  rw [createChat_outcome agentChat _ _ _ agentChat_valid]
  have hchecks : createChecks ⟨none, none, some (js "agent"), some [], false⟩ agentChat = .ok () := by
    decide +kernel
  rw [hchecks]
  rfl

theorem chatUpdate_cases (existing : TableRow) (dto : UpdateChatDto) (now : JsString)
    (change : ColumnName × Option Cell) (h : change ∈ applyChatUpdates existing dto now) :
    change.1 = .title ∨ (change.1 = .projectId ∧
        ∃ value, dto.projectId = some value ∧ change.2 = value.map .text) ∨
      change = (.updatedAt, some (.text now)) := by
  unfold applyChatUpdates at h
  simp only at h
  split_ifs at h with hempty
  · simp at h
  · simp only [List.mem_append, List.mem_singleton] at h
    rcases h with (htitle | hproject) | hupdated
    · left
      cases hasked : dto.title with
      | none => simp [hasked] at htitle
      | some value =>
        simp only [hasked] at htitle
        split_ifs at htitle
        · simp at htitle
        · rw [List.mem_singleton.mp htitle]
    · right
      left
      cases hasked : dto.projectId with
      | none => simp [hasked] at hproject
      | some value =>
        simp only [hasked] at hproject
        split_ifs at hproject
        · simp at hproject
        · rw [List.mem_singleton.mp hproject]
          exact ⟨rfl, value, rfl, rfl⟩
    · exact .inr (.inr hupdated)

theorem storedUpdate_cases (existing : TableRow) (dto : UpdateChatDto) (now : JsString)
    (change : ColumnName × Option Cell)
    (h : change ∈ storedChanges (applyChatUpdates existing dto now)) :
    change.1 = .title ∨ (change.1 = .projectId ∧
        ∃ value, dto.projectId = some value ∧ change.2 = value.map fun id => .text (stored id)) ∨
      change = (.updatedAt, some (.text (stored now))) := by
  obtain ⟨asked, hasked, rfl⟩ := List.mem_map.mp h
  rcases chatUpdate_cases existing dto now asked hasked with h | ⟨h, value, hvalue, hcell⟩ | rfl
  · exact .inl h
  · refine .inr (.inl ⟨h, value, hvalue, ?_⟩)
    rw [hcell, Option.map_map]
    rfl
  · exact .inr (.inr rfl)

theorem chatUpdate_others (existing : TableRow) (dto : UpdateChatDto) (now : JsString)
    (column : ColumnName) (htitle : column ≠ .title) (hproject : column ≠ .projectId)
    (hupdated : column ≠ .updatedAt) :
    ∀ change ∈ storedChanges (applyChatUpdates existing dto now), change.1 ≠ column := by
  intro change hchange hsame
  rcases storedUpdate_cases existing dto now change hchange with h | ⟨h, -⟩ | h
  · exact htitle (hsame.symm.trans h)
  · exact hproject (hsame.symm.trans h)
  · rw [h] at hsame
    exact hupdated hsame.symm

theorem updateChecks_ok (chatId : JsString) (dto : UpdateChatDto) (db : DataStore)
    (existing : TableRow) (h : updateChecks chatId dto db = .ok existing) :
    (db .chats).find? (hasId chatId) = some existing ∧ ∀ id, dto.projectId = some (some id) →
      ∃ row ∈ db .projects, row .id = some (.text (stored id)) := by
  unfold updateChecks at h
  obtain ⟨_, -, h⟩ := ok_of_bind _ _ _ h
  obtain ⟨_, -, h⟩ := ok_of_bind _ _ _ h
  cases hfind : (db .chats).find? (hasId chatId) with
  | none => simp [hfind] at h
  | some found =>
    simp only [hfind] at h
    obtain ⟨_, hproject, hfound⟩ := ok_of_bind _ _ _ h
    obtain rfl : found = existing := Except.ok.inj hfound
    refine ⟨rfl, ?_⟩
    intro id hid
    rw [hid, assertProjectExists] at hproject
    split_ifs at hproject with hany
    obtain ⟨row, hrow, hrowId⟩ := List.any_eq_true.mp hany
    exact ⟨row, hrow, of_decide_eq_true hrowId⟩

theorem chatUpdate_writes (db : DataStore) (hdb : Valid db) (chatId : JsString)
    (dto : UpdateChatDto) (now : JsString) (existing : TableRow)
    (hproject : ∀ id, dto.projectId = some (some id) →
      ∃ row ∈ db .projects, row .id = some (.text (stored id))) :
    updateWhere .id schema db .chats (hasId chatId)
        (storedChanges (applyChatUpdates existing dto now)) =
      .ok (Function.update db .chats ((db .chats).map fun row => if hasId chatId row
        then assign (storedChanges (applyChatUpdates existing dto now)) row else row)) := by
  have hcases := storedUpdate_cases existing dto now
  have hothers := chatUpdate_others existing dto now
  refine updateWhere_ok ColumnName.id schema db .chats _ _ hdb
    (hothers .id (by decide) (by decide) (by decide)) ?_ ?_ ?_
  · intro columns hcolumns column hcolumn
    obtain rfl : columns = [.id] := List.mem_singleton.mp hcolumns
    obtain rfl : column = .id := List.mem_singleton.mp hcolumn
    exact hothers .id (by decide) (by decide) (by decide)
  · intro row hrow _
    have hadmits := ((verify_none .id schema db .chats).mp (hdb .chats)).1 row hrow
    have hcolumns := List.all_eq_true.mp (Bool.and_eq_true_iff.mp hadmits).1
    have hcreated : (row .createdAt).isSome = true := by
      simpa [required] using hcolumns (required .text .createdAt) (by decide)
    have hupdated : (row .updatedAt).isSome = true := by
      simpa [required] using hcolumns (required .text .updatedAt) (by decide)
    have hstamp : (assign (storedChanges (applyChatUpdates existing dto now)) row .updatedAt).isSome = true := by
      rcases assign_cases (storedChanges (applyChatUpdates existing dto now)) row .updatedAt with
        hsame | ⟨change, hchange, hname, hvalue⟩
      · rwa [hsame]
      · rcases hcases change hchange with h | ⟨h, -⟩ | h
        · cases hname.symm.trans h
        · cases hname.symm.trans h
        · rw [hvalue, h]
          rfl
    rw [chat_admits _ (by rwa [assign_other _ _ _ (hothers .createdAt (by decide) (by decide)
      (by decide))]) hstamp, assign_other _ _ _ (hothers .agentId (by decide) (by decide) (by decide)),
      assign_other _ _ _ (hothers .teamId (by decide) (by decide) (by decide))]
    simpa using chat_owner db hdb row hrow
  · intro row hrow _ reference hreference
    have hold := ((verify_none .id schema db .chats).mp (hdb .chats)).2.2 row hrow reference hreference
    rw [refers_iff] at hold ⊢
    intro value hvalue
    rcases assign_cases (storedChanges (applyChatUpdates existing dto now)) row reference.1 with
      hsame | ⟨change, hchange, hname, hnew⟩
    · exact hold value (hsame.symm.trans hvalue)
    · rw [chat_parents] at hreference
      simp only [List.mem_cons, List.not_mem_nil, or_false] at hreference
      rcases hreference with rfl | rfl | rfl
      · rcases hcases change hchange with h | ⟨-, asked, hasked, hcell⟩ | h
        · cases hname.symm.trans h
        · rw [hnew, hcell] at hvalue
          obtain ⟨id, rfl, rfl⟩ := Option.map_eq_some_iff.mp hvalue
          exact hproject id hasked
        · rw [h] at hname
          cases hname
      · exact absurd hname (hothers .agentId (by decide) (by decide) (by decide) change hchange)
      · exact absurd hname (hothers .teamId (by decide) (by decide) (by decide) change hchange)

/-- What an update comes to: one of its checks fails, or what differs is stored; the table never
refuses it. -/
theorem updateChat_outcome (db : DataStore) (hdb : Valid db) (chatId : JsString)
    (dto : UpdateChatDto) (now : JsString) :
    updateChat chatId dto now db = answer db do
      let existing ← updateChecks chatId dto db
      let changes := applyChatUpdates existing dto now
      return (mapChatRowToResponse (assign changes existing), if changes.isEmpty then db
        else Function.update db .chats ((db .chats).map fun row =>
          if hasId chatId row then assign (storedChanges changes) row else row)) := by
  unfold updateChat
  cases hchecks : updateChecks chatId dto db with
  | error e => rfl
  | ok existing =>
    obtain ⟨hfind, hproject⟩ := updateChecks_ok chatId dto db existing hchecks
    have hany : (db .chats).any (hasId chatId) = true :=
      List.any_eq_true.mpr ⟨existing, List.mem_of_find?_eq_some hfind, List.find?_some hfind⟩
    have hwrite := chatUpdate_writes db hdb chatId dto now existing hproject
    cases hchanges : (applyChatUpdates existing dto now).isEmpty with
    | true =>
      rw [List.isEmpty_iff] at hchanges
      simp [bind, Except.bind, hchanges, assign, answer, pure, Except.pure]
    | false =>
      simp only [bind, Except.bind, hchanges, hwrite, run, hany, Bool.false_eq_true, if_false, if_true]

theorem updateChat_outcome_title :
    updateChat (js "chat") ⟨some (some (js "Plans")), none, false, false⟩ (js "later") agentChat =
      answer agentChat do
        let existing ← updateChecks (js "chat") ⟨some (some (js "Plans")), none, false, false⟩ agentChat
        let changes := applyChatUpdates existing ⟨some (some (js "Plans")), none, false, false⟩
          (js "later")
        return (mapChatRowToResponse (assign changes existing), if changes.isEmpty then agentChat
          else Function.update agentChat .chats ((agentChat .chats).map fun row =>
            if hasId (js "chat") row then assign (storedChanges changes) row else row)) :=
  updateChat_outcome agentChat agentChat_valid (js "chat") _ (js "later")

/-! ### Runs of the services -/

/-- A request to one of the services above, or a statement of another service: none inserts a chat,
writes an identifier or writes the owner of a chat. -/
inductive Request where
  | createChat (dto : CreateChatDto) (id now : JsString)
  | updateChat (chatId : JsString) (dto : UpdateChatDto) (now : JsString)
  | deleteChat (id : JsString)
  | removeAllChats
  | deleteAgent (id : JsString)
  | deleteTeam (id : JsString)
  | deleteProject (id : JsString)
  | deleteSystemPrompt (id : JsString)
  | deleteModel (id : JsString)
  | removeProvider (id : JsString)
  | insertRow (table : TableName) (row : TableRow) (hother : table ≠ .chats)
  | updateRows (table : TableName) (selected : TableRow → Bool)
      (changes : List (ColumnName × Option Cell))
      (hother : ∀ change ∈ changes, change.1 ≠ .id ∧
        (table = .chats → change.1 ≠ .agentId ∧ change.1 ≠ .teamId))
  | deleteRows (table : TableName) (selected : TableRow → Bool)

def statementOn (db : DataStore) : Except Violation DataStore → DataStore
  | .ok after => after
  | .error _ => db

def Request.step (db : DataStore) : Request → DataStore
  | .createChat dto id now => (RecordLifecycle.createChat dto id now db).2
  | .updateChat chatId dto now => (RecordLifecycle.updateChat chatId dto now db).2
  | .deleteChat id => (RecordLifecycle.deleteChat id db).2
  | .removeAllChats => (removeAll db).2
  | .deleteAgent id => (RecordLifecycle.deleteAgent id db).2
  | .deleteTeam id => (RecordLifecycle.deleteTeam id db).2
  | .deleteProject id => (RecordLifecycle.deleteProject id db).2
  | .deleteSystemPrompt id => (RecordLifecycle.deleteSystemPrompt id db).2
  | .deleteModel id => (RecordLifecycle.deleteModel id db).2
  | .removeProvider id => (RecordLifecycle.removeProvider id db).2
  | .insertRow table row _ => statementOn db (ForeignKeys.insert .id schema db table row)
  | .updateRows table selected changes _ =>
    statementOn db (updateWhere .id schema db table selected changes)
  | .deleteRows table selected =>
    statementOn db (deleteWhere .id schema tableOrder db table selected)

inductive Written (db : DataStore) : Request → DataStore → Prop
  | same (request : Request) : Written db request db
  | created (dto : CreateChatDto) (id now : JsString) (after : DataStore)
      (h : ForeignKeys.insert .id schema db .chats (createdRow dto id now) = .ok after) :
      Written db (.createChat dto id now) after
  | inserted (request : Request) (table : TableName) (row : TableRow) (after : DataStore)
      (hother : table ≠ .chats) (h : ForeignKeys.insert .id schema db table row = .ok after) :
      Written db request after
  | updated (request : Request) (table : TableName) (selected : TableRow → Bool)
      (changes : List (ColumnName × Option Cell)) (after : DataStore)
      (hother : ∀ change ∈ changes, change.1 ≠ .id ∧
        (table = .chats → change.1 ≠ .agentId ∧ change.1 ≠ .teamId))
      (h : updateWhere .id schema db table selected changes = .ok after) : Written db request after
  | deleted (request : Request) (table : TableName) (selected : TableRow → Bool)
      (after : DataStore) (h : deleteWhere .id schema tableOrder db table selected = .ok after) :
      Written db request after

theorem statementOn_cases (db : DataStore) (result : Except Violation DataStore) :
    statementOn db result = db ∨ result = .ok (statementOn db result) := by
  cases result with
  | error violation => exact .inl rfl
  | ok after => exact .inr rfl

theorem deleteCounted_written (db : DataStore) (request : Request) (target : TableName)
    (missing : Failure) (id : JsString) :
    Written db request (deleteCounted target missing id db).2 := by
  unfold deleteCounted
  cases hrun : deleteRow target id db with
  | error violation => exact .same request
  | ok after =>
    simp only
    split <;> exact .deleted request target _ after hrun

theorem deleteChecked_written (db : DataStore) (request : Request) (target : TableName)
    (missing : Failure) (id : JsString) :
    Written db request (deleteChecked target missing id db).2 := by
  unfold deleteChecked
  split
  · cases hrun : deleteRow target id db with
    | error violation => exact .same request
    | ok after => exact .deleted request target _ after hrun
  · exact .same request

theorem removeAll_written (db : DataStore) (request : Request) :
    Written db request (removeAll db).2 := by
  unfold removeAll
  cases hrun : deleteWhere .id schema tableOrder db .chats (fun _ => true) with
  | error violation => exact .same request
  | ok after => exact .deleted request .chats _ after hrun

theorem createChat_written (db : DataStore) (dto : CreateChatDto) (id now : JsString) :
    Written db (.createChat dto id now) (createChat dto id now db).2 := by
  unfold createChat
  cases hchecks : createChecks dto db with
  | error e => exact .same _
  | ok _ =>
    cases hrun : ForeignKeys.insert .id schema db .chats (createdRow dto id now) with
    | error violation =>
      unfold createdRow at hrun
      simp only [bind, Except.bind, hrun, run]
      exact .same _
    | ok after =>
      have hinsert := hrun
      unfold createdRow at hinsert
      simp only [bind, Except.bind, hinsert, run]
      exact .created dto id now after hrun

theorem updateChat_written (db : DataStore) (request : Request) (chatId : JsString)
    (dto : UpdateChatDto) (now : JsString) :
    Written db request (updateChat chatId dto now db).2 := by
  unfold updateChat
  cases hchecks : updateChecks chatId dto db with
  | error e => exact .same _
  | ok existing =>
    cases hchanges : (applyChatUpdates existing dto now).isEmpty with
    | true =>
      simp only [bind, Except.bind, hchanges, if_true]
      exact .same _
    | false =>
      have hothers := chatUpdate_others existing dto now
      have hcolumns : ∀ change ∈ storedChanges (applyChatUpdates existing dto now), change.1 ≠ .id ∧
          (TableName.chats = .chats → change.1 ≠ .agentId ∧ change.1 ≠ .teamId) :=
        fun change hchange => ⟨hothers .id (by decide) (by decide) (by decide) change hchange,
          fun _ => ⟨hothers .agentId (by decide) (by decide) (by decide) change hchange,
            hothers .teamId (by decide) (by decide) (by decide) change hchange⟩⟩
      cases hrun : updateWhere .id schema db .chats (hasId chatId)
          (storedChanges (applyChatUpdates existing dto now)) with
      | error violation =>
        simp only [bind, Except.bind, hchanges, hrun, run, Bool.false_eq_true, if_false]
        exact .same _
      | ok after =>
        simp only [bind, Except.bind, hchanges, hrun, run, Bool.false_eq_true, if_false]
        split
        · exact .updated request .chats _ _ after hcolumns hrun
        · exact .same _

theorem step_written (db : DataStore) (request : Request) :
    Written db request (request.step db) := by
  cases request with
  | createChat dto id now => exact createChat_written db dto id now
  | updateChat chatId dto now => exact updateChat_written db _ chatId dto now
  | deleteChat id => exact deleteCounted_written db _ _ _ id
  | removeAllChats => exact removeAll_written db _
  | deleteAgent id => exact deleteCounted_written db _ _ _ id
  | deleteTeam id => exact deleteChecked_written db _ _ _ id
  | deleteProject id => exact deleteCounted_written db _ _ _ id
  | deleteSystemPrompt id => exact deleteCounted_written db _ _ _ id
  | deleteModel id => exact deleteChecked_written db _ _ _ id
  | removeProvider id => exact deleteChecked_written db _ _ _ id
  | insertRow table row hother =>
    rcases statementOn_cases db (ForeignKeys.insert .id schema db table row) with hsame | hrun
    · rw [Request.step, hsame]
      exact .same _
    · exact .inserted _ table row _ hother hrun
  | updateRows table selected changes hother =>
    rcases statementOn_cases db (updateWhere .id schema db table selected changes) with hsame | hrun
    · rw [Request.step, hsame]
      exact .same _
    · exact .updated _ table selected changes _ hother hrun
  | deleteRows table selected =>
    rcases statementOn_cases db (deleteWhere .id schema tableOrder db table selected) with hsame | hrun
    · rw [Request.step, hsame]
      exact .same _
    · exact .deleted _ table selected _ hrun

theorem written_valid (db after : DataStore) (request : Request) (hdb : Valid db)
    (h : Written db request after) : Valid after := by
  cases h with
  | same => exact hdb
  | created dto id now _ hrun => exact insert_sound ColumnName.id schema db after .chats _ hdb hrun
  | inserted _ table row _ _ hrun =>
    exact insert_sound ColumnName.id schema db after table row hdb hrun
  | updated _ table selected changes _ hother hrun =>
    exact updateWhere_sound ColumnName.id schema db after table selected changes
      (fun change hchange => (hother change hchange).1) hdb hrun
  | deleted _ table selected _ hrun =>
    have hsound := deleteWhere_sound ColumnName.id schema tableOrder tableOrder_layered tableOrder_all
      ids_kept db after table selected hdb
    exact hsound hrun

/-- In every state of every run, a reference that is not `NULL` names a row that is there, and every
chat has exactly one owner. -/
theorem no_dangling_reference (db : DataStore) (hdb : Valid db) (requests : List Request) :
    ∀ reached ∈ Runs.states Request.step db requests,
      (∀ table, ∀ row ∈ reached table, ∀ reference ∈ parents (schema table), ∀ value,
        row reference.1 = some value → ∃ parent ∈ reached reference.2, parent .id = some value) ∧
      ∀ chat ∈ reached .chats, (chat .agentId).isSome ≠ (chat .teamId).isSome := by
  intro reached hreached
  have hvalid := Runs.states_invariant Request.step Valid
    (fun s request hs => written_valid s _ request hs (step_written s request)) db requests hdb
    reached hreached
  refine ⟨?_, fun chat hchat => chat_owner reached hvalid chat hchat⟩
  intro table row hrow reference hreference value hvalue
  exact valid_refers reached hvalid table row hrow reference hreference value hvalue

theorem no_dangling_reference_delete :
    let reached := [Request.deleteAgent (js "agent"), .removeAllChats].foldl Request.step agentChat
    (∀ table, ∀ row ∈ reached table, ∀ reference ∈ parents (schema table), ∀ value,
        row reference.1 = some value → ∃ parent ∈ reached reference.2, parent .id = some value) ∧
      ∀ chat ∈ reached .chats, (chat .agentId).isSome ≠ (chat .teamId).isSome :=
  no_dangling_reference agentChat agentChat_valid _ _ (Runs.final_mem Request.step agentChat _)

def SameOwner (chat other : TableRow) : Prop :=
  other .id = chat .id ∧ other .agentId = chat .agentId ∧ other .teamId = chat .teamId

theorem eq_of_kept (first second later latter : Option Cell) (hfirst : later = none ∨ later = first)
    (hsecond : latter = none ∨ latter = second) (hbefore : first.isSome ≠ second.isSome)
    (hafter : later.isSome ≠ latter.isSome) : later = first ∧ latter = second := by
  cases first <;> cases second <;> cases later <;> cases latter <;> simp_all

/-- A chat that a delete leaves has not forgotten its owner: it would have none. -/
theorem deleted_owner (db after : DataStore) (hdb : Valid db) (hafter : Valid after)
    (target : TableName) (selected : TableRow → Bool)
    (h : deleteWhere .id schema tableOrder db target selected = .ok after) (chat : TableRow)
    (hchat : chat ∈ after .chats) : ∃ row ∈ db .chats, SameOwner chat row := by
  have hok := deleteWhere_ok ColumnName.id schema tableOrder db after target selected
  have hmem := hchat
  rw [(hok.mp h).1] at hmem
  obtain ⟨row, hrow, rfl⟩ := List.mem_map.mp hmem
  have hkept : ∀ column, cleared .id schema
        (doomed .id schema db target selected tableOrder) db .chats row column = none ∨
      cleared .id schema (doomed .id schema db target selected tableOrder) db .chats row column =
        row column := by
    intro column
    unfold cleared
    split
    · exact .inl rfl
    · exact .inr rfl
  obtain ⟨hagent, hteam⟩ := eq_of_kept _ _ _ _ (hkept .agentId) (hkept .teamId)
    (chat_owner db hdb row (List.mem_of_mem_filter hrow)) (chat_owner after hafter _ hchat)
  exact ⟨row, List.mem_of_mem_filter hrow, (cleared_key ColumnName.id schema ids_kept _ db .chats row).symm,
    hagent.symm, hteam.symm⟩

theorem written_owner (db after : DataStore) (hdb : Valid db) (request : Request)
    (h : Written db request after) (chat : TableRow) (hchat : chat ∈ after .chats)
    (hnew : ∀ dto id now, request = .createChat dto id now → chat .id ≠ some (.text (stored id))) :
    ∃ row ∈ db .chats, SameOwner chat row := by
  have hafter := written_valid db after request hdb h
  cases h with
  | same => exact ⟨chat, hchat, rfl, rfl, rfl⟩
  | created dto id now _ hrun =>
    obtain ⟨rfl, -⟩ := settle_ok ColumnName.id schema db after .chats _ hrun
    rw [Function.update_self] at hchat
    rcases List.mem_append.mp hchat with hold | hlast
    · exact ⟨chat, hold, rfl, rfl, rfl⟩
    · rw [List.mem_singleton.mp hlast] at hnew
      exact absurd rfl (hnew dto id now rfl)
  | inserted _ table row _ hother hrun =>
    obtain ⟨rfl, -⟩ := settle_ok ColumnName.id schema db after table _ hrun
    rw [Function.update_of_ne (Ne.symm hother)] at hchat
    exact ⟨chat, hchat, rfl, rfl, rfl⟩
  | updated _ table selected changes _ hother hrun =>
    obtain ⟨rfl, -⟩ := settle_ok ColumnName.id schema db after table _ hrun
    by_cases htable : table = .chats
    · subst htable
      rw [Function.update_self] at hchat
      obtain ⟨row, hrow, rfl⟩ := List.mem_map.mp hchat
      refine ⟨row, hrow, ?_⟩
      split
      · exact ⟨(assign_other changes row .id fun change hchange => (hother change hchange).1).symm,
          (assign_other changes row .agentId fun change hchange =>
            ((hother change hchange).2 rfl).1).symm,
          (assign_other changes row .teamId fun change hchange =>
            ((hother change hchange).2 rfl).2).symm⟩
      · exact ⟨rfl, rfl, rfl⟩
    · rw [Function.update_of_ne (Ne.symm htable)] at hchat
      exact ⟨chat, hchat, rfl, rfl, rfl⟩
  | deleted _ table selected _ hrun =>
    exact deleted_owner db after hdb hafter table selected hrun chat hchat

/-- The owner of a chat never changes: a chat that is there at the end of a run that did not create
it was there at its start, with the same owner. -/
theorem chat_keeps_owner (db : DataStore) (hdb : Valid db) (requests : List Request) (id : JsString)
    (hnew : ∀ dto created now, stored created = id → .createChat dto created now ∉ requests) :
    ∀ chat ∈ requests.foldl Request.step db .chats, chat .id = some (.text id) →
      ∃ row ∈ db .chats, SameOwner chat row := by
  induction requests generalizing db with
  | nil => exact fun chat hchat _ => ⟨chat, hchat, rfl, rfl, rfl⟩
  | cons request rest ih =>
    intro chat hchat hid
    have hwritten := step_written db request
    obtain ⟨mid, hmid, hmidId, hmidAgent, hmidTeam⟩ :=
      ih (request.step db) (written_valid db _ request hdb hwritten)
        (fun dto created now hsame hmem => hnew dto created now hsame (List.mem_cons_of_mem _ hmem))
        chat hchat hid
    obtain ⟨row, hrow, hrowId, hrowAgent, hrowTeam⟩ :=
      written_owner db _ hdb request hwritten mid hmid fun dto created now hcreate hsame => by
        rw [hmidId, hid] at hsame
        cases hsame
        exact hnew dto created now rfl (hcreate ▸ List.mem_cons_self)
    exact ⟨row, hrow, hrowId.trans hmidId, hrowAgent.trans hmidAgent, hrowTeam.trans hmidTeam⟩

theorem chat_keeps_owner_delete :
    let reached := [Request.deleteAgent (js "agent")].foldl Request.step agentChat
    (reached .chats).length = 1 ∧ ∀ chat ∈ reached .chats, chat .id = some (.text (js "chat")) →
      ∃ row ∈ agentChat .chats, SameOwner chat row :=
  ⟨rfl, chat_keeps_owner agentChat agentChat_valid _ (js "chat") (by simp)⟩

end Glassbeetle.RecordIntegrity
