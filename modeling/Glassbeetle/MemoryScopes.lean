import Glassbeetle.AgentMemories

set_option autoImplicit false

namespace Glassbeetle.MemoryScopes
open JsText Utf8Text MemoryTags ExecutionChain SortedPages ListPagination AgentMemories Runs TwoRuns

variable {ν : Type}

section Lists
variable {α : Type}

theorem find_perm (p : α → Bool) (l l' : List α) (hperm : l.Perm l')
    (hunique : ∀ x ∈ l, ∀ y ∈ l, p x = true → p y = true → x = y) : l.find? p = l'.find? p := by
  cases hfound : l.find? p with
  | none =>
    apply Eq.symm
    rw [List.find?_eq_none] at hfound ⊢
    exact fun x hx => hfound x (hperm.mem_iff.mpr hx)
  | some x =>
    have hx := List.mem_of_find?_eq_some hfound
    have hpx := List.find?_some hfound
    cases hother : l'.find? p with
    | none => exact absurd hpx (List.find?_eq_none.mp hother x (hperm.mem_iff.mp hx))
    | some y =>
      have hy := hperm.mem_iff.mpr (List.mem_of_find?_eq_some hother)
      exact congrArg some (hunique x hx y hy hpx (List.find?_some hother))

end Lists

section Scope
variable (agentId : JsString)

def own (db : Memories) : List MemoryRow := db.agentMemories.filter (ownedBy agentId)

def others (db : Memories) : List MemoryRow := db.agentMemories.filter fun row => !ownedBy agentId row

def Distinct (rows : List MemoryRow) : Prop := (rows.map (sqlText ·.id)).Nodup

structure Agree (db db' : Memories) : Prop where
  agent : agentId ∈ db.agents ↔ agentId ∈ db'.agents
  own : (own agentId db).Perm (own agentId db')

structure Alike (db db' : Memories) : Prop extends Agree agentId db db' where
  distinct : Distinct (MemoryScopes.own agentId db)

theorem readRow_own (db : Memories) (memoryId : JsString) :
    readRow db agentId memoryId =
      (own agentId db).find? fun row => decide (row.id = stored memoryId) := by
  rw [own, List.find?_filter]
  apply congrArg (fun p => db.agentMemories.find? p)
  funext row
  simp [named, ownedBy, Bool.and_comm]

theorem count_own (db : Memories) (memoryId : JsString) :
    db.agentMemories.countP (named agentId memoryId) =
      (own agentId db).countP fun row => decide (row.id = stored memoryId) := by
  rw [own, List.countP_filter]
  rfl

theorem distinct_unique (rows : List MemoryRow) (h : Distinct rows) (x y : MemoryRow) (hx : x ∈ rows)
    (hy : y ∈ rows) (hsame : sqlText x.id = sqlText y.id) : x = y :=
  List.inj_on_of_nodup_map h hx hy hsame

variable (db db' : Memories) (h : Alike agentId db db')
include h

theorem assertAgentExists_alike : assertAgentExists db agentId = assertAgentExists db' agentId := by
  unfold assertAgentExists
  by_cases hagent : agentId ∈ db.agents
  · rw [if_pos hagent, if_pos (h.agent.mp hagent)]
  · rw [if_neg hagent, if_neg (mt h.agent.mpr hagent)]

theorem readRow_alike (memoryId : JsString) :
    readRow db agentId memoryId = readRow db' agentId memoryId := by
  rw [readRow_own, readRow_own]
  apply find_perm _ _ _ h.own
  intro x hx y hy hxid hyid
  apply distinct_unique _ h.distinct x y hx hy
  rw [of_decide_eq_true hxid, of_decide_eq_true hyid]

theorem count_alike (memoryId : JsString) : db.agentMemories.countP (named agentId memoryId) =
    db'.agentMemories.countP (named agentId memoryId) := by
  rw [count_own, count_own]
  exact h.own.countP_eq _

omit h in
/-- The rows that the filters of a request admit are some of the agent's own. -/
theorem agentMemories_own (toLowerCase : JsString → JsString) (sqlite : Sqlite)
    (query : ListMemoriesQuery) (db : Memories) :
    MemoryTags.agentMemories toLowerCase sqlite db.agentMemories agentId query =
      (own agentId db).filter fun row =>
        tagCondition toLowerCase sqlite query row && contentCondition sqlite query row := by
  rw [own, List.filter_filter, MemoryTags.agentMemories]
  apply List.filter_congr
  intro row _
  exact Bool.and_comm _ _

theorem pageOf_alike (p : Platform ν) (sorter sorter' : Sorter MemoryRow SqlValue)
    (query : PaginationQueryDto) (pagination : SqlPaginationResult)
    (hfragment : buildPaginationSqlFragment (ListPagination.agentMemories.options query) =
      .ok pagination) (matching matching' : List MemoryRow) (hperm : matching.Perm matching')
    (hsubset : ∀ row ∈ matching, row ∈ own agentId db) :
    pageOf p sorter pagination matching = pageOf p sorter' pagination matching' := by
  have harranged := arrange_eq sorter (pagination.terms memoryColumn) matching
    (sorter'.arrange (pagination.terms memoryColumn) matching')
    ((sorter'.perm _ _).trans hperm.symm) (sorter'.sorted _ _)
    ⟨_, List.mem_map_of_mem (columns_tiebreaker _ _ _ hfragment), fun x hx y hy hsame =>
      distinct_unique _ h.distinct x y (hsubset x hx) (hsubset y hy) hsame⟩
  unfold pageOf SqlPaginationResult.select
  rw [harranged, hperm.length_eq]

theorem findAll_alike (p : Platform ν) (sorter sorter' : Sorter MemoryRow SqlValue)
    (query : ListAgentMemoriesQueryDto) :
    findAll p sorter agentId query db = findAll p sorter' agentId query db' := by
  have hperm : (MemoryTags.agentMemories p.toLowerCase p.sqlite db.agentMemories agentId
      query.toListMemoriesQuery).Perm (MemoryTags.agentMemories p.toLowerCase p.sqlite
        db'.agentMemories agentId query.toListMemoriesQuery) := by
    rw [agentMemories_own, agentMemories_own]
    exact h.own.filter _
  have hsubset : ∀ row ∈ MemoryTags.agentMemories p.toLowerCase p.sqlite db.agentMemories agentId
      query.toListMemoriesQuery, row ∈ own agentId db := by
    intro row hrow
    rw [agentMemories_own] at hrow
    exact (List.mem_filter.mp hrow).1
  unfold findAll
  rw [assertAgentExists_alike agentId db db' h]
  cases assertAgentExists db' agentId with
  | error failure => rfl
  | ok _ =>
    cases hfragment : buildPaginationSqlFragment
        (ListPagination.agentMemories.options (paginationQuery query)) with
    | error failure => rfl
    | ok pagination =>
      exact congrArg Except.ok (pageOf_alike agentId db db' h p sorter sorter' _ pagination
        hfragment _ _ hperm hsubset)

theorem findOne_alike (p : Platform ν) (memoryId : JsString) :
    findOne p agentId memoryId db = findOne p agentId memoryId db' := by
  unfold findOne
  rw [assertAgentExists_alike agentId db db' h, readRow_alike agentId db db' h]

end Scope

section Writes
variable (agentId : JsString)

def rest (db : Memories) : List JsString × List MemoryRow × List MemoryRow :=
  (db.agents, db.sharedMemories, others agentId db)

theorem named_owned (memoryId : JsString) (row : MemoryRow) (h : named agentId memoryId row = true) :
    ownedBy agentId row = true :=
  (Bool.and_eq_true_iff.mp h).2

theorem insertRow_fresh (db : Memories) (row : MemoryRow)
    (h : sqlText row.id ∉ db.agentMemories.map (sqlText ·.id)) :
    insertRow db row = .ok { db with agentMemories :=
      db.agentMemories ++ [{ row with content := stored row.content }] } := if_neg h

theorem insertRow_rest (db after : Memories) (row : MemoryRow) (howner : row.agentId = some agentId)
    (h : insertRow db row = .ok after) : rest agentId after = rest agentId db := by
  unfold insertRow at h
  split_ifs at h
  cases h
  have howned : ownedBy agentId { row with content := stored row.content } = true :=
    decide_eq_true howner
  unfold rest others
  dsimp only
  rw [List.filter_append, List.filter_cons_of_neg (by rw [howned]; exact Bool.false_ne_true),
    List.filter_nil, List.append_nil]

section Update
variable (db : Memories) (memoryId : JsString) (set : MemoryRow → MemoryRow)
  (hset : ∀ row, (set row).agentId = row.agentId ∧ (set row).id = row.id)
include hset

theorem updated_owner (other : JsString) :
    (ownedBy other ∘ fun row => if named agentId memoryId row = true then set row else row) =
      ownedBy other := by
  funext row
  unfold ownedBy
  dsimp only [Function.comp]
  split_ifs
  · rw [(hset row).1]
  · rfl

theorem updateRows_own : own agentId (updateRows db agentId memoryId set) =
    (own agentId db).map fun row => if named agentId memoryId row = true then set row else row := by
  unfold own updateRows
  dsimp only
  rw [List.filter_map, updated_owner agentId memoryId set hset agentId]

theorem updateRows_rest : rest agentId (updateRows db agentId memoryId set) = rest agentId db := by
  unfold rest others updateRows
  dsimp only
  have howner : ((fun row => !ownedBy agentId row) ∘
      fun row => if named agentId memoryId row = true then set row else row) =
      fun row => !ownedBy agentId row :=
    funext fun row => congrArg (!·) (congrFun (updated_owner agentId memoryId set hset agentId) row)
  rw [List.filter_map, howner]
  have hkept : ∀ row ∈ db.agentMemories.filter (fun row => !ownedBy agentId row),
      (if named agentId memoryId row = true then set row else row) = row := by
    intro row hrow
    apply if_neg
    intro hnamed
    have hother := (List.mem_filter.mp hrow).2
    rw [named_owned agentId memoryId row hnamed] at hother
    exact Bool.false_ne_true hother
  rw [List.map_congr_left hkept, List.map_id']

theorem updateRows_alike (db' : Memories) (h : Alike agentId db db') :
    Alike agentId (updateRows db agentId memoryId set) (updateRows db' agentId memoryId set) := by
  refine ⟨⟨h.agent, ?_⟩, ?_⟩
  · rw [updateRows_own agentId db memoryId set hset, updateRows_own agentId db' memoryId set hset]
    exact h.own.map _
  · have hids : ((fun row : MemoryRow => sqlText row.id) ∘
        fun row => if named agentId memoryId row = true then set row else row) =
        fun row => sqlText row.id := by
      funext row
      dsimp only [Function.comp]
      split_ifs
      · rw [(hset row).2]
      · rfl
    rw [updateRows_own agentId db memoryId set hset, Distinct, List.map_map, hids]
    exact h.distinct

end Update

theorem deleteRows_own (db : Memories) (gone : MemoryRow → Bool) :
    own agentId (deleteRows db gone) = (own agentId db).filter fun row => !gone row := by
  unfold own deleteRows
  dsimp only
  rw [List.filter_filter, List.filter_filter]
  apply List.filter_congr
  intro row _
  exact Bool.and_comm _ _

theorem deleteRows_rest (db : Memories) (gone : MemoryRow → Bool)
    (howned : ∀ row, gone row = true → ownedBy agentId row = true) :
    rest agentId (deleteRows db gone) = rest agentId db := by
  unfold rest others deleteRows
  dsimp only
  rw [List.filter_filter]
  have hsame : db.agentMemories.filter (fun row => (!ownedBy agentId row) && !gone row) =
      db.agentMemories.filter fun row => !ownedBy agentId row := by
    apply List.filter_congr
    intro row _
    cases hgone : gone row with
    | false => exact Bool.and_true _
    | true => rw [howned row hgone]; rfl
  rw [hsame]

theorem deleteRows_alike (db db' : Memories) (h : Alike agentId db db') (gone : MemoryRow → Bool) :
    Alike agentId (deleteRows db gone) (deleteRows db' gone) := by
  refine ⟨⟨h.agent, ?_⟩, ?_⟩
  · rw [deleteRows_own, deleteRows_own]
    exact h.own.filter _
  · rw [deleteRows_own]
    exact h.distinct.sublist (List.filter_sublist.map _)

theorem set_kept (changes : MemoryChanges) (now : JsString) (row : MemoryRow) :
    (changes.set now row).agentId = row.agentId ∧ (changes.set now row).id = row.id := ⟨rfl, rfl⟩

end Writes

section Requests
variable (agentId : JsString) (p : Platform ν) (db db' : Memories)

theorem create_alike (h : Alike agentId db db') (dto : CreateAgentMemoryDto) (newId now : JsString)
    (hfresh : sqlText newId ∉ db.agentMemories.map (sqlText ·.id))
    (hfresh' : sqlText newId ∉ db'.agentMemories.map (sqlText ·.id)) :
    (create p agentId dto newId now db).1 = (create p agentId dto newId now db').1 ∧
      Alike agentId (create p agentId dto newId now db).2 (create p agentId dto newId now db').2 := by
  unfold create
  rw [assertAgentExists_alike agentId db db' h]
  cases assertAgentExists db' agentId with
  | error failure => exact ⟨rfl, h⟩
  | ok _ =>
    dsimp only
    rw [insertRow_fresh db _ hfresh, insertRow_fresh db' _ hfresh']
    refine ⟨rfl, ⟨h.agent, ?_⟩, ?_⟩
    · unfold own
      dsimp only
      rw [List.filter_append, List.filter_append]
      exact h.own.append_right _
    · unfold Distinct own
      dsimp only
      rw [List.filter_append, List.map_append]
      rw [List.nodup_append]
      refine ⟨h.distinct, (List.nodup_singleton _).sublist (List.filter_sublist.map _), ?_⟩
      intro x hx y hy hsame
      obtain ⟨row, hrow, rfl⟩ := List.mem_map.mp hx
      obtain ⟨other, hother, rfl⟩ := List.mem_map.mp hy
      rw [List.mem_singleton.mp (List.mem_filter.mp hother).1] at hsame
      exact hfresh (hsame ▸ List.mem_map_of_mem (List.mem_filter.mp hrow).1)

theorem update_alike (h : Alike agentId db db') (memoryId : JsString) (dto : UpdateAgentMemoryDto)
    (now : JsString) :
    (update p agentId memoryId dto now db).1 = (update p agentId memoryId dto now db').1 ∧
      Alike agentId (update p agentId memoryId dto now db).2
        (update p agentId memoryId dto now db').2 := by
  unfold update
  rw [assertAgentExists_alike agentId db db' h, readRow_alike agentId db db' h memoryId,
    count_alike agentId db db' h memoryId]
  cases assertAgentExists db' agentId with
  | error failure => exact ⟨rfl, h⟩
  | ok _ =>
    cases readRow db' agentId memoryId with
    | none => exact ⟨rfl, h⟩
    | some existing =>
      dsimp only
      have hafter := updateRows_alike agentId db memoryId
        ((applyAgentMemoryUpdates p existing dto).set now) (set_kept _ now) db' h
      rw [readRow_alike agentId _ _ hafter memoryId]
      split_ifs
      · exact ⟨rfl, hafter⟩
      · cases readRow (updateRows db' agentId memoryId
            ((applyAgentMemoryUpdates p existing dto).set now)) agentId memoryId with
        | none => exact ⟨rfl, hafter⟩
        | some updated => exact ⟨rfl, hafter⟩
      · exact ⟨rfl, h⟩

theorem remove_alike (h : Alike agentId db db') (memoryId : JsString) :
    (remove agentId memoryId db).1 = (remove agentId memoryId db').1 ∧
      Alike agentId (remove agentId memoryId db).2 (remove agentId memoryId db').2 := by
  have hafter := deleteRows_alike agentId db db' h (named agentId memoryId)
  unfold remove
  rw [assertAgentExists_alike agentId db db' h, count_alike agentId db db' h memoryId]
  cases assertAgentExists db' agentId with
  | error failure => exact ⟨rfl, h⟩
  | ok _ =>
    dsimp only
    split_ifs
    · exact ⟨rfl, hafter⟩
    · exact ⟨rfl, hafter⟩

theorem removeAll_alike (h : Alike agentId db db') :
    (removeAll agentId db).1 = (removeAll agentId db').1 ∧
      Alike agentId (removeAll agentId db).2 (removeAll agentId db').2 := by
  have hcount : db.agentMemories.countP (ownedBy agentId) =
      db'.agentMemories.countP (ownedBy agentId) := by
    rw [List.countP_eq_length_filter, List.countP_eq_length_filter]
    exact h.own.length_eq
  unfold removeAll
  rw [assertAgentExists_alike agentId db db' h, hcount]
  cases assertAgentExists db' agentId with
  | error failure => exact ⟨rfl, h⟩
  | ok _ => exact ⟨rfl, deleteRows_alike agentId db db' h (ownedBy agentId)⟩

theorem create_rest (dto : CreateAgentMemoryDto) (newId now : JsString) :
    rest agentId (create p agentId dto newId now db).2 = rest agentId db := by
  unfold create
  cases assertAgentExists db agentId with
  | error failure => rfl
  | ok _ =>
    dsimp only
    cases hinsert : insertRow db ⟨newId, some agentId, dto.content,
        normalizeTagsOnWrite p.toLowerCase dto.tags, now, now⟩ with
    | error failure => rfl
    | ok after => exact insertRow_rest agentId db after _ rfl hinsert

theorem update_rest (memoryId : JsString) (dto : UpdateAgentMemoryDto) (now : JsString) :
    rest agentId (update p agentId memoryId dto now db).2 = rest agentId db := by
  unfold update
  cases assertAgentExists db agentId with
  | error failure => rfl
  | ok _ =>
    cases readRow db agentId memoryId with
    | none => rfl
    | some existing =>
      have hafter := updateRows_rest agentId db memoryId
        ((applyAgentMemoryUpdates p existing dto).set now) (set_kept _ now)
      dsimp only
      split_ifs
      · exact hafter
      · cases readRow (updateRows db agentId memoryId
            ((applyAgentMemoryUpdates p existing dto).set now)) agentId memoryId with
        | none => exact hafter
        | some updated => exact hafter
      · rfl

theorem remove_rest (memoryId : JsString) :
    rest agentId (remove agentId memoryId db).2 = rest agentId db := by
  have hafter := deleteRows_rest agentId db _ (named_owned agentId memoryId)
  unfold remove
  cases assertAgentExists db agentId with
  | error failure => rfl
  | ok _ =>
    dsimp only
    split_ifs
    · exact hafter
    · exact hafter

theorem removeAll_rest : rest agentId (removeAll agentId db).2 = rest agentId db := by
  unfold removeAll
  cases assertAgentExists db agentId with
  | error failure => rfl
  | ok _ => exact deleteRows_rest agentId db _ fun _ howned => howned

end Requests

structure Event where
  request : Request
  sorter : Sorter MemoryRow SqlValue
  sorter' : Sorter MemoryRow SqlValue

section Runs
variable (p : Platform ν) (agentId : JsString)

def first (db : Memories) (event : Event) : Except Failure Response × Memories :=
  perform p event.sorter agentId db event.request

def second (db : Memories) (event : Event) : Except Failure Response × Memories :=
  perform p event.sorter' agentId db event.request

def Fresh (db : Memories) (event : Event) : Prop :=
  match event.request with
  | .create _ newId _ => sqlText newId ∉ db.agentMemories.map (sqlText ·.id)
  | _ => True

theorem answered_alike {α : Type} (answer : α → Response) (outcome outcome' : Except Failure α × Memories)
    (h : outcome.1 = outcome'.1 ∧ Alike agentId outcome.2 outcome'.2) :
    (outcome.map (·.map answer) id).1 = (outcome'.map (·.map answer) id).1 ∧
      Alike agentId (outcome.map (·.map answer) id).2 (outcome'.map (·.map answer) id).2 :=
  ⟨congrArg (·.map answer) h.1, h.2⟩

theorem perform_alike (db db' : Memories) (event : Event) (h : Alike agentId db db')
    (hfresh : Fresh db event) (hfresh' : Fresh db' event) :
    (first p agentId db event).1 = (second p agentId db' event).1 ∧
      Alike agentId (next (first p agentId) db event) (next (second p agentId) db' event) := by
  obtain ⟨request, sorter, sorter'⟩ := event
  cases request with
  | findAll query =>
    exact ⟨congrArg (Except.map Response.page) (findAll_alike agentId db db' h p sorter sorter' query), h⟩
  | create dto newId now =>
    exact answered_alike agentId .memory _ _ (create_alike agentId p db db' h dto newId now hfresh hfresh')
  | findOne memoryId =>
    exact ⟨congrArg (Except.map Response.memory) (findOne_alike agentId db db' h p memoryId), h⟩
  | update memoryId dto now =>
    exact answered_alike agentId .memory _ _ (update_alike agentId p db db' h memoryId dto now)
  | remove memoryId =>
    exact answered_alike agentId (fun _ => .done) _ _ (remove_alike agentId db db' h memoryId)
  | removeAll => exact answered_alike agentId .deleted _ _ (removeAll_alike agentId db db' h)

theorem perform_rest (sorter : Sorter MemoryRow SqlValue) (db : Memories) (request : Request) :
    rest agentId (perform p sorter agentId db request).2 = rest agentId db := by
  cases request with
  | findAll query => rfl
  | create dto newId now => exact create_rest agentId p db dto newId now
  | findOne memoryId => rfl
  | update memoryId dto now => exact update_rest agentId p db memoryId dto now
  | remove memoryId => exact remove_rest agentId db memoryId
  | removeAll => exact removeAll_rest agentId db

/-- Requests about an agent's memories are answered from them alone, and change no others. -/
theorem memory_scopes (db db' : Memories) (events : List Event) (hagree : Agree agentId db db')
    (hdistinct : Distinct db.agentMemories)
    (hfresh : Allowed (next (first p agentId)) Fresh db events)
    (hfresh' : Allowed (next (second p agentId)) Fresh db' events) :
    answers (first p agentId) db events = answers (second p agentId) db' events ∧
    rest agentId (events.foldl (next (first p agentId)) db) = rest agentId db ∧
    rest agentId (events.foldl (next (second p agentId)) db') = rest agentId db' := by
  have halike : Alike agentId db db' :=
    ⟨hagree, hdistinct.sublist (List.filter_sublist.map _)⟩
  obtain ⟨hanswers, -⟩ := answers_alike (first p agentId) (second p agentId) (Alike agentId) Fresh
    Fresh (fun s t event h hs ht => perform_alike p agentId s t event h hs ht) db db' events halike
    hfresh hfresh'
  refine ⟨hanswers, ?_, ?_⟩
  · exact run_unchanged (first p agentId) (rest agentId)
      (fun s event => perform_rest p agentId event.sorter s event.request) db events
  · exact run_unchanged (second p agentId) (rest agentId)
      (fun s event => perform_rest p agentId event.sorter' s event.request) db' events

end Runs

def plainPlatform : Platform ℤ :=
  ⟨id, fun _ => none, ⟨fun _ => false, fun _ => [], fun _ _ => false, fun _ _ => true⟩⟩

def memory (id agentId : String) : MemoryRow :=
  ⟨js id, some (js agentId), js "content of " ++ js id, none, [], []⟩

def withBob (memories : List MemoryRow) : Memories :=
  ⟨[js "Ann", js "Bob"], memory "a" "Ann" :: memories, memories⟩

def visits : List Event := [
  ⟨.findAll ⟨⟨none, none, none, none⟩, ⟨none, none, none, none, none⟩, none⟩, stable, stable⟩,
  ⟨.create ⟨js "more", none⟩ (js "c") [], stable, stable⟩,
  ⟨.findOne (js "b"), stable, stable⟩,
  ⟨.remove (js "b"), stable, stable⟩]

theorem memory_scopes_visits :
    answers (first plainPlatform (js "Ann")) (withBob []) visits =
      answers (second plainPlatform (js "Ann")) (withBob [memory "b" "Bob"]) visits := by
  have hagree : Agree (js "Ann") (withBob []) (withBob [memory "b" "Bob"]) :=
    ⟨Iff.rfl, List.Perm.refl _⟩
  have hfresh : sqlText (js "c") ∉ (withBob []).agentMemories.map (sqlText ·.id) := by decide
  have hfresh' : sqlText (js "c") ∉ (withBob [memory "b" "Bob"]).agentMemories.map (sqlText ·.id) := by
    decide
  have hdistinct : Distinct (withBob []).agentMemories := List.nodup_singleton _
  exact (memory_scopes plainPlatform (js "Ann") (withBob []) (withBob [memory "b" "Bob"]) visits
    hagree hdistinct ⟨trivial, hfresh, trivial, trivial, trivial⟩
    ⟨trivial, hfresh', trivial, trivial, trivial⟩).1

end Glassbeetle.MemoryScopes
