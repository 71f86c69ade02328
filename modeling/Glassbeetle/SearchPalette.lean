import Mathlib.Data.List.Nodup
import Glassbeetle.JsText

set_option autoImplicit false

namespace Glassbeetle.SearchPalette
open JsText

structure PaletteItem where
  id : JsString
  icon : JsString
  label : JsString
  hint : Option JsString
  group : JsString
  link : List JsString
  deriving DecidableEq

def NAVIGATION : List PaletteItem :=
  [⟨js "nav:overview", js "space_dashboard", js "Overview",
      some (js "Workspace status and recent changes"), js "Go to", [js "/overview"]⟩,
    ⟨js "nav:agents", js "graph_3", js "Agents", some (js "The roster"), js "Go to", [js "/agents"]⟩,
    ⟨js "nav:chats", js "forum", js "Chats", some (js "Conversations with agents and teams"),
      js "Go to", [js "/chats"]⟩,
    ⟨js "nav:memory", js "database", js "Shared memory", some (js "Context every agent draws on"),
      js "Go to", [js "/memory"]⟩,
    ⟨js "nav:prompts", js "article", js "System prompts", some (js "Reusable instruction templates"),
      js "Go to", [js "/prompts"]⟩]

structure Agent where
  id : JsString
  name : JsString
  personality : Option JsString

structure SystemPrompt where
  id : JsString
  name : JsString
  content : JsString

structure Memory where
  id : JsString
  content : JsString
  tags : List JsString

def agentItem (agent : Agent) : PaletteItem :=
  ⟨js "agent:" ++ agent.id, js "graph_3", agent.name, agent.personality, js "Agents",
    [js "/agents", agent.id]⟩

def promptItem (prompt : SystemPrompt) : PaletteItem :=
  ⟨js "prompt:" ++ prompt.id, js "article", prompt.name, some prompt.content, js "System prompts",
    [js "/prompts"]⟩

def memoryItem (memory : Memory) : PaletteItem :=
  let tags := join (js " · ") memory.tags
  ⟨js "memory:" ++ memory.id, js "database", memory.content, if tags = [] then none else some tags,
    js "Shared memory", [js "/memory"]⟩

/-- How one of the three requests of a search ends; `none` if it fails. -/
inductive Answer where
  | agents (page : Option (List Agent))
  | prompts (page : Option (List SystemPrompt))
  | memories (page : Option (List Memory))

structure Search where
  agents : Option (Option (List Agent))
  prompts : Option (Option (List SystemPrompt))
  memories : Option (Option (List Memory))

def Search.receive (search : Search) : Answer → Search
  | .agents page => { search with agents := some page }
  | .prompts page => { search with prompts := some page }
  | .memories page => { search with memories := some page }

/-- `groups.flat()`, in which a collection that failed has no items. -/
def combined (agents : Option (List Agent)) (prompts : Option (List SystemPrompt))
    (memories : Option (List Memory)) : List PaletteItem :=
  (agents.getD []).map agentItem ++ (prompts.getD []).map promptItem ++
    (memories.getD []).map memoryItem

/-- `combineLatest` -/
def Search.found : Search → Option (List PaletteItem)
  | ⟨some agents, some prompts, some memories⟩ => some (combined agents prompts memories)
  | _ => none

structure CommandPalette where
  term : JsString
  searching : Bool
  results : List PaletteItem
  activeIndex : ℕ
  closed : Bool
  /-- The term that goes on when the typing pauses. -/
  debounced : Option JsString
  /-- The last term that went on, from which the next has to be distinct. -/
  emitted : Option JsString
  /-- The terms searched for so far. -/
  sent : List JsString
  /-- The last search, while it lasts. -/
  search : Option Search
  /-- Where the router was sent. -/
  visited : List (List JsString)

def start : CommandPalette where
  term := []
  searching := false
  results := []
  activeIndex := 0
  closed := false
  debounced := none
  emitted := none
  sent := []
  search := none
  visited := []

section Views

variable (toLowerCase : JsString → JsString)

def navigation (s : CommandPalette) : List PaletteItem :=
  let term := toLowerCase (trim s.term)
  if term = [] then NAVIGATION
  else NAVIGATION.filter fun item => includes (toLowerCase item.label) term

def items (s : CommandPalette) : List PaletteItem := navigation toLowerCase s ++ s.results

def optionId (item : PaletteItem) : JsString := js "palette-option-" ++ item.id

def loading (s : CommandPalette) : Bool := s.searching && s.results.isEmpty

def activeId (s : CommandPalette) : Option JsString :=
  if s.closed || loading s then none else (items toLowerCase s)[s.activeIndex]?.map optionId

def addTo (groups : List (JsString × List PaletteItem)) (item : PaletteItem) :
    List (JsString × List PaletteItem) :=
  if item.group ∈ groups.map Prod.fst then
    groups.map fun bucket =>
      if bucket.1 = item.group then (bucket.1, bucket.2 ++ [item]) else bucket
  else groups ++ [(item.group, [item])]

def groups (s : CommandPalette) : List (JsString × List PaletteItem) :=
  (items toLowerCase s).foldl addTo []

end Views

def onInput (value : JsString) (s : CommandPalette) : CommandPalette :=
  { s with term := value, activeIndex := 0, debounced := some (trim value) }

def showResults (results : List PaletteItem) (s : CommandPalette) : CommandPalette :=
  { s with searching := false, results := results, activeIndex := 0, search := none }

/-- `distinctUntilChanged` and `switchMap`: a term that goes on ends the search before it. -/
def switchTo (term : JsString) (s : CommandPalette) : CommandPalette :=
  if s.emitted = some term then s
  else if term = [] then showResults [] { s with emitted := some term }
  else { s with
    emitted := some term, searching := true, sent := s.sent ++ [term], search := some ⟨none, none, none⟩ }

def onPause (s : CommandPalette) : CommandPalette :=
  match s.debounced with
  | none => s
  | some term => switchTo term { s with debounced := none }

/-- An answer to an earlier search is not heard. -/
def onAnswer (number : ℕ) (answer : Answer) (s : CommandPalette) : CommandPalette :=
  match s.search with
  | none => s
  | some search =>
    if number = s.sent.length then
      match (search.receive answer).found with
      | some results => showResults results s
      | none => { s with search := some (search.receive answer) }
    else s

inductive Key where
  | arrowDown
  | arrowUp
  | enter
  | other

/-- The dialog's closing is a step of its own. -/
def run (item : PaletteItem) (s : CommandPalette) : CommandPalette :=
  { s with visited := s.visited ++ [item.link] }

def onKeydown (toLowerCase : JsString → JsString) (key : Key) (s : CommandPalette) : CommandPalette :=
  let length := (items toLowerCase s).length
  match key with
  | .arrowDown => { s with activeIndex := (s.activeIndex + 1) % max length 1 }
  | .arrowUp => { s with activeIndex := (s.activeIndex + length - 1) % max length 1 }
  | .enter =>
    match (items toLowerCase s)[s.activeIndex]? with
    | some item => run item s
    | none => s
  | .other => s

inductive Action where
  | input (value : JsString)
  | pause
  /-- An answer to the search of that number, counted from one. -/
  | answer (number : ℕ) (answer : Answer)
  | keydown (key : Key)
  | mouseenter (index : ℕ)
  | click (index : ℕ)
  | beforeClosed

/-- The pointer finds the options that are on screen. -/
def step (toLowerCase : JsString → JsString) (s : CommandPalette) : Action → CommandPalette
  | .input value => onInput value s
  | .pause => onPause s
  | .answer number answer => onAnswer number answer s
  | .keydown key => onKeydown toLowerCase key s
  | .mouseenter index =>
    if !loading s && index < (items toLowerCase s).length then { s with activeIndex := index } else s
  | .click index =>
    if loading s then s
    else match (items toLowerCase s)[index]? with
      | some item => run item s
      | none => s
  | .beforeClosed => { s with closed := true }

def reached (toLowerCase : JsString → JsString) (actions : List Action) : CommandPalette :=
  actions.foldl (step toLowerCase) start

/-! ### The results -/

def Answered (actions : List Action) (number : ℕ) (agents : Option (List Agent))
    (prompts : Option (List SystemPrompt)) (memories : Option (List Memory)) : Prop :=
  .answer number (.agents agents) ∈ actions ∧ .answer number (.prompts prompts) ∈ actions ∧
    .answer number (.memories memories) ∈ actions

def ResultsOf (actions : List Action) (number : ℕ) (results : List PaletteItem) : Prop :=
  ∃ agents prompts memories, Answered actions number agents prompts memories ∧
    results = combined agents prompts memories

structure Search.Heard (actions : List Action) (number : ℕ) (search : Search) : Prop where
  agents : ∀ page, search.agents = some page → .answer number (.agents page) ∈ actions
  prompts : ∀ page, search.prompts = some page → .answer number (.prompts page) ∈ actions
  memories : ∀ page, search.memories = some page → .answer number (.memories page) ∈ actions

structure Consistent (actions : List Action) (s : CommandPalette) : Prop where
  searching : s.searching = s.search.isSome
  waiting : ∀ term, s.debounced = some term → term = trim s.term
  passed : s.debounced = none → s.emitted = some (trim s.term) ∨ s.emitted = none ∧ s.term = []
  blank : s.emitted.getD [] = [] → s.search = none ∧ s.results = []
  asked : s.emitted.getD [] ≠ [] → s.sent.getLast? = s.emitted
  heard : ∀ search, s.search = some search → search.Heard actions s.sent.length
  found : s.emitted.getD [] ≠ [] → s.search = none → ResultsOf actions s.sent.length s.results
  kept : s.results = [] ∨ ∃ number, ResultsOf actions number s.results

theorem start_consistent : Consistent [] start := by
  constructor <;> simp [start]

theorem ResultsOf.extend (actions more : List Action) (number : ℕ) (results : List PaletteItem)
    (h : ResultsOf actions number results) : ResultsOf (actions ++ more) number results := by
  obtain ⟨agents, prompts, memories, ⟨hagents, hprompts, hmemories⟩, hresults⟩ := h
  exact ⟨agents, prompts, memories, ⟨List.mem_append_left _ hagents,
    List.mem_append_left _ hprompts, List.mem_append_left _ hmemories⟩, hresults⟩

theorem Search.Heard.extend (actions more : List Action) (number : ℕ) (search : Search)
    (h : search.Heard actions number) : search.Heard (actions ++ more) number where
  agents page hpage := List.mem_append_left _ (h.agents page hpage)
  prompts page hpage := List.mem_append_left _ (h.prompts page hpage)
  memories page hpage := List.mem_append_left _ (h.memories page hpage)

theorem Consistent.extend (actions more : List Action) (s : CommandPalette)
    (h : Consistent actions s) : Consistent (actions ++ more) s :=
  { h with
    heard := fun search hsearch => (h.heard search hsearch).extend actions more _ search
    found := fun hterm hsearch => (h.found hterm hsearch).extend actions more _ _
    kept := h.kept.imp id fun ⟨number, hresults⟩ => ⟨number, hresults.extend actions more _ _⟩ }

theorem moved_consistent (actions : List Action) (s t : CommandPalette) (h : Consistent actions s)
    (ht : t = { s with activeIndex := t.activeIndex, visited := t.visited, closed := t.closed }) :
    Consistent actions t := by
  rw [ht]
  exact { h with }

theorem onInput_consistent (actions : List Action) (value : JsString) (s : CommandPalette)
    (h : Consistent actions s) : Consistent actions (onInput value s) :=
  { h with
    waiting := fun term hterm => (Option.some.inj hterm).symm
    passed := fun hnone => by cases hnone }

theorem switchTo_consistent (actions : List Action) (s : CommandPalette)
    (h : Consistent actions s) :
    Consistent actions (switchTo (trim s.term) { s with debounced := none }) := by
  unfold switchTo
  split
  · next hsame =>
    exact { h with
      waiting := fun term hterm => by cases hterm
      passed := fun _ => .inl hsame }
  · split
    · next hblank =>
      constructor <;> simp [showResults, hblank]
    · next hterm =>
      constructor
      · rfl
      · exact fun term hnone => by cases hnone
      · exact fun _ => .inl rfl
      · exact fun hblank => absurd hblank hterm
      · exact fun _ => List.getLast?_concat
      · intro search hsearch
        obtain rfl := Option.some.inj hsearch
        constructor <;> exact fun page hpage => by cases hpage
      · exact fun _ hnone => by cases hnone
      · exact h.kept

theorem onPause_consistent (actions : List Action) (s : CommandPalette) (h : Consistent actions s) :
    Consistent actions (onPause s) := by
  unfold onPause
  split
  · exact h
  · next term hterm =>
    rw [h.waiting term hterm]
    exact switchTo_consistent actions s h

theorem receive_heard (actions : List Action) (number : ℕ) (search : Search) (answer : Answer)
    (h : search.Heard actions number) :
    (search.receive answer).Heard (actions ++ [.answer number answer]) number := by
  have hmore := h.extend actions [.answer number answer] number search
  cases answer with
  | agents page =>
    exact { hmore with agents := fun other hother => by simp [← Option.some.inj hother] }
  | prompts page =>
    exact { hmore with prompts := fun other hother => by simp [← Option.some.inj hother] }
  | memories page =>
    exact { hmore with memories := fun other hother => by simp [← Option.some.inj hother] }

theorem found_results (actions : List Action) (number : ℕ) (search : Search)
    (results : List PaletteItem) (h : search.Heard actions number)
    (hfound : search.found = some results) : ResultsOf actions number results := by
  obtain ⟨_ | agents, _ | prompts, _ | memories⟩ := search
  case some.some.some =>
    exact ⟨agents, prompts, memories, ⟨h.agents agents rfl, h.prompts prompts rfl,
      h.memories memories rfl⟩, (Option.some.inj hfound).symm⟩
  all_goals cases hfound

theorem onAnswer_consistent (actions : List Action) (number : ℕ) (answer : Answer)
    (s : CommandPalette) (h : Consistent actions s) :
    Consistent (actions ++ [.answer number answer]) (onAnswer number answer s) := by
  have hmore := h.extend actions [.answer number answer] s
  unfold onAnswer
  split
  · exact hmore
  · next search hsearch =>
    have hterm : s.emitted.getD [] ≠ [] := by
      intro hblank
      rw [(h.blank hblank).1] at hsearch
      cases hsearch
    split
    · next hnumber =>
      have hheard := receive_heard actions number search answer (hnumber ▸ h.heard search hsearch)
      split
      · next results hfound =>
        have hresults := found_results _ number _ results hheard hfound
        exact { hmore with
          searching := rfl
          blank := fun hblank => absurd hblank hterm
          heard := fun search hnone => by cases hnone
          found := fun _ _ => hnumber ▸ hresults
          kept := .inr ⟨number, hresults⟩ }
      · exact { hmore with
          searching := by rw [hmore.searching, hsearch]; rfl
          blank := fun hblank => absurd hblank hterm
          heard := fun search hsome => by
            obtain rfl := Option.some.inj hsome
            exact hnumber ▸ hheard
          found := fun _ hnone => by cases hnone }
    · exact hmore

theorem onKeydown_moved (toLowerCase : JsString → JsString) (key : Key) (s : CommandPalette) :
    onKeydown toLowerCase key s = { s with
      activeIndex := (onKeydown toLowerCase key s).activeIndex
      visited := (onKeydown toLowerCase key s).visited
      closed := (onKeydown toLowerCase key s).closed } := by
  cases key with
  | enter =>
    simp only [onKeydown]
    split <;> rfl
  | _ => rfl

theorem step_consistent (toLowerCase : JsString → JsString) (actions : List Action)
    (s : CommandPalette) (action : Action) (h : Consistent actions s) :
    Consistent (actions ++ [action]) (step toLowerCase s action) := by
  have hmore := h.extend actions [action] s
  cases action with
  | input value => exact onInput_consistent _ value s hmore
  | pause => exact onPause_consistent _ s hmore
  | answer number answer => exact onAnswer_consistent actions number answer s h
  | keydown key => exact moved_consistent _ s _ hmore (onKeydown_moved toLowerCase key s)
  | mouseenter index =>
    apply moved_consistent _ s _ hmore
    simp only [step]
    split <;> rfl
  | click index =>
    apply moved_consistent _ s _ hmore
    simp only [step]
    split
    · rfl
    · split <;> rfl
  | beforeClosed => exact moved_consistent _ s _ hmore rfl

theorem reached_consistent (toLowerCase : JsString → JsString) (actions : List Action) :
    Consistent actions (reached toLowerCase actions) := by
  induction actions using List.reverseRecOn with
  | nil => exact start_consistent
  | append_singleton actions action ih =>
    rw [reached, List.foldl_append]
    exact step_consistent toLowerCase actions _ action ih

/-- The results are those for what is typed: of the last search of all, which is the one for this
term. -/
def Settled (actions : List Action) (s : CommandPalette) : Prop :=
  s.searching = false ∧
    if trim s.term = [] then s.results = []
    else s.sent.getLast? = some (trim s.term) ∧ ResultsOf actions s.sent.length s.results

def lowerCase : JsString → JsString := List.map foldCase

/-- A search for agents, of which the one for the prompts fails and that for memories is answered
first. -/
def agentSearch : List Action :=
  [.input (js " agent "), .pause, .answer 1 (.memories (some [])), .answer 1 (.prompts none),
    .answer 1 (.agents (some [⟨js "a", js "Agent A", none⟩]))]

/-- Whatever was typed, answered late or failed before: once the typing has paused and the search is
over, the results are those for the term that is typed. -/
theorem palette_settles (toLowerCase : JsString → JsString) (actions : List Action)
    (hpaused : (reached toLowerCase actions).debounced = none)
    (hover : (reached toLowerCase actions).search = none) :
    Settled actions (reached toLowerCase actions) := by
  have h := reached_consistent toLowerCase actions
  refine ⟨by rw [h.searching, hover]; rfl, ?_⟩
  rcases h.passed hpaused with hemitted | ⟨hemitted, hterm⟩
  · split
    · next hblank => exact (h.blank (by rw [hemitted]; exact hblank)).2
    · next hfilled =>
      have hgoing : (reached toLowerCase actions).emitted.getD [] ≠ [] := by
        rw [hemitted]
        exact hfilled
      exact ⟨(h.asked hgoing).trans hemitted, h.found hgoing hover⟩
  · rw [hterm, if_pos (by rfl)]
    exact (h.blank (by rw [hemitted]; rfl)).2

theorem palette_settles_search : Settled agentSearch (reached lowerCase agentSearch) :=
  palette_settles lowerCase agentSearch rfl rfl

/-! ### The options -/

section Options

variable (toLowerCase : JsString → JsString)

theorem active_start : start.activeIndex < max (items toLowerCase start).length 1 :=
  Nat.lt_of_lt_of_le Nat.one_pos (Nat.le_max_right _ 1)

theorem step_active (s : CommandPalette) (action : Action)
    (h : s.activeIndex < max (items toLowerCase s).length 1) :
    (step toLowerCase s action).activeIndex <
      max (items toLowerCase (step toLowerCase s action)).length 1 := by
  have hfirst (n : ℕ) : 0 < max n 1 := Nat.lt_of_lt_of_le Nat.one_pos (Nat.le_max_right n 1)
  cases action with
  | input value => exact hfirst _
  | pause =>
    simp only [step, onPause, switchTo]
    split
    · exact h
    · split
      · exact h
      · split
        · exact hfirst _
        · exact h
  | answer number answer =>
    simp only [step, onAnswer]
    split
    · exact h
    · split
      · split
        · exact hfirst _
        · exact h
      · exact h
  | keydown key =>
    cases key with
    | arrowDown => exact Nat.mod_lt _ (hfirst _)
    | arrowUp => exact Nat.mod_lt _ (hfirst _)
    | enter =>
      simp only [step, onKeydown]
      split <;> exact h
    | other => exact h
  | mouseenter index =>
    simp only [step]
    split
    · next hshown =>
      rw [Bool.and_eq_true, decide_eq_true_eq] at hshown
      exact Nat.lt_of_lt_of_le hshown.2 (Nat.le_max_left _ 1)
    · exact h
  | click index =>
    simp only [step]
    split
    · exact h
    · split <;> exact h
  | beforeClosed => exact h

theorem reached_active (actions : List Action) :
    (reached toLowerCase actions).activeIndex <
      max (items toLowerCase (reached toLowerCase actions)).length 1 := by
  induction actions using List.reverseRecOn with
  | nil => exact active_start toLowerCase
  | append_singleton actions action ih =>
    rw [reached, List.foldl_append]
    exact step_active toLowerCase _ action ih

theorem activeItem_exists (actions : List Action)
    (h : items toLowerCase (reached toLowerCase actions) ≠ []) :
    ∃ item, (items toLowerCase (reached toLowerCase actions))[
      (reached toLowerCase actions).activeIndex]? = some item := by
  have hpos := List.length_pos_of_ne_nil h
  have hactive := reached_active toLowerCase actions
  rw [Nat.max_eq_left hpos] at hactive
  exact ⟨_, List.getElem?_eq_getElem hactive⟩

/-- There is an active option exactly while there are options on screen and the dialog is open, and it
is the one that the Enter key opens. -/
theorem active_option_opens (actions : List Action) :
    let s := reached toLowerCase actions
    (activeId toLowerCase s = none ↔
        s.closed = true ∨ loading s = true ∨ items toLowerCase s = []) ∧
      ∀ id, activeId toLowerCase s = some id → ∃ item ∈ items toLowerCase s, optionId item = id ∧
        (onKeydown toLowerCase .enter s).visited = s.visited ++ [item.link] := by
  intro s
  constructor
  · rw [activeId]
    split
    · next hhidden =>
      rw [Bool.or_eq_true] at hhidden
      simp only [true_iff]
      tauto
    · next hshown =>
      rw [Bool.or_eq_true, not_or] at hshown
      rw [Option.map_eq_none_iff]
      constructor
      · intro hnone
        by_contra hsome
        obtain ⟨item, hitem⟩ := activeItem_exists toLowerCase actions fun h => hsome (.inr (.inr h))
        rw [hitem] at hnone
        cases hnone
      · rintro (hclosed | hloading | hempty)
        · exact absurd hclosed hshown.1
        · exact absurd hloading hshown.2
        · rw [hempty]
          rfl
  · intro id hid
    rw [activeId] at hid
    split at hid
    · cases hid
    · obtain ⟨item, hitem, rfl⟩ := Option.map_eq_some_iff.mp hid
      refine ⟨item, List.mem_of_getElem? hitem, rfl, ?_⟩
      simp only [onKeydown, hitem]
      rfl

example :
    let s := reached lowerCase (agentSearch.take 2)
    activeId lowerCase s = none ∧
      (onKeydown lowerCase .enter s).visited = [[js "/agents"]] := by
  decide

theorem bucket_extends (groups : List (JsString × List PaletteItem)) (name : JsString)
    (run more : List PaletteItem) (hname : name ∉ groups.map Prod.fst)
    (hmore : ∀ item ∈ more, item.group = name) :
    more.foldl addTo (groups ++ [(name, run)]) = groups ++ [(name, run ++ more)] := by
  induction more generalizing run with
  | nil => simp
  | cons item rest ih =>
    have hgroup := hmore item List.mem_cons_self
    have hother : groups.map (fun bucket =>
        if bucket.1 = name then (bucket.1, bucket.2 ++ [item]) else bucket) = groups := by
      rw [List.map_congr_left (g := id), List.map_id]
      intro bucket hbucket
      have hne : bucket.1 ≠ name := by
        rintro rfl
        exact hname (List.mem_map_of_mem hbucket)
      exact if_neg hne
    have hadd : addTo (groups ++ [(name, run)]) item = groups ++ [(name, run ++ [item])] := by
      rw [addTo, hgroup, if_pos (by simp), List.map_append, hother]
      simp
    rw [List.foldl_cons, hadd, ih _ fun other hother => hmore other (List.mem_cons_of_mem _ hother),
      List.append_assoc, List.singleton_append]

/-- Items that stand in runs are put into one bucket for each run that is not empty. -/
theorem buckets_runs (runs groups : List (JsString × List PaletteItem))
    (hdistinct : ((groups ++ runs).map Prod.fst).Nodup)
    (hruns : ∀ bucket ∈ runs, ∀ item ∈ bucket.2, item.group = bucket.1) :
    (runs.flatMap Prod.snd).foldl addTo groups =
      groups ++ runs.filter fun bucket => !bucket.2.isEmpty := by
  induction runs generalizing groups with
  | nil => simp
  | cons bucket rest ih =>
    obtain ⟨name, run⟩ := bucket
    have hrest := fun bucket hbucket => hruns bucket (List.mem_cons_of_mem _ hbucket)
    have hrun := hruns (name, run) List.mem_cons_self
    rw [List.flatMap_cons, List.foldl_append]
    cases run with
    | nil =>
      have hsub : ((groups ++ rest).map Prod.fst).Sublist
          ((groups ++ (name, []) :: rest).map Prod.fst) :=
        ((List.sublist_cons_self (name, []) rest).append_left groups).map _
      simpa using ih groups (hdistinct.sublist hsub) hrest
    | cons item more =>
      have hname : name ∉ groups.map Prod.fst := by
        intro hmem
        rw [List.map_append, List.nodup_append] at hdistinct
        exact hdistinct.2.2 name hmem name (by simp) rfl
      have hfirst : addTo groups item = groups ++ [(name, [item])] := by
        rw [addTo, hrun item List.mem_cons_self, if_neg hname]
      rw [List.foldl_cons, hfirst, bucket_extends groups name [item] more hname fun other hother =>
        hrun other (List.mem_cons_of_mem _ hother), ih _ (by simpa using hdistinct) hrest]
      simp

theorem flatMap_filter (runs : List (JsString × List PaletteItem)) :
    (runs.filter fun bucket => !bucket.2.isEmpty).flatMap Prod.snd = runs.flatMap Prod.snd := by
  induction runs with
  | nil => rfl
  | cons bucket rest ih =>
    obtain ⟨name, _ | ⟨item, more⟩⟩ := bucket <;> simp [ih]

theorem kept_results (actions : List Action) : ∃ agents prompts memories,
    (reached toLowerCase actions).results = combined agents prompts memories ∧
      (∀ page ∈ agents, ∃ number, .answer number (.agents (some page)) ∈ actions) ∧
      (∀ page ∈ prompts, ∃ number, .answer number (.prompts (some page)) ∈ actions) ∧
      ∀ page ∈ memories, ∃ number, .answer number (.memories (some page)) ∈ actions := by
  rcases (reached_consistent toLowerCase actions).kept with hempty | ⟨number, hresults⟩
  · exact ⟨none, none, none, hempty, by simp, by simp, by simp⟩
  · obtain ⟨agents, prompts, memories, ⟨hagents, hprompts, hmemories⟩, hresults⟩ := hresults
    refine ⟨agents, prompts, memories, hresults, ?_, ?_, ?_⟩
    · rintro page rfl
      exact ⟨number, hagents⟩
    · rintro page rfl
      exact ⟨number, hprompts⟩
    · rintro page rfl
      exact ⟨number, hmemories⟩

theorem navigation_sublist (s : CommandPalette) : (navigation toLowerCase s).Sublist NAVIGATION := by
  simp only [navigation]
  split
  · exact .refl _
  · exact List.filter_sublist

theorem groups_order (actions : List Action) :
    (groups toLowerCase (reached toLowerCase actions)).flatMap Prod.snd =
      items toLowerCase (reached toLowerCase actions) := by
  obtain ⟨agents, prompts, memories, hresults, -⟩ := kept_results toLowerCase actions
  have hitems : items toLowerCase (reached toLowerCase actions) =
      [(js "Go to", navigation toLowerCase (reached toLowerCase actions)),
        (js "Agents", (agents.getD []).map agentItem),
        (js "System prompts", (prompts.getD []).map promptItem),
        (js "Shared memory", (memories.getD []).map memoryItem)].flatMap Prod.snd := by
    simp [items, hresults, combined]
  have hnavigation : ∀ item ∈ NAVIGATION, item.group = js "Go to" := by decide
  have hbuckets := buckets_runs
    [(js "Go to", navigation toLowerCase (reached toLowerCase actions)),
      (js "Agents", (agents.getD []).map agentItem),
      (js "System prompts", (prompts.getD []).map promptItem),
      (js "Shared memory", (memories.getD []).map memoryItem)] [] (by simp; decide) (by
    simp only [List.mem_cons, List.not_mem_nil, or_false]
    rintro bucket (rfl | rfl | rfl | rfl) item hitem
    · exact hnavigation item ((navigation_sublist toLowerCase _).subset hitem)
    all_goals
      obtain ⟨found, -, rfl⟩ := List.mem_map.mp hitem
      rfl)
  rw [groups, hitems, hbuckets, List.nil_append]
  exact flatMap_filter _

/-- The answers list no row twice. -/
def Answer.Distinct : Answer → Prop
  | .agents page => ((page.getD []).map Agent.id).Nodup
  | .prompts page => ((page.getD []).map SystemPrompt.id).Nodup
  | .memories page => ((page.getD []).map Memory.id).Nodup

theorem headed (first : JsString) (c : CodeUnit) (h : first.head? = some c) (ids : List JsString) :
    ∀ id ∈ ids.map (first ++ ·), id.head? = some c := by
  intro id hid
  obtain ⟨rest, -, rfl⟩ := List.mem_map.mp hid
  simp [List.head?_append, h]

theorem nodup_headed (c : CodeUnit) (left right : List JsString) (hleft : left.Nodup)
    (hright : right.Nodup) (hc : ∀ id ∈ left, id.head? = some c)
    (hother : ∀ id ∈ right, id.head? ≠ some c) : (left ++ right).Nodup := by
  rw [List.nodup_append]
  refine ⟨hleft, hright, ?_⟩
  rintro id hid other hmem rfl
  exact hother id hmem (hc id hid)

theorem headed_ne (c d : CodeUnit) (ids : List JsString) (h : ∀ id ∈ ids, id.head? = some c)
    (hne : c ≠ d) : ∀ id ∈ ids, id.head? ≠ some d := by
  intro id hid hother
  exact hne (Option.some.inj ((h id hid).symm.trans hother))

theorem combined_ids (entries agents prompts memories : List JsString)
    (hentries : entries.Sublist (NAVIGATION.map PaletteItem.id)) (hagents : agents.Nodup)
    (hprompts : prompts.Nodup) (hmemories : memories.Nodup) :
    (entries ++ (agents.map (js "agent:" ++ ·) ++ (prompts.map (js "prompt:" ++ ·) ++
      memories.map (js "memory:" ++ ·)))).Nodup := by
  have hnav : ∀ id ∈ NAVIGATION.map PaletteItem.id, id.head? = some 0x6E := by decide
  have hn : ∀ id ∈ entries, id.head? = some 0x6E := fun id hid => hnav id (hentries.subset hid)
  have ha := headed (js "agent:") 0x61 rfl agents
  have hp := headed (js "prompt:") 0x70 rfl prompts
  have hm := headed (js "memory:") 0x6D rfl memories
  have hlast := nodup_headed 0x70 _ _ (hprompts.map (List.append_right_injective (js "prompt:")))
    (hmemories.map (List.append_right_injective (js "memory:"))) hp (headed_ne _ _ _ hm (by decide))
  have hothers := nodup_headed 0x61 _ _ (hagents.map (List.append_right_injective (js "agent:"))) hlast ha
    (List.forall_mem_append.mpr ⟨headed_ne _ _ _ hp (by decide), headed_ne _ _ _ hm (by decide)⟩)
  exact nodup_headed 0x6E _ _ (List.Nodup.sublist hentries (by decide)) hothers hn
    (List.forall_mem_append.mpr ⟨headed_ne _ _ _ ha (by decide), List.forall_mem_append.mpr
      ⟨headed_ne _ _ _ hp (by decide), headed_ne _ _ _ hm (by decide)⟩⟩)

theorem page_nodup {ρ : Type} (id : ρ → JsString) (page : Option (List ρ))
    (h : ∀ rows ∈ page, (rows.map id).Nodup) : ((page.getD []).map id).Nodup := by
  cases page with
  | none => exact .nil
  | some rows => exact h rows rfl

/-- The options are on screen from top to bottom in the order in which the keys go through them, and
no two have the same id. -/
theorem options_distinct (actions : List Action)
    (hanswers : ∀ number answer, .answer number answer ∈ actions → answer.Distinct) :
    let s := reached toLowerCase actions
    (groups toLowerCase s).flatMap Prod.snd = items toLowerCase s ∧
      ((items toLowerCase s).map optionId).Nodup := by
  intro s
  refine ⟨groups_order toLowerCase actions, ?_⟩
  obtain ⟨agents, prompts, memories, hresults, ha, hp, hm⟩ := kept_results toLowerCase actions
  have hagents := page_nodup Agent.id agents fun rows hrows => by
    obtain ⟨number, hmem⟩ := ha rows hrows
    exact hanswers number _ hmem
  have hprompts := page_nodup SystemPrompt.id prompts fun rows hrows => by
    obtain ⟨number, hmem⟩ := hp rows hrows
    exact hanswers number _ hmem
  have hmemories := page_nodup Memory.id memories fun rows hrows => by
    obtain ⟨number, hmem⟩ := hm rows hrows
    exact hanswers number _ hmem
  have hids := combined_ids ((navigation toLowerCase s).map PaletteItem.id) _ _ _
    ((navigation_sublist toLowerCase s).map _) hagents hprompts hmemories
  have hitems : (items toLowerCase s).map optionId =
      ((navigation toLowerCase s).map PaletteItem.id ++
        (((agents.getD []).map Agent.id).map (js "agent:" ++ ·) ++
          (((prompts.getD []).map SystemPrompt.id).map (js "prompt:" ++ ·) ++
            ((memories.getD []).map Memory.id).map (js "memory:" ++ ·)))).map
        (js "palette-option-" ++ ·) := by
    simp only [items, s, hresults, combined, List.map_append, List.map_map, List.append_assoc]
    rfl
  rw [hitems]
  exact hids.map (List.append_right_injective (js "palette-option-"))

def sharedSearch : List Action :=
  [.input (js "a"), .pause, .answer 1 (.memories (some [⟨js "a", js "Memory A", []⟩])),
    .answer 1 (.agents (some [⟨js "a", js "Agent A", none⟩, ⟨js "b", js "Agent B", none⟩])),
    .answer 1 (.prompts none)]

theorem options_distinct_search :
    let s := reached lowerCase sharedSearch
    (groups lowerCase s).flatMap Prod.snd = items lowerCase s ∧
      ((items lowerCase s).map optionId).Nodup := by
  refine options_distinct lowerCase sharedSearch fun number answer h => ?_
  simp only [sharedSearch, List.mem_cons, Action.answer.injEq, List.not_mem_nil, or_false,
    reduceCtorEq, false_or] at h
  rcases h with ⟨-, rfl⟩ | ⟨-, rfl⟩ | ⟨-, rfl⟩
  · exact List.nodup_singleton _
  · change [js "a", js "b"].Nodup
    decide
  · exact .nil

end Options

end Glassbeetle.SearchPalette
