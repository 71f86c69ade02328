import Glassbeetle.JsText
import Glassbeetle.PrefixMerging

set_option autoImplicit false

/-!
# The feed of recent changes

`ActivityService.recent`. Of each collection the server lists so many rows, the last changed first.
-/
namespace Glassbeetle.ActivityFeed
open JsText PrefixMerging

inductive ActivityEntity where
  | agent
  | memory
  | prompt
  deriving DecidableEq

inductive ActivityKind where
  | created
  | updated
  deriving DecidableEq

structure ActivityEvent where
  id : JsString
  /-- `at` -/
  time : JsString
  kind : ActivityKind
  entity : ActivityEntity
  title : JsString
  detail : Option JsString
  link : Option (List JsString)
  deriving DecidableEq

structure Agent where
  id : JsString
  name : JsString
  personality : Option JsString
  createdAt : JsString
  updatedAt : JsString

structure Memory where
  id : JsString
  content : JsString
  tags : List JsString
  createdAt : JsString
  updatedAt : JsString

structure SystemPrompt where
  id : JsString
  name : JsString
  createdAt : JsString
  updatedAt : JsString

def PER_COLLECTION : ℕ := 15

def kindOf (createdAt updatedAt : JsString) : ActivityKind :=
  if createdAt = updatedAt then .created else .updated

def agentEvent (agent : Agent) : ActivityEvent where
  id := js "agent:" ++ agent.id
  time := agent.updatedAt
  kind := kindOf agent.createdAt agent.updatedAt
  entity := .agent
  title := agent.name
  detail := agent.personality
  link := some [js "/agents", agent.id]

def memoryEvent (memory : Memory) : ActivityEvent where
  id := js "memory:" ++ memory.id
  time := memory.updatedAt
  kind := kindOf memory.createdAt memory.updatedAt
  entity := .memory
  title := memory.content
  detail := if memory.tags = [] then none else some (join (js " · ") memory.tags)
  link := some [js "/memory"]

def promptEvent (prompt : SystemPrompt) : ActivityEvent where
  id := js "prompt:" ++ prompt.id
  time := prompt.updatedAt
  kind := kindOf prompt.createdAt prompt.updatedAt
  entity := .prompt
  title := prompt.name
  detail := none
  link := some [js "/prompts"]

section Feed

variable (localeCompare : JsString → JsString → ℤ)

def Newer (a b : ActivityEvent) : Prop := localeCompare b.time a.time ≤ 0

instance : DecidableRel (Newer localeCompare) :=
  fun a b => inferInstanceAs (Decidable (localeCompare b.time a.time ≤ 0))

/-- A request that failed has no page. -/
def recent (limit : ℕ) (agents : Option (List Agent)) (memories : Option (List Memory))
    (prompts : Option (List SystemPrompt)) : List ActivityEvent :=
  (((agents.getD []).map agentEvent ++ (memories.getD []).map memoryEvent ++
    (prompts.getD []).map promptEvent).insertionSort (Newer localeCompare)).take limit

def Listed {ρ : Type} (event : ρ → ActivityEvent) (rows : List ρ) (page : Option (List ρ)) : Prop :=
  ∀ answer ∈ page, Top (fun a b => Newer localeCompare (event a) (event b)) PER_COLLECTION rows answer

def changes {ρ : Type} (event : ρ → ActivityEvent) (rows : List ρ) (page : Option (List ρ)) :
    List ActivityEvent :=
  if page.isSome then rows.map event else []

theorem listed_changes {ρ : Type} (event : ρ → ActivityEvent) (rows : List ρ)
    (page : Option (List ρ)) (h : Listed localeCompare event rows page) :
    Top (Newer localeCompare) PER_COLLECTION (changes event rows page)
      ((page.getD []).map event) := by
  cases page with
  | none => exact Top.nil _ _
  | some answer => exact Top.map _ event _ rows answer (h answer rfl)

/-- The feed has the latest changes of all, as long as it is no longer than a page. -/
theorem recent_latest (htotal : ∀ a b, localeCompare a b ≤ 0 ∨ localeCompare b a ≤ 0)
    (htrans : ∀ a b c, localeCompare a b ≤ 0 → localeCompare b c ≤ 0 → localeCompare a c ≤ 0)
    (limit : ℕ) (hlimit : limit ≤ PER_COLLECTION) (agents : List Agent) (memories : List Memory)
    (prompts : List SystemPrompt) (agentPage : Option (List Agent)) (memoryPage : Option (List Memory))
    (promptPage : Option (List SystemPrompt))
    (hagents : Listed localeCompare agentEvent agents agentPage)
    (hmemories : Listed localeCompare memoryEvent memories memoryPage)
    (hprompts : Listed localeCompare promptEvent prompts promptPage) :
    Top (Newer localeCompare) limit
      (changes agentEvent agents agentPage ++ changes memoryEvent memories memoryPage ++
        changes promptEvent prompts promptPage)
      (recent localeCompare limit agentPage memoryPage promptPage) := by
  have : Std.Total (Newer localeCompare) := ⟨fun a b => htotal b.time a.time⟩
  have : IsTrans ActivityEvent (Newer localeCompare) :=
    ⟨fun a b c hab hbc => htrans c.time b.time a.time hbc hab⟩
  obtain ⟨oldAgents, hagents, hleads⟩ := listed_changes localeCompare _ _ _ hagents
  obtain ⟨oldMemories, hmemories, hleads'⟩ := listed_changes localeCompare _ _ _ hmemories
  obtain ⟨oldPrompts, hprompts, hleads''⟩ := listed_changes localeCompare _ _ _ hprompts
  obtain ⟨rest, hperm, hfeed⟩ := top_merged (Newer localeCompare) limit PER_COLLECTION hlimit
    [((agentPage.getD []).map agentEvent, oldAgents), ((memoryPage.getD []).map memoryEvent, oldMemories),
      ((promptPage.getD []).map promptEvent, oldPrompts)] (by
    simp only [List.mem_cons, List.not_mem_nil, or_false]
    rintro part (rfl | rfl | rfl)
    · exact hleads
    · exact hleads'
    · exact hleads'')
  have hrecent : recent localeCompare limit agentPage memoryPage promptPage =
      (([((agentPage.getD []).map agentEvent, oldAgents),
        ((memoryPage.getD []).map memoryEvent, oldMemories),
        ((promptPage.getD []).map promptEvent, oldPrompts)].flatMap Prod.fst).insertionSort
          (Newer localeCompare)).take limit := by
    simp [recent]
  rw [hrecent]
  refine ⟨rest, hperm.trans ?_, hfeed⟩
  simpa using (hagents.append hmemories).append hprompts

def unitCompare (a b : JsString) : ℤ :=
  let value (s : JsString) : ℕ := s.foldl (fun n c => n * 0x10000 + c.toNat) 0
  value a - value b

def sampleAgents : List Agent :=
  (List.range 17).map fun n =>
    ⟨decimal n, js "A", none, js "2026-01-01", js "2026-01-" ++ decimal (28 - n)⟩

def sampleMemories : List Memory := [⟨js "m1", js "M", [], js "2026-01-27", js "2026-01-27"⟩]

theorem recent_latest_two :
    Top (Newer unitCompare) 2
      (changes agentEvent sampleAgents (some (sampleAgents.take 15)) ++
        changes memoryEvent sampleMemories (some sampleMemories) ++ changes promptEvent [] none)
      (recent unitCompare 2 (some (sampleAgents.take 15)) (some sampleMemories) none) := by
  apply recent_latest unitCompare
  · intro a b
    simp only [unitCompare]
    omega
  · intro a b c
    simp only [unitCompare]
    omega
  · decide
  · rintro answer ⟨⟩
    exact ⟨sampleAgents.drop 15, by rw [List.take_append_drop], by decide +kernel,
      by decide +kernel, .inr rfl⟩
  · rintro answer ⟨⟩
    exact ⟨[], .refl _, by decide, by decide, .inl rfl⟩
  · rintro answer ⟨⟩

end Feed

end Glassbeetle.ActivityFeed
