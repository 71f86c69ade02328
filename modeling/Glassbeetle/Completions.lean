import Glassbeetle.SingleAgentChat
import Glassbeetle.TeamChat

set_option autoImplicit false

namespace Glassbeetle.Completions
open JsText AdapterTypes Database ExecutionChain AsyncGenerator Inference

variable {ν : Type} (env : Environment ν)

def chatNotFound (chatId : JsString) : Failure :=
  .http 404 (js "CHAT_NOT_FOUND") (js "Chat with ID \"" ++ chatId ++ js "\" not found")

def completeChat (chatId : JsString) (dto : CreateCompletionDto ν) :
    Run ν (List CompletionResponseDto) := do
  let w ← Gen.read
  match w.db.chat chatId with
  | none => Gen.fail (chatNotFound chatId)
  | some chat =>
    match chat.teamId with
    | some teamId => TeamChat.completeTeamChat env chat dto teamId
    | none => do return [← SingleAgentChat.completeAgentChat env chat dto]

def streamChat (chatId : JsString) (dto : CreateCompletionDto ν) : Run ν Unit := do
  let w ← Gen.read
  match w.db.chat chatId with
  | none => Gen.fail (chatNotFound chatId)
  | some chat =>
    match chat.teamId with
    | some teamId => TeamChat.streamTeamChat env chat dto teamId
    | none => SingleAgentChat.streamAgentChat env chat dto

section Owners

variable (chat : ChatRow) (dto : CreateCompletionDto ν) (chatId : JsString) (w : World ν)
  (hchat : w.db.chat chatId = some chat)

include hchat

theorem completeChat_team (teamId : JsString) (hteam : chat.teamId = some teamId) :
    completeChat env chatId dto w = TeamChat.completeTeamChat env chat dto teamId w := by
  unfold completeChat
  rw [Gen.read_bind, hchat]
  dsimp only
  rw [hteam]

theorem streamChat_team (teamId : JsString) (hteam : chat.teamId = some teamId) :
    streamChat env chatId dto w = TeamChat.streamTeamChat env chat dto teamId w := by
  unfold streamChat
  rw [Gen.read_bind, hchat]
  dsimp only
  rw [hteam]

theorem completeChat_agent (hagent : chat.teamId = none) :
    completeChat env chatId dto w =
      (do return [← SingleAgentChat.completeAgentChat env chat dto] :
        Run ν (List CompletionResponseDto)) w := by
  unfold completeChat
  rw [Gen.read_bind, hchat]
  dsimp only
  rw [hagent]

theorem streamChat_agent (hagent : chat.teamId = none) :
    streamChat env chatId dto w = SingleAgentChat.streamAgentChat env chat dto w := by
  unfold streamChat
  rw [Gen.read_bind, hchat]
  dsimp only
  rw [hagent]

end Owners

section Sample

def sampleRuntime : JsValue.Runtime ℤ := ⟨fun _ => none, fun s => s.map foldCase, fun _ => []⟩

def sampleAgent (name : String) : AgentRow ℤ :=
  ⟨js name, js name, none, none, none, some (js "m"), none, none, none⟩

/-- Ann's chat `c` and the chat `d` of a team of Ann and Bob, each with a question. -/
def sampleTables (strategy : TeamStrategy) : Tables ℤ where
  agents := [sampleAgent "Ann", sampleAgent "Bob"]
  models := [⟨js "m", js "p", js "llama", js "Llama", none, none, none, true⟩]
  providers := [⟨js "p", js "P", js "ollama", none, true, true, [], []⟩]
  credentials := []
  systemPrompts := []
  teams := [⟨js "t", js "T", some strategy, none, []⟩]
  teamMembers := [⟨js "t", js "Ann", none, some 0, false, []⟩, ⟨js "t", js "Bob", none, some 1, false, []⟩]
  chats := [⟨js "c", some (js "Ann"), none, none, none, []⟩, ⟨js "d", none, some (js "t"), none, none, []⟩]
  messages := [⟨js "x", js "c", 1, js "user", none, js "hi", .complete, none, []⟩,
    ⟨js "y", js "d", 1, js "user", none, js "hi", .complete, none, []⟩]
  usageEvents := []

def sampleExecution : Execution ℤ :=
  ⟨⟨js "m", js "p", js "llama", js "Llama", none, none, none, true⟩,
    ⟨js "p", js "P", js "ollama", none, true, true, [], []⟩, none⟩

def plainDto : CreateCompletionDto ℤ := ⟨none, none, none, none, none⟩

def sampleEnvironment (reply : CompletionRequest ℤ → JsString) (usage : Option (TokenUsage ℤ)) :
    Environment ℤ :=
  .alone sampleRuntime (fun _ request => .ok ⟨reply request, usage⟩)
    fun _ request => ⟨[.textDelta (reply request), .complete .stop usage none], none⟩

theorem sampleTables_chat (strategy : TeamStrategy) : (sampleTables strategy).chat (js "d") =
    some ⟨js "d", none, some (js "t"), none, none, []⟩ := rfl

theorem sampleTables_strategy (strategy : TeamStrategy) :
    TeamChat.effectiveStrategy plainDto ((sampleTables strategy).team (js "t")) = strategy := rfl

theorem sampleTables_fresh (strategy : TeamStrategy) (reply : CompletionRequest ℤ → JsString)
    (usage : Option (TokenUsage ℤ)) :
    ∀ row ∈ (sampleTables strategy).messages, ∀ n,
      row.id ≠ (sampleEnvironment reply usage).newId n := by
  intro row hrow n hid
  have hall : ∀ row ∈ (sampleTables strategy).messages, ∃ c ∈ row.id, c ≠ 0x61 := by
    intro row hrow
    change row ∈ (sampleTables .sequential).messages at hrow
    revert row
    decide
  obtain ⟨c, hc, hne⟩ := hall row hrow
  rw [hid] at hc
  exact hne (List.eq_of_mem_replicate hc)

end Sample

end Glassbeetle.Completions
