import Glassbeetle.SingleAgentChat
import Glassbeetle.WirePayloads

set_option autoImplicit false

namespace Glassbeetle.OverridePrecedence
open JsText AdapterTypes Database ContextConstruction ExecutionChain ObjectFields TurnTranslation
open WirePayloads
open JsValue (Json JsNumber Runtime Value)

variable {ν : Type} (ofInt : ℤ → ν)

structure Setting (ν : Type) where
  path : List String
  due : Value ν
  rival : Option String

/-- `payload.a.b` -/
def readAt (payload : Fields ν) (path : List String) : Value ν :=
  path.foldl JsValue.optional (some (.object payload))

def payload [JsNumber ν] (kind : AdapterKind) (config : AdapterConfig) (request : CompletionRequest ν)
    (stream : Bool) : Fields ν :=
  match kind with
  | .anthropic => Anthropic.buildMessagesPayload ofInt config request stream
  | .openAi => OpenAi.buildChatPayload ofInt config request stream
  | .google => Google.buildGenerateContentPayload ofInt request
  | .ollama => Ollama.buildChatPayload ofInt config request stream

def parameters (kind : AdapterKind) (modelParams : Option (Json ν)) : Fields ν :=
  match kind with
  | .anthropic | .openAi => ownProperties modelParams
  | .google | .ollama => assignable modelParams

/-- What is due of a request, by adapter. Gemini's model and way of answering are in the address. -/
def settings (kind : AdapterKind) (config : AdapterConfig) (request : CompletionRequest ν)
    (stream : Bool) : List (Setting ν) :=
  let temperature : Value ν := request.temperature.map .number
  let maxTokens : Value ν := request.maxTokens.map fun n => .number (ofInt n)
  let model (fallback : JsString) : Value ν := some (.string (targetModel request fallback))
  match kind with
  | .anthropic =>
    let translation := TurnTranslation.Anthropic.translateMessages request.systemPrompt request.messages
    let system := truthy translation.1
    [⟨["model"], model (Anthropic.defaultModel config), some "model"⟩,
      ⟨["messages"], some (.array (translation.2.map Anthropic.wireMessage)), some "messages"⟩,
      ⟨["system"], system.map .string, if system.isSome then none else some "system"⟩,
      ⟨["stream"], some (.bool stream), some "stream"⟩,
      ⟨["temperature"], temperature, some "temperature"⟩,
      ⟨["max_tokens"], maxTokens.or (some (.number (ofInt Anthropic.defaultMaxTokens))),
        some "max_tokens"⟩]
  | .openAi =>
    [⟨["model"], model (OpenAi.defaultModel config), some "model"⟩,
      ⟨["messages"], some (.array (OpenAi.wireMessages request)), some "messages"⟩,
      ⟨["stream"], some (.bool stream), some "stream"⟩,
      ⟨["temperature"], temperature, some "temperature"⟩,
      ⟨["max_tokens"], maxTokens, some "max_tokens"⟩]
  | .google =>
    let translation := TurnTranslation.Gemini.translateMessages request.systemPrompt request.messages
    [⟨["contents"], some (.array (translation.2.map Google.content)), none⟩,
      ⟨["systemInstruction"], translation.1.map fun parts =>
        .object [field "parts" (.array (parts.map Google.part))], none⟩,
      ⟨["generationConfig", "temperature"], temperature, some "temperature"⟩,
      ⟨["generationConfig", "maxOutputTokens"], maxTokens, some "maxOutputTokens"⟩]
  | .ollama =>
    [⟨["model"], model (Ollama.defaultModel config), none⟩,
      ⟨["messages"], some (.array (Ollama.wireMessages request)), none⟩,
      ⟨["stream"], some (.bool stream), none⟩,
      ⟨["options", "temperature"], temperature, some "temperature"⟩,
      ⟨["options", "num_predict"], maxTokens, some "num_predict"⟩]

def Overlaid (params : Fields ν) (sent : Fields ν) (s : Setting ν) : Prop :=
  readAt sent s.path = (s.rival.bind fun key => params.lookup (js key)).or s.due

theorem readAt_key (fields : Fields ν) (key : String) :
    readAt fields [key] = fields.lookup (js key) := rfl

theorem lookup_fieldOf (key : String) (value : Value ν) (other : JsString) :
    (fieldOf key value).lookup other = if other == js key then value else none := by
  cases value with
  | none => simp [fieldOf]
  | some value =>
    change ([(js key, value)] : Fields ν).lookup other = _
    rw [List.lookup_cons]
    cases other == js key <;> rfl

theorem openAi_lookup [JsNumber ν] (config : AdapterConfig) (request : CompletionRequest ν) (stream : Bool)
    (key : JsString) (hkey : (key == js "stream_options") = false) :
    (OpenAi.buildChatPayload ofInt config request stream).lookup key =
      ((ownProperties request.modelParams).lookup key).or
        (([field "model" (.string (targetModel request (OpenAi.defaultModel config))),
          field "messages" (.array (OpenAi.wireMessages request)),
          field "stream" (.bool stream)] ++
          fieldOf "temperature" (request.temperature.map .number) ++
          fieldOf "max_tokens" (request.maxTokens.map fun n => .number (ofInt n))).lookup key) := by
  unfold OpenAi.buildChatPayload
  dsimp only
  split_ifs
  · rw [lookup_put, hkey, lookup_assign]
    rfl
  · rw [lookup_assign]

theorem openAi_overlaid [JsNumber ν] (config : AdapterConfig) (request : CompletionRequest ν) (stream : Bool) :
    ∀ s ∈ settings ofInt .openAi config request stream,
      Overlaid (ownProperties request.modelParams)
        (OpenAi.buildChatPayload ofInt config request stream) s := by
  simp only [settings, List.forall_mem_cons, Overlaid, readAt_key, Option.bind_some]
  refine ⟨?_, ?_, ?_, ?_, ?_, fun _ h => absurd h List.not_mem_nil⟩ <;>
    rw [openAi_lookup _ _ _ _ _ (by decide)]
  all_goals
    cases request.temperature <;> cases request.maxTokens <;> rfl

theorem anthropic_overlaid (config : AdapterConfig) (request : CompletionRequest ν) (stream : Bool) :
    ∀ s ∈ settings ofInt .anthropic config request stream,
      Overlaid (ownProperties request.modelParams)
        (Anthropic.buildMessagesPayload ofInt config request stream) s := by
  unfold Anthropic.buildMessagesPayload
  dsimp only [settings]
  obtain ⟨systemPrompt, wireMessages⟩ :=
    TurnTranslation.Anthropic.translateMessages request.systemPrompt request.messages
  dsimp only
  cases htext : truthy systemPrompt with
  | none =>
    simp only [List.forall_mem_cons, Overlaid, readAt_key, Option.isSome_none, Bool.false_eq_true,
      if_false, Option.bind_some, lookup_assign]
    refine ⟨?_, ?_, ?_, ?_, ?_, ?_, fun _ h => absurd h List.not_mem_nil⟩
    all_goals cases request.temperature <;> cases request.maxTokens <;> rfl
  | some text =>
    simp only [List.forall_mem_cons, Overlaid, readAt_key, Option.isSome_some, if_true,
      Option.bind_some, Option.bind_none, lookup_put, lookup_assign]
    refine ⟨?_, ?_, ?_, ?_, ?_, ?_, fun _ h => absurd h List.not_mem_nil⟩
    all_goals cases request.temperature <;> cases request.maxTokens <;> rfl

/-- A settings object that is left out when empty reads as if it were there. -/
theorem readAt_nested (before : Fields ν) (name key : String) (config : Fields ν)
    (hbefore : before.lookup (js name) = none) :
    readAt (before ++ fieldOf name (if config.length > 0 then some (.object config) else none))
      [name, key] = config.lookup (js key) := by
  change JsValue.optional ((before ++ fieldOf name _).lookup (js name)) key = _
  rw [List.lookup_append, hbefore, lookup_fieldOf, if_pos (beq_self_eq_true _)]
  cases config <;> rfl

theorem lookup_assignable (params : Option (Json ν)) (key : JsString) (p : JsString → Bool)
    (h : p key = true) :
    ((assignable params).filter fun field => p field.1).lookup key = (assignable params).lookup key := by
  rw [lookup_filter_key (assignable params) p, if_pos h]

theorem google_overlaid (config : AdapterConfig) (request : CompletionRequest ν) (stream : Bool) :
    ∀ s ∈ settings ofInt .google config request stream,
      Overlaid (assignable request.modelParams)
        (Google.buildGenerateContentPayload ofInt request) s := by
  have hconfig : ∀ key : JsString, decide (key ≠ js "safetySettings") = true →
      (Google.generationConfig ofInt request).lookup key =
        ((assignable request.modelParams).lookup key).or
          ((fieldOf "temperature" (request.temperature.map .number) ++
            fieldOf "maxOutputTokens" (request.maxTokens.map fun n => .number (ofInt n))).lookup key) := by
    intro key hkey
    unfold Google.generationConfig
    rw [lookup_assign, lookup_assignable request.modelParams key (fun key => decide (key ≠ js "safetySettings")) hkey]
  unfold Google.buildGenerateContentPayload
  dsimp only [settings]
  obtain ⟨systemInstruction, contents⟩ :=
    TurnTranslation.Gemini.translateMessages request.systemPrompt request.messages
  dsimp only
  simp only [List.forall_mem_cons, Overlaid]
  refine ⟨rfl, ?_, ?_, ?_, fun _ h => absurd h List.not_mem_nil⟩
  · change ((_ ++ _ ++ _ ++ _ : Fields ν)).lookup (js "systemInstruction") = _
    simp only [List.lookup_append, lookup_fieldOf]
    cases systemInstruction <;> rfl
  all_goals
    rw [readAt_nested _ _ _ _ (by
      simp only [List.lookup_append, lookup_fieldOf]
      cases systemInstruction <;> rfl), hconfig _ (by decide)]
    cases request.temperature <;> cases request.maxTokens <;> rfl

theorem ollama_overlaid (config : AdapterConfig) (request : CompletionRequest ν) (stream : Bool) :
    ∀ s ∈ settings ofInt .ollama config request stream,
      Overlaid (assignable request.modelParams)
        (Ollama.buildChatPayload ofInt config request stream) s := by
  unfold Ollama.buildChatPayload
  simp only [settings, List.forall_mem_cons, Overlaid]
  refine ⟨rfl, rfl, rfl, ?_, ?_, fun _ h => absurd h List.not_mem_nil⟩
  all_goals
    rw [readAt_nested _ _ _ _ rfl]
    unfold Ollama.options
    rw [lookup_assign]
    cases request.temperature <;> cases request.maxTokens <;> rfl

theorem overlaid [JsNumber ν] (kind : AdapterKind) (config : AdapterConfig) (request : CompletionRequest ν)
    (stream : Bool) : ∀ s ∈ settings ofInt kind config request stream,
      Overlaid (parameters kind request.modelParams) (payload ofInt kind config request stream) s := by
  cases kind with
  | anthropic => exact anthropic_overlaid ofInt config request stream
  | openAi => exact openAi_overlaid ofInt config request stream
  | google => exact google_overlaid ofInt config request stream
  | ollama => exact ollama_overlaid ofInt config request stream

def Unopposed (params : Fields ν) (s : Setting ν) : Prop :=
  ∀ key ∈ s.rival, params.lookup (js key) = none ∨ params.lookup (js key) = s.due

theorem overlaid_due (params sent : Fields ν) (s : Setting ν) (h : Overlaid params sent s) :
    readAt sent s.path = s.due ↔ Unopposed params s := by
  unfold Unopposed
  rw [h]
  cases s.rival with
  | none => simp
  | some key =>
    simp only [Option.bind_some, Option.mem_def, Option.some.injEq, forall_eq']
    cases params.lookup (js key) <;> simp

section Runs

open AsyncGenerator Inference SingleAgentChat

/-- The requests that a run adds are as `p` says. -/
def Requests (before : List (JsString × CompletionRequest ν))
    (p : JsString × CompletionRequest ν → Prop) (w : World ν) : Prop :=
  ∀ sent ∈ w.requests, sent ∈ before ∨ p sent

variable (env : Environment ν) (chat : ChatRow) {before : List (JsString × CompletionRequest ν)}
  {p : JsString × CompletionRequest ν → Prop}

theorem requests_newId : Triple (Requests before p) (newId env) (fun _ _ => True)
    (fun _ => Requests before p) fun _ => Requests before p :=
  triple_bind_read _ fun _ hw => triple_bind_modify _ _ (Requests before p)
    (fun _ hs => hs ▸ hw) (triple_pure _ fun _ h => h)

theorem requests_persist (agent : AgentRow ν) (execution : Execution ν)
    (response : CompletionResponse) :
    Triple (Requests before p) (persistAssistantReply env chat agent execution response)
      (fun _ _ => True) (fun _ => Requests before p) fun _ => Requests before p := by
  refine triple_bind _ _ (requests_newId env) fun _ => triple_bind _ _ (requests_newId env) fun _ =>
    triple_bind_read _ fun w hw => ?_
  dsimp only
  split_ifs
  · exact triple_fail _ fun _ h => h ▸ hw
  · split
    · exact triple_fail _ fun _ h => h ▸ hw
    · exact triple_bind_modify _ _ (Requests before p) (fun _ h => h ▸ hw) (triple_pure _ fun _ h => h)

theorem requests_call (agentId : JsString) (execution : Execution ν) (request : CompletionRequest ν)
    (hp : p (agentId, request)) :
    Triple (Requests before p) (callComplete env agentId execution request)
      (fun _ _ => True) (fun _ => Requests before p) fun _ => Requests before p := by
  refine triple_bind_read _ fun w hw => triple_bind_modify _ _ (Requests before p)
    (fun s hs sent hsent => ?_) (triple_bind_modify _ _ (Requests before p) (fun _ h => h)
      (triple_lift _ (fun _ _ _ h => h) fun _ _ _ h => h))
  obtain rfl := hs
  rcases List.mem_append.mp hsent with hsent | hsent
  · exact hw sent hsent
  · exact .inr (List.mem_singleton.mp hsent ▸ hp)

/-- The request of `completeChat` is made from the agent and the model that the chat resolves to. -/
theorem completeAgentChat_requests (dto : CreateCompletionDto ν) (w : World ν) :
    ∀ sent ∈ (completeAgentChat env chat dto w).final.requests, sent ∈ w.requests ∨
      ∃ agent execution prompt,
        resolveExecutionChain w.db chat dto.modelId = .ok (agent, execution) ∧
        sent = (agent.id, completionRequest env.toRuntime dto agent execution.model prompt) := by
  have hrun : Triple (· = w) (completeAgentChat env chat dto) (fun _ _ => True)
      (fun _ => Requests w.requests fun sent => ∃ agent execution prompt,
        resolveExecutionChain w.db chat dto.modelId = .ok (agent, execution) ∧
        sent = (agent.id, completionRequest env.toRuntime dto agent execution.model prompt))
      fun _ => Requests w.requests fun sent => ∃ agent execution prompt,
        resolveExecutionChain w.db chat dto.modelId = .ok (agent, execution) ∧
        sent = (agent.id, completionRequest env.toRuntime dto agent execution.model prompt) := by
    have hquiet : ∀ (q : JsString × CompletionRequest ν → Prop) (s : World ν), s = w →
        Requests w.requests q s := fun q s hs sent hsent => .inl (hs ▸ hsent)
    refine triple_bind_read _ fun s hs => ?_
    obtain rfl := hs
    refine triple_bind_lift _ _ (fun found hfound => ?_) fun _ _ => hquiet _
    obtain ⟨agent, execution⟩ := found
    refine triple_bind_lift _ _ (fun prompt _ => ?_) fun _ _ => hquiet _
    refine triple_bind_lift _ _ (fun _ _ => ?_) fun _ _ => hquiet _
    refine triple_bind _ _ (triple_conseq _ (requests_call env agent.id execution _
      ⟨agent, execution, prompt, hfound, rfl⟩) (hquiet _) (fun _ _ h => h) fun _ _ h => h)
      fun response => requests_persist env chat agent execution response
  obtain ⟨-, hend⟩ := hrun w rfl
  cases hresult : (completeAgentChat env chat dto w).result with
  | ok reply =>
    rw [hresult] at hend
    exact hend
  | error failure =>
    rw [hresult] at hend
    exact hend

/-- What is due is sent, exactly when no parameter of the agent says otherwise in its place. -/
theorem overrides_win [JsNumber ν] (dto : CreateCompletionDto ν) (w : World ν) :
    (∀ sent ∈ (completeAgentChat env chat dto w).final.requests, sent ∈ w.requests ∨
      ∃ agent execution prompt,
        resolveExecutionChain w.db chat dto.modelId = .ok (agent, execution) ∧
        sent = (agent.id, completionRequest env.toRuntime dto agent execution.model prompt)) ∧
    ∀ (agent : AgentRow ν) (model : ModelRow ν) (prompt : Prompt) (request : CompletionRequest ν),
      request = completionRequest env.toRuntime dto agent model prompt →
        request.model = model.modelIdentifier ∧ request.systemPrompt = prompt.1 ∧
        request.messages = prompt.2 ∧
        request.temperature = (dto.temperature.or agent.temperature).or model.defaultTemperature ∧
        request.maxTokens = (dto.maxTokens.or agent.maxTokens).or model.defaultMaxTokens ∧
        ∀ (kind : AdapterKind) (config : AdapterConfig) (stream : Bool),
          (∀ s ∈ settings ofInt kind config request stream,
              readAt (payload ofInt kind config request stream) s.path = s.due) ↔
            ∀ s ∈ settings ofInt kind config request stream,
              Unopposed (parameters kind request.modelParams) s := by
  refine ⟨completeAgentChat_requests env chat dto w, fun agent model prompt request hrequest => ?_⟩
  subst hrequest
  refine ⟨rfl, rfl, rfl, rfl, rfl, fun kind config stream => ?_⟩
  exact forall₂_congr fun s hs => overlaid_due _ _ s (overlaid ofInt kind config _ stream s hs)

end Runs

def heated : AgentRow ℤ :=
  ⟨js "a", js "Ann", none, none, none, some (js "m"), none, none, some (js "\x7b\"temperature\":2\x7d")⟩

def heatedRuntime : Runtime ℤ where
  parseJson _ := some (.object [(js "temperature", .number 2)])
  toLowerCase s := s.map foldCase
  describe _ := []

def coldRequest : CompletionRequest ℤ :=
  completionRequest heatedRuntime ⟨none, some 0, none, none, none⟩ heated
    ⟨js "m", js "p", js "gpt-4o", js "GPT", none, none, none, true⟩ (none, [])

def hosted : AdapterConfig := ⟨js "p", js "openai", none, none, js "gpt-4o"⟩

theorem parameter_wins :
    coldRequest.temperature = some 0 ∧
      readAt (payload id .openAi hosted coldRequest false) ["temperature"] = some (.number 2) ∧
      ¬ ∀ s ∈ settings id .openAi hosted coldRequest false,
        readAt (payload id .openAi hosted coldRequest false) s.path = s.due := by
  have hsent : readAt (payload id .openAi hosted coldRequest false) ["temperature"] =
      some (.number 2) := rfl
  refine ⟨rfl, hsent, fun h => ?_⟩
  have hdue := h ⟨["temperature"], some (.number 0), some "temperature"⟩ (by
    simp [settings, coldRequest, completionRequest, effectiveTemperature])
  rw [hsent] at hdue
  exact absurd (Json.number.inj (Option.some.inj hdue)) (by decide)

end Glassbeetle.OverridePrecedence
