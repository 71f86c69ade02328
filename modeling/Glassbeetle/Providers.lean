import Glassbeetle.ExecutionChain

set_option autoImplicit false

/-!
# Providers

`providers.service.ts`. A request's body reaches `update` as an instance of
`UpdateProviderDto`, of which every declared field is a property.
-/
namespace Glassbeetle.Providers
open JsText Database ContextConstruction ExecutionChain

variable {ν : Type}

def providerKinds : List JsString :=
  [js "anthropic", js "openai", js "google", js "ollama", js "lmstudio", js "openai_compatible"]

/-- Kinds without an endpoint of their own. -/
def localOrCustomKinds : List JsString := [js "ollama", js "lmstudio", js "openai_compatible"]

def alwaysLocalKinds : List JsString := [js "ollama", js "lmstudio"]

inductive Property (α : Type) where
  | missing
  | undefined
  | null
  | value (v : α)
  deriving DecidableEq

section Properties

variable {α : Type}

/-- `name in object` -/
def Property.isIn : Property α → Bool
  | .missing => false
  | _ => true

/-- `property ?? null` -/
def Property.toOption : Property α → Option α
  | .value v => some v
  | _ => none

/-- `property ?? other` -/
def Property.orElse (property : Property α) (other : α) : α := property.toOption.getD other

end Properties

structure CreateProviderDto where
  name : JsString
  kind : JsString
  baseUrl : Property JsString
  isLocal : Property Bool
  enabled : Property Bool

structure UpdateProviderDto where
  name : Property JsString
  kind : Property JsString
  baseUrl : Property JsString
  isLocal : Property Bool
  enabled : Property Bool

/-- A JSON body: each field is left out, `null` or a value. -/
structure UpdateProviderBody where
  name : Option (Option JsString)
  kind : Option (Option JsString)
  baseUrl : Option (Option JsString)
  isLocal : Option (Option Bool)
  enabled : Option (Option Bool)

def field {α : Type} : Option (Option α) → Property α
  | none => .undefined
  | some none => .null
  | some (some v) => .value v

def instantiate (body : UpdateProviderBody) : UpdateProviderDto where
  name := field body.name
  kind := field body.kind
  baseUrl := field body.baseUrl
  isLocal := field body.isLocal
  enabled := field body.enabled

def findOneOrFail (db : Tables ν) (id : JsString) : Except Failure ProviderRow :=
  match db.provider id with
  | some row => .ok row
  | none => .error (.http 404 (js "NOT_FOUND") (js "Provider '" ++ id ++ js "' not found"))

def missingBaseUrl (kind : JsString) : Failure :=
  .http 400 (js "BAD_REQUEST") (js "baseUrl is required when kind is '" ++ kind ++ js "'")

/-- A base URL that is there and not empty, where the kind needs one. -/
def assertBaseUrl (kind : JsString) (baseUrl : Option JsString) : Except Failure Unit :=
  if kind ∈ localOrCustomKinds ∧ (truthy baseUrl).isNone then .error (missingBaseUrl kind) else .ok ()

def deriveIsLocal (kind : JsString) (clientValue : Option Bool) : Bool :=
  if kind ∈ alwaysLocalKinds then true else clientValue.getD false

def uniqueFailed : Failure :=
  .thrown (js "SqliteError") (js "UNIQUE constraint failed: providers.id")

def create (db : Tables ν) (id : JsString) (dto : CreateProviderDto) (now : JsString) :
    Except Failure (Tables ν) := do
  assertBaseUrl dto.kind dto.baseUrl.toOption
  if (db.provider id).isSome then throw uniqueFailed
  else
    let row : ProviderRow := {
      id := id
      name := dto.name
      kind := dto.kind
      baseUrl := dto.baseUrl.toOption
      isLocal := deriveIsLocal dto.kind dto.isLocal.toOption
      enabled := dto.enabled.orElse true
      createdAt := now
      updatedAt := now }
    return { db with providers := db.providers ++ [row] }

def updatedBaseUrl (existing : ProviderRow) (dto : UpdateProviderDto) : Option JsString :=
  if dto.baseUrl.isIn then dto.baseUrl.toOption else existing.baseUrl

def updatedRow (existing : ProviderRow) (dto : UpdateProviderDto) (now : JsString) :
    ProviderRow :=
  let newKind := dto.kind.orElse existing.kind
  { existing with
    name := dto.name.orElse existing.name
    kind := newKind
    isLocal := deriveIsLocal newKind (some (dto.isLocal.orElse existing.isLocal))
    baseUrl := updatedBaseUrl existing dto
    enabled := dto.enabled.orElse existing.enabled
    updatedAt := now }

def writeProvider (new row : ProviderRow) : ProviderRow :=
  if row.id = new.id then
    { row with
      name := new.name
      kind := new.kind
      isLocal := new.isLocal
      baseUrl := new.baseUrl
      enabled := new.enabled
      updatedAt := new.updatedAt }
  else row

def update (db : Tables ν) (id : JsString) (dto : UpdateProviderDto) (now : JsString) :
    Except Failure (Tables ν) := do
  let existing ← findOneOrFail db id
  assertBaseUrl (dto.kind.orElse existing.kind) (updatedBaseUrl existing dto)
  return { db with providers := db.providers.map (writeProvider (updatedRow existing dto now)) }

end Glassbeetle.Providers
