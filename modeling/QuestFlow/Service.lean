import QuestFlow.Files.Checking

/-!
# The validation service

The service answers requests about one repository: it validates a document that is sent to it or
the whole repository, hands out quests, and lists the catalog.  An answer is a value, or a status
with a detail: 400 for an ID that no quest can have, 404 for one that no quest has, 422 for a
document that is no quest, and 500 for a source that cannot be used.  Where the work breaks down
there is no answer.
-/

namespace QuestFlow

/-- What the service can be asked. -/
inductive Request where
  | health
  | validateDocument (document : Value)
  | validateRepository
  | listQuests
  | quest (id : String)
  | listEntities (kind : EntityKind)
  deriving DecidableEq, Repr

/-- The method and the address of a request; the ID of a quest stands in the last part of the
address. -/
def Request.route : Request → String
  | .health => "GET /healthz"
  | .validateDocument _ => "POST /api/validate"
  | .validateRepository => "POST /api/validate/repository"
  | .listQuests => "GET /api/quests"
  | .quest _ => "GET /api/quests/\x7bquest_id\x7d"
  | .listEntities kind => "GET /api/" ++ kind.collection

/-- What the service answers. -/
inductive Response where
  | body (v : Value)
  | refusal (status : Nat) (detail : String)
  /-- the work broke down, and there is no answer -/
  | breakdown (b : Breakdown)
  deriving DecidableEq, Repr

namespace Service

/-- The response to a request for which the work comes to no result. -/
def unusable : Failure → Response
  | .source e => .refusal 500 e.message
  | .breakdown b => .breakdown b

/-- The catalog; if it cannot be loaded, the service says so in its log. -/
def catalog (t : FileTree) (settings : Settings) : Logged (Except Failure Catalog) :=
  let loaded := t.loadCatalog settings.dataDir
  match loaded.value with
  | .ok _ | .error (.breakdown _) => loaded
  | .error (.source e) => loaded.also
      [Source.service.event .error "catalog_unavailable"
        [("data_dir", .text settings.dataDir.text), ("error", .text e.message)]]

/-- The answer to a value, or to work that comes to no result. -/
def answer {α : Type} (write : α → Response) : Except Failure α → Response
  | .ok a => write a
  | .error e => unusable e

/-- Validates a document against the rules about one quest. -/
def validateDocument (t : FileTree) (settings : Settings) (document : Value) : Logged Response :=
  match Quest.ofDocument document none with
  | .error e => .quiet (.refusal 422 e.reason)
  | .ok q => (catalog t settings).andThen fun
    | .error e => .quiet (unusable e)
    | .ok c => (q.check (settings.ruleContext c)).andThen fun
      | .error e => .quiet (.breakdown (.number e))
      | .ok issues => .quiet (.body (validationValue issues))

/-- The document of the quest with this ID. -/
def quest (t : FileTree) (settings : Settings) (id : String) : Response :=
  match QuestId.objection? id with
  | some objection => .refusal 400 objection.message
  | none => match t.findQuest settings.questsDir id with
    | .error e => unusable e
    | .ok none => .refusal 404 ("quest not found: " ++ id)
    | .ok (some q) => .body (.ofFields [("quest", q.toDocument)])

/-- Answers a request. -/
def respond (t : FileTree) (settings : Settings) : Request → Logged Response
  | .health => .quiet (.body (.ofFields [("ok", .bool true)]))
  | .validateDocument document => validateDocument t settings document
  | .validateRepository =>
    let checked := t.check settings
    ⟨answer (fun r => .body r.toValue) checked.value, checked.events⟩
  | .listQuests =>
    let ids := t.questIds settings.questsDir
    ⟨answer (fun ids => .body (.ofTexts ids)) ids.value, ids.events⟩
  | .quest id => .quiet (quest t settings id)
  | .listEntities kind =>
    let loaded := catalog t settings
    ⟨answer (fun c => .body (.ofTexts (c.listing kind))) loaded.value, loaded.events⟩

end Service
end QuestFlow
