import RuleEngine.Json.Decode
import RuleEngine.RuleSet.Basic

/-!
# Reading rule sets from JSON text

Every record refuses unknown and repeated fields, names the first missing required field, and may
be written as an array of its fields in order. An action's fields other than `kind` are checked
once the kind is known, so their errors are placed after the array of actions.
-/

set_option autoImplicit false

namespace RuleEngine

/-- The kinds of work an action names under `kind`. -/
inductive ActionKind where
  | evaluate
  | execute
  | callback
deriving DecidableEq, Repr

namespace ActionKind

def names : List String := ["evaluate", "execute", "callback"]

def ofName? : String → Option ActionKind
  | "evaluate" => some .evaluate
  | "execute" => some .execute
  | "callback" => some .callback
  | _ => none

/-- The fields of an action of a kind, in order. -/
def fields : ActionKind → List String
  | .evaluate => ["target", "expression", "result", "priority"]
  | .execute => ["target", "result", "priority"]
  | .callback => ["name", "result", "priority"]

/-- How an action of a kind is called in errors. -/
def title : ActionKind → String
  | .evaluate => "struct variant ActionDef::Evaluate"
  | .execute => "struct variant ActionDef::Execute"
  | .callback => "struct variant ActionDef::Callback"

end ActionKind

/-- What an action holds besides its kind, as read: named fields, or items in field order. -/
inductive ActionContent where
  | fields (members : List (String × Json))
  | items (values : List Json)

/-- The fields of an action read so far. -/
structure ActionFields where
  target : Option String := none
  expression : Option String := none
  name : Option String := none
  result : Option Bool := none
  priority : Option Priority := none

namespace ActionFields

/-- A field's value unless the field was set before. -/
def once {α : Type} (field : String) (slot : Option α) (v : Except JsonProblem α) :
    Except JsonProblem (Option α) :=
  if slot.isSome then .error (.duplicateField field) else some <$> v

/-- A priority out of an integer, with the engine's error text outside 1 to 999. -/
def priorityOf (j : Json) : Except JsonProblem Priority := do
  let n ← j.readSigned
  match Priority.ofInt n with
  | .ok p => .ok p
  | .error e => .error (.custom e.message)

/-- Sets a field of an action of the kind `k`. -/
def set (k : ActionKind) (st : ActionFields) : String × Json → Except JsonProblem ActionFields
  | (field, v) =>
    if !k.fields.contains field then .error (.unknownField field k.fields)
    else match field with
      | "target" => return { st with target := ← once field st.target v.readString }
      | "expression" => return { st with expression := ← once field st.expression v.readString }
      | "name" => return { st with name := ← once field st.name v.readString }
      | "result" => return { st with result := ← once field st.result v.readBool }
      | _ => return { st with priority := ← once field st.priority (priorityOf v) }

def need {α : Type} (missing : JsonProblem) : Option α → Except JsonProblem α
  | some a => .ok a
  | none => .error missing

/-- The action of a kind out of its fields; `missing` names the error for an absent field. -/
def toAction (k : ActionKind) (st : ActionFields) (missing : String → JsonProblem) :
    Except JsonProblem ActionDef := do
  let work ← match k with
    | .evaluate =>
      let target ← need (missing "target") st.target
      let expression ← need (missing "expression") st.expression
      pure (ActionWork.evaluate target expression)
    | .execute => ActionWork.execute <$> need (missing "target") st.target
    | .callback => ActionWork.callback <$> need (missing "name") st.name
  return { work := work, result := st.result.getD true, priority := st.priority.getD .default }

end ActionFields

namespace ActionContent

/-- Items are the fields in order: too few fail with the count read, too many with the count
expected. -/
def toAction (k : ActionKind) : ActionContent → Except JsonProblem ActionDef
  | .fields members => do
    let st ← members.foldlM (ActionFields.set k) {}
    ActionFields.toAction k st .missingField
  | .items values => do
    let st ← (k.fields.zip values).foldlM (ActionFields.set k) {}
    let expected := k.title ++ " with " ++ digitString k.fields.length ++ " elements"
    let a ← ActionFields.toAction k st fun _ => .invalidLength values.length expected
    if k.fields.length < values.length then
      .error (.invalidLength values.length (digitString k.fields.length ++ " elements in sequence"))
    else .ok a

end ActionContent

namespace Reader

/-- A priority: a signed integer from 1 to 999; outside that, the engine's own error text. -/
def priority : Reader Priority := do
  let n ← signed
  match Priority.ofInt n with
  | .ok p => pure p
  | .error e => problem (.custom e.message)

def valueKind : Reader ValueKind := unitVariant ValueKind.names ValueKind.ofName?

/-- Reads a field's value unless the field was read before. -/
def once {α : Type} (field : String) (slot : Option α) (inner : Reader α) : Reader (Option α) :=
  if slot.isSome then problem (.duplicateField field) else some <$> fieldValue inner

def required {α : Type} (missing : JsonProblem) : Option α → Reader α
  | some a => pure a
  | none => problem missing

def actionKind : Reader ActionKind :=
  name "variant identifier" ActionKind.ofName? fun s => .unknownVariant s ActionKind.names

/-- The kind and content of an action written as an object: `kind` once, other fields as read. -/
def actionMembers : Reader (ActionKind × ActionContent) := do
  let (kind, fields) ← members (none, []) fun k (kind, fields) => do
    if k = "kind" then
      if kind.isSome then problem (.duplicateField "kind")
      colon
      return (some (← actionKind), fields)
    else
      colon
      return (kind, (k, ← any) :: fields)
  let kind ← required (.missingField "kind") kind
  return (kind, .fields fields.reverse)

/-- The kind and content of an action written as an array: the kind, then the fields' values. -/
def actionItems : Reader (ActionKind × ActionContent) := do
  let kind ← required (.missingField "kind") (← nextField true actionKind)
  return (kind, .items (← items false any))

def actionDef : Reader ActionDef := do
  let (kind, content) ← record "internally tagged enum ActionDef" actionMembers actionItems
  match content.toAction kind with
  | .ok a => pure a
  | .error p => problem p

structure FactFields where
  id : Option String := none
  priority : Option Priority := none
  value : Option (Option Json) := none
  model : Option (Option String) := none
  path : Option (Option String) := none
  kind : Option (Option ValueKind) := none

def factFields : List String := ["id", "priority", "value", "model", "path", "type"]

def factField (k : String) (st : FactFields) : Reader FactFields :=
  match k with
  | "id" => return { st with id := ← once k st.id string }
  | "priority" => return { st with priority := ← once k st.priority priority }
  | "value" => return { st with value := ← once k st.value (optional any) }
  | "model" => return { st with model := ← once k st.model (optional string) }
  | "path" => return { st with path := ← once k st.path (optional string) }
  | "type" => return { st with kind := ← once k st.kind (optional valueKind) }
  | _ => problem (.unknownField k factFields)

def FactFields.toFact (st : FactFields) : Reader FactDef := do
  return { id := ← required (.missingField "id") st.id
           priority := st.priority.getD .default
           value := st.value.join
           model := st.model.join
           path := st.path.join
           kind := st.kind.join }

def factItems : Reader FactDef := do
  let expected := "struct FactDef with 6 elements"
  let id ← required (.invalidLength 0 expected) (← nextField true string)
  let priority ← nextField false priority
  let value ← nextField false (optional any)
  let model ← nextField false (optional string)
  let path ← nextField false (optional string)
  let kind ← nextField false (optional valueKind)
  return { id := id, priority := priority.getD .default, value := value.join, model := model.join
           path := path.join, kind := kind.join }

def factDef : Reader FactDef :=
  record "struct FactDef" (do (← members {} factField).toFact) factItems

structure RuleFields where
  id : Option String := none
  condition : Option String := none
  priority : Option Priority := none
  chainable : Option Bool := none
  actions : Option (List ActionDef) := none

def ruleFields : List String := ["id", "condition", "priority", "chainable", "actions"]

def actionDefs : Reader (List ActionDef) := sequence "a sequence" (items true actionDef)

def ruleField (k : String) (st : RuleFields) : Reader RuleFields :=
  match k with
  | "id" => return { st with id := ← once k st.id string }
  | "condition" => return { st with condition := ← once k st.condition string }
  | "priority" => return { st with priority := ← once k st.priority priority }
  | "chainable" => return { st with chainable := ← once k st.chainable boolean }
  | "actions" => return { st with actions := ← once k st.actions actionDefs }
  | _ => problem (.unknownField k ruleFields)

def RuleFields.toRule (st : RuleFields) : Reader RuleDef := do
  let id ← required (.missingField "id") st.id
  let condition ← required (.missingField "condition") st.condition
  let actions ← required (.missingField "actions") st.actions
  return { id := id, condition := condition, priority := st.priority.getD .default
           chainable := st.chainable.getD false, actions := actions }

def ruleItems : Reader RuleDef := do
  let expected := "struct RuleDef with 5 elements"
  let id ← required (.invalidLength 0 expected) (← nextField true string)
  let condition ← required (.invalidLength 1 expected) (← nextField false string)
  let priority ← nextField false priority
  let chainable ← nextField false boolean
  let actions ← required (.invalidLength 4 expected) (← nextField false actionDefs)
  return { id := id, condition := condition, priority := priority.getD .default
           chainable := chainable.getD false, actions := actions }

def ruleDef : Reader RuleDef :=
  record "struct RuleDef" (do (← members {} ruleField).toRule) ruleItems

structure RuleSetFields where
  facts : Option (List FactDef) := none
  rules : Option (List RuleDef) := none

def ruleSetField (k : String) (st : RuleSetFields) : Reader RuleSetFields :=
  match k with
  | "facts" => return { st with facts := ← once k st.facts (sequence "a sequence" (items true factDef)) }
  | "rules" => return { st with rules := ← once k st.rules (sequence "a sequence" (items true ruleDef)) }
  | _ => problem (.unknownField k ["facts", "rules"])

def ruleSetItems : Reader RuleSet := do
  let facts ← nextField true (sequence "a sequence" (items true factDef))
  let rules ← nextField false (sequence "a sequence" (items true ruleDef))
  return { facts := facts.getD [], rules := rules.getD [] }

def ruleSet : Reader RuleSet :=
  record "struct RuleSet"
    (do let st ← members {} ruleSetField; return { facts := st.facts.getD [], rules := st.rules.getD [] })
    ruleSetItems

end Reader

namespace RuleSet

/-- Reads a rule set from JSON text; an error keeps the reader's text. -/
def ofText (s : String) : Except EngineError RuleSet :=
  match Reader.run Reader.ruleSet s with
  | .ok rs => .ok rs
  | .error e => .error (.invalidRuleset e.message)

end RuleSet

end RuleEngine
