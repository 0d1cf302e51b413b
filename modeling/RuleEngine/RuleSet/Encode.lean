import RuleEngine.RuleSet.Basic

/-!
# Writing rule sets as JSON

The canonical form: every default written out, absent optional fields left out, and each action
tagged by its `kind`.
-/

set_option autoImplicit false

namespace RuleEngine

namespace FactDef

def toJson (f : FactDef) : Json :=
  Json.mkObject <|
    [("id", .string f.id), ("priority", Json.int f.priority.value)] ++
    (f.value.map ("value", ·)).toList ++
    (f.model.map fun m => ("model", .string m)).toList ++
    (f.path.map fun p => ("path", .string p)).toList ++
    (f.kind.map fun k => ("type", .string k.name)).toList

end FactDef

namespace ActionDef

/-- The JSON form of an action, tagged by its kind. -/
def toJson (a : ActionDef) : Json :=
  let work : List (String × Json) := match a.work with
    | .evaluate target expression =>
      [("kind", .string "evaluate"), ("target", .string target), ("expression", .string expression)]
    | .execute target => [("kind", .string "execute"), ("target", .string target)]
    | .callback name => [("kind", .string "callback"), ("name", .string name)]
  Json.mkObject (work ++ [("result", .bool a.result), ("priority", Json.int a.priority.value)])

end ActionDef

namespace RuleDef

def toJson (r : RuleDef) : Json :=
  Json.mkObject [("id", .string r.id), ("condition", .string r.condition),
    ("priority", Json.int r.priority.value), ("chainable", .bool r.chainable),
    ("actions", .array (r.actions.map ActionDef.toJson))]

end RuleDef

namespace RuleSet

def toJson (rs : RuleSet) : Json :=
  Json.mkObject [("facts", .array (rs.facts.map FactDef.toJson)),
    ("rules", .array (rs.rules.map RuleDef.toJson))]

end RuleSet

end RuleEngine
