import RuleEngine.Engine.Document
import RuleEngine.Engine.Error
import RuleEngine.Engine.IdMap
import RuleEngine.Decimal.Reading
import RuleEngine.Text.Classes

/-!
# Where a node's value lives

A value is naked (held by the node) or bound to a place in a model document, read as a kind and
cached. A bound value is coerced to its kind: a number from a trimmed numeric text (the empty text
is zero), a boolean from `true` or `false` in any case, a text from any scalar's display.
-/

set_option autoImplicit false

namespace RuleEngine

structure Binding where
  modelId : String
  path : String
  kind : ValueKind
  cached : Option Value := none
deriving DecidableEq, Repr

inductive ValueSource where
  | naked (value : Option Value)
  | bound (binding : Binding)
deriving DecidableEq, Repr

def sameValue : Option Value → Option Value → Bool
  | none, none => true
  | some a, some b => a == b
  | _, _ => false

namespace Binding

def error (b : Binding) (message : String) : EngineError := .document b.modelId message

def mismatch (b : Binding) (raw : Value) : EngineError :=
  b.error (b.path ++ ": cannot use " ++ raw.typeName ++ " `" ++ raw.display ++ "` as " ++ b.kind.name)

def coerce (b : Binding) (raw : Value) : Except EngineError Value :=
  match b.kind, raw with
  | .number, .number x => .ok (.number x)
  | .number, .text s =>
    let t := Text.trim s
    if t.isEmpty then .ok (.number 0)
    else match Decimal.readFloat? t with
      | some x => .ok (.number x)
      | none => .error (b.mismatch (.text t))
  | .boolean, .boolean x => .ok (.boolean x)
  | .boolean, .text s =>
    let t := Text.trim s
    if t.isEmpty then .ok (.boolean false)
    else if Text.equalsIgnoringAsciiCase t "true" then .ok (.boolean true)
    else if Text.equalsIgnoringAsciiCase t "false" then .ok (.boolean false)
    else .error (b.mismatch (.text t))
  | .text, .node h => .error (b.mismatch (.node h))
  | .text, .invalid => .error (b.mismatch .invalid)
  | .text, v => .ok (.text v.display)
  | .node, .node h => .ok (.node h)
  | _, v => .error (b.mismatch v)

/-- Replaces the cache; answers whether the value changed. -/
def replace (b : Binding) (v : Option Value) : Binding × Bool :=
  ({ b with cached := v }, !sameValue b.cached v)

end Binding

namespace ValueSource

def get : ValueSource → Option Value
  | .naked v => v
  | .bound b => b.cached

def modelId? : ValueSource → Option String
  | .naked _ => none
  | .bound b => some b.modelId

/-- Sets the value; answers whether it changed. A bound value is coerced, written to its document,
and cached. -/
def set (s : ValueSource) (v : Value) (models : IdMap Json) :
    Except EngineError (ValueSource × IdMap Json × Bool) :=
  match s with
  | .naked old =>
    if sameValue old (some v) then .ok (s, models, false) else .ok (.naked (some v), models, true)
  | .bound b =>
    if b.kind = .node then .error (b.error (b.path ++ " is node-typed and cannot be written"))
    else do
      let v ← b.coerce v
      let doc ← match models.get? b.modelId with
        | some d => pure d
        | none => throw (.unknownModel b.modelId)
      let doc ← match doc.writeValue b.path v with
        | .ok d => pure d
        | .error e => throw (b.error e.message)
      let (b, changed) := b.replace (some v)
      return (.bound b, models.insert b.modelId doc, changed)

def clear : ValueSource → ValueSource × Bool
  | .naked v => (.naked none, v.isSome)
  | .bound b => let (b, changed) := b.replace none; (.bound b, changed)

/-- Reads a bound value again from its document; answers whether it changed. -/
def evaluate (s : ValueSource) (models : IdMap Json) : Except EngineError (ValueSource × Bool) :=
  match s with
  | .naked _ => .ok (s, false)
  | .bound b => do
    let doc ← match models.get? b.modelId with
      | some d => pure d
      | none => throw (.unknownModel b.modelId)
    let raw ← match doc.readValue b.path with
      | some r => pure r
      | none => throw (b.error (DocumentError.missing b.path).message)
    let v ← b.coerce raw
    let (b, changed) := b.replace (some v)
    return (.bound b, changed)

/-- Forgets a bound value's cache; a naked value stays. -/
def reset : ValueSource → ValueSource
  | .naked v => .naked v
  | .bound b => .bound { b with cached := none }

end ValueSource

end RuleEngine
