import RemoteFlags.Json.Outline.Record

/-!
# Evaluation contexts

A context holds what a server needs to compute the value of a flag: the key of the one it is
computed for, and named attributes.  Attributes are kept in the order of their names, so that equal
contexts are written alike, whatever the order in which they were built.

## Main definitions

* `Context`, `Context.withTargetingKey`, `Context.withAttribute`: contexts and how they are built.
* `Context.merge`: a context laid over another.
* `Context.toTree`, `Context.text`, `Context.requestBody`: the context as JSON.
* `Context.ofOutline`: the context that JSON stands for.
* `Context.summary`: the context in short.
-/

namespace RemoteFlags

open Json

/-- What a server needs to compute the value of a flag. -/
structure Context where
  /-- The key of the one that the flag is computed for. -/
  targetingKey : Option String := none
  /-- Named attributes. -/
  attributes : SortedMap Json.Value := ∅

namespace Context

/-- The context without key and attributes. -/
def empty : Context := {}

instance : EmptyCollection Context := ⟨empty⟩

instance : Inhabited Context := ⟨∅⟩

/-- The name of the member that holds the targeting key. -/
def targetingKeyName : String := "targetingKey"

/-- The context with another targeting key. -/
def withTargetingKey (c : Context) (key : String) : Context := { c with targetingKey := some key }

/-- The context with one attribute set. -/
def withAttribute (c : Context) (name : String) (v : Json.Value) : Context :=
  { c with attributes := c.attributes.insert name v }

/-- The attribute with a name. -/
def attribute? (c : Context) (name : String) : Option Json.Value := c.attributes.get? name

/-- Whether the context has neither a targeting key nor attributes. -/
def isEmpty (c : Context) : Bool := c.targetingKey.isNone && c.attributes.isEmpty

/-- The context `other` laid over `c`: where both say something, `other` counts. -/
def merge (c other : Context) : Context where
  targetingKey := other.targetingKey <|> c.targetingKey
  attributes := c.attributes.override other.attributes

/-- Whether two contexts are equal, with numbers compared as numbers. -/
def same (c d : Context) : Bool :=
  c.targetingKey == d.targetingKey && c.attributes.sameBy Json.Value.same d.attributes

/-! ### Contexts as JSON -/

/-- The context as one flat object, the targeting key first.  An attribute with the name of the
targeting key makes that name occur twice. -/
def toTree (c : Context) : Tree :=
  let key : List (String × Tree) := match c.targetingKey with
    | some k => [(targetingKeyName, .string k)]
    | none => []
  .object (key ++ c.attributes.entries.map fun e => (e.1, e.2.tree))

/-- The context as a JSON text. -/
def text (c : Context) : String := c.toTree.text

/-- The body of every evaluation request: an object that holds the context. -/
def requestBody (c : Context) : String := (Tree.object [("context", c.toTree)]).text

/-- What is read of a context: the targeting key, and the other members in their order. -/
structure Draft where
  /-- The targeting key. -/
  targetingKey : Option (Option String) := none
  /-- The attributes. -/
  attributes : SortedMap Json.Value := ∅

/-- Takes in one member.  Every member that is not the targeting key is an attribute. -/
def Draft.take (room : Nat) (d : Draft) (name : String) (o : Outline) : Except Error Draft :=
  if name = targetingKeyName then do
    return { d with
      targetingKey := ← Outline.setField name d.targetingKey (o.optional Outline.toText) }
  else do
    let v ← o.toValue room
    return { d with attributes := d.attributes.insert name v }

/-- Reads a context, with `room` levels of nesting left. -/
def ofOutline (room : Nat) : Outline → Except Error Context
  | .object ms ending => do
    let room ← Outline.enter room
    let d ← Outline.takeMembers (Draft.take room) {} ms ending
    return ⟨d.targetingKey.join, d.attributes⟩
  | o => .error (o.mismatch "struct EvaluationContext")

/-! ### Contexts in short -/

/-- An attribute in short: texts stand without quotes. -/
def attributeText (v : Json.Value) : String :=
  match v.tree with
  | .string s => s
  | t => t.text

/-- The targeting key and the attributes as `name=value`, with commas between them. -/
def summary (c : Context) : String :=
  let key := match c.targetingKey with
    | some k => [targetingKeyName ++ "=" ++ k]
    | none => []
  ",".intercalate (key ++ c.attributes.entries.map fun e => e.1 ++ "=" ++ attributeText e.2)

end Context

end RemoteFlags
