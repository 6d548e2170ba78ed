import MetadataHarvest.Json.Token

/-!
# Reading JSON

A text is read token by token, with the arrays and objects that are open kept on a stack.
-/

namespace MetadataHarvest.Json

/-- An array or object that is open, with what it holds so far, the latest first; an object
waits for the value of a key. -/
inductive Frame where
  | array (items : List Value)
  | object (fields : List (Option String × Value)) (key : Option String)

/-- What has been read and what may come next; `outer` are the open arrays and objects,
innermost first. -/
inductive Progress where
  | nextValue (outer : List Frame)
  /-- An array has just begun. -/
  | firstItem (outer : List Frame)
  | afterItem (items : List Value) (outer : List Frame)
  /-- An object has just begun. -/
  | firstKey (outer : List Frame)
  | nextKey (fields : List (Option String × Value)) (outer : List Frame)
  | colon (fields : List (Option String × Value)) (key : Option String) (outer : List Frame)
  | afterField (fields : List (Option String × Value)) (outer : List Frame)
  | complete (v : Value)

namespace Progress

/-- A value has been read. -/
def push (v : Value) : List Frame → Progress
  | [] => complete v
  | .array items :: outer => afterItem (v :: items) outer
  | .object fields key :: outer => afterField ((key, v) :: fields) outer

/-- A value begins with this token. -/
def begin? (outer : List Frame) : Token → Option Progress
  | .scalar v => some (push (.scalar v) outer)
  | .beginArray => some (firstItem outer)
  | .beginObject => some (firstKey outer)
  | _ => none

/-- The progress after one more token, if it may come next. -/
def step? : Progress → Token → Option Progress
  | nextValue outer, token => begin? outer token
  | firstItem outer, .endArray => some (push (.array []) outer)
  | firstItem outer, token => begin? (.array [] :: outer) token
  | afterItem items outer, .comma => some (nextValue (.array items :: outer))
  | afterItem items outer, .endArray => some (push (.array items.reverse) outer)
  | firstKey outer, .endObject => some (push (.object []) outer)
  | firstKey outer, .scalar (.string text) => some (colon [] text outer)
  | nextKey fields outer, .scalar (.string text) => some (colon fields text outer)
  | colon fields text outer, .colon => some (nextValue (.object fields text :: outer))
  | afterField fields outer, .comma => some (nextKey fields outer)
  | afterField fields outer, .endObject => some (push (.object fields.reverse) outer)
  | _, _ => none

/-- The value, when it is complete. -/
def finish? : Progress → Option Value
  | complete v => some v
  | _ => none

end Progress

/-- The value that a text holds. -/
def Value.read? (s : String) : Option Value := do
  let tokens ← tokens? s.toList
  let progress ← tokens.foldlM Progress.step? (.nextValue [])
  progress.finish?

end MetadataHarvest.Json
