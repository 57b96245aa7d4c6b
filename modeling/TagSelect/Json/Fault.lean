import TagSelect.Text.Quoted

/-!
# Faults

Why a text is not the document that a reader asks for. The text is read from the front, and the
first fault that is met is the answer: the text ends too early, it is no JSON, or it holds a value
of another shape.
-/

namespace TagSelect.Json

/-- What a reader found in place of the value that it asks for. -/
inductive Found where
  | null
  | boolean (b : Bool)
  | integer (n : Int)
  | float (shown : String)
  | text (s : String)
  | sequence
  | map
deriving DecidableEq, Repr

/-- The words for it in a message. -/
def Found.shown : Found → String
  | null => "null"
  | boolean b => "boolean `" ++ (if b then "true" else "false") ++ "`"
  | integer n => "integer `" ++ toString n ++ "`"
  | float shown => "floating point `" ++ shown ++ "`"
  | text s => "string " ++ Text.quoted s
  | sequence => "sequence"
  | map => "map"

/-- How a value differs from what is asked for. -/
inductive Mismatch where
  /-- The value has another type. -/
  | type (found : Found) (expected : String)
  /-- A field that is required does not occur. -/
  | missingField (name : String)
  /-- A field occurs twice. -/
  | duplicateField (name : String)
  /-- A list of fields ends before a required one. -/
  | length (n : Nat) (expected : String)
  /-- A name is none of two choices. -/
  | unknownVariant (name first second : String)
deriving DecidableEq, Repr

/-- The text of a mismatch. -/
def Mismatch.message : Mismatch → String
  | type found expected => "invalid type: " ++ found.shown ++ ", expected " ++ expected
  | missingField name => "missing field `" ++ name ++ "`"
  | duplicateField name => "duplicate field `" ++ name ++ "`"
  | length n expected => "invalid length " ++ toString n ++ ", expected " ++ expected
  | unknownVariant name first second =>
    "unknown variant `" ++ name ++ "`, expected `" ++ first ++ "` or `" ++ second ++ "`"

/-- Why reading failed. -/
inductive Fault where
  /-- The text ends too early. -/
  | truncated
  /-- The text is no JSON. -/
  | malformed
  /-- A value has another shape. -/
  | mismatch (m : Mismatch)
deriving DecidableEq, Repr

/-- The text of a fault. -/
def Fault.message : Fault → String
  | truncated => "unexpected end of text"
  | malformed => "malformed text"
  | mismatch m => m.message

end TagSelect.Json
