import TagSelect.Json.Skip

/-!
# Values of a given shape

Readers for the shapes that a document may ask for: texts, truth values, lists, maps, choices of
two names, and records. A record is written as an object of its fields or as the list of its
fields in order; fields of other names are passed over, and a field that is not required may be
left out.

A list or a map is read with as many steps as there are characters, and each step takes at least
one of them.
-/

namespace TagSelect.Json

/-- The fault of a value that is not of the shape that is asked for. -/
def mismatchAt (expected : String) (cs : List Char) : Fault :=
  let other (found : Found) : Fault := .mismatch (.type found expected)
  let afterWord (r : Except Fault (List Char)) (found : Found) : Fault :=
    match r with
    | .error f => f
    | .ok _ => other found
  let ofNumber (r : Except Fault (Number × List Char)) : Fault :=
    match r with
    | .error f => f
    | .ok (n, _) => other n.found
  match cs with
  | [] => .truncated
  | 'n' :: cs => afterWord (word "ull".toList cs) .null
  | 't' :: cs => afterWord (word "rue".toList cs) (.boolean true)
  | 'f' :: cs => afterWord (word "alse".toList cs) (.boolean false)
  | '-' :: cs => ofNumber (number true cs)
  | '"' :: cs =>
    match textBody cs with
    | .error f => f
    | .ok (s, _) => other (.text s)
  | '[' :: _ => other .sequence
  | '{' :: _ => other .map
  | c :: cs => if c.isDigit then ofNumber (number false (c :: cs)) else .malformed

/-- Reads a text. -/
def text : Reader String := fun cs =>
  match skipGap cs with
  | '"' :: cs => textBody cs
  | cs => .error (mismatchAt "a string" cs)

/-- Reads a truth value. -/
def boolean : Reader Bool := fun cs =>
  match skipGap cs with
  | 't' :: cs => (word "rue".toList cs).map fun cs => (true, cs)
  | 'f' :: cs => (word "alse".toList cs).map fun cs => (false, cs)
  | cs => .error (mismatchAt "a boolean" cs)

/-- Reads the absent value. -/
def null : Reader Unit := fun cs =>
  match skipGap cs with
  | 'n' :: cs => (word "ull".toList cs).map fun cs => ((), cs)
  | cs => .error (mismatchAt "unit" cs)

/-- Takes the colon after a name. -/
def colon (cs : List Char) : Except Fault (List Char) :=
  match skipGap cs with
  | ':' :: cs => .ok cs
  | [] => .error .truncated
  | _ => .error .malformed

/-! ## Lists and maps -/

variable {α ρ : Type}

/-- The place of the next element of a list, or of what follows its end. -/
inductive NextElement where
  | element (cs : List Char)
  | done (cs : List Char)

/-- Looks for the next element of a list. -/
def nextElement (first : Bool) (cs : List Char) : Except Fault NextElement :=
  match skipGap cs with
  | [] => .error .truncated
  | ']' :: cs => .ok (.done cs)
  | c :: cs =>
    if first then .ok (.element (c :: cs))
    else if c = ',' then
      match skipGap cs with
      | [] => .error .truncated
      | ']' :: _ => .error .malformed
      | cs => .ok (.element cs)
    else .error .malformed

/-- Reads elements up to the end of a list, in at most `steps` steps. -/
def elements (read : Reader α) : Nat → Bool → Reader (List α)
  | 0, _, _ => .error .malformed
  | steps + 1, first, cs => do
    match ← nextElement first cs with
    | .done cs => return ([], cs)
    | .element cs =>
      let (a, cs) ← read cs
      let (as, cs) ← elements read steps false cs
      return (a :: as, cs)

/-- Reads a list. -/
def list (read : Reader α) : Reader (List α) := fun cs =>
  match skipGap cs with
  | '[' :: cs => elements read (cs.length + 1) true cs
  | cs => .error (mismatchAt "a sequence" cs)

/-- The place of the next name of an object, after its opening mark, or of what follows the end of
the object. -/
inductive NextMember where
  | name (cs : List Char)
  | done (cs : List Char)

/-- Looks for the next member of an object. -/
def nextMember (first : Bool) (cs : List Char) : Except Fault NextMember :=
  match skipGap cs with
  | [] => .error .truncated
  | '}' :: cs => .ok (.done cs)
  | c :: cs =>
    if first then
      if c = '"' then .ok (.name cs) else .error .malformed
    else if c = ',' then
      match skipGap cs with
      | [] => .error .truncated
      | '"' :: cs => .ok (.name cs)
      | _ => .error .malformed
    else .error .malformed

/-- Reads members up to the end of an object, in at most `steps` steps. After its name a member is
read by `member`, which extends what the members before it have given. -/
def members (member : ρ → String → Reader ρ) : Nat → Bool → ρ → Reader ρ
  | 0, _, _, _ => .error .malformed
  | steps + 1, first, r, cs => do
    match ← nextMember first cs with
    | .done cs => return (r, cs)
    | .name cs =>
      let (name, cs) ← textBody cs
      let (r, cs) ← member r name cs
      members member steps false r cs

/-- Reads the members of an object after its opening bracket. -/
def objectBody (member : ρ → String → Reader ρ) (start : ρ) : Reader ρ := fun cs =>
  members member (cs.length + 1) true start cs

/-- Reads a member of a map and puts it in front of those before it. -/
def mapMember (read : Reader α) (before : List (String × α)) (name : String) :
    Reader (List (String × α)) := fun cs => do
  let (a, cs) ← read (← colon cs)
  return ((name, a) :: before, cs)

/-- Reads a map as the list of its members in their order. -/
def map (read : Reader α) : Reader (List (String × α)) := fun cs =>
  match skipGap cs with
  | '{' :: cs => do
    let (found, cs) ← objectBody (mapMember read) [] cs
    return (found.reverse, cs)
  | cs => .error (mismatchAt "a map" cs)

/-! ## Choices -/

/-- The choice that a name stands for. -/
def choiceOf (first second : String × α) (name : String) : Except Fault α :=
  if name = first.1 then .ok first.2
  else if name = second.1 then .ok second.2
  else .error (.mismatch (.unknownVariant name first.1 second.1))

/-- Reads one of two names, after its opening mark. -/
def choiceName (first second : String × α) : Reader α := fun cs => do
  let (name, cs) ← textBody cs
  return (← choiceOf first second name, cs)

/-- Reads an object with one of two names and nothing in it, after its opening bracket. -/
def choiceObject (first second : String × α) : Reader α := fun cs =>
  match skipGap cs with
  | [] => .error .truncated
  | '"' :: cs => do
    let (a, cs) ← choiceName first second cs
    let ((), cs) ← null (← colon cs)
    match skipGap cs with
    | '}' :: cs => return (a, cs)
    | [] => throw .truncated
    | _ => throw .malformed
  | _ => .error .malformed

/-- Reads one of two names, as a text or as an object with that name and nothing in it. -/
def choice (first second : String × α) : Reader α := fun cs =>
  match skipGap cs with
  | [] => .error .truncated
  | '"' :: cs => choiceName first second cs
  | '{' :: cs => choiceObject first second cs
  | _ => .error .malformed

/-! ## Records -/

/-- A field of a record: how its value is read into the record. -/
structure RecordField (ρ : Type) where
  name : String
  required : Bool
  read : ρ → Reader ρ

/-- Reads a member of a record. `seen` are the names of the fields before it. -/
def recordMember (fields : List (RecordField ρ)) (state : ρ × List String) (name : String) :
    Reader (ρ × List String) := fun cs =>
  match fields.find? (·.name = name) with
  | none => do
    let cs ← skipValue (← colon cs)
    return (state, cs)
  | some field =>
    if state.2.contains name then .error (.mismatch (.duplicateField name))
    else do
      let (r, cs) ← field.read state.1 (← colon cs)
      return ((r, name :: state.2), cs)

/-- Reads a record as an object. -/
def recordObject (fields : List (RecordField ρ)) (start : ρ) : Reader ρ := fun cs => do
  let ((r, seen), cs) ← objectBody (recordMember fields) (start, []) cs
  match fields.find? fun field => field.required && !seen.contains field.name with
  | some field => throw (.mismatch (.missingField field.name))
  | none => return (r, cs)

/-- Reads the fields of a record in order, from the one with number `index` on, and the end of the
list. -/
def recordElements (expected : String) : List (RecordField ρ) → Nat → ρ → Reader ρ
  | [], _, r, cs =>
    match skipGap cs with
    | [] => .error .truncated
    | ']' :: cs => .ok (r, cs)
    | _ => .error .malformed
  | field :: fields, index, r, cs => do
    match ← nextElement (index = 0) cs with
    | .element cs =>
      let (r, cs) ← field.read r cs
      recordElements expected fields (index + 1) r cs
    | .done rest =>
      match (field :: fields).findIdx? (·.required) with
      | some i => throw (.mismatch (.length (index + i) expected))
      | none => return (r, rest)

/-- Reads a record with the given title and fields. -/
def record (title : String) (fields : List (RecordField ρ)) (start : ρ) : Reader ρ := fun cs =>
  match skipGap cs with
  | '[' :: cs =>
    let expected := "struct " ++ title ++ " with " ++ toString fields.length ++ " elements"
    recordElements expected fields 0 start cs
  | '{' :: cs => recordObject fields start cs
  | cs => .error (mismatchAt ("struct " ++ title) cs)

/-! ## Documents -/

/-- Reads a document that holds one value and nothing after it. -/
def document (read : Reader α) (s : String) : Except Fault α :=
  match read s.toList with
  | .error f => .error f
  | .ok (a, cs) => if (skipGap cs).isEmpty then .ok a else .error .malformed

end TagSelect.Json
