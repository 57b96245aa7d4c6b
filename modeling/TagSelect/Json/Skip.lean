import TagSelect.Json.Scalar

/-!
# Passing over a value

A value that nobody asks for has to be JSON, and is otherwise not looked at: its numbers may be of
any size, and its texts may hold halves of a character. It is passed over character by character
with a list of the brackets that are open, so that no nesting is too deep.
-/

namespace TagSelect.Json

/-- What encloses the place that is read. -/
inductive Bracket where
  | array
  | object
deriving DecidableEq, Repr

/-- What may come next. -/
inductive Phase where
  /-- A value. -/
  | value
  /-- The first element or member, or the end. -/
  | first
  /-- A separator or the end. -/
  | after
  /-- The name of a member. -/
  | name
  /-- The colon between a name and its value. -/
  | colon
deriving DecidableEq, Repr

/-- The number of characters of a text up to and with its closing mark. The first `skip` characters
belong to an escape. -/
def skipText : Nat → List Char → Except Fault Nat
  | _, [] => .error .truncated
  | skip + 1, _ :: cs => (skipText skip cs).map (· + 1)
  | 0, c :: cs =>
    if c = '"' then .ok 1
    else if c = '\\' then
      match cs with
      | [] => .error .truncated
      | 'u' :: hex =>
        match fourHex hex with
        | .error f => .error f
        | .ok _ => (skipText 5 cs).map (· + 1)
      | e :: _ =>
        if (letterEscape? e).isSome then (skipText 1 cs).map (· + 1) else .error .malformed
    else if c < ' ' then .error .malformed
    else (skipText 0 cs).map (· + 1)

/-- The number of characters of an exponent after its letter. -/
def skipExponent (cs : List Char) : Except Fault Nat :=
  let sign := match cs with
    | '+' :: _ => 1
    | '-' :: _ => 1
    | _ => 0
  match (digits (cs.drop sign)).1 with
  | [] => .error .malformed
  | ds => .ok (sign + ds.length)

/-- The number of characters of a fraction or an exponent, if there is one. -/
def skipFraction (cs : List Char) : Except Fault Nat :=
  match cs with
  | '.' :: cs =>
    match digits cs with
    | ([], _) => .error .malformed
    | (ds, 'e' :: cs) => (skipExponent cs).map (· + (ds.length + 2))
    | (ds, 'E' :: cs) => (skipExponent cs).map (· + (ds.length + 2))
    | (ds, _) => .ok (ds.length + 1)
  | 'e' :: cs => (skipExponent cs).map (· + 1)
  | 'E' :: cs => (skipExponent cs).map (· + 1)
  | _ => .ok 0

/-- The number of characters of a number after its sign. A number that is cut off is no JSON. -/
def skipNumber (cs : List Char) : Except Fault Nat :=
  match digits cs with
  | ([], _) => .error .malformed
  | ('0' :: _ :: _, _) => .error .malformed
  | (ds, cs) => (skipFraction cs).map (· + ds.length)

/-- The number of characters of the scalar that begins with `c`, without `c`. -/
def skipScalar (c : Char) (cs : List Char) : Except Fault Nat :=
  if c = 'n' then (word "ull".toList cs).map fun _ => 3
  else if c = 't' then (word "rue".toList cs).map fun _ => 3
  else if c = 'f' then (word "alse".toList cs).map fun _ => 4
  else if c = '"' then skipText 0 cs
  else if c = '-' then skipNumber cs
  else if c.isDigit then (skipNumber (c :: cs)).map (· - 1)
  else .error .malformed

/-- Whether a character closes a bracket. -/
def Bracket.closedBy (b : Bracket) (c : Char) : Bool :=
  match b with
  | array => c = ']'
  | object => c = '}'

/-- What a character leads to where a value may begin: the brackets open after it and what may
come then, and how many of the next characters it brings with it. -/
def beginValue (c : Char) (cs : List Char) (stack : List Bracket) :
    Except Fault (List Bracket × Phase × Nat) :=
  if c = '[' then .ok (.array :: stack, .first, 0)
  else if c = '{' then .ok (.object :: stack, .first, 0)
  else (skipScalar c cs).map fun n => (stack, .after, n)

/-- What a character leads to where the name of a member may begin. -/
def beginName (c : Char) (cs : List Char) (stack : List Bracket) :
    Except Fault (List Bracket × Phase × Nat) :=
  if c = '"' then (skipText 0 cs).map fun n => (stack, .colon, n) else .error .malformed

/-- What a character that is no gap leads to. -/
def advance (phase : Phase) (c : Char) (cs : List Char) (stack : List Bracket) :
    Except Fault (List Bracket × Phase × Nat) :=
  match phase, stack with
  | .value, stack => beginValue c cs stack
  | .name, stack => beginName c cs stack
  | .colon, stack => if c = ':' then .ok (stack, .value, 0) else .error .malformed
  | .first, b :: outer =>
    if b.closedBy c then .ok (outer, .after, 0)
    else if b = .object then beginName c cs stack
    else beginValue c cs stack
  | .after, b :: outer =>
    if b.closedBy c then .ok (outer, .after, 0)
    else if c = ',' then .ok (stack, if b = .object then .name else .value, 0)
    else .error .malformed
  | _, [] => .error .malformed

/-- Goes on until no bracket is open after a value. The first `skip` characters belong to a scalar
that has been looked at. -/
def skipFrom (stack : List Bracket) (phase : Phase) : Nat → List Char → Except Fault (List Char)
  | 0, cs =>
    if stack.isEmpty && phase = .after then .ok cs
    else
      match cs with
      | [] => .error .truncated
      | c :: cs =>
        if isGap c then skipFrom stack phase 0 cs
        else
          match advance phase c cs stack with
          | .error f => .error f
          | .ok (stack, phase, skip) => skipFrom stack phase skip cs
  | skip + 1, cs =>
    match cs with
    | [] => .error .truncated
    | _ :: cs => skipFrom stack phase skip cs

/-- The characters after a value. -/
def skipValue (cs : List Char) : Except Fault (List Char) :=
  skipFrom [] .value 0 cs

end TagSelect.Json
