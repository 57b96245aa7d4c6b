import TagSelect.Filter.Parser

/-!
# The parser as a machine

The parser with its calls and its counter laid open. Reading a filter is cut into single steps of a
machine, which keeps what the pending calls wait for as a list of frames, and the levels that are
taken as a number that steps count up and down.

A `!`, a `(` and an operator of a chain each take one level (`Machine.descend`). They are given back
one by one where an operand of `!` or a group ends, and all at once where a chain ends
(`Machine.release`). Giving back more levels than are taken would leave the machine in the state
`underflow`, from which it does not go on. A failure stops the machine where it stands, with all
levels that are taken.
-/

namespace TagSelect

open TagSelect.Filter

namespace Machine

/-- What a call reads. -/
inductive Routine where
  /-- A filter up to the end of the input. -/
  | filter
  /-- Operands with operators between them. -/
  | binary
  /-- An operand. -/
  | unary
  /-- An operand that is no negation. -/
  | primary
deriving DecidableEq, Repr

/-- What a pending call waits for. -/
inductive Frame where
  /-- What is read is a filter if the input ends after it. -/
  | input
  /-- What is read is the first operand of a chain. -/
  | first
  /-- What is read is an operand after `left` in a chain that has taken `taken` levels. -/
  | operand (op : Operator) (left : Filter) (taken : Nat)
  /-- What is read is the operand of a negation. -/
  | negation
  /-- What is read stands in parentheses. -/
  | group
deriving DecidableEq, Repr

/-- What comes next. -/
inductive Control where
  /-- A call begins. -/
  | enter (r : Routine)
  /-- A chain goes on after `left`. It has taken `taken` levels. -/
  | chain (left : Filter) (taken : Nat)
  /-- A call ends with a filter. -/
  | leave (f : Filter)
  /-- All calls have failed. -/
  | failed (e : SyntaxError)
  /-- More levels were given back than were taken. -/
  | underflow
deriving DecidableEq, Repr

end Machine

/-- A state of the machine: what comes next, what waits for it, the place in the input, and the
number of levels that are taken. -/
structure Machine (σ : Type) where
  control : Machine.Control
  frames : List Machine.Frame
  cursor : Cursor σ
  depth : Nat
deriving DecidableEq, Repr

namespace Machine

variable {σ α : Type} [Token.Source σ]

/-- The beginning of a call at a place, with a number of levels taken. -/
def call (r : Routine) (c : Cursor σ) (depth : Nat) : Machine σ :=
  ⟨.enter r, [], c, depth⟩

/-- Takes the current token and a level for it, and calls a routine for which `frame` waits. -/
def descend (m : Machine σ) (frame : Frame) (r : Routine) : Machine σ :=
  if m.depth < maxLevels then
    ⟨.enter r, frame :: m.frames, m.cursor.advance, m.depth + 1⟩
  else
    { m with control := .failed (.tooDeep m.cursor.current), cursor := m.cursor.advance }

/-- Gives back levels and ends a call with a filter. -/
def release (m : Machine σ) (taken : Nat) (f : Filter) : Machine σ :=
  if taken ≤ m.depth then
    { m with control := .leave f, depth := m.depth - taken }
  else
    { m with control := .underflow }

/-- Goes on after a step of the parser that takes no levels, or fails with it. -/
def follow (m : Machine σ) (o : Outcome σ α) (next : α → Machine σ → Machine σ) : Machine σ :=
  match o with
  | .done a c => next a { m with cursor := c }
  | .failed e c _ => { m with control := .failed e, cursor := c }

/-- The number of levels that are not taken. -/
def levels (m : Machine σ) : Nat :=
  maxLevels - m.depth

/-- Begins a call. -/
def enter (m : Machine σ) : Routine → Machine σ
  | .filter =>
    if m.cursor.current.kind = .eof then { m with control := .leave .everything }
    else { m with control := .enter .binary, frames := .input :: m.frames }
  | .binary => { m with control := .enter .unary, frames := .first :: m.frames }
  | .unary =>
    if m.cursor.current.kind = .not then m.descend .negation .unary
    else { m with control := .enter .primary }
  | .primary =>
    if m.cursor.current.kind = .leftParen then m.descend .group .binary
    else m.follow (m.cursor.tagName m.levels) fun f m => { m with control := .leave f }

/-- Goes on with a chain after `left`, or ends it and gives back its levels. -/
def extend (m : Machine σ) (left : Filter) (taken : Nat) : Machine σ :=
  match Operator.ofKind? m.cursor.current.kind with
  | some op => m.descend (.operand op left (taken + 1)) .unary
  | none => m.release taken left

/-- Gives a filter to the call that waited for it. -/
def resume (m : Machine σ) (f : Filter) : Frame → Machine σ
  | .input =>
    m.follow (m.cursor.expect .eof .endOfInput m.levels) fun _ m => { m with control := .leave f }
  | .first => { m with control := .chain f 0 }
  | .operand op left taken => { m with control := .chain (op.join left f) taken }
  | .negation => m.release 1 f.not
  | .group =>
    m.follow (m.cursor.expect .rightParen .closingParenthesis m.levels) fun _ m => m.release 1 f

/-- One step. A machine that has ended stays as it is. -/
def step (m : Machine σ) : Machine σ :=
  match m.control, m.frames with
  | .enter r, _ => m.enter r
  | .chain left taken, _ => m.extend left taken
  | .leave f, frame :: frames => { m with frames := frames }.resume f frame
  | .leave _, [] => m
  | .failed _, _ => m
  | .underflow, _ => m

/-- A number of steps. -/
def run : Nat → Machine σ → Machine σ
  | 0, m => m
  | n + 1, m => run n m.step

/-- The machine has ended with the result of a call. -/
inductive Answers (m : Machine σ) : Except SyntaxError Filter → Prop
  | ok {f : Filter} (hcontrol : m.control = .leave f) (hframes : m.frames = []) : Answers m (.ok f)
  | error {e : SyntaxError} (hcontrol : m.control = .failed e) : Answers m (.error e)

/-- What the parser does for a routine. An operand that is no negation is read as any operand is. -/
def Routine.outcome (c : Cursor σ) (levels : Nat) : Routine → Outcome σ Filter
  | filter => c.filter levels
  | binary => c.binary levels
  | unary => c.unary levels
  | primary => c.unary levels

/-- The machine comes to where the parser does. If the parser is done, `frames` are pending, with
`depth` levels taken. If it has failed, they are pending below what has failed, with all levels
taken that the parser has not left. -/
def Ends (m : Machine σ) (frames : List Frame) (depth : Nat) : Outcome σ Filter → Prop
  | .done f c => ∃ n, m.run n = ⟨.leave f, frames, c, depth⟩
  | .failed e c levels => levels ≤ maxLevels ∧
      ∃ n frames', frames <:+ frames' ∧ m.run n = ⟨.failed e, frames', c, maxLevels - levels⟩

/-- The states of a machine that reads filters from a supply of tokens, one call after the other.
The first call begins with no level taken, and each other one at the place and with the levels with
which the call before it has ended. -/
inductive Reachable (s : σ) : Machine σ → Prop
  | start : Reachable s (call .filter (.ofSource s) 0)
  | step {m : Machine σ} (h : Reachable s m) : Reachable s m.step
  | again {m : Machine σ} {result : Except SyntaxError Filter} (h : Reachable s m)
      (hended : m.Answers result) : Reachable s (call .filter m.cursor m.depth)

end Machine

namespace Parser

variable {σ : Type} [Token.Source σ]

/-- The number of levels that a parser has taken and not given back. -/
def depth (p : Parser σ) : Nat :=
  maxLevels - p.levels

/-- The parser after a number of calls. -/
def after : Nat → Parser σ → Parser σ
  | 0, p => p
  | n + 1, p => after n p.parse.2

end Parser

end TagSelect
