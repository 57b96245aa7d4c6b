import TagSelect.Token

/-!
# Replayed tokens

A list of tokens as a supply: the tokens in order, then ends of input at the place where the
last token of the list stops.
-/

namespace TagSelect

/-- The tokens still to come and the place of the end of the input. -/
structure Replay where
  rest : List Token
  stop : Nat
deriving DecidableEq, Repr

namespace Replay

/-- The supply of a list of tokens. The input ends where the last token stops. -/
def ofList (ts : List Token) : Replay :=
  ⟨ts, (ts.getLast?.map (·.span.stop)).getD 0⟩

/-- The next token and the supply after it. -/
def next (r : Replay) : Token × Replay :=
  match r.rest with
  | [] => (Token.eof r.stop, r)
  | t :: ts => (t, { r with rest := ts })

instance : Token.Source Replay where
  next := next

end Replay

end TagSelect
