import Sierra.Grammar.Expectation
import Sierra.Grammar.TokenStream

/-!
# Parsers

A parser answers a value or an error, and in both cases what is left to read, so that reading can go
on after a failure. A parser looks at one token at a time: it either takes that token or leaves it.
The one loop, `repeatWhile`, takes at most one round for each token left, which is enough for a step
that takes at least one.
-/

namespace Sierra

set_option autoImplicit false

def Parser (σ α : Type) : Type :=
  σ → Except Error α × σ

namespace Parser

variable {σ α β : Type}

@[inline] protected def pure (value : α) : Parser σ α := fun stream =>
  (.ok value, stream)

@[inline] protected def bind (first : Parser σ α) (andThen : α → Parser σ β) : Parser σ β :=
  fun stream =>
    match first stream with
    | (.ok value, rest) => andThen value rest
    | (.error error, rest) => (.error error, rest)

instance : Monad (Parser σ) where
  pure := Parser.pure
  bind := Parser.bind

def fail (error : Error) : Parser σ α := fun stream =>
  (.error error, stream)

variable [TokenStream σ]

/-- The token at hand, which stays there. -/
def next : Parser σ Token := fun stream =>
  (.ok (TokenStream.next stream), stream)

def take : Parser σ Token := fun stream =>
  (.ok (TokenStream.advance stream).1, (TokenStream.advance stream).2)

def advance : Parser σ Unit := fun stream =>
  (.ok (), (TokenStream.advance stream).2)

/-- Takes a token that can stand here, or fails in front of one that cannot. -/
def expect (wanted : Expectation) : Parser σ Token := do
  let found ← next
  if found.kind ∈ wanted.kinds then
    take
  else
    fail (wanted.error found)

def refuse (kind : Token.Kind) (refusal : Refusal) : Parser σ Unit := do
  let found ← next
  if found.kind = kind then
    fail (refusal.error found)
  else
    return ()

/-- Reads a part that is there exactly when the token at hand has the kind it begins with. -/
def readIf (kind : Token.Kind) (part : Parser σ α) : Parser σ (Option α) := do
  let found ← next
  if found.kind = kind then
    some <$> part
  else
    return none

/-- Rounds of `step`, each in front of a token of which `more` holds, and no more than `bound`. -/
def repeatWithin (more : Token.Kind → Bool) (step : α → Parser σ α) : Nat → α → Parser σ α
  | 0, value => pure value
  | bound + 1, value => fun stream =>
    if !TokenStream.ended stream && more (TokenStream.next stream).kind then
      (step value >>= repeatWithin more step bound) stream
    else
      (.ok value, stream)

/-- Repeats `step` while `more` holds of the token at hand; the end of input ends it too. -/
def repeatWhile (more : Token.Kind → Bool) (step : α → Parser σ α) (value : α) : Parser σ α :=
  fun stream => repeatWithin more step (TokenStream.left stream) value stream

/-- The values of `item`, read as long as `more` holds of the token at hand. -/
def manyWhile (more : Token.Kind → Bool) (item : Parser σ α) : Parser σ (List α) := do
  let values ← repeatWhile more (fun values => do return (← item) :: values) []
  return values.reverse

end Parser

end Sierra
