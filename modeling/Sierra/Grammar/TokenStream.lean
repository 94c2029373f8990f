import Sierra.Error
import Sierra.Token

/-!
# What tokens are read from

One token is at hand, and reading passes it or leaves it; the end of input is never passed. A cursor
is a list of tokens with the index of the one at hand. An input is what is left of such a list, up
to its first end of input, which is the view of a cursor that its position does not show in.
-/

namespace Sierra

set_option autoImplicit false

class TokenStream (σ : Type) where
  /-- The token at hand. -/
  next : σ → Token
  /-- Whether the token at hand is the end of input. -/
  ended : σ → Bool
  /-- Passes the token at hand, if it is not the end of input, and answers the last one passed. -/
  advance : σ → Token × σ
  /-- At least as many tokens as can still be passed. -/
  left : σ → Nat

/-- The tokens with an end of input behind them, if they do not have one there. -/
def withEnd (tokens : List Token) : List Token :=
  match tokens.getLast? with
  | none => [.endOfInput (Location.start none)]
  | some final =>
    if final.kind = .endOfInput then tokens else tokens ++ [.endOfInput final.location]

theorem end_mem_with_end (tokens : List Token) :
    ∃ token ∈ withEnd tokens, token.kind = .endOfInput := by
  unfold withEnd
  split
  · exact ⟨_, List.mem_singleton_self _, rfl⟩
  case h_2 final last =>
    split
    case isTrue ended => exact ⟨final, List.mem_of_getLast? last, ended⟩
    case isFalse => exact ⟨_, List.mem_append_right _ (List.mem_singleton_self _), rfl⟩

structure Cursor where
  tokens : Array Token
  current : Nat
  /-- There is an end of input in front of which the cursor stands. -/
  ends : ∃ token ∈ tokens.toList.drop current, token.kind = .endOfInput

namespace Cursor

def ofTokens (tokens : List Token) : Cursor :=
  ⟨(withEnd tokens).toArray, 0, by simpa using end_mem_with_end tokens⟩

theorem current_lt (cursor : Cursor) : cursor.current < cursor.tokens.size := by
  obtain ⟨token, member, -⟩ := cursor.ends
  exact Nat.lt_of_sub_pos (by simpa using List.length_pos_of_mem member)

def peek (cursor : Cursor) : Token :=
  have := cursor.current_lt
  cursor.tokens[cursor.current]

/-- The token in front of the one at hand, and the first one if there is none. -/
def previous (cursor : Cursor) : Token :=
  have := cursor.current_lt
  cursor.tokens[cursor.current - 1]

theorem ends_behind (cursor : Cursor) (more : cursor.peek.kind ≠ .endOfInput) :
    ∃ token ∈ cursor.tokens.toList.drop (cursor.current + 1), token.kind = .endOfInput := by
  obtain ⟨token, member, ended⟩ := cursor.ends
  have bound : cursor.current < cursor.tokens.toList.length := by simpa using cursor.current_lt
  rw [List.drop_eq_getElem_cons bound] at member
  rcases List.mem_cons.mp member with rfl | behind
  · exact absurd ended more
  · exact ⟨token, behind, ended⟩

/-- Moves to the next token, except at the end of input. -/
def advance (cursor : Cursor) : Cursor :=
  if ended : cursor.peek.kind = .endOfInput then cursor
  else ⟨cursor.tokens, cursor.current + 1, cursor.ends_behind ended⟩

instance : TokenStream Cursor where
  next := peek
  ended cursor := cursor.peek.kind = .endOfInput
  advance cursor := (cursor.advance.previous, cursor.advance)
  left cursor := cursor.tokens.size - cursor.current

end Cursor

structure Input where
  /-- The tokens in front of the end of input. -/
  tokens : List Token
  /-- Where the input ends. -/
  finish : Location
  deriving DecidableEq, Repr

namespace Input

/-- Tokens behind the first end of input are not part of the input. Without an end of input it ends
where its last token stands, and with no token at all at the start of a text. -/
def ofTokens (tokens : List Token) : Input :=
  ⟨tokens.takeWhile (·.kind ≠ .endOfInput),
    match tokens.find? (·.kind = .endOfInput), tokens.getLast? with
    | some ending, _ => ending.location
    | none, some final => final.location
    | none, none => Location.start none⟩

def next (input : Input) : Token :=
  match input.tokens with
  | token :: _ => token
  | [] => .endOfInput input.finish

/-- The input behind the token at hand; its end is never passed. -/
def rest (input : Input) : Input :=
  { input with tokens := input.tokens.tail }

instance : TokenStream Input where
  next := next
  ended input := input.tokens.isEmpty
  advance input := (input.next, input.rest)
  left input := input.tokens.length

end Input

end Sierra
