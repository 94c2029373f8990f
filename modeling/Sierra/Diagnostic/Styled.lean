/-!
# Styled text

A row is a list of spans, each in one style. What a style looks like is up to a painter, which is
told whether there are colours and writes one span that has a style. The painter used here puts
escape sequences around a span, the one that begins its style and the one that ends all styles.
-/

namespace Sierra

set_option autoImplicit false

inductive Style where
  | plain
  | alarm
  | pointer
  | number
  deriving DecidableEq, Repr

/-- Red and bold, blue and bold, and blue. -/
def Style.code? : Style → Option String
  | plain => none
  | alarm => some "1;31"
  | pointer => some "1;34"
  | number => some "34"

/-- Writes a text in a style, coloured or not. -/
abbrev Painter := Bool → Style → String → String

structure Painter.Escapes (painter : Painter) : Prop where
  off : ∀ style text, painter false style text = text
  on : ∀ style code text, style.code? = some code →
    painter true style text = "\x1b[" ++ code ++ "m" ++ text ++ "\x1b[0m"

def ansi : Painter := fun coloured style text =>
  match coloured, style.code? with
  | true, some code => "\x1b[" ++ code ++ "m" ++ text ++ "\x1b[0m"
  | _, _ => text

theorem ansi_off (style : Style) (text : String) : ansi false style text = text := rfl

theorem ansi_escapes : ansi.Escapes := by
  refine ⟨ansi_off, ?_⟩
  intro style code text known
  simp only [ansi, known]

structure Span where
  style : Style
  text : String
  deriving DecidableEq, Repr

/-- Plain spans do not need the painter. -/
def Span.paint (painter : Painter) (coloured : Bool) (span : Span) : String :=
  if span.style = .plain then span.text else painter coloured span.style span.text

abbrev Row := List Span

def Row.paint (painter : Painter) (coloured : Bool) (row : Row) : String :=
  String.join (row.map (·.paint painter coloured)) ++ "\n"

abbrev Row.render (coloured : Bool) (row : Row) : String :=
  row.paint ansi coloured

theorem Painter.Escapes.paint_off {painter : Painter} (escapes : painter.Escapes) (span : Span) :
    span.paint painter false = span.text := by
  unfold Span.paint
  split
  · rfl
  · exact escapes.off span.style span.text

end Sierra
