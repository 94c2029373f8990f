import Sierra.Diagnostic
import Sierra.Source
import Sierra.Tree.Text

/-!
# Reports

What the checker writes about a source file: the table of its tokens, the tree of one rule, or the
number of its units, with a listing of them if that is asked for. A file that cannot be read gets
the diagnostic of its error instead.
-/

namespace Sierra

set_option autoImplicit false

inductive Report where
  | tokens
  | tree (rule : Rule)
  | units (listed : Bool)
  deriving DecidableEq, Repr

namespace Report

def ruler : String :=
  String.ofList (List.replicate 60 '=')

def tokenRow (index : Nat) (token : Token) : String :=
  Text.alignRight 4 (toString index) ++ ": " ++ Text.alignLeft 8 token.location.lineColumn ++ " " ++
    Text.alignLeft 20 token.kind.tag ++ " | \"" ++ token.lexeme ++ "\"\n"

def tokenTable (file : String) (tokens : List Token) : String :=
  "Tokens for '" ++ file ++ "':\n" ++ ruler ++ "\n" ++
    String.join (tokens.mapIdx tokenRow) ++
    ruler ++ "\nTotal tokens: " ++ toString tokens.length ++ "\n"

def unitRow (unit : SyntaxUnit) : String :=
  unit.location.lineColumn ++ "  " ++ unit.text ++ "\n"

def unitCount (file : String) (units : List SyntaxUnit) : String :=
  "ok: " ++ file ++ " (" ++ toString units.length ++ " syntax units)\n"

def text (report : Report) (source file : String) : Except Error String := do
  match report with
  | tokens => return tokenTable file (← tokenize source (some file))
  | tree rule =>
    let node ← Node.ofText rule source (some file)
    return node.text ++ "\nok: " ++ file ++ " (" ++ rule.name ++ ")\n"
  | units listed =>
    let units := (← SourceFile.ofText source (some file)).units
    let listing := if listed then String.join (units.map unitRow) else ""
    return listing ++ unitCount file units

/-- The report, or the diagnostic of the source's first error. -/
def render (report : Report) (coloured : Bool) (source file : String) : Except String String :=
  (report.text source file).mapError
    (fun error => (Diagnostic.mk error (some source)).render coloured)

end Report

end Sierra
