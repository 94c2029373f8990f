import Sierra.Grammar.Reading
import Sierra.Token.Lexer

/-!
# Reading a source text

A text is read into tokens first and then into a tree, so a stray character anywhere is reported
before any error of the grammar.
-/

namespace Sierra

set_option autoImplicit false

def SourceFile.ofText (text : String) (file : Option String) : Except Error SourceFile := do
  let tokens ← tokenize text file
  (SourceFile.read (Cursor.ofTokens tokens)).1

def Node.ofText (rule : Rule) (text : String) (file : Option String) : Except Error Node := do
  let tokens ← tokenize text file
  (rule.readWhole (Cursor.ofTokens tokens)).1

/-- One thing to read from an input: a file, a tree of some rule, or such a tree that is all that is
left. -/
inductive Step where
  | file
  | tree (rule : Rule)
  | whole (rule : Rule)
  deriving DecidableEq, Repr

def Step.read {σ : Type} [TokenStream σ] : Step → Parser σ Node
  | file => .sourceFile <$> SourceFile.read
  | tree rule => rule.read
  | whole rule => rule.readWhole

/-- Steps taken one after another, each from where the one before it stopped: the answers, with
what each step left. -/
def TokenStream.run {σ : Type} [TokenStream σ] (stream : σ) :
    List Step → List (Except Error Node × σ)
  | [] => []
  | step :: steps =>
    let reply := step.read stream
    reply :: run reply.2 steps

theorem TokenStream.run_cons {σ : Type} [TokenStream σ] (stream : σ) (step : Step)
    (steps : List Step) :
    run stream (step :: steps) = step.read stream :: run (step.read stream).2 steps := rfl

abbrev Input.run (input : Input) (steps : List Step) : List (Except Error Node × Input) :=
  TokenStream.run input steps

abbrev Cursor.run (cursor : Cursor) (steps : List Step) : List (Except Error Node × Cursor) :=
  TokenStream.run cursor steps

end Sierra
