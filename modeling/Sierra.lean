import Sierra.Command.Folder
import Sierra.Main
import Sierra.Proofs.Grammar.Phrase
import Sierra.Proofs.Grammar.Reads
import Sierra.Proofs.Grammar.Loop
import Sierra.Proofs.Grammar.Combinators
import Sierra.Proofs.Grammar.Rules
import Sierra.Proofs.Grammar.Expressions
import Sierra.Proofs.Grammar.Blocks
import Sierra.Proofs.Grammar.Definitions
import Sierra.Proofs.Grammar.Units
import Sierra.Proofs.Grammar.Flatten
import Sierra.Proofs.Tree.Parts
import Sierra.Proofs.Grammar.Composition
import Sierra.Proofs.Grammar.Languages
import Sierra.Proofs.Grammar.Exactness
import Sierra.Proofs.Token.Spelling
import Sierra.Proofs.Token.Tiling
import Sierra.Proofs.Token.Lossless
import Sierra.Proofs.Token.Fusion
import Sierra.Proofs.Token.RoundTrip
import Sierra.Proofs.Token.Resuming
import Sierra.Proofs.Token.Positions
import Sierra.Proofs.Grammar.Cursors
import Sierra.Proofs.Grammar.Mirrors
import Sierra.Proofs.Texts
import Sierra.Proofs.Grammar.Faults
import Sierra.Proofs.Grammar.Blame
import Sierra.Proofs.Grammar.Classification
import Sierra.Proofs.Truncation
import Sierra.Proofs.Tree.Relocation
import Sierra.Proofs.Grammar.Locality
import Sierra.Proofs.Grammar.Echoes
import Sierra.Proofs.Places
import Sierra.Proofs.Windows
import Sierra.Proofs.Token.Relocation
import Sierra.Proofs.Layout
import Sierra.Proofs.Joining
import Sierra.Proofs.Text.Lines
import Sierra.Proofs.Diagnostic.Excerpt
import Sierra.Proofs.Origin
import Sierra.Proofs.Diagnostic.Source
import Sierra.Proofs.Tree.Text
import Sierra.Proofs.Grammar.Openings
import Sierra.Proofs.Spans
import Sierra.Proofs.Tree.Chains
import Sierra.Proofs.Text.Legible
import Sierra.Proofs.Tree.Legible
import Sierra.Proofs.Tree.Validity
import Sierra.Proofs.Reports
import Sierra.Proofs.Table
import Sierra.Proofs.Text.Escape
import Sierra.Proofs.Grammar.Wording
import Sierra.Proofs.Messages
import Sierra.Proofs.Diagnostic.Colour
