import Shapewire.Text.Classes
import Shapewire.Text.Hex
import Shapewire.Text.Quoted
import Shapewire.Text.Compact
import Shapewire.Log
import Shapewire.Text.NameTable
import Shapewire.Token.Kind
import Shapewire.Token.Error
import Shapewire.Token.Trivia
import Shapewire.Token.Lexeme
import Shapewire.Token.Scanner
import Shapewire.Token.Progress
import Shapewire.Token.Session
import Shapewire.Token.Stream
import Shapewire.Tree.Node
import Shapewire.Tree.Walk
import Shapewire.Tree.Layout
import Shapewire.Grammar.Parser
import Shapewire.Grammar.Descent
import Shapewire.Tree.Source
import Shapewire.Analysis.Shape
import Shapewire.Analysis.Usage
import Shapewire.Container.Basic
import Shapewire.Proofs.Text.NameTable
import Shapewire.Proofs.Token.Position
import Shapewire.Proofs.Token.Lexeme
import Shapewire.Proofs.Token.Trivia
import Shapewire.Proofs.Token.Run
import Shapewire.Proofs.Token.Fault
import Shapewire.Proofs.Token.Session
import Shapewire.Proofs.Token.Locality
import Shapewire.Proofs.Token.Spacing
import Shapewire.Proofs.Token.LineBreak
import Shapewire.Proofs.Tree.Site
import Shapewire.Proofs.Container.Satisfier
import Shapewire.Proofs.Container.Unfolding
import Shapewire.Proofs.Container.Resolution
import Shapewire.Proofs.Container.Building
import Shapewire.Proofs.Container.Invocation
import Shapewire.Proofs.Container.Chain
import Shapewire.Proofs.Container.History
import Shapewire.Proofs.Container.Growth
import Shapewire.Proofs.Container.Order
import Shapewire.Proofs.Container.Coverage
import Shapewire.Proofs.Container.Introspection
import Shapewire.Proofs.Container.Candidates
import Shapewire.Proofs.Tree.Record
import Shapewire.Proofs.Tree.Table
import Shapewire.Proofs.Tree.Layout
import Shapewire.Proofs.Tree.Walk
import Shapewire.Proofs.Grammar.Formed
import Shapewire.Proofs.Grammar.Place
import Shapewire.Proofs.Grammar.Arrives
import Shapewire.Proofs.Grammar.Single
import Shapewire.Proofs.Grammar.Routine
import Shapewire.Proofs.Grammar.Built.Rules
import Shapewire.Proofs.Grammar.Built.Productions
import Shapewire.Proofs.Grammar.Level
import Shapewire.Proofs.Grammar.Derivation
import Shapewire.Proofs.Grammar.Soundness.Function
import Shapewire.Proofs.Grammar.Soundness.Expression
import Shapewire.Proofs.Grammar.Soundness.Statement
import Shapewire.Proofs.Grammar.Soundness
import Shapewire.Proofs.Grammar.Consumption
import Shapewire.Proofs.Grammar.Passing
import Shapewire.Proofs.Grammar.Turns
import Shapewire.Proofs.Grammar.Lasting
import Shapewire.Proofs.Grammar.Progress
import Shapewire.Proofs.Tree.Source
import Shapewire.Proofs.Grammar.Blame
import Shapewire.Proofs.Tree.Preorder
import Shapewire.Proofs.Tree.Additions
import Shapewire.Proofs.Tree.Everywhere
import Shapewire.Proofs.Tree.Spans
import Shapewire.Proofs.Tree.Width
import Shapewire.Proofs.Tree.Kinds
import Shapewire.Proofs.Grammar.Kinded
import Shapewire.Proofs.Tree.WellKinded
import Shapewire.Proofs.Analysis.Reading
import Shapewire.Proofs.Analysis.Scope
import Shapewire.Proofs.Analysis.Usage
import Shapewire.Proofs.Grammar.Spelling
import Shapewire.Proofs.Grammar.Woven
import Shapewire.Proofs.Tree.Sharing
import Shapewire.Proofs.Tree.Tokens
import Shapewire.Proofs.Analysis.Alike
import Shapewire.Proofs.Tree.RightChain
import Shapewire.Proofs.Grammar.Everywhere
import Shapewire.Proofs.Grammar.RightChain
import Shapewire.Proofs.Grammar.Powers
import Shapewire.Proofs.Grammar.Brackets
import Shapewire.Proofs.Grammar.Arrows
import Shapewire.Proofs.Tree.Layer
import Shapewire.Proofs.Grammar.Precedence
import Shapewire.Proofs.Tree.Trailing
import Shapewire.Proofs.Grammar.Trailing
import Shapewire.Proofs.Tree.Modes
import Shapewire.Proofs.Tree.Enclosing
import Shapewire.Proofs.Grammar.Words
import Shapewire.Proofs.Analysis.Renaming
import Shapewire.Proofs.Tree.Order
import Shapewire.Proofs.Analysis.Assignment
import Shapewire.Proofs.Analysis.Shape
import Shapewire.Proofs.Analysis.Alias
import Shapewire.Proofs.Analysis.Constructor
import Shapewire.Proofs.Token.Cooked
import Shapewire.Proofs.Token.Regex
import Shapewire.Proofs.Token.Template
import Shapewire.Proofs.Grammar.Templates
import Shapewire.Proofs.Token.Dispatch
import Shapewire.Proofs.Token.Punctuation
import Shapewire.Proofs.Token.CodeEscape
import Shapewire.Proofs.Token.Name
import Shapewire.Proofs.Token.QuotedText
import Shapewire.Proofs.Text.Interner
import Shapewire.Proofs.Analysis.Atoms
import Shapewire.Grammar.Desk
import Shapewire.Proofs.Token.Displaced
import Shapewire.Proofs.Token.Afresh
import Shapewire.Proofs.Grammar.Question
import Shapewire.Proofs.Grammar.Lookahead
