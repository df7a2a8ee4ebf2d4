import Munch.Alphabet.Basic
import Munch.Regex
import Munch.Pattern.Position
import Munch.Pattern.Problem
import Munch.Pattern.Report
import Munch.Pattern.Tree
import Munch.Unicode.CaseFolding
import Munch.Unicode.Property
import Munch.Unicode.Unshown
import Munch.Pattern.Cursor
import Munch.Pattern.Escape
import Munch.Pattern.Bracket
import Munch.Pattern.Group
import Munch.Pattern.Repetition
import Munch.Pattern.Nesting
import Munch.Pattern.Parser
import Munch.Expr.Basic
import Munch.Expr.Build
import Munch.Expr.Lower
import Munch.Pattern.Basic
import Munch.Automaton.Basic
import Munch.Automaton.Completion
import Munch.Automaton.Fragment
import Munch.Automaton.Minimal
import Munch.Automaton.Scratch
import Munch.Automaton.Subset
import Munch.Lexer.Description
import Munch.Graph
import Munch.Scanner
import Munch.Source
import Munch.Proofs.Lexer.Scan
import Munch.Proofs.Automaton.Classes
import Munch.Proofs.Lexer.Minimality
import Munch.Proofs.Automaton.InRange
import Munch.Proofs.Lexer.Viable
import Munch.Proofs.Lexer.Totality
import Munch.Proofs.Session
import Munch.Proofs.Lexer.Sound
import Munch.Proofs.Automaton.Powerset
import Munch.Proofs.Lexer.Selection
import Munch.Proofs.Expr.Language
import Munch.Proofs.Expr.Lower
import Munch.Proofs.Source.ReadBack
import Munch.Proofs.Alphabet.Compression
import Munch.Proofs.Alphabet.Stability
import Munch.Proofs.Alphabet.Tiling
import Munch.Proofs.Automaton.Reduction
import Munch.Proofs.Automaton.Compilation
import Munch.Proofs.Automaton.Isolation
import Munch.Proofs.Automaton.Completion
import Munch.Proofs.Automaton.Idempotence
import Munch.Proofs.Restart
import Munch.Proofs.Lexer.Numbering
import Munch.Proofs.Lexer.Simulation
import Munch.Proofs.Automaton.Collection
import Munch.Proofs.Automaton.Rounds
import Munch.Proofs.Automaton.Additions
import Munch.Proofs.Graph
