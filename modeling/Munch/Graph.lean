/-
Automata as graphs, in the text form that graph drawing programs read.

Each state is a node and each edge an arc, drawn behind the node that it leaves. The start is drawn in blue and an
accepting state in red. Arcs out of the start show the number of a mode, all other arcs the code points of their symbol.

A drawing is a list of statements. What text they have is up to a `Writer`: it also names each node that is drawn, by the
number of nodes before it, while an arc names the node that it leads to by the number of a state. `Writer.pretty` puts each
statement on a line of its own.
-/
import Munch.Lexer.Definition
import Munch.Text.Quoted

namespace Munch.Graph

/-- how a node is drawn: as a circle, in a color, or with a pen of width three -/
inductive Mark where
  | circle
  | blue
  | red
  | thick
  deriving DecidableEq, Repr

/-- what is said of a graph: its title, the direction of its arcs, a node, or an arc from one node to another -/
inductive Statement where
  | title (text : String)
  | leftToRight
  | node (name label : String) (marks : List Mark)
  | arc (source target label : String)
  deriving DecidableEq, Repr

/-- how a graph with arcs is written -/
structure Writer where
  /-- the name of a node, given the number of nodes that were written before it -/
  autoName : Nat → String
  /-- what stands before the first statement -/
  opening : String
  write : Statement → String
  /-- what stands behind the last statement -/
  closing : String

namespace Writer

/-- the text of a graph: its statements, one behind the other -/
def text (w : Writer) (statements : List Statement) : String :=
  w.opening ++ String.join (statements.map w.write) ++ w.closing

/-- the attribute of a text that is shown -/
def labelled (text : String) : String :=
  "label=\"" ++ text ++ "\""

/-- the attribute of a mark -/
def mark : Mark → String
  | .circle => "shape=circle"
  | .blue => "color=blue"
  | .red => "color=red"
  | .thick => "penwidth=3"

/-- a statement on a line: what it is about, its label and its marks -/
def line (subject label : String) (marks : List Mark) : String :=
  "  " ++ subject ++ " [" ++ labelled label ++ String.join (marks.map fun k => ", " ++ mark k) ++ "];\n"

/-- each statement on a line of its own, and the nodes numbered -/
def pretty : Writer where
  autoName count := "node_" ++ Numeral.decimal count
  opening := "digraph \x7b\n"
  write
    | .title text => "  " ++ labelled text ++ ";\n"
    | .leftToRight => "  rankdir=LR;\n"
    | .node name label marks => line name label marks
    | .arc source target label => line (source ++ " -> " ++ target) label []
  closing := "\x7d\n"

end Writer

/-- the name by which an arc refers to the node of a state -/
def node (q : Nat) : String :=
  "node_" ++ Numeral.decimal q

/-- what an arc shows -/
def edgeLabel (m : Automaton) (alphabet : Alphabet) (q : Nat) (label : Label) : String :=
  match label with
  | .epsilon => "ε"
  | .symbol a =>
    if q = m.start then "mode " ++ Numeral.decimal a
    else
      match alphabet.interval? a with
      | some i => i.text
      | none => "#" ++ Numeral.decimal a

/-- how the node of a state is drawn -/
def marks (start accepting : Bool) : List Mark :=
  (if start then [.circle, .blue, .thick] else []) ++ (if accepting then [.red, .thick] else [])

/-- a state under the name of its node: the node, and the arcs of the edges that leave it -/
def drawState (m : Automaton) (alphabet : Alphabet) (stateLabel : Nat → String) (name : String) (q : Nat) :
    List Statement :=
  .node name (stateLabel q) (marks (decide (q = m.start)) (m.isAccepting q)) ::
    (m.edges q).map fun e => .arc name (node e.target) (edgeLabel m alphabet q e.label)

/-- states one after the other, where `count` nodes have been drawn before -/
def drawStates (w : Writer) (m : Automaton) (alphabet : Alphabet) (stateLabel : Nat → String) (count : Nat) :
    List Nat → List Statement
  | [] => []
  | q :: states =>
    drawState m alphabet stateLabel (w.autoName count) q ++ drawStates w m alphabet stateLabel (count + 1) states

/-- the graph of an automaton, where `stateLabel` is what a node shows -/
def render (w : Writer) (m : Automaton) (title : String) (alphabet : Alphabet) (stateLabel : Nat → String) : String :=
  w.text (.title title :: .leftToRight :: drawStates w m alphabet stateLabel 0 (List.range m.stateCount))

/-- the graph of an automaton; a node shows the number of its state -/
def ofAutomaton (m : Automaton) (title : String) (alphabet : Alphabet) (w : Writer := .pretty) : String :=
  render w m title alphabet Numeral.decimal

/-- what the node of a state shows in the graph of a lexer: its number, and the name and number of the token type that it
recognises -/
def stateLabel (d : Definition) (q : Nat) : String :=
  match d.automaton.token? q, d.tokenTypeOf? q with
  | some ordinal, some t => Numeral.decimal q ++ "\n" ++ Quoted.ascii t.name ++ ":" ++ Numeral.decimal ordinal
  | _, _ => if q = d.errorState then Numeral.decimal q ++ "\nerror" else Numeral.decimal q

/-- the graph of a lexer -/
def ofDefinition (d : Definition) (title : String) (w : Writer := .pretty) : String :=
  render w d.automaton title d.alphabet (stateLabel d)

end Munch.Graph
