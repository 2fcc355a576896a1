import UxLint.Syntax.Node
import UxLint.Text.Utf8

/-!
# Outlines

A grammar answers with an outline: the kinds, fields and octet spans of the nodes. Laid over the
source it becomes a syntax tree, in which each node knows its text and the rows of its ends.
-/

set_option autoImplicit false

namespace UxLint

/-- A syntax tree without its source. -/
inductive Outline where
  /-- A node that covers the octets from `start` to `stop`. -/
  | node (kind field : String) (named : Bool) (start stop : Nat) (children : List Outline)
  deriving Inhabited

namespace Outline

/-- The octets of a source from `start` to `stop`. -/
def slice (source : List UInt8) (start stop : Nat) : List UInt8 := (source.take stop).drop start

/-- The number of line feeds among the first `n` octets. -/
def rowAt (source : List UInt8) (n : Nat) : Nat := (source.take n).count 10

/-- What a node that covers the octets from `start` to `stop` says about itself. -/
def labelOver (source : List UInt8) (kind field : String) (named : Bool) (start stop : Nat) :
    Label where
  kind := kind
  field := field
  named := named
  start := start
  stop := stop
  row := rowAt source start
  stopRow := rowAt source stop
  text := String.ofList (Text.decode (slice source start stop))

mutual

/-- The syntax tree of an outline over the octets of its source. -/
def laidOver (source : List UInt8) : Outline → Node
  | node kind field named start stop cs =>
    .node (labelOver source kind field named start stop) (laidOverAll source cs)

/-- The syntax trees of several outlines. -/
def laidOverAll (source : List UInt8) : List Outline → List Node
  | [] => []
  | c :: cs => laidOver source c :: laidOverAll source cs

end

end Outline

end UxLint
