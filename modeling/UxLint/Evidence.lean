/-!
# Evidence

A rule looks for evidence with several finders in a fixed order and stops at the first that finds
something. In a search of two tiers the second finder reads text where the first one reads a tree,
and what it finds is marked so.
-/

set_option autoImplicit false

namespace UxLint

/-- Where evidence was found. -/
inductive Tier where
  | tree
  | text
  /-- In something else, by its name. -/
  | other (name : String)
  deriving DecidableEq, Repr

/-- Something that was found in a source. -/
structure Evidence where
  /-- What was found. -/
  kind : String
  /-- How it reads. -/
  detail : String
  /-- Its line; zero where no line was kept. -/
  line : Int
  /-- Where it was found. -/
  tier : Tier
  deriving DecidableEq, Repr

/-- A search for evidence, run only when it is asked. What a run costs or remembers is up to `m`. -/
abbrev Finder (m : Type → Type) := Unit → m (Option Evidence)

namespace Evidence

variable {m : Type → Type} [Monad m]

/-- What the first successful finder finds; the finders behind it do not run. -/
def first : List (Finder m) → m (Option Evidence)
  | [] => pure none
  | f :: fs => do
    match ← f () with
    | some e => pure (some e)
    | none => first fs

/-- Evidence that was found in text. -/
def asText (e : Evidence) : Evidence := { e with tier := .text }

/-- What the finder for the text finds, if there is such a finder. -/
def inText (text : Option (Finder m)) : m (Option Evidence) :=
  match text with
  | none => pure none
  | some f => do return (← f ()).map asText

/-- What the finder for the tree finds, and else what the finder for the text finds. -/
def inTiers (tree text : Option (Finder m)) : m (Option Evidence) :=
  match tree with
  | none => inText text
  | some f => do
    match ← f () with
    | some e => pure (some e)
    | none => inText text

end Evidence

end UxLint
