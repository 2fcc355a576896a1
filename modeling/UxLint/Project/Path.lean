import UxLint.Text.Search
import UxLint.Text.Blank

/-!
# Paths

A path is a row of segments, from the top directory or from the current one. Empty segments and
single dots mean nothing and are dropped when a path is read. A path that starts with exactly two
slashes leads where one with one slash does, but keeps them.
-/

set_option autoImplicit false

namespace UxLint

/-- Where a path starts. -/
inductive Anchor where
  /-- At the current directory. -/
  | here
  /-- At the top directory. -/
  | top
  /-- At the top directory, with two slashes. -/
  | doubleTop
  deriving DecidableEq, Repr

namespace Anchor

/-- The anchor of a path that starts with some slashes. -/
def ofSlashes : Nat → Anchor
  | 0 => here
  | 2 => doubleTop
  | _ => top

/-- What an anchor looks like at the start of a path. -/
def written : Anchor → String
  | here => ""
  | top => "/"
  | doubleTop => "//"

end Anchor

/-- A path in a file tree. -/
structure Path where
  anchor : Anchor
  segments : List String
  deriving DecidableEq, Repr

namespace Path

/-- Reads a path. -/
def ofString (s : String) : Path where
  anchor := .ofSlashes (s.toList.takeWhile (· == '/')).length
  segments := ((Text.pieces '/' s.toList).filter fun p => p != [] && p != ['.']).map String.ofList

/-- Whether the path starts at the top directory. -/
def isAbsolute (p : Path) : Bool := p.anchor != .here

/-- Writes a path; the current directory is written as a dot. -/
def toString (p : Path) : String :=
  let names := String.ofList (Text.join ['/'] (p.segments.map String.toList))
  if !p.isAbsolute && p.segments.isEmpty then "." else p.anchor.written ++ names

/-- The path that leads on from `a` by `b`. -/
def join (a b : Path) : Path := if b.isAbsolute then b else { a with segments := a.segments ++ b.segments }

/-- The path that leads on from `a` by a written path. -/
def under (a : Path) (s : String) : Path := a.join (ofString s)

/-- The path of the directory that holds what the path leads to. -/
def parent (p : Path) : Path := { p with segments := p.segments.dropLast }

/-- The last name on the way; empty if there is none. -/
def name (p : Path) : String := p.segments.getLast?.getD ""

/-- Goes on from the names behind, the last one first, by more names. A double dot takes back the name
before it. -/
def resolveFrom (absolute : Bool) (behind : List String) : List String → List String
  | [] => behind.reverse
  | ".." :: rest =>
    match behind with
    | [] => resolveFrom absolute (if absolute then [] else [".."]) rest
    | ".." :: _ => resolveFrom absolute (".." :: behind) rest
    | _ :: before => resolveFrom absolute before rest
  | s :: rest => resolveFrom absolute (s :: behind) rest

/-- The path with no name that a double dot takes back. -/
def normalize (p : Path) : Path := { p with segments := resolveFrom p.isAbsolute [] p.segments }

end Path

end UxLint
