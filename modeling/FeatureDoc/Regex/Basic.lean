/-
# Regular expressions

A regular expression says of a text whether some part of it has a given form. Only this answer
is wanted, so that it does not matter which of several parts is meant, and an expression takes a
place in the text to all the places up to which it can reach.
-/
import FeatureDoc.Text.Basic

namespace FeatureDoc

/-- A place in a text: the character before it, if there is one, and what follows it. -/
structure Place where
  before : Option Char
  rest : Text

/-- A regular expression. -/
inductive Regex where
  /-- The empty text. -/
  | nothing
  /-- One character of a class. -/
  | one (p : Char → Bool)
  /-- The empty text, at places of a kind. -/
  | assertion (holds : Place → Bool)
  /-- One expression after the other. -/
  | seq (r s : Regex)
  /-- One of two expressions. -/
  | alt (r s : Regex)
  /-- An expression several times, without a greatest number if none is given. -/
  | repeated (r : Regex) (least : Nat) (most : Option Nat)

namespace Place

/-- All places of a text, from the one after the given character on. -/
def all (before : Option Char) : Text → List Place
  | [] => [⟨before, []⟩]
  | c :: rest => ⟨before, c :: rest⟩ :: all (some c) rest

/-- Puts a place of a text into a list, unless the place is there already. -/
def insert (p : Place) (ps : List Place) : List Place :=
  if ps.any fun q => q.rest.length = p.rest.length then ps else p :: ps

/-- The places of a list, each once. -/
def distinct (ps : List Place) : List Place := ps.foldr insert []

/-- Where a number of steps leads from places. -/
def steps (f : Place → List Place) : Nat → List Place → List Place
  | 0, ps => ps
  | n + 1, ps => if ps.isEmpty then [] else steps f n (distinct (ps.flatMap f))

/-- Where up to a number of steps lead from places; it ends as soon as nothing new is found. -/
def reach (f : Place → List Place) : Nat → List Place → List Place
  | 0, ps => ps
  | n + 1, ps =>
    let more := distinct (ps ++ ps.flatMap f)
    if more.length = ps.length then ps else reach f n more

end Place

namespace Regex

/-- The places up to which an expression can reach from a place. A step of a repetition that
takes no character can be left out or made again. So of the steps that have to be made at most
one more counts than there are characters, and of the others at most as many. -/
def ends : Regex → Place → List Place
  | nothing, p => [p]
  | one f, p =>
    match p.rest with
    | [] => []
    | c :: rest => if f c then [⟨some c, rest⟩] else []
  | assertion holds, p => if holds p then [p] else []
  | seq r s, p => Place.distinct ((r.ends p).flatMap s.ends)
  | alt r s, p => Place.distinct (r.ends p ++ s.ends p)
  | repeated r least most, p =>
    let further := match most with
      | none => p.rest.length
      | some n => min (n - least) p.rest.length
    Place.reach r.ends further (Place.steps r.ends (min least (p.rest.length + 1)) [p])

/-- Whether some part of a text has the form of the expression. -/
def isMatch (r : Regex) (t : Text) : Bool := (Place.all none t).any fun p => !(r.ends p).isEmpty

/-- Expressions one after the other. -/
def sequence : List Regex → Regex
  | [] => nothing
  | [r] => r
  | r :: rest => seq r (sequence rest)

/-- One of several expressions. -/
def oneOf : List Regex → Regex
  | [] => one fun _ => false
  | [r] => r
  | r :: rest => alt r (oneOf rest)

end Regex

end FeatureDoc
