/-
This file finds the preferred match of a regular expression and the texts of its groups. The first
alternative of a choice is preferred, and a greedy repetition prefers more rounds.
-/

import HouseStyle.Regex.Basic

namespace HouseStyle

namespace Regex

/-- A place in a text with the text that follows, and the groups that have been captured. -/
structure Cursor where
  before : Option Char
  rest : Text
  groups : List (Nat × Text)

def Cursor.place (cursor : Cursor) : Place :=
  ⟨cursor.before, cursor.rest.head?⟩

/-- A way to go on after a match, which may fail. -/
abbrev Continuation := Cursor → Option Cursor

/-- This function repeats a step exactly the given number of times. -/
def exactly (step : Continuation → Continuation) : Nat → Continuation → Continuation
  | 0, next => next
  | rounds + 1, next => step (exactly step rounds next)

/-- This function repeats a step at most the given number of times. Each round has to consume a
character. -/
def atMost (step : Continuation → Continuation) (greedy : Bool) :
    Nat → Continuation → Continuation
  | 0, next => next
  | rounds + 1, next => fun cursor =>
      let more := fun (_ : Unit) => step (fun later =>
        if later.rest.length < cursor.rest.length then atMost step greedy rounds next later
        else none) cursor
      if greedy then more () <|> next cursor else next cursor <|> more ()

/-- This function matches an expression and goes on. It tries the possible matches in the order of
preference until the continuation succeeds. -/
def follow : Regex → Continuation → Continuation
  | .empty, next => next
  | .one set, next => fun cursor =>
      match cursor.rest with
      | [] => none
      | char :: rest =>
          if set.contains char.toNat then next { cursor with before := some char, rest } else none
  | .check assertion, next => fun cursor =>
      if assertion.holds cursor.place then next cursor else none
  | .sequence first second, next => follow first (follow second next)
  | .choice first second, next => fun cursor => follow first next cursor <|> follow second next cursor
  | .repeated body count greedy, next =>
      exactly (follow body) count.least fun cursor =>
        let rounds :=
          match count.most with
          | none => cursor.rest.length
          | some most => most - count.least
        atMost (follow body) greedy rounds next cursor
  | .capture number body, next => fun cursor =>
      follow body (fun later =>
        let text := cursor.rest.take (cursor.rest.length - later.rest.length)
        next { later with groups := (number, text) :: later.groups }) cursor

/-- The end of the preferred match that starts at the beginning of the text. -/
def matchAt? (expr : Regex) (before : Option Char) (text : Text) : Option Cursor :=
  follow expr some ⟨before, text, []⟩

/-- The texts of one group in all matches from left to right. The next match is searched after the
end of the last one. -/
def captures (expr : Regex) (number : Nat) (before : Option Char) (text : Text) : List Text :=
  match expr.matchAt? before text with
  | some cursor =>
      let found := (cursor.groups.lookup number).toList
      if cursor.rest.length < text.length then
        found ++ captures expr number cursor.before cursor.rest
      else
        match text with
        | [] => found
        | char :: rest => found ++ captures expr number (some char) rest
  | none =>
      match text with
      | [] => []
      | char :: rest => captures expr number (some char) rest
termination_by text.length

end Regex

end HouseStyle
