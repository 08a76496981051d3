/-
This file defines the symbols of a source file: functions, includes and constants.
-/

import HouseStyle.Text.Search

namespace HouseStyle

/-- A function or method definition. -/
structure Function where
  /-- The scope that the function belongs to. It is empty for a free function. -/
  scope : Text
  name : Text
  /-- The number of the line with the declaration, counted from 1. -/
  line : Nat
  /-- The names of the parameters, in order. -/
  parameters : List Text
  deriving DecidableEq, Repr

namespace Function

/-- The name with its scope. -/
def fullName (function : Function) : Text :=
  if function.scope.isEmpty then function.name
  else function.scope ++ [':', ':'] ++ function.name

def isMethod (function : Function) : Bool :=
  !function.scope.isEmpty

/-- The text after the last `::`, if there is one. -/
def afterLastScope? : Text → Option Text
  | [] => none
  | char :: rest =>
      match afterLastScope? rest with
      | some segment => some segment
      | none =>
          match char, rest with
          | ':', ':' :: segment => some segment
          | _, _ => none

def lastSegment (scope : Text) : Text :=
  (afterLastScope? scope).getD scope

/-- The text ` : ` occurs with a character after it. -/
def colonInside : Text → Bool
  | [] => false
  | ' ' :: ':' :: ' ' :: _ :: _ => true
  | _ :: rest => colonInside rest

/-- The name is followed by a list of initializers: the text ` : ` stands inside it, with
characters on both sides. An occurrence at the beginning does not count. -/
def hasInitializers (name : Text) : Bool :=
  match name with
  | ' ' :: ':' :: ' ' :: rest => colonInside rest
  | _ => colonInside name

/-- A constructor has the name of its class, a destructor has a tilde in its name. -/
def isSpecial (function : Function) : Bool :=
  lastSegment function.scope == function.name || '~' ∈ function.name ||
    hasInitializers function.name

/-- All operators are sorted under the same name. -/
def orderingName (function : Function) : Text :=
  if (List.isPrefixOf? "operator".toList function.name).any (!·.isEmpty) then "operator".toList
  else function.name

end Function

/-- The kinds of include targets, in the order that files keep. -/
inductive Category where
  | system
  | framework
  | project
  deriving DecidableEq, Repr

namespace Category

def rank : Category → Nat
  | system => 0
  | framework => 1
  | project => 2

/-- The word for a category in listings. -/
def label : Category → Text
  | system => "system".toList
  | framework => "framework".toList
  | project => "local".toList

end Category

/-- An include directive. -/
structure Include where
  /-- The target as it is written, with its angles or quotes. -/
  target : Text
  line : Nat
  category : Category
  deriving DecidableEq, Repr

/-- A constant that stands directly in a namespace block. -/
structure Constant where
  name : Text
  scope : Text
  line : Nat
  deriving DecidableEq, Repr

/-- The symbols of one file, each list in the order of the lines. -/
structure Symbols where
  functions : List Function := []
  includes : List Include := []
  constants : List Constant := []
  deriving DecidableEq, Repr

def Symbols.isEmpty (symbols : Symbols) : Bool :=
  symbols.functions.isEmpty && symbols.includes.isEmpty && symbols.constants.isEmpty

end HouseStyle
