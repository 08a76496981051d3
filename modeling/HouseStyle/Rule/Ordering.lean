/-
This file defines the rule that symbols are ordered by name.
-/

import HouseStyle.Rule.Problem
import HouseStyle.Config.Basic
import HouseStyle.Text.Lowercase

namespace HouseStyle

/-- The pairs of neighbours in a list. -/
def neighbours {value : Type} : List value → List (value × value)
  | first :: second :: rest => (first, second) :: neighbours (second :: rest)
  | _ => []

namespace Ordering

open Text (caselessBefore)

/-- The first function may stand directly before the second one. Constructors and destructors
stand in their place, and other functions are ordered by name. -/
def functionsOrdered (constructors : SpecialPlacement) (first second : Function) : Bool :=
  match first.isSpecial, second.isSpecial with
  | true, true => true
  | true, false => constructors == .first
  | false, true => constructors == .last
  | false, false => caselessBefore first.orderingName second.orderingName

def isException (config : OrderingConfig) (function : Function) : Bool :=
  config.exceptions.any (· == function.name)

/-- Only neighbours in the same scope are compared. Overloads and exceptions stand anywhere. -/
def areUnordered (config : OrderingConfig) (first second : Function) : Bool :=
  first.scope == second.scope && first.orderingName != second.orderingName &&
    !isException config first && !isException config second &&
    !functionsOrdered config.constructors first second

def unorderedFunctions (config : OrderingConfig) (functions : List Function) :
    List (Function × Function) :=
  (neighbours functions).filter fun (first, second) => areUnordered config first second

/-- Names are ordered, and the empty name comes last. -/
def namesOrdered (first second : Text) : Bool :=
  if first.isEmpty then second.isEmpty
  else second.isEmpty || caselessBefore first second

/-- The first function of each run of functions in the same scope. `last` is the scope of the
function before. -/
def startersAfter (last : Option Text) : List Function → List Function
  | [] => []
  | function :: functions =>
      if last == some function.scope then startersAfter last functions
      else function :: startersAfter (some function.scope) functions

def starters (functions : List Function) : List Function :=
  startersAfter none functions

def unorderedNamespaces (functions : List Function) : List (Function × Function) :=
  (neighbours (starters functions)).filter fun (first, second) =>
    !namesOrdered first.scope second.scope

/-- The distance between two line numbers. -/
def distance (first second : Nat) : Nat :=
  (first - second) + (second - first)

/-- Includes are ordered by category. Includes of one category on neighbouring lines are ordered
by name. -/
def includesOrdered (first second : Include) : Bool :=
  if second.category.rank < first.category.rank then false
  else if first.category.rank < second.category.rank then true
  else if 1 < distance first.line second.line then true
  else caselessBefore first.target second.target

def unorderedIncludes (includes : List Include) : List (Include × Include) :=
  (neighbours includes).filter fun (first, second) => !includesOrdered first second

/-- Constants of one namespace are ordered by name. -/
def unorderedConstants (constants : List Constant) : List (Constant × Constant) :=
  (neighbours constants).filter fun (first, second) =>
    first.scope == second.scope && !namesOrdered first.name second.name

/-- The detail for a pair of symbols with their lines and names. Each name takes a column of the
given width. -/
def pairDetail (firstLine firstWidth : Nat) (firstName : Text) (secondLine secondWidth : Nat)
    (secondName : Text) : Text :=
  lineField firstLine ++ ' ' :: Text.field firstWidth firstName ++ " - ".toList ++
    lineField secondLine ++ ' ' :: Text.field secondWidth secondName

def functionProblem (pair : Function × Function) : Problem :=
  { kind := .unorderedFunctions
    line := pair.1.line
    detail := pairDetail pair.1.line 40 pair.1.fullName pair.2.line 20 pair.2.name }

def namespaceProblem (pair : Function × Function) : Problem :=
  { kind := .unorderedNamespaces
    line := pair.1.line
    detail := pairDetail pair.1.line 20 pair.1.scope pair.2.line 20 pair.2.scope }

def includeProblem (pair : Include × Include) : Problem :=
  { kind := .unorderedIncludes
    line := pair.1.line
    detail := pairDetail pair.1.line 40 pair.1.target pair.2.line 40 pair.2.target }

def constantProblem (pair : Constant × Constant) : Problem :=
  { kind := .unorderedConstants
    line := pair.1.line
    detail := pairDetail pair.1.line 20 pair.1.name pair.2.line 20 pair.2.name }

/-- The problems with the order of some symbols. -/
def checkSymbols (config : OrderingConfig) (symbols : Symbols) : List Problem :=
  (unorderedFunctions config symbols.functions).map functionProblem ++
    (unorderedNamespaces symbols.functions).map namespaceProblem ++
    (unorderedIncludes symbols.includes).map includeProblem ++
    (unorderedConstants symbols.constants).map constantProblem

/-- A file without symbols has no problems with their order. -/
def check (config : OrderingConfig) (source : Source) : List Problem :=
  match source.symbols with
  | none => []
  | some symbols => checkSymbols config symbols

end Ordering

end HouseStyle
