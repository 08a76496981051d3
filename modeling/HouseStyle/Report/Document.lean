/-
This file defines the machine-readable forms of reports and symbols.
-/

import HouseStyle.Report.Basic
import HouseStyle.Json.Basic

namespace HouseStyle

def Problem.document (problem : Problem) : Json :=
  .object [
    ("kind".toList, .text problem.kind.identifier),
    ("label".toList, .text problem.kind.label),
    ("line".toList, .number problem.line),
    ("detail".toList, .text problem.detail)]

def Report.Entry.document (entry : Report.Entry) : Json :=
  .object [
    ("path".toList, .text entry.path),
    ("problems".toList, .list (entry.problems.map Problem.document))]

/-- The counts of a report come before its files. -/
def Report.document (report : Report) : Json :=
  .object [
    ("summary".toList, .object [
      ("files_scanned".toList, .number report.scanned),
      ("files_with_problems".toList, .number report.entries.length),
      ("problem_count".toList, .number report.problemCount)]),
    ("files".toList, .list (report.entries.map Report.Entry.document))]

/-- The identifier of a category in machine-readable output. -/
def Category.identifier : Category → Text
  | system => "system".toList
  | framework => "framework_library".toList
  | project => "local".toList

def Function.document (function : Function) : Json :=
  .object [
    ("namespace".toList, .text function.scope),
    ("name".toList, .text function.name),
    ("line".toList, .number function.line),
    ("parameters".toList, .list (function.parameters.map .text))]

def Include.document (directive : Include) : Json :=
  .object [
    ("name".toList, .text directive.target),
    ("line".toList, .number directive.line),
    ("category".toList, .text directive.category.identifier)]

def Constant.document (constant : Constant) : Json :=
  .object [
    ("name".toList, .text constant.name),
    ("namespace".toList, .text constant.scope),
    ("line".toList, .number constant.line)]

def Symbols.document (path : Path) (symbols : Symbols) : Json :=
  .object [
    ("path".toList, .text path),
    ("functions".toList, .list (symbols.functions.map Function.document)),
    ("includes".toList, .list (symbols.includes.map Include.document)),
    ("constants".toList, .list (symbols.constants.map Constant.document))]

end HouseStyle
