/-
This file proves that the machine-readable forms of reports and of symbols lose nothing of what they
show.
-/

import Mathlib.Data.List.Nodup
import HouseStyle.Proofs.Json.Injective
import HouseStyle.Report.Format

namespace HouseStyle

/-- Two functions that tell the same items apart tell the same lists of items apart. -/
theorem map_eq_map_iff_of {α β γ : Type} {f : α → β} {g : α → γ}
    (same : ∀ first second, f first = f second ↔ g first = g second) (first second : List α) :
    first.map f = second.map f ↔ first.map g = second.map g := by
  induction first generalizing second with
  | nil => cases second <;> simp
  | cons item first inductionHypothesis =>
      cases second with
      | nil => simp
      | cons other second =>
          simp only [List.map_cons, List.cons.injEq, same, inductionHypothesis]

namespace ProblemKind

def all : List ProblemKind :=
  [.longLine, .unorderedFunctions, .unorderedNamespaces, .unorderedIncludes, .unorderedConstants,
    .crampedCloseBrace, .crampedIncludes, .crampedUsings, .missingDocumentation,
    .undocumentedParameter, .unknownDocumentedParameter, .forbiddenToken, .unreadableFile]

theorem mem_all (kind : ProblemKind) : kind ∈ all := by
  cases kind <;> decide

/-- The identifier of a kind determines the kind. -/
theorem identifier_inj {first second : ProblemKind} :
    first.identifier = second.identifier ↔ first = second := by
  have different : (all.map identifier).Nodup := by decide
  exact ⟨List.inj_on_of_nodup_map different (mem_all first) (mem_all second), congrArg identifier⟩

end ProblemKind

theorem Category.identifier_inj {first second : Category} :
    first.identifier = second.identifier ↔ first = second := by
  cases first <;> cases second <;> decide

/-- What the machine-readable form shows of a problem. The path stands with the file. -/
def Problem.shown (problem : Problem) : ProblemKind × Nat × Text :=
  (problem.kind, problem.line, problem.detail)

/-- The document of a problem determines what it shows. -/
theorem Problem.document_inj {first second : Problem} :
    first.document = second.document ↔ first.shown = second.shown := by
  constructor
  · intro same
    simp only [document, Json.object.injEq, List.cons.injEq, Prod.mk.injEq, Json.text.injEq,
      Json.number.injEq, true_and, and_true, ProblemKind.identifier_inj] at same
    obtain ⟨kind, -, line, detail⟩ := same
    rw [shown, shown, kind, line, detail]
  · intro same
    simp only [shown, Prod.mk.injEq] at same
    obtain ⟨kind, line, detail⟩ := same
    rw [document, document, kind, line, detail]

namespace Report

/-- The path of a file and what is shown of its problems. -/
def Entry.shown (entry : Entry) : Path × List (ProblemKind × Nat × Text) :=
  (entry.path, entry.problems.map Problem.shown)

/-- The document of an entry determines what it shows. -/
theorem Entry.document_inj {first second : Entry} :
    first.document = second.document ↔ first.shown = second.shown := by
  have problems := map_eq_map_iff_of (@Problem.document_inj) first.problems second.problems
  simp only [document, shown, Json.object.injEq, List.cons.injEq, Prod.mk.injEq, Json.text.injEq,
    Json.list.injEq, true_and, and_true, problems]

/-- The number of problems can be read off the shown files. -/
theorem problemCount_eq (report : Report) :
    report.problemCount = ((report.entries.map Entry.shown).flatMap (·.2)).length := by
  have problems : (report.entries.map Entry.shown).flatMap (·.2) =
      (report.entries.flatMap Entry.problems).map Problem.shown := by
    rw [List.flatMap_map, List.map_flatMap]
    rfl
  rw [problems, List.length_map, problemCount]

/-- Two reports have the same machine-readable form if and only if they count the same files and show
the same files with the same problems. -/
theorem document_inj {first second : Report} :
    first.document = second.document ↔
      first.scanned = second.scanned ∧
        first.entries.map Entry.shown = second.entries.map Entry.shown := by
  have entries := map_eq_map_iff_of (@Entry.document_inj) first.entries second.entries
  constructor
  · intro same
    simp only [document, Json.object.injEq, List.cons.injEq, Prod.mk.injEq, Json.number.injEq,
      Json.list.injEq, true_and, and_true, entries] at same
    exact ⟨same.1.1, same.2⟩
  · rintro ⟨scanned, shown⟩
    have count : first.problemCount = second.problemCount := by
      rw [problemCount_eq, problemCount_eq, shown]
    have length : first.entries.length = second.entries.length := by
      simpa using congrArg List.length shown
    rw [document, document, scanned, length, count, entries.mpr shown]

end Report

/-- The document of a function determines the function. -/
theorem Function.document_inj {first second : Function} :
    first.document = second.document ↔ first = second := by
  refine ⟨fun same => ?_, congrArg document⟩
  simp only [document, Json.object.injEq, List.cons.injEq, Prod.mk.injEq, Json.text.injEq,
    Json.number.injEq, Json.list.injEq, true_and, and_true] at same
  obtain ⟨scope, name, line, parameters⟩ := same
  have names := (List.map_inj_right fun _ _ => Json.text.inj).mp parameters
  cases first
  cases second
  simp_all

/-- The document of an include determines the include. -/
theorem Include.document_inj {first second : Include} :
    first.document = second.document ↔ first = second := by
  refine ⟨fun same => ?_, congrArg document⟩
  simp only [document, Json.object.injEq, List.cons.injEq, Prod.mk.injEq, Json.text.injEq,
    Json.number.injEq, true_and, and_true, Category.identifier_inj] at same
  cases first
  cases second
  simp_all

/-- The document of a constant determines the constant. -/
theorem Constant.document_inj {first second : Constant} :
    first.document = second.document ↔ first = second := by
  refine ⟨fun same => ?_, congrArg document⟩
  simp only [document, Json.object.injEq, List.cons.injEq, Prod.mk.injEq, Json.text.injEq,
    Json.number.injEq, true_and, and_true] at same
  cases first
  cases second
  simp_all

/-- The machine-readable form of symbols tells their path and all of them. -/
theorem Symbols.document_inj {path otherPath : Path} {first second : Symbols} :
    first.document path = second.document otherPath ↔ path = otherPath ∧ first = second := by
  constructor
  · intro same
    simp only [document, Json.object.injEq, List.cons.injEq, Prod.mk.injEq, Json.text.injEq,
      Json.list.injEq, true_and, and_true] at same
    obtain ⟨path, functions, includes, constants⟩ := same
    refine ⟨path, ?_⟩
    have sameFunctions := (List.map_inj_right fun _ _ => Function.document_inj.mp).mp functions
    have sameIncludes := (List.map_inj_right fun _ _ => Include.document_inj.mp).mp includes
    have sameConstants := (List.map_inj_right fun _ _ => Constant.document_inj.mp).mp constants
    cases first
    cases second
    simp_all
  · rintro ⟨rfl, rfl⟩
    rfl

/-- Two reports are written alike if and only if they show the same, and symbols are written alike if
and only if they and their paths are the same. -/
theorem write_json_eq_iff :
    (∀ (first second : Report) (color otherColor : Bool),
      first.write .json color = second.write .json otherColor ↔
        first.scanned = second.scanned ∧
          first.entries.map Report.Entry.shown = second.entries.map Report.Entry.shown) ∧
    ∀ (path otherPath : Path) (first second : Symbols) (color otherColor : Bool),
      first.write .json color path = second.write .json otherColor otherPath ↔
        path = otherPath ∧ first = second := by
  constructor
  · intro first second color otherColor
    rw [Report.write, Report.write, Json.write_inj, Report.document_inj]
  · intro path otherPath first second color otherColor
    rw [Symbols.write, Symbols.write, Json.write_inj, Symbols.document_inj]

end HouseStyle
