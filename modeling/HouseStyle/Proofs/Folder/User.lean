/-
This file proves that a stored file has no effect on the rules of the user if it is neither their
ignore file nor one of the settings that may name it.
-/

import HouseStyle.Folder.User
import HouseStyle.Proofs.Folder.Frame

namespace HouseStyle

/-- The rules of an ignore file are in its content. -/
theorem IgnoreRule.ofItem_congr {first second : Option Item}
    (same : first.map Item.content? = second.map Item.content?) : ofItem first = ofItem second := by
  rcases Item.eq_or_folders same with rfl | ⟨⟨inside, rfl⟩, other, rfl⟩
  · rfl
  · rfl

/-- The ignore file that settings name is in their content. -/
theorem GitSettings.ignoreFile?_congr {first second : Option Item}
    (same : first.map Item.content? = second.map Item.content?) :
    ignoreFile? first = ignoreFile? second := by
  rcases Item.eq_or_folders same with rfl | ⟨⟨inside, rfl⟩, other, rfl⟩
  · rfl
  · rfl

namespace Workspace

variable {workspace : Workspace} {names : List Text}

/-- The files that decide which rules the user has: the settings of git, and the ignore file that
they lead to. -/
def userFiles (workspace : Workspace) : List Path :=
  workspace.gitSettings ++ workspace.ignoreFile?.toList

/-- Settings name the same ignore file as long as none of them is stored. -/
theorem findSome?_ignoreFile?_store (receives : workspace.top.Receives names) (text : Text)
    {settings : List Path} (apart : ∀ path ∈ settings, workspace.locate path ≠ .ok names) :
    (settings.findSome? fun path =>
      GitSettings.ignoreFile? ((workspace.store names text).find? path)) =
        settings.findSome? fun path => GitSettings.ignoreFile? (workspace.find? path) := by
  induction settings with
  | nil => rfl
  | cons path others inductionHypothesis =>
      obtain ⟨elsewhere, othersApart⟩ := List.forall_mem_cons.mp apart
      rw [List.findSome?_cons, List.findSome?_cons, inductionHypothesis othersApart,
        GitSettings.ignoreFile?_congr (content?_find?_store receives text elsewhere)]

/-- The path of the user's ignore file depends on the settings only. -/
theorem ignoreFile?_store (receives : workspace.top.Receives names) (text : Text)
    (apart : ∀ path ∈ workspace.gitSettings, workspace.locate path ≠ .ok names) :
    (workspace.store names text).ignoreFile? = workspace.ignoreFile? := by
  rw [ignoreFile?, ignoreFile?, ← findSome?_ignoreFile?_store receives text apart]
  rfl

/-- The rules of the user stay the same. -/
theorem userRules_store (receives : workspace.top.Receives names) (text : Text)
    (apart : ∀ path ∈ workspace.userFiles, workspace.locate path ≠ .ok names) :
    (workspace.store names text).userRules = workspace.userRules := by
  obtain ⟨settingsApart, fileApart⟩ := List.forall_mem_append.mp apart
  have rules : IgnoreRule.ofItem ((workspace.store names text).ignoreFile?.bind
      (workspace.store names text).find?) =
        IgnoreRule.ofItem (workspace.ignoreFile?.bind workspace.find?) := by
    rw [ignoreFile?_store receives text settingsApart]
    cases file : workspace.ignoreFile? with
    | none => rfl
    | some path =>
        have elsewhere : workspace.locate path ≠ .ok names := fileApart path (by simp [file])
        exact IgnoreRule.ofItem_congr (content?_find?_store receives text elsewhere)
  rw [userRules, rules]
  rfl

end Workspace

end HouseStyle
