/-
This file proves which properties the options of a command line have, however it is written.
-/

import HouseStyle.Proofs.Result
import HouseStyle.Proofs.Text.Basic
import HouseStyle.Command.Reader

namespace HouseStyle

/-- A property of the given options that holds at the start and that every option keeps. -/
structure GivenOptions.Kept (property : GivenOptions → Prop) : Prop where
  start : property {}
  store : ∀ {given next : GivenOptions} {value : Text} {name : OptionName}, property given →
    given.store value name = .ok next → property next
  mark : ∀ {given next : GivenOptions} {name : OptionName}, property given →
    given.mark name = .ok next → property next

namespace GivenOptions.Kept

variable {property : GivenOptions → Prop} {reading next : Reading} {level : Level}

/-- The end of the arguments keeps the property. -/
theorem settle (kept : Kept property) (holds : property reading.given)
    (read : reading.settle = .ok next) : property next.given := by
  rw [Reading.settle] at read
  split at read
  next =>
    obtain rfl := Except.ok.inj read
    exact holds
  next => contradiction
  next =>
    obtain ⟨given, stored, rfl⟩ := map_eq_ok_iff.mp read
    exact kept.store holds stored

/-- An option that waits for its value keeps the property. -/
theorem await (kept : Kept property) (holds : property reading.given) {name : OptionName}
    (read : reading.await name = .ok next) : property next.given := by
  obtain ⟨settled, done, rfl⟩ := map_eq_ok_iff.mp read
  have holdsSettled := kept.settle holds done
  exact holdsSettled

/-- An option with its value keeps the property. -/
theorem attach (kept : Kept property) (holds : property reading.given) {name : OptionName}
    {value : Text} (read : reading.attach name value = .ok next) : property next.given := by
  obtain ⟨settled, done, rest⟩ := bind_eq_ok_iff.mp read
  obtain ⟨given, stored, same⟩ := bind_eq_ok_iff.mp rest
  obtain rfl := Except.ok.inj same
  exact kept.store (kept.settle holds done) stored

/-- An option without a value keeps the property. -/
theorem readingMark (kept : Kept property) (holds : property reading.given) {name : OptionName}
    (read : reading.mark name = .ok next) : property next.given := by
  obtain ⟨settled, done, rest⟩ := bind_eq_ok_iff.mp read
  obtain ⟨given, marked, same⟩ := bind_eq_ok_iff.mp rest
  obtain rfl := Except.ok.inj same
  exact kept.mark (kept.settle holds done) marked

/-- An argument with a long option keeps the property. -/
theorem readLong (kept : Kept property) (holds : property reading.given) {argument : Text}
    (read : reading.readLong level argument = .ok next) : property next.given := by
  rw [Reading.readLong] at read
  split at read
  next long attached _ =>
    split at read
    next => contradiction
    next form value _ =>
      split at read
      next => exact kept.attach holds read
      next => contradiction
    next form _ =>
      split at read
      next => exact kept.await holds read
      next => exact kept.readingMark holds read

/-- An argument with short options keeps the property. The induction is on its letters. -/
theorem readShort (kept : Kept property) {chars : Text} (holds : property reading.given)
    (read : reading.readShort level chars = .ok next) : property next.given := by
  induction chars generalizing reading with
  | nil =>
      obtain rfl := Except.ok.inj read
      exact holds
  | cons char rest inductionHypothesis =>
      rw [Reading.readShort] at read
      split at read
      next => contradiction
      next form _ =>
        split at read
        next =>
          split at read
          next => exact kept.await holds read
          next => exact kept.attach holds read
          next => exact kept.attach holds read
        next =>
          split at read
          next => contradiction
          next marked done => exact inductionHypothesis (kept.readingMark holds done) read

/-- An argument without options keeps the property. -/
theorem readOperand (kept : Kept property) (holds : property reading.given) {argument : Text}
    (read : reading.readOperand level argument = .ok next) : property next.given := by
  rw [Reading.readOperand] at read
  split at read
  next =>
    obtain ⟨settled, done, rfl⟩ := map_eq_ok_iff.mp read
    have holdsSettled := kept.settle holds done
    exact holdsSettled
  next => contradiction

/-- Each argument keeps the property, whatever form it has. -/
theorem readArgument (kept : Kept property) (holds : property reading.given) {argument : Text}
    (read : reading.readArgument level argument = .ok next) : property next.given := by
  unfold Reading.readArgument at read
  split at read
  next => exact kept.readOperand holds read
  next =>
    split at read
    next =>
      obtain rfl := Except.ok.inj read
      exact holds
    next => exact kept.readLong holds read
    next => exact kept.readShort holds read
    next =>
      obtain rfl := Except.ok.inj read
      exact holds
    next => exact kept.readOperand holds read

/-- What every argument keeps holds after all arguments of a command. -/
theorem readAll (kept : Kept property) {arguments rest : List Text} (holds : property reading.given)
    (read : Reading.readAll level reading arguments = .ok (next, rest)) : property next.given := by
  induction arguments generalizing reading with
  | nil =>
      obtain ⟨rfl, _⟩ := Prod.mk.inj (Except.ok.inj read)
      exact holds
  | cons argument arguments inductionHypothesis =>
      rw [Reading.readAll] at read
      split at read
      next =>
        obtain ⟨rfl, _⟩ := Prod.mk.inj (Except.ok.inj read)
        exact holds
      next =>
        split at read
        next => contradiction
        next later done => exact inductionHypothesis (kept.readArgument holds done) read

/-- The options of a command have the property if nothing that reads them can break it. -/
theorem readOptions (kept : Kept property) {arguments : List Text} {given : GivenOptions}
    (read : CommandLine.readOptions level arguments = .ok given) : property given := by
  obtain ⟨⟨reading, rest⟩, all, finished⟩ := bind_eq_ok_iff.mp read
  obtain ⟨settled, done, rfl⟩ := map_eq_ok_iff.mp finished
  exact kept.settle (kept.readAll kept.start all) done

end GivenOptions.Kept

end HouseStyle
