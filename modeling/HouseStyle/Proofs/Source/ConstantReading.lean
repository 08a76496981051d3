/-
This file proves which of the possible ways to read a declaration of a constant is the one that gives
the constant its name.
-/

import HouseStyle.Proofs.Source.ConstantPattern
import HouseStyle.Proofs.Source.WellFormed
import HouseStyle.Proofs.Text.Identifier

namespace HouseStyle.Constant

open Regex

/-- The end of a declaration has a semicolon and no closing parenthesis before it. -/
def IsEnd (tail : Text) : Prop :=
  ∃ value after, tail = value ++ ';' :: after ∧ ')' ∉ value

/-- One way to read a line as the declaration of a constant. -/
structure Reading (line : Text) where
  start : Text
  type : Text
  name : Text
  tail : Text
  shape : line = start ++ ("const ".toList ++ (type ++ ' ' :: (name ++ tail)))
  start_plain : '\n' ∉ start
  type_ne_nil : type ≠ []
  type_plain : '=' ∉ type
  isName : IsName name
  isEnd : IsEnd tail

variable {line : Text}

namespace Reading

/-- The first reading gives way to the second one, whose parts are longer or equal. An earlier part has
priority over the later ones. -/
def Yields (first second : Reading line) : Prop :=
  first.start.length < second.start.length ∨
    first.start.length = second.start.length ∧ (first.type.length < second.type.length ∨
      first.type.length = second.type.length ∧ first.name.length ≤ second.name.length)

/-- All other readings give way to the preferred one. -/
def IsPreferred (reading : Reading line) : Prop :=
  ∀ other : Reading line, other.Yields reading

/-- Two readings that give way to each other have parts of the same lengths. -/
theorem Yields.antisymm {first second : Reading line} (yields : first.Yields second)
    (yielded : second.Yields first) : first.start.length = second.start.length ∧
      first.type.length = second.type.length ∧ first.name.length = second.name.length := by
  rw [Yields] at yields yielded
  omega

/-- There is one preferred reading at most. -/
theorem IsPreferred.unique {first second : Reading line} (firstPreferred : first.IsPreferred)
    (secondPreferred : second.IsPreferred) : first = second := by
  obtain ⟨starts, types, names⟩ := (secondPreferred first).antisymm (firstPreferred second)
  obtain ⟨sameStart, sameRest⟩ := List.append_inj (first.shape.symm.trans second.shape) starts
  obtain ⟨sameType, sameEnd⟩ := List.append_inj (List.append_cancel_left sameRest) types
  obtain ⟨sameName, sameTail⟩ := List.append_inj (List.cons.inj sameEnd).2 names
  cases first
  cases second
  simp_all

end Reading

/-- The end of a declaration is recognized exactly. -/
theorem endsDeclaration_iff {tail : Text} : endsDeclaration tail = true ↔ IsEnd tail := by
  rw [endsDeclaration, decide_eq_true_eq]
  constructor
  · intro member
    obtain ⟨value, after, shape⟩ := List.append_of_mem member
    refine ⟨value, after ++ tail.dropWhile (· ≠ ')'), ?_, ?_⟩
    · rw [← List.cons_append, ← List.append_assoc, ← shape, List.takeWhile_append_dropWhile]
    · intro closing
      have before : ')' ∈ tail.takeWhile (· ≠ ')') := by
        rw [shape]
        exact List.mem_append_left _ closing
      simpa using List.all_eq_true.mp List.all_takeWhile ')' before
  · rintro ⟨value, after, rfl, noClosing⟩
    rw [List.takeWhile_append_of_pos]
    · simp
    · intro char member
      simp only [decide_eq_true_eq]
      rintro rfl
      exact noClosing member

/-- The characters of a name in front of an end do not matter. -/
theorem endsDeclaration_dropWhile (text : Text) :
    endsDeclaration (text.dropWhile isNamePart) = endsDeclaration text := by
  induction text with
  | nil => rfl
  | cons char text inductionHypothesis =>
      cases part : isNamePart char with
      | false => rw [List.dropWhile_cons_of_neg (by simp [part])]
      | true => rw [List.dropWhile_cons_of_pos part, inductionHypothesis, endsDeclaration_name part]

theorem isNamePart_of_isNameStart {char : Char} (start : isNameStart char = true) :
    isNamePart char = true := by
  rw [isNameStart, Bool.or_eq_true] at start
  rw [isNamePart, Bool.or_eq_true, Bool.or_eq_true]
  exact start.imp Or.inl id

/-- All characters of a name are parts of names. -/
theorem isNamePart_of_isName {name : Text} (isName : IsName name) :
    ∀ char ∈ name, isNamePart char = true := by
  cases name with
  | nil => exact isName.elim
  | cons first rest =>
      intro char member
      rcases List.mem_cons.mp member with rfl | later
      · exact isNamePart_of_isNameStart isName.1
      · exact isName.2 char later

/-- A name in front of a text is taken together with the parts of names that follow it. -/
theorem splitName?_append {name : Text} (isName : IsName name) (tail : Text) :
    splitName? (name ++ tail) =
      some (name ++ tail.takeWhile isNamePart, tail.dropWhile isNamePart) := by
  cases name with
  | nil => exact isName.elim
  | cons first rest =>
      rw [List.cons_append, splitName?, if_pos isName.1, List.takeWhile_append_of_pos isName.2,
        List.dropWhile_append_of_pos isName.2, List.cons_append]

/-- The text behind a name does not go on with the name. -/
theorem append_of_splitName? {text name tail : Text} (found : splitName? text = some (name, tail)) :
    text = name ++ tail ∧ ∀ char ∈ tail.head?, isNamePart char = false := by
  cases text with
  | nil => contradiction
  | cons first rest =>
      rw [splitName?] at found
      obtain ⟨-, same⟩ := Option.ite_none_right_eq_some.mp found
      obtain ⟨rfl, rfl⟩ := Prod.mk.inj (Option.some.inj same)
      refine ⟨by rw [List.cons_append, List.takeWhile_append_dropWhile], fun char isHead => ?_⟩
      have stops := List.head?_dropWhile_not isNamePart rest
      rw [Option.mem_def.mp isHead] at stops
      simpa using stops

/-- The name behind a space goes on as long as it can and has the end of a declaration behind it. -/
theorem spacedName?_spec {text name : Text} (found : spacedName? text = some name) :
    ∃ tail, text = ' ' :: (name ++ tail) ∧ IsName name ∧ IsEnd tail ∧
      ∀ char ∈ tail.head?, isNamePart char = false := by
  rw [spacedName?_eq] at found
  obtain ⟨after, behind, found⟩ := Option.bind_eq_some_iff.mp found
  obtain ⟨⟨first, tail⟩, split, complete⟩ := Option.bind_eq_some_iff.mp found
  obtain ⟨ends, same⟩ := Option.ite_none_right_eq_some.mp complete
  obtain rfl := Option.some.inj same
  obtain ⟨rfl, longest⟩ := append_of_splitName? split
  exact ⟨tail, (List.isPrefixOf?_eq_some_iff_append_eq.mp behind).symm, isName_of_splitName? split,
    endsDeclaration_iff.mp ends, longest⟩

section Complete

variable {start type name tail : Text}

/-- A name with the end of a declaration behind it is found. -/
theorem isSome_spacedName? (isName : IsName name) (isEnd : IsEnd tail) :
    (spacedName? (' ' :: (name ++ tail))).isSome = true := by
  have ends : endsDeclaration (tail.dropWhile isNamePart) = true := by
    rw [endsDeclaration_dropWhile]
    exact endsDeclaration_iff.mpr isEnd
  simp [spacedName?, splitName?_append isName, ends]

/-- A keyword, a type and a name with the end of a declaration behind it are found. -/
theorem isSome_nameHere? (type_ne_nil : type ≠ []) (type_plain : '=' ∉ type) (isName : IsName name)
    (isEnd : IsEnd tail) :
    (nameHere? ("const ".toList ++ (type ++ ' ' :: (name ++ tail)))).isSome = true := by
  rw [nameHere?, List.isPrefixOf?_eq_some_iff_append_eq.mpr rfl, Option.bind_some]
  cases type with
  | nil => contradiction
  | cons char type =>
      simp only [List.mem_cons, not_or] at type_plain
      rw [List.cons_append, declared?_cons, if_neg (Ne.symm type_plain.1)]
      exact isSome_farthest?_iff.mpr
        ⟨type, _, rfl, type_plain.2, isSome_spacedName? isName isEnd⟩

end Complete

/-- A line that can be read as a declaration has a name. -/
theorem Reading.isSome_name? (reading : Reading line) : (name? line).isSome = true := by
  rw [name?_eq, reading.shape]
  exact isSome_farthest?_iff.mpr ⟨reading.start, _, rfl, reading.start_plain,
    isSome_nameHere? reading.type_ne_nil reading.type_plain reading.isName reading.isEnd⟩

/-- A name ends where the longest name ends, or earlier. -/
theorem length_le_of_isName {short long rest tail : Text} (isName : IsName short)
    (shape : short ++ rest = long ++ tail) (longest : ∀ char ∈ tail.head?, isNamePart char = false) :
    short.length ≤ long.length := by
  rcases List.append_eq_append_iff.mp shape with ⟨more, rfl, -⟩ | ⟨more, rfl, rfl⟩
  · simp
  · cases more with
    | nil => simp
    | cons char more =>
        have part := isNamePart_of_isName isName char (by simp)
        rw [longest char rfl] at part
        contradiction

/-- The name that is found has a preferred reading. The keyword is the last one with a name behind
it, and then the type is as long as possible. -/
theorem exists_preferred {name : Text} (found : name? line = some name) :
    ∃ reading : Reading line, reading.IsPreferred ∧ reading.name = name := by
  rw [name?_eq] at found
  obtain ⟨start, rest, shape, start_plain, here, lastStart⟩ := exists_of_farthest? found
  obtain ⟨body, behind, declared⟩ := Option.bind_eq_some_iff.mp here
  obtain rfl := List.isPrefixOf?_eq_some_iff_append_eq.mp behind
  cases body with
  | nil => contradiction
  | cons char body =>
      rw [declared?_cons] at declared
      obtain ⟨noEquals, declared⟩ := Option.ite_none_left_eq_some.mp declared
      obtain ⟨front, after, rfl, front_plain, spaced, lastSpace⟩ := exists_of_farthest? declared
      obtain ⟨tail, rfl, isName, isEnd, longest⟩ := spacedName?_spec spaced
      let reading : Reading line :=
        { start, type := char :: front, name, tail, shape, start_plain, isName, isEnd
          type_ne_nil := List.cons_ne_nil _ _
          type_plain := by simp [front_plain, Ne.symm noEquals] }
      refine ⟨reading, fun other => ?_, rfl⟩
      -- Another reading has an earlier keyword, or else a shorter type, or else a shorter name.
      have starts := lastStart other.start _ other.shape other.start_plain
        (isSome_nameHere? other.type_ne_nil other.type_plain other.isName other.isEnd)
      rcases Nat.lt_or_eq_of_le starts with shorter | sameLength
      · exact Or.inl shorter
      · refine Or.inr ⟨sameLength, ?_⟩
        obtain ⟨-, sameRest⟩ := List.append_inj (other.shape.symm.trans shape) sameLength
        have sameBody := List.append_cancel_left sameRest
        obtain ⟨first, type, isType⟩ := List.exists_cons_of_ne_nil other.type_ne_nil
        rw [isType, List.cons_append] at sameBody
        obtain ⟨rfl, sameAfter⟩ := List.cons.inj sameBody
        have type_plain : '=' ∉ type := fun member =>
          other.type_plain (isType ▸ List.mem_cons_of_mem _ member)
        have types := lastSpace type _ sameAfter.symm type_plain
          (isSome_spacedName? other.isName other.isEnd)
        rw [isType]
        rcases Nat.lt_or_eq_of_le types with shorter | sameLength
        · exact Or.inl (Nat.succ_lt_succ shorter)
        · obtain ⟨-, sameEnd⟩ := List.append_inj sameAfter sameLength
          exact Or.inr ⟨congrArg Nat.succ sameLength,
            length_le_of_isName other.isName (List.cons.inj sameEnd).2 longest⟩

/-- The name of the constant is the name in the preferred reading of its line. -/
theorem name?_eq_some_iff_preferred {name : Text} :
    name? line = some name ↔
      ∃ reading : Reading line, reading.IsPreferred ∧ reading.name = name := by
  constructor
  · exact exists_preferred
  · rintro ⟨reading, preferred, rfl⟩
    obtain ⟨found, isFound⟩ := Option.isSome_iff_exists.mp reading.isSome_name?
    obtain ⟨other, otherPreferred, rfl⟩ := exists_preferred isFound
    rw [isFound, preferred.unique otherPreferred]

namespace Reading

/-- No character of a name follows the name, because the name would be longer with it. -/
theorem IsPreferred.longest {reading : Reading line} (preferred : reading.IsPreferred) :
    ∃ char rest, reading.tail = char :: rest ∧ isNamePart char = false := by
  cases tail : reading.tail with
  | nil =>
      obtain ⟨value, after, shape, -⟩ := reading.isEnd
      rw [tail] at shape
      simp at shape
  | cons char rest =>
      refine ⟨char, rest, rfl, Bool.eq_false_iff.mpr fun part => ?_⟩
      have isEnd : IsEnd rest := by
        rw [← endsDeclaration_iff, ← endsDeclaration_name part, endsDeclaration_iff, ← tail]
        exact reading.isEnd
      have isName : IsName (reading.name ++ [char]) := by
        have short := reading.isName
        cases name : reading.name with
        | nil =>
            rw [name] at short
            exact short.elim
        | cons first others =>
            rw [name] at short
            refine ⟨short.1, fun other member => ?_⟩
            rcases List.mem_append.mp member with inside | last
            · exact short.2 other inside
            · rwa [List.mem_singleton.mp last]
      let longer : Reading line :=
        { reading with
          name := reading.name ++ [char]
          tail := rest
          shape := by rw [List.append_assoc, List.singleton_append, ← tail]; exact reading.shape
          isName, isEnd }
      have yields := preferred longer
      have names : longer.name.length = reading.name.length + 1 := by simp [longer]
      have starts : longer.start = reading.start := rfl
      have types : longer.type = reading.type := rfl
      rw [Yields, names, starts, types] at yields
      omega

/-- The text in front of the name. -/
def before (reading : Reading line) : Text :=
  reading.start ++ ("const ".toList ++ reading.type) ++ [' ']

/-- The whole identifier at the place of the name, with the small letters that follow. -/
def identifier (reading : Reading line) : Text :=
  reading.name ++ reading.tail.takeWhile Text.isNameChar

def after (reading : Reading line) : Text :=
  reading.tail.dropWhile Text.isNameChar

theorem append_identifier (reading : Reading line) :
    reading.before ++ reading.identifier ++ reading.after = line := by
  conv => rhs; rw [reading.shape]
  simp [before, identifier, after]

theorem getLast?_before (reading : Reading line) : reading.before.getLast? = some ' ' :=
  List.getLast?_concat

/-- The identifier of a reading goes on neither in front nor behind. -/
theorem isApart_identifier (reading : Reading line) :
    Text.IsApart reading.before reading.after := by
  constructor
  · rw [getLast?_before]
    rintro char ⟨⟩
    decide
  · intro char isHead
    have stops := List.head?_dropWhile_not Text.isNameChar reading.tail
    rw [after, Option.mem_def] at isHead
    rw [isHead] at stops
    simpa using stops

/-- The name is the part of its identifier before the first small letter. -/
theorem IsPreferred.name_eq_takeWhile {reading : Reading line} (preferred : reading.IsPreferred) :
    reading.name = reading.identifier.takeWhile isNamePart := by
  obtain ⟨char, rest, tail, noPart⟩ := preferred.longest
  rw [identifier, List.takeWhile_append_of_pos (isNamePart_of_isName reading.isName), tail]
  cases inside : Text.isNameChar char with
  | false => simp [inside]
  | true => simp [inside, noPart]

/-- A name is complete if its identifier has no small letter. -/
theorem IsPreferred.isApart_iff {reading : Reading line} (preferred : reading.IsPreferred) :
    Text.IsApart reading.before reading.tail ↔
      ∀ char ∈ reading.identifier, isNamePart char = true := by
  obtain ⟨char, rest, tail, noPart⟩ := preferred.longest
  have beforeName := reading.isApart_identifier.1
  rw [Text.IsApart, and_iff_right beforeName, identifier, tail]
  cases inside : Text.isNameChar char with
  | false =>
      have names := isNamePart_of_isName reading.isName
      simpa [inside] using names
  | true =>
      have member : char ∈ reading.name ++ (char :: rest).takeWhile Text.isNameChar := by
        rw [List.takeWhile_cons_of_pos inside]
        simp
      refine iff_of_false (fun apart => ?_) (fun parts => ?_)
      · exact absurd (apart char rfl) (by simp [inside])
      · exact absurd (parts char member) (by simp [noPart])

end Reading

end HouseStyle.Constant
