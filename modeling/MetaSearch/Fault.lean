/-!
# Faults

The causes for which an operation on well-typed input has no answer. They leave an operation where the caller
is expected to know better; the ordinary absence of an answer is an `Option`.
-/

namespace MetaSearch

/-- Why an operation has no answer. -/
inductive Fault where
  /-- A text that should spell a number does not, or an undefined number has no whole part. -/
  | notANumber
  /-- An infinite number, where a finite one is needed. -/
  | infiniteNumber
  /-- A text that does not have the form of what is read from it. -/
  | noMatch
  /-- A date field outside its range. -/
  | dateField
  /-- An instant or an amount of time outside the calendar. -/
  | outsideCalendar
  /-- A date layout that names one field twice. -/
  | repeatedField
  /-- A pattern that does not parse, or a reference to a group it does not have. -/
  | badPattern
  /-- A selector that does not parse. -/
  | badSelector
  /-- A text that is no web address. -/
  | badAddress
  /-- An address that nothing can be sent to. -/
  | deadAddress
  /-- A text that must be written in ASCII and cannot. -/
  | notAscii
  /-- A character set without a table. -/
  | unknownCharset
  /-- A name without its prefix bound. -/
  | unboundName
  /-- A key that a map does not have. -/
  | missingKey
  /-- A position that a list does not have. -/
  | missingIndex
  /-- A value of the wrong kind. -/
  | wrongKind
  /-- A name that no kind of store has. -/
  | unknownBackend
  /-- A store that is not open. -/
  | closedStore
  /-- A home directory that is not known. -/
  | unknownHome
  /-- Any other failure of a collaborator. -/
  | crash
  deriving DecidableEq, Repr, Inhabited

/-- What is done after something that may fail comes to an end only where that did. -/
theorem exists_of_bind_eq_ok {ε α β : Type} {f : α → Except ε β} {x : Except ε α} {b : β} (h : x >>= f = .ok b) :
    ∃ a, x = .ok a ∧ f a = .ok b := by
  cases x with
  | error e => cases h
  | ok a => exact ⟨a, rfl, h⟩

/-- What is seen of a result is seen of one that is there. -/
theorem exists_of_map_toOption {ε α β : Type} {f : α → β} {x : Except ε α} {b : β} (h : x.toOption.map f = some b) :
    ∃ a, x = .ok a ∧ f a = b := by
  cases x with
  | error e => cases h
  | ok a => exact ⟨a, rfl, Option.some.inj h⟩

theorem exists_of_isOk {ε α : Type} {x : Except ε α} (h : x.isOk = true) : ∃ a, x = .ok a := by
  cases x with
  | error e => cases h
  | ok a => exact ⟨a, rfl⟩

/-- What comes of something that comes to anything. -/
theorem eq_ok_of_isOk {ε α : Type} [Inhabited α] {x : Except ε α} (h : x.isOk = true) :
    x = .ok (x.toOption.getD default) := by
  cases x with
  | ok a => rfl
  | error e => cases h

end MetaSearch
