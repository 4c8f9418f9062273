import Mathlib.Data.List.Forall2
import MetaSearch.Proofs.Calendar.Day
import MetaSearch.Proofs.Number.Written
import MetaSearch.Calendar.Moment

/-!
# Timestamps

Every moment that can be written as a timestamp is written in one form (`isTimestamp_of_timestamp`): four digits for the
year, two for each of the other fields, and the marks between them.
-/

namespace MetaSearch

/-- A character stands in a place of a form: a digit in the place of a zero, else the same character. -/
def Fits (place c : Char) : Prop :=
  if place = '0' then c.isDigit = true else c = place

instance : DecidableRel Fits := fun place c =>
  if h : place = '0' then
    decidable_of_iff (c.isDigit = true) (by rw [Fits, if_pos h])
  else
    decidable_of_iff (c = place) (by rw [Fits, if_neg h])

/-- A text has the form of a timestamp of universal time to the second. -/
def IsTimestamp (s : String) : Prop :=
  List.Forall₂ Fits "0000-00-00T00:00:00Z".toList s.toList

instance (s : String) : Decidable (IsTimestamp s) :=
  inferInstanceAs (Decidable (List.Forall₂ Fits _ _))

/-- A number that is not too great fills the places that it is padded to. -/
theorem fits_padded {width n : Nat} (hwidth : 0 < width) (h : n < 10 ^ width) :
    List.Forall₂ Fits (List.replicate width '0') (Text.padded width n).toList := by
  have hdigits : ∀ s : List Char, (∀ c ∈ s, c.isDigit = true) → List.Forall₂ Fits (List.replicate s.length '0') s := by
    intro s hs
    induction s with
    | nil => exact .nil
    | cons c s ih =>
        exact .cons (hs c List.mem_cons_self) (ih fun d hd => hs d (List.mem_cons_of_mem c hd))
  have hpadded := hdigits (Text.padded width n).toList fun c hc => Text.isDigit_of_mem_padded hc
  rwa [Text.length_padded_of_lt hwidth h] at hpadded

/-- A mark stands for itself. -/
theorem fits_mark {c : Char} (h : c ≠ '0') : List.Forall₂ Fits [c] [c] :=
  .cons (by rw [Fits, if_neg h]) .nil

/-- The reading of a clock at a full second has the form of a date and a time of day. -/
theorem fits_clockText {ticks : Nat} (hticks : ticks < calendarTicks) (hfull : ticks % 1000000 = 0) :
    List.Forall₂ Fits "0000-00-00T00:00:00".toList (clockText "T" ticks).toList := by
  have hday : ticks / ticksPerDay < Date.calendarDays := Nat.div_lt_of_lt_mul (by rwa [Nat.mul_comm])
  have hvalid := Date.isValid_iff.mp (Date.isValid_ofDayNumber hday)
  have hmonth := Date.daysInMonth_le (Date.ofDayNumber (ticks / ticksPerDay)).year
    (Date.ofDayNumber (ticks / ticksPerDay)).month
  have hofDay : ticks % ticksPerDay < 86400000000 := Nat.mod_lt _ (by decide)
  have hmicros : ticks % ticksPerDay % 1000000 = 0 := by
    rw [Nat.mod_mod_of_dvd _ (by decide), hfull]
  have hform : "0000-00-00T00:00:00".toList =
      List.replicate 4 '0' ++ (['-'] ++ (List.replicate 2 '0' ++ (['-'] ++ (List.replicate 2 '0' ++ (['T'] ++
        (List.replicate 2 '0' ++ ([':'] ++ (List.replicate 2 '0' ++ ([':'] ++ List.replicate 2 '0'))))))))) := by
    decide
  have hhyphen : "-".toList = ['-'] := rfl
  have hmark : "T".toList = ['T'] := rfl
  have hcolon : ":".toList = [':'] := rfl
  simp only [clockText, Date.text, hmicros, if_true, String.append_empty, String.toList_append, hhyphen, hmark, hcolon,
    List.append_assoc, hform]
  refine List.rel_append (fits_padded (by omega) (by omega)) ?_
  refine List.rel_append (fits_mark (by decide)) (List.rel_append (fits_padded (by omega) (by omega)) ?_)
  refine List.rel_append (fits_mark (by decide)) (List.rel_append (fits_padded (by omega) (by omega)) ?_)
  refine List.rel_append (fits_mark (by decide)) (List.rel_append (fits_padded (by omega) (by omega)) ?_)
  refine List.rel_append (fits_mark (by decide)) (List.rel_append (fits_padded (by omega) (by omega)) ?_)
  exact List.rel_append (fits_mark (by decide)) (fits_padded (by omega) (by omega))

/-- **Timestamps have one form.** -/
theorem Moment.isTimestamp_of_timestamp {m : Moment} {s : String} (h : m.timestamp = .ok s) : IsTimestamp s := by
  rw [Moment.timestamp] at h
  cases hu : m.toUniversal with
  | error f => simp [hu, Except.map] at h
  | ok u =>
      obtain rfl : clockText "T" (u.ticks - u.ticks % 1000000) ++ "Z" = s := by simpa [hu, Except.map] using h
      have hform : "0000-00-00T00:00:00Z".toList = "0000-00-00T00:00:00".toList ++ ['Z'] := by decide
      have hmark : "Z".toList = ['Z'] := rfl
      have hrange := u.inCalendar
      rw [IsTimestamp, hform, String.toList_append, hmark]
      exact List.rel_append (fits_clockText (by omega) (by omega)) (fits_mark (by decide))

end MetaSearch
