/-!
# Blank characters

The characters that trimming removes and that separate words: spaces of every width, line ends and the
four information separators. `strip` takes them off both ends of a text.
-/

namespace MetaSearch.Text

/-- A space, tab, line end or information separator of any script. -/
def isBlank (c : Char) : Bool :=
  let n := c.toNat
  (0x9 ≤ n && n ≤ 0xD) || (0x1C ≤ n && n ≤ 0x20) || n == 0x85 || n == 0xA0 || n == 0x1680 ||
    (0x2000 ≤ n && n ≤ 0x200A) || n == 0x2028 || n == 0x2029 || n == 0x202F || n == 0x205F ||
    n == 0x3000

/-- `s` without the characters of the class `p` at its end. -/
def dropEndWhile (p : Char → Bool) (s : List Char) : List Char :=
  (s.reverse.dropWhile p).reverse

/-- `s` without the characters of the class `p` at either end. -/
def trimWhile (p : Char → Bool) (s : List Char) : List Char :=
  dropEndWhile p (s.dropWhile p)

/-- The text without blanks at either end. -/
def strip (s : String) : String :=
  String.ofList (trimWhile isBlank s.toList)

/-- The text without the characters of `cutset` at either end. -/
def stripOf (cutset s : String) : String :=
  String.ofList (trimWhile (cutset.toList.contains ·) s.toList)

/-- The maximal runs of characters outside the class `p`, in order. -/
def fieldsBy (p : Char → Bool) (s : List Char) : List (List Char) :=
  let rec go : List Char → List Char → List (List Char)
    | [], [] => []
    | run@(_ :: _), [] => [run.reverse]
    | run, c :: r =>
      if p c then
        match run with
        | [] => go [] r
        | _ :: _ => run.reverse :: go [] r
      else go (c :: run) r
  go [] s

/-- The words of a text: what stands between blanks. -/
def words (s : String) : List String :=
  (fieldsBy isBlank s.toList).map String.ofList

theorem isBlank_of_isWhitespace {c : Char} (h : c.isWhitespace) : isBlank c := by
  simp only [Char.isWhitespace, Bool.or_eq_true, decide_eq_true_eq] at h
  rcases h with ((rfl | rfl) | rfl) | rfl <;> rfl

@[simp] theorem trimWhile_nil (p : Char → Bool) : trimWhile p [] = [] := rfl

end MetaSearch.Text
