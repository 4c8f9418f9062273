/-!
# Cutting and joining texts

Texts are cut at a separator, searched for a part and rewritten part by part. All of it works on the list of
characters; the functions on `String` wrap those. `eq_append_of_cut?` says that a cut loses nothing but the
separator.
-/

namespace MetaSearch.Text

/-- What follows `p` in a text that begins with it. -/
def after? : (p s : List Char) → Option (List Char)
  | [], s => some s
  | _ :: _, [] => none
  | a :: p, c :: s => if a = c then after? p s else none

/-- Whether `s` begins with `p`. -/
def begins (p s : List Char) : Bool :=
  (after? p s).isSome

/-- The text before the first place where `sep` stands and the text after it. -/
def cut? (sep : List Char) : List Char → Option (List Char × List Char)
  | [] => (after? sep []).map ([], ·)
  | c :: s =>
    match after? sep (c :: s) with
    | some rest => some ([], rest)
    | none => (cut? sep s).map fun (front, rest) => (c :: front, rest)

/-- The parts of `s` between the places where `sep` stands, found from the left; `skip` counts the
characters still to pass of the last separator found. -/
def splitFrom (sep : List Char) (skip : Nat) (part : List Char) : List Char → List (List Char)
  | [] => [part.reverse]
  | c :: s =>
    match skip with
    | skip + 1 => splitFrom sep skip part s
    | 0 =>
      if begins sep (c :: s) then part.reverse :: splitFrom sep (sep.length - 1) [] s
      else splitFrom sep 0 (c :: part) s

/-- The parts of `s` between the places where the non-empty `sep` stands. -/
def splitOn (sep s : List Char) : List (List Char) :=
  splitFrom sep 0 [] s

/-- The parts in order with `sep` between them. -/
def joinWith (sep : List Char) : List (List Char) → List Char
  | [] => []
  | [part] => part
  | part :: rest => part ++ sep ++ joinWith sep rest

/-- `s` with `image` in place of every `part`, found from the left. -/
def replaceAll (part image s : List Char) : List Char :=
  joinWith image (splitOn part s)

/-- Whether `part` stands somewhere in `s`. -/
def holds (part s : List Char) : Bool :=
  (cut? part s).isSome

/-- Whether the text begins with `p`. -/
def startsWith (s p : String) : Bool :=
  begins p.toList s.toList

/-- Whether the text ends with `p`. -/
def endsWith (s p : String) : Bool :=
  begins p.toList.reverse s.toList.reverse

/-- Whether `part` stands somewhere in the text. -/
def contains (s part : String) : Bool :=
  holds part.toList s.toList

/-- The parts of the text between the places where `sep` stands. -/
def split (sep s : String) : List String :=
  (splitOn sep.toList s.toList).map String.ofList

/-- The text with `image` in place of every `part`. -/
def replace (part image s : String) : String :=
  String.ofList (replaceAll part.toList image.toList s.toList)

/-- The texts in order with `sep` between them. -/
def join (sep : String) (parts : List String) : String :=
  sep.intercalate parts

/-- The text before the first `sep` and the text after it. -/
def cutAt? (sep s : String) : Option (String × String) :=
  (cut? sep.toList s.toList).map fun (front, rest) => (String.ofList front, String.ofList rest)

/-- The text before the last `sep` and the text after it. -/
def cutAtLast? (sep s : String) : Option (String × String) :=
  (cut? sep.toList.reverse s.toList.reverse).map fun (rest, front) =>
    (String.ofList front.reverse, String.ofList rest.reverse)

/-- The first `n` characters. -/
def take (n : Nat) (s : String) : String :=
  String.ofList (s.toList.take n)

/-- The text without its first `n` characters. -/
def drop (n : Nat) (s : String) : String :=
  String.ofList (s.toList.drop n)

/-- The digits of `n`, with zeros in front up to `width` characters. -/
def padded (width n : Nat) : String :=
  let digits := Nat.toDigits 10 n
  String.ofList (List.replicate (width - digits.length) '0' ++ digits)

/-- The text with every line ended by a line feed. -/
def withLineFeeds : List Char → List Char
  | [] => []
  | '\r' :: '\n' :: s => '\n' :: withLineFeeds s
  | '\r' :: s => '\n' :: withLineFeeds s
  | c :: s => c :: withLineFeeds s

theorem after?_append (p s : List Char) : after? p (p ++ s) = some s := by
  induction p with
  | nil => cases s <;> rfl
  | cons a p ih => simp [after?, ih]

theorem eq_append_of_after? {p s rest : List Char} (h : after? p s = some rest) :
    s = p ++ rest := by
  induction p generalizing s with
  | nil => cases s <;> simp_all [after?]
  | cons a p ih =>
    cases s with
    | nil => simp [after?] at h
    | cons c s =>
      by_cases hac : a = c
      · subst hac
        rw [after?, if_pos rfl] at h
        simp [ih h]
      · simp [after?, hac] at h

theorem eq_append_of_cut? {sep s front rest : List Char} (h : cut? sep s = some (front, rest)) :
    s = front ++ sep ++ rest := by
  induction s generalizing front with
  | nil =>
    cases hsep : after? sep [] with
    | none => simp [cut?, hsep] at h
    | some r =>
      obtain ⟨rfl, rfl⟩ := by simpa [cut?, hsep] using h
      simpa using eq_append_of_after? hsep
  | cons c s ih =>
    cases hsep : after? sep (c :: s) with
    | some r =>
      obtain ⟨rfl, rfl⟩ := by simpa [cut?, hsep] using h
      simpa using eq_append_of_after? hsep
    | none =>
      cases hcut : cut? sep s with
      | none => simp [cut?, hsep, hcut] at h
      | some pair =>
        obtain ⟨front', rest'⟩ := pair
        obtain ⟨rfl, rfl⟩ := by simpa [cut?, hsep, hcut] using h
        simp [ih hcut]

end MetaSearch.Text
