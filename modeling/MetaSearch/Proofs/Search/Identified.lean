import MetaSearch.Search.Key
import MetaSearch.Proofs.Sequence.Distinct
import MetaSearch.Proofs.Text.Parts

/-!
# What the key of a search tells apart

The key of a search is the digest of one text: the query, the ids of the indexers and the numbers of the categories,
with a bar between the three and a comma between the ids and between the numbers.  Nothing is escaped.  The numbers
can be read back whatever else stands there, since a number is spelled without bars and commas.  The query and the
ids cannot: a comma within an id reads like two ids, and a bar within an id can read like the end of the query.

`Sought.Confused` lists the ways in which two different searches can have one text, and `key_tells_apart` shows that
there are no others.
-/

namespace MetaSearch

/-! ## Distinct items in order -/

section Order

variable {α : Type} [BEq α] [LawfulBEq α] {le : α → α → Bool}

/-- Sorting and leaving out repetitions keeps the items. -/
theorem mem_distinctSorted {x : α} {xs : List α} : x ∈ distinctSorted le xs ↔ x ∈ xs := by
  rw [distinctSorted, List.mem_eraseDups, List.mem_mergeSort]

/-- Two lists have the same distinct items in order exactly when they have the same items. -/
theorem distinctSorted_eq_iff (htrans : ∀ a b c, le a b → le b c → le a c)
    (htotal : ∀ a b, (le a b || le b a) = true) (hanti : ∀ a b, le a b → le b a → a = b) {xs ys : List α} :
    distinctSorted le xs = distinctSorted le ys ↔ ∀ x, x ∈ xs ↔ x ∈ ys := by
  have hsorted : ∀ zs : List α, (distinctSorted le zs).Pairwise fun a b => le a b = true := fun zs =>
    (List.pairwise_mergeSort htrans htotal zs).sublist (eraseDups_sublist _)
  constructor
  · intro h x
    have hleft : x ∈ distinctSorted le xs ↔ x ∈ xs := mem_distinctSorted
    have hright : x ∈ distinctSorted le ys ↔ x ∈ ys := mem_distinctSorted
    rw [← hleft, ← hright, h]
  · intro h
    have hperm : (distinctSorted le xs).Perm (distinctSorted le ys) :=
      (List.perm_ext_iff_of_nodup (nodup_eraseDups _) (nodup_eraseDups _)).mpr fun x => by
        rw [← distinctSorted, ← distinctSorted, mem_distinctSorted, mem_distinctSorted, h x]
    exact hperm.eq_of_pairwise (fun a b _ _ => hanti a b) (hsorted xs) (hsorted ys)

end Order

/-- Ids in order are the same exactly when the sets of ids are. -/
theorem distinctSorted_ids_eq_iff {xs ys : List String} :
    distinctSorted (fun a b => a ≤ b) xs = distinctSorted (fun a b => a ≤ b) ys ↔ ∀ x, x ∈ xs ↔ x ∈ ys :=
  distinctSorted_eq_iff (by simpa using fun _ _ _ => String.le_trans) (by simpa using String.le_total)
    (by simpa using fun _ _ => String.le_antisymm)

/-- Numbers in order are the same exactly when the sets of numbers are. -/
theorem distinctSorted_numbers_eq_iff {xs ys : List Int} :
    distinctSorted (fun a b => a ≤ b) xs = distinctSorted (fun a b => a ≤ b) ys ↔ ∀ x, x ∈ xs ↔ x ∈ ys :=
  distinctSorted_eq_iff (by simpa using fun _ _ _ => Int.le_trans) (by simpa using Int.le_total)
    (by simpa using fun _ _ => Int.le_antisymm)

/-! ## Texts with a mark between them -/

section Marks

variable {mark : Char}

/-- Parts that are neither empty nor hold the mark between them can be read back. -/
theorem intercalate_inj {xs ys : List (List Char)} (hx : ∀ x ∈ xs, x ≠ [] ∧ mark ∉ x)
    (hy : ∀ y ∈ ys, y ≠ [] ∧ mark ∉ y) : [mark].intercalate xs = [mark].intercalate ys ↔ xs = ys := by
  -- nothing but no part at all leaves nothing
  have hempty : ∀ {zs : List (List Char)}, (∀ z ∈ zs, z ≠ [] ∧ mark ∉ z) → [mark].intercalate zs = [] → zs = [] := by
    intro zs hz h
    cases zs with
    | nil => rfl
    | cons z rest =>
        cases rest with
        | nil => exact absurd (by simpa using h) (hz z (by simp)).1
        | cons => simp at h
  refine ⟨fun h => ?_, fun h => by rw [h]⟩
  by_cases hxs : xs = []
  · subst hxs
    exact (hempty hy h.symm).symm
  · by_cases hys : ys = []
    · subst hys
      exact hempty hx h
    · rw [← List.splitOn_intercalate mark (fun x hmem => (hx x hmem).2) hxs, h,
        List.splitOn_intercalate mark (fun y hmem => (hy y hmem).2) hys]

/-- Two texts around a mark can be read back, but for a part that may belong to either of them. -/
theorem append_mark_eq_iff {front front' back back' : List Char} :
    front ++ mark :: back = front' ++ mark :: back' ↔
      (front = front' ∧ back = back') ∨
        (∃ part, front = front' ++ mark :: part ∧ back' = part ++ mark :: back) ∨
        (∃ part, front' = front ++ mark :: part ∧ back = part ++ mark :: back') := by
  constructor
  · intro h
    rcases List.append_eq_append_iff.mp h with ⟨between, hfront, htail⟩ | ⟨between, hfront, htail⟩
    · cases between with
      | nil => exact .inl ⟨by simpa using hfront.symm, by simpa using htail⟩
      | cons c between =>
          obtain ⟨rfl, hback⟩ := List.cons.inj htail
          exact .inr (.inr ⟨between, hfront, hback⟩)
    · cases between with
      | nil => exact .inl ⟨by simpa using hfront, by simpa using htail.symm⟩
      | cons c between =>
          obtain ⟨rfl, hback⟩ := List.cons.inj htail
          exact .inr (.inl ⟨between, hfront, hback⟩)
  · rintro (⟨rfl, rfl⟩ | ⟨part, rfl, rfl⟩ | ⟨part, rfl, rfl⟩)
    all_goals simp

/-- What stands behind the last mark of a text can be read back. -/
theorem append_mark_inj {front front' back back' : List Char} (hback : mark ∉ back) (hback' : mark ∉ back') :
    front ++ mark :: back = front' ++ mark :: back' ↔ front = front' ∧ back = back' := by
  rw [append_mark_eq_iff]
  refine or_iff_left ?_
  rintro (⟨part, -, rfl⟩ | ⟨part, -, rfl⟩)
  · exact hback' (by simp)
  · exact hback (by simp)

end Marks

/-! ## Numbers as they are written -/

/-- The digits of a number are digits. -/
theorem isDigit_of_mem_repr {n : Nat} {c : Char} (h : c ∈ n.repr.toList) : c.isDigit = true :=
  Nat.isDigit_of_mem_toDigits (b := 10) (by decide) (by decide) (Nat.toList_repr ▸ h)

/-- A number is written with digits and a minus. -/
theorem isDigit_or_minus_of_mem_toString {i : Int} {c : Char} (h : c ∈ (toString i).toList) :
    c.isDigit = true ∨ c = '-' := by
  rw [Int.toString_eq_repr, Int.repr_eq_if] at h
  split at h
  · exact .inl (isDigit_of_mem_repr h)
  · rw [String.toList_append, List.mem_append] at h
    rcases h with h | h
    · exact .inr (by simpa using h)
    · exact .inl (isDigit_of_mem_repr h)

/-- Neither commas nor bars stand in a number. -/
theorem not_mem_toString (i : Int) : ',' ∉ (toString i).toList ∧ '|' ∉ (toString i).toList := by
  constructor
  all_goals
    intro hmem
    rcases isDigit_or_minus_of_mem_toString hmem with h | h
    · exact absurd h (by decide)
    · exact absurd h (by decide)

/-- A number is written with at least one digit. -/
theorem toList_toString_ne_nil (i : Int) : (toString i).toList ≠ [] := by
  rw [Int.toString_eq_repr, Int.repr_eq_if]
  split <;> simp

/-- Whole numbers are written differently. -/
theorem nat_eq_of_repr_eq {m n : Nat} (h : m.repr = n.repr) : m = n := by
  rw [← Nat.ofDigitChars_ten_toDigits (n := m), ← Nat.toList_repr, h, Nat.toList_repr, Nat.ofDigitChars_ten_toDigits]

/-- Numbers are written differently. -/
theorem int_eq_of_toString_eq {i j : Int} (h : toString i = toString j) : i = j := by
  -- a minus is no digit
  have hminus : ∀ m n : Nat, m.repr ≠ "-" ++ n.repr := fun m n heq => by
    have hdigit := isDigit_of_mem_repr (n := m) (c := '-') (by simp [heq])
    exact absurd hdigit (by decide)
  rw [Int.toString_eq_repr, Int.toString_eq_repr, Int.repr_eq_if, Int.repr_eq_if] at h
  split at h <;> split at h
  · have := nat_eq_of_repr_eq h
    omega
  · exact absurd h (hminus _ _)
  · exact absurd h.symm (hminus _ _)
  · have := nat_eq_of_repr_eq (String.append_right_inj _ |>.mp h)
    omega

/-! ## The three parts of a key -/

/-- The digest of a text as far as a key holds it. -/
def shortDigest (text : String) : List Char :=
  (Sha256.hexDigest (Utf8.encode text.toList)).toList.take 16

/-- What a search is known by: its query, the indexers asked and the categories sent along. -/
structure Sought where
  query : String
  indexerIds : List String
  categories : List Int

namespace Sought

variable {a b : Sought}

/-- The query but for case and the blanks around it. -/
def words (a : Sought) : String :=
  Text.fold (Text.strip a.query)

/-- The ids as they stand in what the key is the digest of. -/
def idText (a : Sought) : String :=
  ",".intercalate (distinctSorted (fun i j => i ≤ j) a.indexerIds)

/-- The categories as they stand in what the key is the digest of. -/
def categoryText (a : Sought) : String :=
  ",".intercalate ((distinctSorted (fun c d => c ≤ d) a.categories).map fun c => toString c)

/-- What the key is the digest of. -/
def identity (a : Sought) : String :=
  searchIdentity a.query a.indexerIds a.categories

/-- The key of the search. -/
def key (a : Sought) : String :=
  searchKey a.query a.indexerIds a.categories

/-- Two searches are one: the same words in the same indexers and categories. -/
structure Same (a b : Sought) : Prop where
  words : a.words = b.words
  indexers : ∀ id, id ∈ a.indexerIds ↔ id ∈ b.indexerIds
  categories : ∀ c, c ∈ a.categories ↔ c ∈ b.categories

/-- The words of one search go on, behind a bar, with what the ids of the other begin with in front of a bar. -/
def Leans (a b : Sought) : Prop :=
  ∃ part, a.words = b.words ++ "|" ++ part ∧ b.idText = part ++ "|" ++ a.idText

/-- Two different searches that read alike: other ids that make up the same text, or a part between two bars that is
the end of one's words and the beginning of the other's ids. -/
structure Confused (a b : Sought) : Prop where
  categories : ∀ c, c ∈ a.categories ↔ c ∈ b.categories
  parts : (a.words = b.words ∧ a.idText = b.idText ∧ ¬ ∀ id, id ∈ a.indexerIds ↔ id ∈ b.indexerIds) ∨
    Leans a b ∨ Leans b a

/-- Every id is a text without commas and bars. -/
def Plain (a : Sought) : Prop :=
  ∀ id ∈ a.indexerIds, id ≠ "" ∧ ',' ∉ id.toList ∧ '|' ∉ id.toList

/-! ## Ids and categories -/

theorem toList_idText (a : Sought) :
    a.idText.toList = [','].intercalate ((distinctSorted (fun i j => i ≤ j) a.indexerIds).map String.toList) := by
  rw [idText, String.toList_intercalate]
  rfl

theorem toList_categoryText (a : Sought) :
    a.categoryText.toList =
      [','].intercalate ((distinctSorted (fun c d => c ≤ d) a.categories).map fun c => (toString c).toList) := by
  rw [categoryText, String.toList_intercalate, List.map_map]
  rfl

/-- Plain ids can be read back from their text. -/
theorem idText_eq_iff (ha : a.Plain) (hb : b.Plain) :
    a.idText = b.idText ↔ ∀ id, id ∈ a.indexerIds ↔ id ∈ b.indexerIds := by
  have hplain : ∀ {c : Sought}, c.Plain →
      ∀ x ∈ (distinctSorted (fun i j => i ≤ j) c.indexerIds).map String.toList, x ≠ [] ∧ ',' ∉ x := by
    intro c hc x hx
    obtain ⟨id, hid, rfl⟩ := List.mem_map.mp hx
    obtain ⟨hne, hcomma, -⟩ := hc id (mem_distinctSorted.mp hid)
    exact ⟨by simpa using hne, hcomma⟩
  rw [← String.toList_inj, toList_idText, toList_idText, intercalate_inj (hplain ha) (hplain hb),
    (List.map_injective_iff.mpr fun _ _ => String.toList_inj.mp).eq_iff, distinctSorted_ids_eq_iff]

/-- Plain ids bring no bar into the text of the ids. -/
theorem bar_not_mem_idText (ha : a.Plain) : '|' ∉ a.idText.toList := by
  rw [toList_idText]
  intro hmem
  rcases Text.mem_intercalate hmem with h | ⟨part, hpart, h⟩
  · simp at h
  · obtain ⟨id, hid, rfl⟩ := List.mem_map.mp hpart
    exact (ha id (mem_distinctSorted.mp hid)).2.2 h

/-- Categories can be read back from their text. -/
theorem categoryText_eq_iff : a.categoryText = b.categoryText ↔ ∀ c, c ∈ a.categories ↔ c ∈ b.categories := by
  have hplain : ∀ {c : Sought}, ∀ x ∈ (distinctSorted (fun i j => i ≤ j) c.categories).map
      fun i : Int => (toString i).toList, x ≠ [] ∧ ',' ∉ x := by
    intro c x hx
    obtain ⟨i, -, rfl⟩ := List.mem_map.mp hx
    exact ⟨toList_toString_ne_nil i, (not_mem_toString i).1⟩
  have hinj : Function.Injective fun i : Int => (toString i).toList := fun _ _ h =>
    int_eq_of_toString_eq (String.toList_inj.mp h)
  rw [← String.toList_inj, toList_categoryText, toList_categoryText, intercalate_inj hplain hplain,
    (List.map_injective_iff.mpr hinj).eq_iff, distinctSorted_numbers_eq_iff]

/-- No bar stands in the text of the categories. -/
theorem bar_not_mem_categoryText (a : Sought) : '|' ∉ a.categoryText.toList := by
  rw [toList_categoryText]
  intro hmem
  rcases Text.mem_intercalate hmem with h | ⟨part, hpart, h⟩
  · simp at h
  · obtain ⟨i, -, rfl⟩ := List.mem_map.mp hpart
    exact (not_mem_toString i).2 h

/-! ## The whole key -/

theorem toList_identity (a : Sought) :
    a.identity.toList = (a.words.toList ++ '|' :: a.idText.toList) ++ '|' :: a.categoryText.toList := by
  simp [identity, searchIdentity, words, idText, categoryText]

theorem leans_iff :
    Leans a b ↔ ∃ part, a.words.toList = b.words.toList ++ '|' :: part ∧
      b.idText.toList = part ++ '|' :: a.idText.toList := by
  constructor
  · rintro ⟨part, hwords, hids⟩
    exact ⟨part.toList, by simp [hwords], by simp [hids]⟩
  · rintro ⟨part, hwords, hids⟩
    exact ⟨String.ofList part, String.toList_inj.mp (by simp [hwords]), String.toList_inj.mp (by simp [hids])⟩

/-- Two searches have one text exactly when their categories are the same and their words and ids are, or lean on each
other. -/
theorem identity_eq_iff :
    a.identity = b.identity ↔
      (∀ c, c ∈ a.categories ↔ c ∈ b.categories) ∧
        ((a.words = b.words ∧ a.idText = b.idText) ∨ Leans a b ∨ Leans b a) := by
  rw [← String.toList_inj, toList_identity, toList_identity,
    append_mark_inj (bar_not_mem_categoryText a) (bar_not_mem_categoryText b), append_mark_eq_iff, String.toList_inj,
    String.toList_inj, String.toList_inj, categoryText_eq_iff, leans_iff, leans_iff, and_comm]

/-- Two searches have one text exactly when they are one or are confused. -/
theorem identity_eq_iff_same_or_confused : a.identity = b.identity ↔ Same a b ∨ Confused a b := by
  rw [identity_eq_iff]
  constructor
  · rintro ⟨hcategories, ⟨hwords, hids⟩ | hleans⟩
    · by_cases hsame : ∀ id, id ∈ a.indexerIds ↔ id ∈ b.indexerIds
      · exact .inl ⟨hwords, hsame, hcategories⟩
      · exact .inr ⟨hcategories, .inl ⟨hwords, hids, hsame⟩⟩
    · exact .inr ⟨hcategories, .inr hleans⟩
  · rintro (⟨hwords, hindexers, hcategories⟩ | ⟨hcategories, ⟨hwords, hids, -⟩ | hleans⟩)
    · refine ⟨hcategories, .inl ⟨hwords, ?_⟩⟩
      rw [idText, idText, distinctSorted_ids_eq_iff.mpr hindexers]
    · exact ⟨hcategories, .inl ⟨hwords, hids⟩⟩
    · exact ⟨hcategories, .inr hleans⟩

/-- The words of a search that leans on another are longer. -/
theorem Leans.words_ne (h : Leans a b) : a.words ≠ b.words := by
  obtain ⟨part, hwords, -⟩ := leans_iff.mp h
  intro heq
  simpa [heq] using congrArg List.length hwords

/-- No search is confused with itself. -/
theorem Confused.not_same (h : Confused a b) : ¬ Same a b := by
  rintro ⟨hwords, hindexers, -⟩
  rcases h.parts with ⟨-, -, hdiffer⟩ | hleans | hleans
  · exact hdiffer hindexers
  · exact hleans.words_ne hwords
  · exact hleans.words_ne hwords.symm

/-- Searches of plain ids are not confused. -/
theorem Plain.not_confused (ha : a.Plain) (hb : b.Plain) : ¬ Confused a b := by
  -- the ids of the search that is leant on hold a bar
  have hleans : ∀ {c d : Sought}, d.Plain → ¬ Leans c d := by
    intro c d hd h
    obtain ⟨part, -, hids⟩ := leans_iff.mp h
    exact bar_not_mem_idText hd (by simp [hids])
  rintro ⟨-, ⟨-, hids, hdiffer⟩ | h | h⟩
  · exact hdiffer ((idText_eq_iff ha hb).mp hids)
  · exact hleans hb h
  · exact hleans ha h

/-- **Where the digest tells their two texts apart, two searches have one key exactly when they are the same or are
confused**, never both; and of searches whose ids are plain, whatever their queries are, only the same have one key. -/
theorem key_tells_apart (a b : Sought)
    (hdigest : shortDigest a.identity = shortDigest b.identity → a.identity = b.identity) :
    (a.key = b.key ↔ Same a b ∨ Confused a b) ∧ ¬ (Same a b ∧ Confused a b) ∧
      (a.Plain → b.Plain → (a.key = b.key ↔ Same a b)) := by
  have hkey : a.key = b.key ↔ Same a b ∨ Confused a b := by
    rw [← identity_eq_iff_same_or_confused]
    constructor
    · intro h
      have hshort := (String.append_right_inj _).mp h
      exact hdigest (String.ofList_injective hshort)
    · intro h
      rw [key, key, searchKey, searchKey, ← identity, ← identity, h]
  refine ⟨hkey, fun ⟨hsame, hconfused⟩ => hconfused.not_same hsame, fun ha hb => ?_⟩
  rw [hkey]
  exact or_iff_left (ha.not_confused hb)

/-- A search for the bunny in one indexer. -/
def oneIndexer : Sought :=
  { query := " Bunny ", indexerIds := ["a"], categories := [2000] }

/-- The search for the bunny in two indexers. -/
def twoIndexers : Sought :=
  { query := "bunny", indexerIds := ["a", "b"], categories := [2000] }

/-- Where one indexer is asked and where two are, the texts and the digests differ, the ids are plain, and so do the
keys. -/
theorem key_tells_apart_bunny :
    shortDigest oneIndexer.identity ≠ shortDigest twoIndexers.identity ∧
      oneIndexer.Plain ∧ twoIndexers.Plain ∧ (oneIndexer.key = twoIndexers.key ↔ Same oneIndexer twoIndexers) := by
  have hone : oneIndexer.identity = "bunny|a|2000" := by decide +kernel
  have htwo : twoIndexers.identity = "bunny|a,b|2000" := by
    have hsorted : twoIndexers.indexerIds.mergeSort (fun a b => a ≤ b) = ["a", "b"] :=
      List.mergeSort_of_pairwise (by decide)
    have hwords : Text.fold (Text.strip twoIndexers.query) = "bunny" := by decide +kernel
    rw [identity, searchIdentity, distinctSorted, hsorted, hwords]
    decide +kernel
  have hdigest : shortDigest oneIndexer.identity ≠ shortDigest twoIndexers.identity := by
    rw [hone, htwo]
    decide +kernel
  have hplain : oneIndexer.Plain := by simp [Plain, oneIndexer]
  have hplain' : twoIndexers.Plain := by simp [Plain, twoIndexers]
  exact ⟨hdigest, hplain, hplain',
    (key_tells_apart oneIndexer twoIndexers fun h => absurd h hdigest).2.2 hplain hplain'⟩

/-- A search in an indexer whose id has a bar. -/
def barred : Sought :=
  { query := "a", indexerIds := ["b|c"], categories := [] }

/-- The search for what reads the same, in another indexer. -/
def barredWords : Sought :=
  { query := "a|b", indexerIds := ["c"], categories := [] }

/-- A bar in a query and a bar in an id are taken for one another: the two searches are of different words in different
indexers, and have one key. -/
theorem key_barred :
    barred.key = barredWords.key ∧ barred.words ≠ barredWords.words ∧
      ¬ (∀ id, id ∈ barred.indexerIds ↔ id ∈ barredWords.indexerIds) ∧ ¬ Same barred barredWords := by
  have hidentity : barred.identity = barredWords.identity := by decide +kernel
  have hwords : barred.words ≠ barredWords.words := by decide +kernel
  refine ⟨by rw [key, key, searchKey, searchKey, ← identity, ← identity, hidentity], hwords, fun h => ?_,
    fun h => hwords h.words⟩
  simpa [barred, barredWords] using h "c"

end Sought

end MetaSearch
