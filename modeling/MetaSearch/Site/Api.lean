import MetaSearch.Release.Row

/-!
# Fixed answer formats

Three sites answer in formats of their own, each read by a rule of its own. What does not have the expected form
is passed over; a field counts as absent when it holds nothing of note.
-/

namespace MetaSearch.Api

/-- The codes of the numbers under which one site files releases. -/
def numberedCategories : List (Int × Nat) :=
  [(100, 3000), (101, 3010), (104, 3040), (200, 2000), (201, 2000), (202, 2030), (205, 5000), (207, 2040),
   (208, 5040), (209, 2060), (300, 4000), (301, 4010), (302, 4030), (400, 1000), (401, 4050), (500, 6000),
   (600, 8000), (601, 7000), (602, 7030)]

/-- The code of a site category number; one that is not listed counts as its hundred. -/
def codeOfNumber (number : Int) : Nat :=
  (numberedCategories.lookup number).getD
    ((numberedCategories.lookup (number.fdiv 100 * 100)).getD Category.other)

/-- The code of a site category. -/
def codeOfCategory (category : Datum) : Nat :=
  match Numeral.int? (Text.strip category.printed) with
  | some number => codeOfNumber number
  | none => Category.other

/-- The value of a key; null where there is none. -/
def field (d : Datum) (name : String) : Datum :=
  (d.get? name).getD .null

/-- The first of two values, unless it holds nothing of note. -/
def either (a b : Datum) : Datum :=
  if a.isTruthy then a else b

/-- The text of a value; empty where it holds nothing of note. -/
def noted (d : Datum) : String :=
  if d.isTruthy then d.printed else ""

/-- A text, or null where it is empty. -/
def ofText (s : String) : Datum :=
  if s.isEmpty then .null else .text s

/-- The text of a value that is there, also of one that holds nothing of note. -/
def dated : Datum → Datum
  | .null => .null
  | d => .text d.printed

/-- The row of one entry of a plain list. The entry with identifier 0 says that there are no others. -/
def listedRow? (detailsBase : String) (d : Datum) : Option Row :=
  match d with
  | .map _ =>
    let id := noted (field d "id")
    let name := either (field d "name") (.text "")
    if id.isEmpty || id == "0" || !name.isTruthy then none
    else
      some
        [("title", name), ("infohash", either (field d "info_hash") .null), ("size", field d "size"),
         ("seeders", field d "seeders"), ("leechers", field d "leechers"),
         ("date", ofText (noted (field d "added"))),
         ("details", .text (detailsBase ++ "/description.php?id=" ++ id)),
         ("category", .text (toString (codeOfCategory (field d "category"))))]
  | _ => none

/-- The rows of an answer that is a plain list of entries. -/
def listedRows (answer : Datum) (base : String) : List Row :=
  match answer with
  | .list entries =>
    entries.filterMap (listedRow? (String.ofList (Text.dropEndWhile (· == '/') base.toList)))
  | _ => []

/-- The row of one episode. -/
def episodeRow? (d : Datum) : Option Row :=
  match d with
  | .map _ =>
    some
      [("title", either (field d "title") (field d "filename")),
       ("infohash", either (field d "hash") (field d "info_hash")),
       ("magnet", field d "magnet_url"), ("download", field d "torrent_url"),
       ("details", field d "episode_url"), ("size", either (field d "size_bytes") (field d "size")),
       ("seeders", (d.get? "seeds").getD (field d "seeders")), ("peers", field d "peers"),
       ("date", dated (either (field d "date_released_unix") (field d "date_released"))),
       ("category", .text "TV")]
  | _ => none

/-- The rows of an answer that lists episodes under `torrents`. -/
def episodeRows (answer : Datum) : List Row :=
  match answer.get? "torrents" with
  | some (.list entries) => entries.filterMap episodeRow?
  | _ => []

/-- The codes of the qualities in which films come. -/
def qualityCategories : List (String × Nat) :=
  [("2160p", 2045), ("1080p", 2040), ("720p", 2040), ("3d", 2060)]

/-- The title of one version of a film: its name with the quality and the kind in brackets. -/
def versionTitle (name quality kind : String) : String :=
  let label := ".".intercalate ([quality, kind].filter fun part => !part.isEmpty)
  if label.isEmpty then name else name ++ " [" ++ label ++ "]"

/-- The row of one version of a film. -/
def versionRow? (film name : Datum) (d : Datum) : Option Row :=
  match d with
  | .map _ =>
    let quality := Text.strip (noted (field d "quality"))
    let title := versionTitle name.printed quality (noted (field d "type"))
    let hash := field d "hash"
    some
      [("title", .text title), ("infohash", either hash .null),
       ("magnet",
         if hash.isTruthy then .text (Magnet.build hash.printed title Magnet.publicTrackers) else .null),
       ("download", field d "url"), ("details", field film "url"),
       ("size", either (field d "size_bytes") (field d "size")),
       ("seeders", field d "seeds"), ("peers", field d "peers"),
       ("date", dated (either (field d "date_uploaded_unix") (field d "date_uploaded"))),
       ("category", .text (toString ((qualityCategories.lookup (Text.fold quality)).getD 2000)))]
  | _ => none

/-- The rows of one film, one for each version. -/
def filmRows (film : Datum) : List Row :=
  match film.get? "torrents" with
  | some (.list versions) =>
    let name := either (field film "title_long") (either (field film "title_english") (field film "title"))
    if name.isTruthy then versions.filterMap (versionRow? film name) else []
  | _ => []

/-- The rows of an answer that lists films under `data` and `movies`. -/
def versionRows (answer : Datum) : List Row :=
  match (answer.get? "data").bind (·.get? "movies") with
  | some (.list films) => films.flatMap filmRows
  | _ => []

end MetaSearch.Api
