import MetaSearch.Calendar.Absolute
import MetaSearch.Release.Basic
import MetaSearch.Release.Size
import MetaSearch.Release.Magnet
import MetaSearch.Site.Basic

/-!
# From rows to releases

A row holds what a site says about one release, field by field. `Row.release?` reads it: a row without a title,
or without any way to have the release, is none. A magnet link is made up from an info-hash where the site is
not private.
-/

namespace MetaSearch

/-- The fields found in one row, in the order in which they were found. -/
abbrev Row := List (String × Datum)

namespace Row

/-- The value of a field; null where the row has no such field. -/
def value (row : Row) (name : String) : Datum :=
  ((row.find? (·.1 == name)).map (·.2)).getD .null

/-- The text of a field without blanks around it. -/
def text (row : Row) (name : String) : String :=
  Text.strip (row.value name).asText

/-- The text of a field, where it is not blank. -/
def text? (row : Row) (name : String) : Option String :=
  let t := row.text name
  if t.isEmpty then none else some t

/-- The row with a field set: in place where it is there, else at the end. -/
def put (row : Row) (name : String) (value : Datum) : Row :=
  Fields.put name value row

end Row

/-- The time of publication that a value names, or `now`. -/
def publishDate (value : Datum) (now : Moment) : Except Fault Moment := do
  match value with
  | .null => return now
  | .stamp r => return ⟨r.ticks, r.offset.getD 0, r.inCalendar⟩
  | other => return (← Calendar.absolute? (Text.strip other.asText) none now).getD now

/-- The whole days from a moment to a later one; none where it is not later. -/
def wholeDays (published now : Moment) : Int :=
  max ((now.universalTicks - published.universalTicks).fdiv ticksPerDay) 0

namespace Row

/-- How a row's release can be had: the direct link, the magnet link and the info-hash. -/
structure Source where
  download : Option String
  magnet : Option String
  infoHash : Option String
  deriving DecidableEq, Repr

/-- How a row's release can be had. -/
def source (row : Row) (profile : SiteProfile) (title : String) : Source :=
  let download := row.text? "download"
  let magnet := row.text? "magnet"
  let infoHash := (row.text? "infohash").orElse fun _ => magnet.bind Magnet.infoHash?
  let made :=
    match download, magnet, infoHash with
    | none, none, some hash =>
      if profile.privacy = .members then none else some (Magnet.build hash title Magnet.publicTrackers)
    | _, magnet, _ => magnet
  ⟨download, made, infoHash⟩

/-- The number of leechers: the peers less the seeders where only those are given. -/
def leechers (row : Row) (seeders : Int) : Except Fault Int := do
  if (row.value "leechers").isNull && !(row.value "peers").isNull then
    return Count.believable (max ((← Count.read (row.value "peers")) - seeders) 0)
  else
    return Count.believable (← Count.read (row.value "leechers"))

/-- The release that a row describes. -/
def release? (row : Row) (profile : SiteProfile) (now : Moment) : Except Fault (Option Release) := do
  let title := row.text "title"
  if title.isEmpty then return none
  let source := row.source profile title
  match source.magnet.orElse fun _ => source.download with
  | none => return none
  | some link =>
    let size ← Size.read (row.value "size")
    let seeders := Count.believable (← Count.read (row.value "seeders"))
    let leechers ← row.leechers seeders
    let published ← publishDate (row.value "date") now
    let siteCategory := row.text "category"
    let description := (row.text? "description").getD siteCategory
    let sizeText ← Size.text size
    let timestamp ← published.timestamp
    let grabs ← Count.read (row.value "grabs")
    let code ← Category.codeOfSite (.text siteCategory) profile.mappings
    return some
      { title, downloadUrl := link, guid := (row.text? "details").getD link,
        indexerId := profile.indexerId, indexerName := profile.indexerName, size, sizeText,
        published := timestamp, age := wholeDays published now, seeders, leechers, grabs,
        detailsUrl := row.text? "details", magnetUrl := source.magnet, description, siteCategory,
        categories := [(code : Int)], isInternal := Text.startsWith description "Internal",
        infoHash := source.infoHash, protocol := profile.protocol, priority := profile.priority }

end Row

end MetaSearch
