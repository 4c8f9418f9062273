import MetaSearch.Category.Basic

/-!
# Releases

A release is one entry of an answer to a search: what it is called, where it can be had, how large and how old it
is, and which indexer found it.
-/

namespace MetaSearch

/-- One found release. -/
structure Release where
  title : String
  /-- The magnet link where there is one, else the direct link. -/
  downloadUrl : String
  guid : String
  indexerId : String
  indexerName : String
  /-- The size in bytes. -/
  size : Int := 0
  sizeText : String := "0 B"
  /-- The day and time of publication as a timestamp. -/
  published : String := ""
  /-- Whole days since publication. -/
  age : Int := 0
  seeders : Int := 0
  leechers : Int := 0
  grabs : Int := 0
  detailsUrl : Option String := none
  magnetUrl : Option String := none
  description : String := ""
  /-- The site's own category. -/
  siteCategory : String := ""
  /-- Codes of the categories it is filed under. -/
  categories : List Int := [(Category.other : Int)]
  isInternal : Bool := false
  infoHash : Option String := none
  protocol : String := "torrent"
  priority : Int := 25
  deriving DecidableEq, Repr, Inhabited

namespace Release

/-- All who share the release, complete or not. -/
def peers (r : Release) : Int := r.seeders + r.leechers

/-- Whether a release is filed under one of the wanted codes; no codes want everything. -/
def isFiledUnder (codes : List Int) (r : Release) : Bool :=
  codes.isEmpty || r.categories.any codes.contains

end Release

end MetaSearch
