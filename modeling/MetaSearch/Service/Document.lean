import MetaSearch.Search.Indexer
import MetaSearch.Search.Merged
import MetaSearch.Site.Registry

/-!
# What is shown

Releases, pages of results, indexers and reports, as documents for those who ask over the web.
-/

namespace MetaSearch

/-- A text that may be absent. -/
def Datum.optionalText : Option String → Datum
  | some s => .text s
  | none => .null

/-- A release, shown. -/
def Release.document (r : Release) : Datum :=
  .object
    [("title", .text r.title), ("download_url", .text r.downloadUrl), ("guid", .text r.guid),
     ("indexer_id", .text r.indexerId), ("indexer_name", .text r.indexerName), ("size", .int r.size),
     ("size_formatted", .text r.sizeText), ("publish_date", .text r.published), ("age", .int r.age),
     ("seeders", .int r.seeders), ("leechers", .int r.leechers), ("grabs", .int r.grabs),
     ("details_url", .optionalText r.detailsUrl), ("magnet_url", .optionalText r.magnetUrl),
     ("description", .text r.description), ("category", .text r.siteCategory),
     ("categories", .list (r.categories.map .int)), ("internal", .bool r.isInternal),
     ("infohash", .optionalText r.infoHash), ("protocol", .text r.protocol), ("indexer_priority", .int r.priority),
     ("peers", .int r.peers)]

/-- What one indexer contributed, shown. -/
def Summary.document (s : Summary) : Datum :=
  .object [("indexer_id", .text s.indexerId), ("indexer_name", .text s.indexerName), ("result_count", .int s.count),
    ("success", .bool s.isSuccess), ("error", .optionalText s.error)]

/-- Why one indexer contributed nothing, shown. -/
def SearchError.document (e : SearchError) : Datum :=
  .object [("indexer_id", .text e.indexerId), ("indexer_name", .text e.indexerName), ("kind", .text e.kind.name),
    ("message", .text e.message)]

/-- A page of results, shown. -/
def ResultPage.document (p : ResultPage) : Datum :=
  .object
    [("results", .list (p.releases.map Release.document)), ("total", .int p.total), ("limit", .int p.limit),
     ("offset", .int p.offset), ("indexers", .list (p.summaries.map Summary.document)),
     ("errors", .list (p.errors.map SearchError.document)), ("cached", .bool p.cached)]

/-- What is told about an indexer, shown. -/
def IndexerInfo.document (i : IndexerInfo) : Datum :=
  .object
    [("id", .text i.id), ("name", .text i.name), ("source", .text i.source), ("type", .text i.privacy),
     ("protocol", .text i.protocol), ("priority", .int i.priority), ("links", .texts i.links),
     ("categories", .list (i.categories.map .int)), ("description", .text i.description),
     ("language", .text i.language)]

/-- The counts of a registry, shown. -/
def RegistryCounts.fields (c : RegistryCounts) : List (String × Datum) :=
  [("total", .int c.total), ("public", .int c.everyone), ("semi_private", .int c.invited), ("private", .int c.members),
   ("loaded", .int c.loaded), ("failed", .int c.failed)]

/-- The indexers that can be searched and the counts of the registry, shown. -/
def indexersDocument (infos : List IndexerInfo) (counts : RegistryCounts) : Datum :=
  .object [("indexers", .list (infos.map IndexerInfo.document)),
    ("stats", .object (counts.fields ++ [("active", .int infos.length)]))]

/-- What became of the files of a registry, shown. -/
def Registry.report (r : Registry) : Datum :=
  .object
    [("loaded", .int r.counts.loaded), ("failed", .int r.counts.failed),
     ("failures", .list (r.failures.map fun f =>
        .object [("source", .text ("/".intercalate f.source)), ("reasons", .texts f.reasons)]))]

/-- A category, shown. -/
def Category.document (c : Category) : Datum :=
  .object [("id", .int c.id), ("name", .text c.name),
    ("parent_id", match c.parent with
      | some p => .int p
      | none => .null)]

end MetaSearch
