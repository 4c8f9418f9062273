import MetaSearch.Text.Basic
import MetaSearch.Text.Blank
import MetaSearch.Text.Letter

/-!
# Categories

The categories under which indexers file releases. A family has a code of its own, a multiple of a thousand,
and its members carry the family's name before a slash. A name that is not in the table counts as its family,
and as `Other` where the family is unknown too.
-/

namespace MetaSearch

/-- A category with its code and the code of the family it belongs to. -/
structure Category where
  id : Nat
  name : String
  parent : Option Nat
  deriving DecidableEq, Repr

namespace Category

/-- The categories in the order of the families. -/
def all : List Category :=
  [⟨1000, "Console", none⟩, ⟨1010, "Console/NDS", some 1000⟩, ⟨1020, "Console/PSP", some 1000⟩,
   ⟨1030, "Console/Wii", some 1000⟩, ⟨1040, "Console/XBox", some 1000⟩,
   ⟨1050, "Console/XBox 360", some 1000⟩, ⟨1060, "Console/Wiiware", some 1000⟩,
   ⟨1070, "Console/XBox 360 DLC", some 1000⟩, ⟨1080, "Console/PS3", some 1000⟩,
   ⟨1090, "Console/Other", some 1000⟩, ⟨1110, "Console/3DS", some 1000⟩,
   ⟨1120, "Console/PS Vita", some 1000⟩, ⟨1130, "Console/WiiU", some 1000⟩,
   ⟨1140, "Console/XBox One", some 1000⟩, ⟨1180, "Console/PS4", some 1000⟩, ⟨2000, "Movies", none⟩,
   ⟨2010, "Movies/Foreign", some 2000⟩, ⟨2020, "Movies/Other", some 2000⟩, ⟨2030, "Movies/SD", some 2000⟩,
   ⟨2040, "Movies/HD", some 2000⟩, ⟨2045, "Movies/UHD", some 2000⟩, ⟨2050, "Movies/BluRay", some 2000⟩,
   ⟨2060, "Movies/3D", some 2000⟩, ⟨2070, "Movies/DVD", some 2000⟩, ⟨2080, "Movies/WEB-DL", some 2000⟩,
   ⟨2090, "Movies/x265", some 2000⟩, ⟨3000, "Audio", none⟩, ⟨3010, "Audio/MP3", some 3000⟩,
   ⟨3020, "Audio/Video", some 3000⟩, ⟨3030, "Audio/Audiobook", some 3000⟩,
   ⟨3040, "Audio/Lossless", some 3000⟩, ⟨3050, "Audio/Other", some 3000⟩,
   ⟨3060, "Audio/Foreign", some 3000⟩, ⟨4000, "PC", none⟩, ⟨4010, "PC/0day", some 4000⟩,
   ⟨4020, "PC/ISO", some 4000⟩, ⟨4030, "PC/Mac", some 4000⟩, ⟨4040, "PC/Mobile-Other", some 4000⟩,
   ⟨4050, "PC/Games", some 4000⟩, ⟨4060, "PC/Mobile-iOS", some 4000⟩,
   ⟨4070, "PC/Mobile-Android", some 4000⟩, ⟨5000, "TV", none⟩, ⟨5010, "TV/WEB-DL", some 5000⟩,
   ⟨5020, "TV/Foreign", some 5000⟩, ⟨5030, "TV/SD", some 5000⟩, ⟨5040, "TV/HD", some 5000⟩,
   ⟨5045, "TV/UHD", some 5000⟩, ⟨5050, "TV/Other", some 5000⟩, ⟨5060, "TV/Sport", some 5000⟩,
   ⟨5070, "TV/Anime", some 5000⟩, ⟨5080, "TV/Documentary", some 5000⟩, ⟨5090, "TV/x265", some 5000⟩,
   ⟨6000, "XXX", none⟩, ⟨6010, "XXX/DVD", some 6000⟩, ⟨6020, "XXX/WMV", some 6000⟩,
   ⟨6030, "XXX/XviD", some 6000⟩, ⟨6040, "XXX/x264", some 6000⟩, ⟨6045, "XXX/UHD", some 6000⟩,
   ⟨6050, "XXX/Pack", some 6000⟩, ⟨6060, "XXX/ImageSet", some 6000⟩, ⟨6070, "XXX/Other", some 6000⟩,
   ⟨6080, "XXX/SD", some 6000⟩, ⟨6090, "XXX/WEB-DL", some 6000⟩, ⟨7000, "Books", none⟩,
   ⟨7010, "Books/Mags", some 7000⟩, ⟨7020, "Books/EBook", some 7000⟩, ⟨7030, "Books/Comics", some 7000⟩,
   ⟨7040, "Books/Technical", some 7000⟩, ⟨7050, "Books/Other", some 7000⟩,
   ⟨7060, "Books/Foreign", some 7000⟩, ⟨8000, "Other", none⟩, ⟨8010, "Other/Misc", some 8000⟩,
   ⟨8020, "Other/Hashed", some 8000⟩]

/-- The code of releases that fit no category. -/
def other : Nat := 8000

/-- The name of the family a category belongs to. -/
def family (c : Category) : String :=
  ((Text.cutAt? "/" c.name).map (·.1)).getD c.name

/-- The category with a code. -/
def ofCode? (code : Int) : Option Category :=
  all.find? fun c => (c.id : Int) == code

/-- Whether a code is in the table. -/
def isKnown (code : Int) : Bool :=
  (ofCode? code).isSome

/-- The code of a family that is called `name` without regard to case. -/
def codeOfFamily? (name : String) : Option Nat :=
  (all.find? fun c => c.parent.isNone && Text.fold c.name == name).map (·.id)

/-- The code of a category name: that of the name itself, else that of its family, else `Other`. Case, blanks
around the name and slashes behind it do not matter. -/
def codeOfName (name : String) : Nat :=
  let key := Text.fold (String.ofList (Text.dropEndWhile (· == '/') (Text.strip name).toList))
  match all.find? fun c => Text.fold c.name == key with
  | some c => c.id
  | none =>
    let head := ((Text.cutAt? "/" key).map (·.1)).getD key
    (codeOfFamily? (Text.strip head)).getD other

theorem isKnown_other : isKnown other = true := by decide +kernel

end Category

end MetaSearch
