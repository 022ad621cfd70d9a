/-
Categories of results. Queries and results speak of canonical categories, which have a number
and, when they are standard ones, a name; each site has numbers of its own. A table relates the
two, and is read in both directions: a local number belongs to the first entry that has it, and
a canonical number asks for every local number that some entry gives it.
-/

namespace Metasearch

/-- A canonical category. -/
structure Category where
  id : Int
  name : String
  deriving DecidableEq, Repr

namespace Category

/-- The standard categories. -/
def standard : List Category :=
  [⟨1000, "Console"⟩, ⟨1010, "Console/NDS"⟩, ⟨1020, "Console/PSP"⟩, ⟨1030, "Console/Wii"⟩,
   ⟨1040, "Console/XBox"⟩, ⟨1050, "Console/XBox 360"⟩, ⟨1060, "Console/Wiiware"⟩,
   ⟨1070, "Console/XBox 360 DLC"⟩, ⟨1080, "Console/PS3"⟩, ⟨1090, "Console/Other"⟩,
   ⟨1110, "Console/3DS"⟩, ⟨1120, "Console/PS Vita"⟩, ⟨1130, "Console/WiiU"⟩,
   ⟨1140, "Console/XBox One"⟩, ⟨1180, "Console/PS4"⟩,
   ⟨2000, "Movies"⟩, ⟨2010, "Movies/Foreign"⟩, ⟨2020, "Movies/Other"⟩, ⟨2030, "Movies/SD"⟩,
   ⟨2040, "Movies/HD"⟩, ⟨2050, "Movies/3D"⟩, ⟨2060, "Movies/BluRay"⟩, ⟨2070, "Movies/DVD"⟩,
   ⟨2080, "Movies/WEBDL"⟩,
   ⟨3000, "Audio"⟩, ⟨3010, "Audio/MP3"⟩, ⟨3020, "Audio/Video"⟩, ⟨3030, "Audio/Audiobook"⟩,
   ⟨3040, "Audio/Lossless"⟩, ⟨3050, "Audio/Other"⟩, ⟨3060, "Audio/Foreign"⟩,
   ⟨4000, "PC"⟩, ⟨4010, "PC/0day"⟩, ⟨4020, "PC/ISO"⟩, ⟨4030, "PC/Mac"⟩,
   ⟨4040, "PC/Phone-Other"⟩, ⟨4050, "PC/Games"⟩, ⟨4060, "PC/Phone-IOS"⟩,
   ⟨4070, "PC/Phone-Android"⟩,
   ⟨5000, "TV"⟩, ⟨5020, "TV/Foreign"⟩, ⟨5030, "TV/SD"⟩, ⟨5040, "TV/HD"⟩, ⟨5050, "TV/Other"⟩,
   ⟨5060, "TV/Sport"⟩, ⟨5070, "TV/Anime"⟩, ⟨5080, "TV/Documentary"⟩,
   ⟨6000, "XXX"⟩, ⟨6010, "XXX/DVD"⟩, ⟨6020, "XXX/WMV"⟩, ⟨6030, "XXX/XviD"⟩,
   ⟨6040, "XXX/x264"⟩, ⟨6050, "XXX/Other"⟩, ⟨6060, "XXX/Imageset"⟩, ⟨6070, "XXX/Packs"⟩,
   ⟨7000, "Books"⟩, ⟨7010, "Books/Magazines"⟩, ⟨7020, "Books/Ebook"⟩, ⟨7030, "Books/Comics"⟩,
   ⟨8000, "Other"⟩, ⟨8010, "Other/Misc"⟩]

/-- The standard category of a number. -/
def standard? (id : Int) : Option Category :=
  standard.find? fun category => category.id == id

/-- Two texts are equal but for the case of ASCII letters. -/
def sameLetters (left right : String) : Bool :=
  left.toList.map Char.toLower == right.toList.map Char.toLower

/-- The standard category of a name, in any case. -/
def ofName? (name : String) : Option Category :=
  standard.find? fun category => sameLetters category.name name

/-- The category of a number; one that is not standard is named by its digits. -/
def ofId (id : Int) : Category :=
  (standard? id).getD ⟨id, toString id⟩

end Category

/-- An entry of a table: a number of the site and the category it belongs to. -/
structure CategoryEntry where
  locally : Int
  category : Category
  deriving DecidableEq, Repr

/-- The categories of one site. -/
structure CategoryTable where
  entries : List CategoryEntry
  deriving DecidableEq, Repr

namespace CategoryTable

/-- A site without categories. -/
def empty : CategoryTable := ⟨[]⟩

/-- The table of pairs of a canonical and a local number. -/
def ofPairs (pairs : List (Int × Int)) : CategoryTable :=
  ⟨pairs.map fun (canonical, locally) => ⟨locally, Category.ofId canonical⟩⟩

/-- The table has no entries. -/
def isEmpty (table : CategoryTable) : Bool :=
  table.entries.isEmpty

/-- The category of a local number. -/
def resolve (table : CategoryTable) (locally : Int) : Option Category :=
  (table.entries.find? fun entry => entry.locally == locally).map CategoryEntry.category

/-- The list with an item put behind it, unless it holds the item already. -/
def addNew (seen : List Int) (item : Int) : List Int :=
  if seen.contains item then seen else seen ++ [item]

/-- The local numbers of canonical ones, each once, in the order in which they are first met when
the table is gone through for one canonical number after the other. -/
def localIds (table : CategoryTable) (canonical : List Int) : List Int :=
  canonical.foldl (fun seen id =>
    (table.entries.filter fun entry => entry.category.id == id).foldl
      (fun seen entry => addNew seen entry.locally) seen) []

/-- The categories of the table, each number once, in the order of the table. -/
def categories (table : CategoryTable) : List Category :=
  table.entries.foldl (fun seen entry =>
    if seen.any fun category => category.id == entry.category.id then seen
    else seen ++ [entry.category]) []

end CategoryTable

end Metasearch
