import DocStubs.Descriptor

/-!
# Pages

The text of every page. A page is a list of lines, and what is put into a line stands there as it
is.

## Main definitions

* `Page.api`, `Page.doc` — the pages of a module
* `Contents` — the entries of the two indices, collected while pages are made
* `Page.apiIndex`, `Page.docIndex` — the index of each kind of page
* `RootIndex`, `Page.root` — the page that links the indices
-/

namespace DocStubs

namespace Page

/-- The text with the given lines, each ended by a line feed. -/
def unlines (lines : List String) : String := String.join (lines.map (· ++ "\n"))

/-- A title with a rule of the same length below it. -/
def title (text : String) : List String :=
  [text, String.ofList (List.replicate text.length '=')]

/-- The indentation of the entries of a list of links. -/
def indent : String := "   "

/-- The lines that show the documentation of a module without its members. -/
def automodule (name : String) : List String :=
  [".. automodule:: " ++ name, "   :no-members:", "   :no-inherited-members:"]

/-- The page that lists the members of a module. -/
def api (module : Descriptor) : String :=
  unlines <|
    [".. Members of " ++ module.name ++ ". The autosummary extension expands every",
      ".. entry below into a page of its own.", ""] ++
    title module.relative ++
    ["", ".. Module doc string only, members are linked further down."] ++
    automodule module.name ++
    ["", ".. currentmodule:: " ++ module.name, "", ".. autosummary::", "   :toctree:", ""] ++
    module.members.map (indent ++ ·) ++
    [""]

/-- The page that shows the documentation of a module. -/
def doc (module : Descriptor) : String :=
  unlines <|
    [".. Doc string at the top of " ++ module.name ++ ", without any members. Short",
      ".. tutorial-style text about the module belongs there.", ""] ++
    title module.relative ++
    [""] ++
    automodule module.name

/-- The index of the pages that list members. -/
def apiIndex (entries : List String) : String :=
  unlines <|
    [".. Index of generated API pages", "", "API Reference", "-------------", "", ".. toctree::",
      "   :maxdepth: 1", ""] ++
    entries ++
    [""]

/-- The index of the pages that show documentation. -/
def docIndex (entries : List String) : String :=
  unlines <|
    [".. Index of module doc string pages", "", "Documentation from modules",
      "--------------------------", "", ".. toctree::", "   :maxdepth: 3", ""] ++
    entries ++
    [""]

end Page

/-- What the page that links the indices is made from. -/
structure RootIndex where
  package : String
  apipath : String
  /-- Where the pages that show documentation are, if there are any. -/
  docpath : Option String := none
  /-- Where the hand-written pages are, if there are any. -/
  writtenpath : Option String := none
  deriving DecidableEq, Repr, Inhabited

namespace Page

/-- The link to the index in a directory. -/
def link (path : String) : String := indent ++ path ++ "/index"

/-- A path that is given and not empty. -/
def given (path : Option String) : Option String := path.filter (!·.isEmpty)

/-- The lines about hand-written pages. -/
def handWritten (path : String) : List String :=
  ["", ".. Hand-written pages live below " ++ path ++ "/ and are never overwritten.",
    ".. List them in " ++ path ++ "/index.", "", "More Topics", "-----------", "",
    ".. toctree::", "   :maxdepth: 1", "", link path]

/-- The page that links the indices. -/
def root (index : RootIndex) : String :=
  unlines <|
    title index.package ++
    ["", "Table of contents", "-----------------", ".. toctree::", "   :maxdepth: 1", "",
      link index.apipath] ++
    (given index.docpath).toList.map link ++
    ((given index.writtenpath).map handWritten).getD [] ++
    [""]

end Page

/-- The entries of the two indices, in the order of their pages. -/
structure Contents where
  api : List String := []
  doc : List String := []
  deriving DecidableEq, Repr, Inhabited

namespace Contents

/-- The entry of a module. -/
def entry (module : Descriptor) : String := Page.indent ++ module.stem

/-- Adds a module whose page with members is made. -/
def addApi (contents : Contents) (module : Descriptor) : Contents :=
  { contents with api := contents.api ++ [entry module] }

/-- Adds a module whose page with documentation is made. -/
def addDoc (contents : Contents) (module : Descriptor) : Contents :=
  { contents with doc := contents.doc ++ [entry module] }

end Contents

end DocStubs
