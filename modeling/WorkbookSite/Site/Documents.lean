import WorkbookSite.Site.Pages

/-!
# Documents of a site

A site has one document for each page and locale.  Each is written to the path
that the page gives for the locale; two documents must not be written to the
same file, however their paths are spelled.
-/

namespace WorkbookSite

/-- A rendered page and the path it is written to, as its author gave it. -/
structure RenderedDocument where
  page : String
  locale : String
  path : String
  document : Markup.Document
deriving Repr

/-- The files that are taken so far, each with the page and locale that it is
for. -/
abbrev Owners := List (List String × String)

namespace Site

/-- The page and locale that a document belongs to, as messages name it. -/
def ownerName (page : Page) (locale : String) : String :=
  page.name ++ " (" ++ locale ++ ")"

/-- The document of a page in one locale, and the owners after it. -/
def renderLocale (placement : LangPlacement) (page : Page)
    (owners : Owners) (locale : String) :
    Except SiteError (RenderedDocument × Owners) :=
  let path := (page.path? locale).getD ""
  match Path.innerNames? ⟨path⟩ with
  | none => .error (.invalidPath page.name locale path)
  | some names =>
      let owner := ownerName page locale
      match owners.lookup names with
      | some first => .error (.duplicateOutput path first owner)
      | none =>
          match page.render locale placement with
          | .error cause => .error (.render page.name locale cause)
          | .ok document =>
              .ok (⟨page.name, locale, path, document⟩,
                (names, owner) :: owners)

/-- The documents of pages in their locales, in this order, when the files of
`owners` are taken. -/
def renderLocales (placement : LangPlacement) :
    Owners → List (Page × String) → Except SiteError (List RenderedDocument)
  | _, [] => .ok []
  | owners, (page, locale) :: others => do
      let (document, owners) ← renderLocale placement page owners locale
      let documents ← renderLocales placement owners others
      .ok (document :: documents)

def variants (site : Site) : List (Page × String) :=
  site.pages.flatMap fun sourced =>
    sourced.page.locales.map ((sourced.page, ·))

def render (site : Site) (placement : LangPlacement) :
    Except SiteError (List RenderedDocument) :=
  renderLocales placement [] site.variants

end Site

end WorkbookSite
