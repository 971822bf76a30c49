/-!
# Sitemap

A sitemap lists the addresses of all documents of a site, one entry after the
other.  An address is the base address without slashes at its end, a slash, and
the path of the document without slashes at its start.
-/

namespace WorkbookSite.Sitemap

/-- The way a character is written in the sitemap. -/
def escape (character : Char) : List Char :=
  if character = '&' then "&amp;".toList
  else if character = '<' then "&lt;".toList
  else if character = '>' then "&gt;".toList
  else if character = '"' then "&quot;".toList
  else [character]

/-- The address of the document with the given path. -/
def address (base path : String) : List Char :=
  (base.toList.reverse.dropWhile (· == '/')).reverse ++
    '/' :: path.toList.dropWhile (· == '/')

def entryOpening : String := "  <url>\n    <loc>"

def entryClosing : String := "</loc>\n  </url>"

def entry (base path : String) : List Char :=
  entryOpening.toList ++ (address base path).flatMap escape ++
    entryClosing.toList

def declaration : String := "<?xml version=\"1.0\" encoding=\"UTF-8\"?>\n"

def opening : String :=
  "<urlset xmlns=\"http://www.sitemaps.org/schemas/sitemap/0.9\">\n"

def closing : String := "\n</urlset>"

def text (base : String) (paths : List String) : String :=
  String.ofList
    (declaration.toList ++ opening.toList ++
      ['\n'].intercalate (paths.map (entry base)) ++ closing.toList)

end WorkbookSite.Sitemap
