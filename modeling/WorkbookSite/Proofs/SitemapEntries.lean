import Mathlib.Data.List.DropRight
import WorkbookSite.Proofs.RenderedDocuments
import WorkbookSite.Proofs.SplitText
import WorkbookSite.Proofs.WrittenNames

/-!
# Entries of the sitemap

An address may hold any character, also the text of a tag or of an escape.  In
the sitemap it is written without brackets, so the marks around the addresses
are the only ones, and what stands between them, with the escapes undone, are
the addresses again.  The address of a document is made from the path as its
author gave it, and the file from the names in it: they agree as long as every
part of the path says something.
-/

namespace WorkbookSite.Sitemap

open Markup

/-- A text with another text in place of each `old`. -/
def replace (old : Char) (new text : List Char) : List Char :=
  text.flatMap fun character => if character = old then new else [character]

/-- The four escapes made one after the other, each in the whole text. -/
def escapeInTurn (text : List Char) : List Char :=
  replace '"' "&quot;".toList
    (replace '>' "&gt;".toList
      (replace '<' "&lt;".toList (replace '&' "&amp;".toList text)))

/-- The escapes of a text undone from left to right. -/
def unescape : List Char → List Char
  | '&' :: 'a' :: 'm' :: 'p' :: ';' :: rest => '&' :: unescape rest
  | '&' :: 'l' :: 't' :: ';' :: rest => '<' :: unescape rest
  | '&' :: 'g' :: 't' :: ';' :: rest => '>' :: unescape rest
  | '&' :: 'q' :: 'u' :: 'o' :: 't' :: ';' :: rest => '"' :: unescape rest
  | character :: rest => character :: unescape rest
  | [] => []

/-- No replacement finds anything in the escapes that those before it made. -/
theorem flatMap_escape (text : List Char) :
    text.flatMap escape = escapeInTurn text := by
  simp only [escapeInTurn, replace, List.flatMap_assoc]
  apply List.flatMap_congr
  intro character _
  unfold escape
  split_ifs with ampersand less greater quote
  · subst ampersand
    rfl
  · subst less
    rfl
  · subst greater
    rfl
  · subst quote
    rfl
  · simp only [List.flatMap_singleton, if_neg less, if_neg greater,
      if_neg quote]

theorem unescape_cons {character : Char} (plain : character ≠ '&')
    (rest : List Char) :
    unescape (character :: rest) = character :: unescape rest := by
  rw [unescape] <;> simp [plain]

theorem unescape_escape_append (character : Char) (rest : List Char) :
    unescape (escape character ++ rest) = character :: unescape rest := by
  unfold escape
  split_ifs with ampersand less greater quote
  · subst ampersand
    rfl
  · subst less
    rfl
  · subst greater
    rfl
  · subst quote
    rfl
  · exact unescape_cons ampersand rest

theorem unescape_flatMap_escape (text : List Char) :
    unescape (text.flatMap escape) = text := by
  induction text with
  | nil => rfl
  | cons character rest induction =>
      rw [List.flatMap_cons, unescape_escape_append, induction]

theorem bracket_notMem_flatMap_escape (text : List Char) :
    '<' ∉ text.flatMap escape := by
  intro listed
  obtain ⟨character, -, within⟩ := List.mem_flatMap.mp listed
  unfold escape at within
  split_ifs at within with ampersand less
  · exact absurd within (by decide)
  · exact absurd within (by decide)
  · exact absurd within (by decide)
  · exact absurd within (by decide)
  · exact less (List.mem_singleton.mp within).symm

/-- Two marks that a piece of a text stands between. -/
structure Marks where
  opening : List Char
  closing : List Char
  written : opening ≠ []

namespace Marks

variable {marks : Marks}

/-- What the marks enclose first, and the text after it.  A piece that is not
closed runs to the end. -/
def piece? (marks : Marks) (source : List Char) :
    Option (List Char × List Char) := do
  let (_, opened) ← splitWhere (marks.opening.isPrefixOf ·) source
  let inside := opened.drop marks.opening.length
  match splitWhere (marks.closing.isPrefixOf ·) inside with
  | none => some (inside, [])
  | some (piece, closed) => some (piece, closed.drop marks.closing.length)

theorem length_lt_of_piece? {source piece rest : List Char}
    (found : marks.piece? source = some (piece, rest)) :
    rest.length < source.length := by
  obtain ⟨⟨before, opened⟩, split, enclosed⟩ :=
    Option.bind_eq_some_iff.mp found
  obtain ⟨rfl, here, -⟩ := splitWhere_eq_some_iff.mp split
  have short := (List.isPrefixOf_iff_prefix.mp here).length_le
  have long := List.length_pos_of_ne_nil marks.written
  rw [List.length_append]
  dsimp only at enclosed
  split at enclosed
  · cases enclosed
    rw [List.length_nil]
    omega
  · rename_i closing
    cases enclosed
    have inside := congrArg List.length (splitWhere_append closing)
    rw [List.length_append, List.length_drop] at inside
    rw [List.length_drop]
    omega

/-- The pieces of a text that the marks enclose, from left to right. -/
def cut (marks : Marks) (source : List Char) : List (List Char) :=
  match _ : marks.piece? source with
  | none => []
  | some (piece, rest) => piece :: marks.cut rest
termination_by source.length
decreasing_by
  rename_i found
  exact length_lt_of_piece? found

theorem cut_of_none {source : List Char} (none : marks.piece? source = none) :
    marks.cut source = [] := by
  rw [cut]
  split <;> simp_all

theorem cut_of_some {source piece rest : List Char}
    (found : marks.piece? source = some (piece, rest)) :
    marks.cut source = piece :: marks.cut rest := by
  rw [cut]
  split <;> simp_all

/-- The marks can be told from any text without brackets, and from
themselves. -/
structure Delimit (marks : Marks) : Prop where
  opening : Unbordered marks.opening
  closing : Unbordered marks.closing
  bracket : '<' ∈ marks.closing

theorem cut_of_unopened {source : List Char}
    (absent : ¬ marks.opening <:+: source) : marks.cut source = [] := by
  apply cut_of_none
  rw [piece?, splitWhere_mark_eq_none absent]
  rfl

theorem cut_append (delimit : marks.Delimit) {before piece : List Char}
    (clear : ¬ marks.opening <:+: before) (plain : '<' ∉ piece)
    (rest : List Char) :
    marks.cut
        (before ++ (marks.opening ++ (piece ++ (marks.closing ++ rest)))) =
      piece :: marks.cut rest := by
  have opened := splitWhere_mark marks.written delimit.opening clear
    (piece ++ (marks.closing ++ rest))
  have inner : ¬ marks.closing <:+: piece := by
    intro inside
    exact plain (inside.subset delimit.bracket)
  have closed := splitWhere_mark (List.ne_nil_of_mem delimit.bracket)
    delimit.closing inner rest
  apply cut_of_some
  rw [piece?, opened, Option.bind_eq_bind, Option.bind_some]
  simp only [List.drop_left, closed]

/-- No piece opens in the text, nor in what an entry says before its address or
the sitemap at its end when that follows. -/
def Leads (marks : Marks) (before text : List Char) : Prop :=
  ¬ marks.opening <:+: text ++ before ∧
    ¬ marks.opening <:+: text ++ Sitemap.closing.toList

/-- The marks stand in every entry around the address, and nowhere in what the
sitemap says between the addresses. -/
structure Enclose (marks : Marks) (before after : List Char) : Prop where
  delimit : marks.Delimit
  opens : entryOpening.toList = before ++ marks.opening
  closes : entryClosing.toList = marks.closing ++ after
  first : marks.Leads before (declaration.toList ++ Sitemap.opening.toList)
  next : marks.Leads before (after ++ ['\n'])
  last : ¬ marks.opening <:+: after ++ Sitemap.closing.toList

/-- The tags around an address. -/
def address : Marks := ⟨"<loc>".toList, "</loc>".toList, by decide⟩

/-- The tags of an entry. -/
def entry : Marks :=
  ⟨"<url>\n    <loc>".toList, "</loc>\n  </url>".toList, by decide⟩

theorem enclose_address :
    address.Enclose "  <url>\n    ".toList "\n  </url>".toList where
  delimit := ⟨by decide, by decide, by decide⟩
  opens := by decide
  closes := by decide
  first := ⟨by decide +kernel, by decide +kernel⟩
  next := ⟨by decide, by decide⟩
  last := by decide

theorem enclose_entry : entry.Enclose "  ".toList [] where
  delimit := ⟨by decide, by decide, by decide⟩
  opens := by decide
  closes := by decide
  first := ⟨by decide +kernel, by decide +kernel⟩
  next := ⟨by decide, by decide⟩
  last := by decide

variable {before after lead : List Char}

/-- The first entry is taken off a text, whatever follows it. -/
theorem Enclose.cut_entry (enclose : marks.Enclose before after)
    (leads : marks.Leads before lead) (base path : String)
    (rest : List Char) :
    marks.cut (lead ++ (Sitemap.entry base path ++ rest)) =
      (Sitemap.address base path).flatMap escape ::
        marks.cut (after ++ rest) := by
  have opened := cut_append enclose.delimit leads.1
    (bracket_notMem_flatMap_escape (Sitemap.address base path)) (after ++ rest)
  rw [← opened, Sitemap.entry, enclose.opens, enclose.closes]
  simp only [List.append_assoc]

theorem Enclose.cut_entries (enclose : marks.Enclose before after)
    (leads : marks.Leads before lead) (base : String) (paths : List String) :
    marks.cut (lead ++ (['\n'].intercalate (paths.map (Sitemap.entry base)) ++
        Sitemap.closing.toList)) =
      paths.map fun path => (Sitemap.address base path).flatMap escape := by
  induction paths generalizing lead with
  | nil => exact cut_of_unopened leads.2
  | cons path others induction =>
      cases others with
      | nil =>
          rw [List.map_singleton, List.intercalate_singleton,
            enclose.cut_entry leads, cut_of_unopened enclose.last]
          rfl
      | cons second more =>
          have split : ['\n'].intercalate
              ((path :: second :: more).map (Sitemap.entry base)) ++
                Sitemap.closing.toList =
              Sitemap.entry base path ++ (['\n'] ++
                (['\n'].intercalate
                  ((second :: more).map (Sitemap.entry base)) ++
                    Sitemap.closing.toList)) := by
            simp only [List.map_cons, List.intercalate_cons_cons,
              List.append_assoc]
          rw [split, enclose.cut_entry leads, ← List.append_assoc,
            induction enclose.next]
          rfl

/-- The sitemap has one piece for each path, in this order. -/
theorem Enclose.cut_text (enclose : marks.Enclose before after)
    (base : String) (paths : List String) :
    marks.cut (text base paths).toList =
      paths.map fun path => (Sitemap.address base path).flatMap escape := by
  rw [text, String.toList_ofList, List.append_assoc (_ ++ _)]
  exact enclose.cut_entries enclose.first base paths

theorem Enclose.map_unescape_cut_text (enclose : marks.Enclose before after)
    (base : String) (paths : List String) :
    (marks.cut (text base paths).toList).map unescape =
      paths.map (Sitemap.address base) := by
  rw [enclose.cut_text, List.map_map]
  apply List.map_congr_left
  intro path _
  exact unescape_flatMap_escape (Sitemap.address base path)

end Marks

/-- What stands between the tags of the addresses are the trimmed base address,
a slash and the trimmed path, with the four escapes in each; undoing them gives
the addresses.  This holds whatever the base address and the paths contain. -/
theorem cut_text_address (base : String) (paths : List String) :
    Marks.address.cut (text base paths).toList =
        paths.map (fun path =>
          escapeInTurn (base.toList.rdropWhile (· == '/')) ++
            '/' :: escapeInTurn (path.toList.dropWhile (· == '/'))) ∧
      (Marks.address.cut (text base paths).toList).map unescape =
        paths.map (fun path => base.toList.rdropWhile (· == '/') ++
          '/' :: path.toList.dropWhile (· == '/')) := by
  constructor
  · rw [Marks.enclose_address.cut_text]
    apply List.map_congr_left
    intro path _
    rw [← flatMap_escape, ← flatMap_escape, address, List.flatMap_append,
      List.flatMap_cons]
    rfl
  · exact Marks.enclose_address.map_unescape_cut_text base paths

end WorkbookSite.Sitemap

namespace WorkbookSite.Path

/-! ## Paths that are spelled as the files they name -/

theorem intercalate_splitSlashes (characters : List Char) :
    ['/'].intercalate (splitSlashes characters) = characters := by
  induction characters with
  | nil => rfl
  | cons character rest induction =>
      rw [splitSlashes]
      split_ifs with slash
      · rw [List.intercalate_cons_of_ne_nil (splitSlashes_ne_nil rest),
          induction, slash]
        rfl
      · cases split : splitSlashes rest with
        | nil => exact absurd split (splitSlashes_ne_nil rest)
        | cons part parts =>
            rw [split] at induction
            rw [← induction]
            cases parts with
            | nil => simp only [List.intercalate_singleton]
            | cons second others =>
                simp only [List.intercalate_cons_cons, List.cons_append]

theorem splitSlashes_intercalate {parts : List (List Char)}
    (written : parts ≠ []) (noSlash : ∀ part ∈ parts, '/' ∉ part) :
    splitSlashes (['/'].intercalate parts) = parts := by
  induction parts with
  | nil => exact absurd rfl written
  | cons part others induction =>
      obtain ⟨here, later⟩ := List.forall_mem_cons.mp noSlash
      by_cases last : others = []
      · rw [last, List.intercalate_singleton]
        exact splitSlashes_of_notMem here
      · rw [List.intercalate_cons_of_ne_nil last, List.append_assoc,
          List.singleton_append, splitSlashes_append,
          splitSlashes_of_notMem here, induction last later]
        rfl

/-- Slashes at the start of a path give parts that say nothing. -/
theorem filter_splitSlashes_dropWhile (characters : List Char) :
    (splitSlashes (characters.dropWhile (· == '/'))).filter speaks =
      (splitSlashes characters).filter speaks := by
  induction characters with
  | nil => rfl
  | cons character rest induction =>
      by_cases slash : character = '/'
      · subst slash
        rw [List.dropWhile_cons_of_pos (by rfl), induction, splitSlashes,
          if_pos rfl, List.filter_cons_of_neg (by decide)]
      · rw [List.dropWhile_cons_of_neg (by simpa using slash)]

/-- A path without the slashes at its start is the list of its names, joined,
just when each of its parts says something. -/
theorem dropWhile_eq_ofNames_iff {text : String}
    (named : writtenNames text ≠ []) :
    text.toList.dropWhile (· == '/') =
        (ofNames (writtenNames text)).text.toList ↔
      ∀ part ∈ splitSlashes (text.toList.dropWhile (· == '/')),
        speaks part = true := by
  have spelled : (ofNames (writtenNames text)).text.toList =
      ['/'].intercalate
        ((splitSlashes (text.toList.dropWhile (· == '/'))).filter speaks) := by
    rw [ofNames, String.toList_intercalate, filter_splitSlashes_dropWhile,
      writtenNames, List.map_map]
    simp
  have some : (splitSlashes (text.toList.dropWhile (· == '/'))).filter
      speaks ≠ [] := by
    rw [filter_splitSlashes_dropWhile]
    intro none
    apply named
    rw [writtenNames, none]
    rfl
  rw [spelled, ← List.filter_eq_self]
  constructor
  · intro same
    have split := splitSlashes_intercalate some (by
      intro part listed
      exact notMem_of_mem_splitSlashes (List.mem_filter.mp listed).1)
    rw [← same] at split
    exact split.symm
  · intro whole
    rw [whole, intercalate_splitSlashes]

end WorkbookSite.Path

namespace WorkbookSite.Sitemap

/-- The address of the file with the given names. -/
def fileAddress (base : String) (names : List String) : List Char :=
  base.toList.rdropWhile (· == '/') ++
    '/' :: (Path.ofNames names).text.toList

/-- The sitemap has one entry for each document of a site, in this order, with
the address of its path.  It is the address of the file that the document is
written to just when no part of the path, after the slashes at its start, is
empty or a single dot. -/
theorem cut_text_documents {site : Site} {placement : LangPlacement}
    {documents : List RenderedDocument}
    (rendered : site.render placement = .ok documents) (base : String) :
    (Marks.entry.cut (text base (documents.map (·.path))).toList).map
          unescape =
        documents.map (fun document => address base document.path) ∧
      ∀ document ∈ documents,
        (∀ output, Build.documentFile output document =
            output.join (.ofNames document.names)) ∧
        (address base document.path = fileAddress base document.names ↔
          ∀ part ∈
              Path.splitSlashes (document.path.toList.dropWhile (· == '/')),
            Path.speaks part = true) := by
  constructor
  · rw [Marks.enclose_entry.map_unescape_cut_text, List.map_map]
    rfl
  · intro document listed
    refine ⟨fun _ => rfl, ?_⟩
    have inner := Site.Renders.inner_of_mem (Site.render_eq_ok.mp rendered).1
      document listed
    obtain ⟨⟨named, -⟩, written⟩ := Path.innerNames?_eq_some_iff.mp inner
    rw [written] at named
    rw [← Path.dropWhile_eq_ofNames_iff named, ← written]
    constructor
    · intro same
      exact (List.cons.inj (List.append_cancel_left same)).2
    · intro same
      rw [fileAddress, ← same]
      rfl

/-- Two pages; the path of the second says more than the names of its file. -/
def spelledSite : Site :=
  ⟨[⟨⟨"site.xlsx"⟩,
      ⟨"index", ["en"], [("en", "/index.html")], .node .root []⟩⟩,
    ⟨⟨"site.xlsx"⟩,
      ⟨"intro", ["en"], [("en", "/docs//intro.html/")], .node .root []⟩⟩]⟩

def spelledDocuments : List RenderedDocument :=
  (spelledSite.render .doctype).toOption.getD []

theorem render_spelledSite :
    spelledSite.render .doctype = .ok spelledDocuments := by
  rfl

theorem cut_text_spelledDocuments :
    spelledSite.render .doctype = .ok spelledDocuments ∧
      (Marks.entry.cut (text "https://example.org/"
          (spelledDocuments.map (·.path))).toList).map unescape =
        ["https://example.org/index.html".toList,
          "https://example.org/docs//intro.html/".toList] ∧
      spelledDocuments.map (fun document =>
          decide (address "https://example.org/" document.path =
            fileAddress "https://example.org/" document.names)) =
        [true, false] := by
  obtain ⟨entries, -⟩ :=
    cut_text_documents render_spelledSite "https://example.org/"
  refine ⟨render_spelledSite, ?_, ?_⟩
  · rw [entries]
    decide +kernel
  · decide +kernel

/-- The second document is written to one file, and its entry is the address of
another one. -/
theorem entry_misses_file :
    spelledDocuments.map (·.names) =
        [["index.html"], ["docs", "intro.html"]] ∧
      (Marks.entry.cut (text "https://example.org/"
          (spelledDocuments.map (·.path))).toList).map unescape ≠
        spelledDocuments.map fun document =>
          fileAddress "https://example.org/" document.names := by
  constructor
  · decide +kernel
  · rw [Marks.enclose_entry.map_unescape_cut_text]
    decide +kernel

end WorkbookSite.Sitemap
