import WorkbookSite.Proofs.AssociationLists
import WorkbookSite.Proofs.RenderedDocuments
import WorkbookSite.Proofs.WrittenNames

/-!
# Problems of sites

A site is rendered unless one of its pages has a problem in one of its locales:
a path that names no file inside the output directory, the file of an earlier
document, or content that cannot be rendered.  The first problem is reported, in
the order of the pages and of their locales.
-/

namespace WorkbookSite.Site

variable {placement : LangPlacement} {before : List (Page × String)}
  {variant : Page × String}

/-- The path that the author of a page gave it in a locale. -/
def authoredPath (variant : Page × String) : String :=
  (variant.1.path? variant.2).getD ""

/-- The names of the file that a page is written to in a locale. -/
def fileNames (variant : Page × String) : List String :=
  Path.writtenNames (authoredPath variant)

/-- The pages can be rendered in the locales, each to a file of its own. -/
structure Renderable (placement : LangPlacement)
    (variants : List (Page × String)) : Prop where
  inside : ∀ variant ∈ variants, Path.LeadInside (fileNames variant)
  distinct : (variants.map fileNames).Nodup
  rendered : ∀ variant ∈ variants,
    ∃ document, variant.1.render variant.2 placement = .ok document

/-- The problem of a page in a locale when it comes after others.  A path that
names no file comes before a file that is taken, and this before a failure to
render the page. -/
inductive Problem (placement : LangPlacement) (before : List (Page × String))
    (variant : Page × String) : SiteError → Prop where
  | invalidPath (outside : ¬ Path.LeadInside (fileNames variant)) :
      Problem placement before variant
        (.invalidPath variant.1.name variant.2 (authoredPath variant))
  | duplicateOutput {left right : List (Page × String)}
      {earlier : Page × String}
      (inside : Path.LeadInside (fileNames variant))
      (split : before = left ++ earlier :: right)
      (same : fileNames earlier = fileNames variant)
      (only : ∀ other ∈ left ++ right, fileNames other ≠ fileNames variant) :
      Problem placement before variant
        (.duplicateOutput (authoredPath variant)
          (ownerName earlier.1 earlier.2) (ownerName variant.1 variant.2))
  | render {cause : RenderError}
      (inside : Path.LeadInside (fileNames variant))
      (free : fileNames variant ∉ before.map fileNames)
      (failed : variant.1.render variant.2 placement = .error cause) :
      Problem placement before variant
        (.render variant.1.name variant.2 cause)

theorem mem_fileNames_of_split {left right : List (Page × String)}
    {earlier : Page × String} (split : before = left ++ earlier :: right)
    (same : fileNames earlier = fileNames variant) :
    fileNames variant ∈ before.map fileNames := by
  rw [← same, split]
  exact List.mem_map_of_mem (List.mem_append_right left List.mem_cons_self)

theorem Problem.unique {first second : SiteError}
    (one : Problem placement before variant first)
    (other : Problem placement before variant second) : first = second := by
  cases one with
  | invalidPath outside =>
      cases other with
      | invalidPath => rfl
      | duplicateOutput inside => exact absurd inside outside
      | render inside => exact absurd inside outside
  | @duplicateOutput left right earlier inside split same only =>
      cases other with
      | invalidPath outside => exact absurd inside outside
      | @duplicateOutput left' right' earlier' _ split' same' only' =>
          have listed : earlier' ∈ left ++ earlier :: right := by
            rw [← split, split']
            exact List.mem_append_right left' List.mem_cons_self
          rcases List.mem_append.mp listed with onLeft | onRight
          · exact absurd same' (only _ (List.mem_append_left right onLeft))
          · rcases List.mem_cons.mp onRight with rfl | onRight
            · rfl
            · exact absurd same' (only _ (List.mem_append_right left onRight))
      | render _ free => exact absurd (mem_fileNames_of_split split same) free
  | render inside free failed =>
      cases other with
      | invalidPath outside => exact absurd inside outside
      | duplicateOutput _ split same =>
          exact absurd (mem_fileNames_of_split split same) free
      | render _ _ failed' =>
          rw [failed] at failed'
          cases failed'
          rfl

theorem Renderable.nil : Renderable placement [] :=
  ⟨List.forall_mem_nil _, List.nodup_nil, List.forall_mem_nil _⟩

/-- Where everything can be rendered there is no problem. -/
theorem Renderable.no_problem {after : List (Page × String)} {error : SiteError}
    (renderable : Renderable placement (before ++ variant :: after)) :
    ¬ Problem placement before variant error := by
  have listed : variant ∈ before ++ variant :: after :=
    List.mem_append_right before List.mem_cons_self
  intro problem
  cases problem with
  | invalidPath outside => exact outside (renderable.inside variant listed)
  | duplicateOutput inside split same only =>
      have taken := mem_fileNames_of_split split same
      have distinct := renderable.distinct
      rw [List.map_append, List.map_cons] at distinct
      exact List.disjoint_of_nodup_append distinct taken List.mem_cons_self
  | render inside free failed =>
      obtain ⟨document, rendered⟩ := renderable.rendered variant listed
      rw [failed] at rendered
      cases rendered

theorem Problem.eq_nil_of_renderable {middle after rest : List (Page × String)}
    {error : SiteError} (problem : Problem placement before variant error)
    (renderable : Renderable placement (before ++ middle))
    (split : variant :: after = middle ++ rest) : middle = [] := by
  cases middle with
  | nil => rfl
  | cons first middle =>
      obtain ⟨rfl, -⟩ := List.cons.inj split
      exact absurd problem renderable.no_problem

/-- A list of pages and locales has one first problem. -/
theorem Problem.first_unique {before' after after' : List (Page × String)}
    {variant' : Page × String} {error error' : SiteError}
    (split : before ++ variant :: after = before' ++ variant' :: after')
    (renderable : Renderable placement before)
    (renderable' : Renderable placement before')
    (problem : Problem placement before variant error)
    (problem' : Problem placement before' variant' error') :
    error = error' := by
  rcases List.append_eq_append_iff.mp split with
    ⟨middle, rfl, rest⟩ | ⟨middle, rfl, rest⟩
  · obtain rfl := problem.eq_nil_of_renderable renderable' rest
    obtain ⟨rfl, -⟩ := List.cons.inj rest
    rw [List.append_nil] at problem'
    exact problem.unique problem'
  · obtain rfl := problem'.eq_nil_of_renderable renderable rest
    obtain ⟨rfl, -⟩ := List.cons.inj rest
    rw [List.append_nil] at problem
    exact problem.unique problem'

/-! ## One step -/

/-- The owners once the files of the given pages and locales are taken. -/
def ownersOf (variants : List (Page × String)) : Owners :=
  (variants.map fun variant =>
    (fileNames variant, ownerName variant.1 variant.2)).reverse

theorem ownersOf_concat (before : List (Page × String))
    (variant : Page × String) :
    ownersOf (before ++ [variant]) =
      (fileNames variant, ownerName variant.1 variant.2) ::
        ownersOf before := by
  rw [ownersOf, List.map_append, List.reverse_append]
  rfl

theorem lookup_ownersOf_eq_none_iff {names : List String} :
    (ownersOf before).lookup names = none ↔
      names ∉ before.map fileNames := by
  rw [← Option.not_isSome_iff_eq_none, isSome_lookup_iff, ownersOf,
    List.map_reverse, List.mem_reverse, List.map_map]
  rfl

theorem exists_split_of_lookup_ownersOf {owner : String}
    (distinct : (before.map fileNames).Nodup)
    (found : (ownersOf before).lookup (fileNames variant) = some owner) :
    ∃ left earlier right, before = left ++ earlier :: right ∧
      fileNames earlier = fileNames variant ∧
      ownerName earlier.1 earlier.2 = owner ∧
      ∀ other ∈ left ++ right, fileNames other ≠ fileNames variant := by
  obtain ⟨later, sooner, whole, -⟩ := List.lookup_eq_some_iff.mp found
  have listed : (fileNames variant, owner) ∈ ownersOf before := by
    rw [whole]
    exact List.mem_append_right later List.mem_cons_self
  obtain ⟨earlier, inside, same⟩ := List.mem_map.mp (List.mem_reverse.mp listed)
  obtain ⟨names, rfl⟩ := Prod.mk.inj same
  obtain ⟨left, right, rfl⟩ := List.append_of_mem inside
  refine ⟨left, earlier, right, rfl, names, rfl, ?_⟩
  rw [List.map_append, List.map_cons, List.nodup_middle, names,
    ← List.map_append] at distinct
  intro other member equal
  exact (List.nodup_cons.mp distinct).1 (equal ▸ List.mem_map_of_mem member)

theorem Renders.names_eq {document : RenderedDocument}
    (renders : Renders placement variant document) :
    Path.LeadInside document.names ∧ document.names = fileNames variant := by
  have inner := Path.innerNames?_eq_some_iff.mp renders.inner
  rw [renders.path] at inner
  exact inner

theorem problem_of_renderLocale {error : SiteError}
    (distinct : (before.map fileNames).Nodup)
    (failed : renderLocale placement variant.1 (ownersOf before) variant.2 =
      .error error) : Problem placement before variant error := by
  rw [renderLocale] at failed
  simp only at failed
  split at failed
  · rename_i nameless
    cases failed
    refine .invalidPath fun inside => ?_
    have inner := Path.innerNames?_eq_some_iff.mpr ⟨inside, rfl⟩
    cases nameless.symm.trans inner
  · rename_i names inner
    obtain ⟨inside, rfl⟩ := Path.innerNames?_eq_some_iff.mp inner
    split at failed
    · rename_i owner taken
      cases failed
      obtain ⟨left, earlier, right, split, same, rfl, only⟩ :=
        exists_split_of_lookup_ownersOf distinct taken
      exact .duplicateOutput inside split same only
    · rename_i free
      split at failed
      · rename_i cause fault
        cases failed
        exact .render inside (lookup_ownersOf_eq_none_iff.mp free) fault
      · cases failed

theorem renderable_of_renderLocale (variant : Page × String)
    {document : RenderedDocument} {taken : Owners}
    (renderable : Renderable placement before)
    (rendered : renderLocale placement variant.1 (ownersOf before) variant.2 =
      .ok (document, taken)) :
    Renderable placement (before ++ [variant]) ∧
      taken = ownersOf (before ++ [variant]) := by
  obtain ⟨renders, free, rfl⟩ := renderLocale_eq_ok.mp rendered
  obtain ⟨inside, names⟩ := renders.names_eq
  rw [names] at inside free
  constructor
  · constructor
    · exact List.forall_mem_append.mpr
        ⟨renderable.inside, List.forall_mem_singleton.mpr inside⟩
    · rw [List.map_append, List.map_singleton, ← List.concat_eq_append]
      exact renderable.distinct.concat (lookup_ownersOf_eq_none_iff.mp free)
    · exact List.forall_mem_append.mpr ⟨renderable.rendered,
        List.forall_mem_singleton.mpr ⟨_, renders.rendered⟩⟩
  · rw [ownersOf_concat, names]

/-! ## All steps -/

theorem exists_problem_of_renderLocales {variants : List (Page × String)}
    {error : SiteError} (renderable : Renderable placement before)
    (failed : renderLocales placement (ownersOf before) variants =
      .error error) :
    ∃ passed variant after, variants = passed ++ variant :: after ∧
      Renderable placement (before ++ passed) ∧
      Problem placement (before ++ passed) variant error := by
  induction variants generalizing before with
  | nil => cases failed
  | cons variant variants induction =>
      obtain ⟨page, locale⟩ := variant
      rw [renderLocales] at failed
      rcases Outcome.bind_eq_error.mp failed with
        here | ⟨⟨document, taken⟩, rendered, rest⟩
      · refine ⟨[], (page, locale), variants, rfl, ?_, ?_⟩
        · rwa [List.append_nil]
        · rw [List.append_nil]
          exact problem_of_renderLocale renderable.distinct here
      · simp only at rest
        obtain ⟨onward, rfl⟩ :=
          renderable_of_renderLocale (page, locale) renderable rendered
        rcases Outcome.bind_eq_error.mp rest with
          later | ⟨others, -, succeeded⟩
        · obtain ⟨passed, failing, after, rfl, sound, problem⟩ :=
            induction onward later
          rw [List.append_assoc, List.singleton_append] at sound problem
          exact ⟨(page, locale) :: passed, failing, after, rfl, sound, problem⟩
        · cases succeeded

theorem exists_problem_of_render {site : Site} {error : SiteError}
    (failed : site.render placement = .error error) :
    ∃ before variant after, site.variants = before ++ variant :: after ∧
      Renderable placement before ∧ Problem placement before variant error :=
  exists_problem_of_renderLocales .nil failed

theorem Renders.forall {variants : List (Page × String)}
    {documents : List RenderedDocument}
    (each : List.Forall₂ (Renders placement) variants documents) :
    documents.map RenderedDocument.names = variants.map fileNames ∧
      ∀ variant ∈ variants, Path.LeadInside (fileNames variant) ∧
        ∃ document, variant.1.render variant.2 placement = .ok document := by
  induction each with
  | nil => exact ⟨rfl, List.forall_mem_nil _⟩
  | cons renders _ induction =>
      obtain ⟨inside, names⟩ := renders.names_eq
      obtain ⟨others, later⟩ := induction
      rw [names] at inside
      exact ⟨by rw [List.map_cons, List.map_cons, names, others],
        List.forall_mem_cons.mpr ⟨⟨inside, _, renders.rendered⟩, later⟩⟩

theorem renderable_of_render {site : Site} {documents : List RenderedDocument}
    (rendered : site.render placement = .ok documents) :
    Renderable placement site.variants := by
  obtain ⟨each, distinct⟩ := render_eq_ok.mp rendered
  obtain ⟨names, sound⟩ := Renders.forall each
  rw [names] at distinct
  exact ⟨fun variant listed => (sound variant listed).1, distinct,
    fun variant listed => (sound variant listed).2⟩

/-- A document is written below the output directory, under its names. -/
theorem components_documentFile {document : RenderedDocument}
    (inner : Path.innerNames? ⟨document.path⟩ = some document.names)
    (output : Path) :
    (Build.documentFile output document).components =
      output.components ++ document.names.map .name := by
  rw [Build.documentFile, inner, Option.getD_some]
  exact Path.components_join_ofNames (Path.isFileName_of_innerNames? inner).2

theorem nodup_documentFiles {documents : List RenderedDocument}
    (inner : ∀ document ∈ documents,
      Path.innerNames? ⟨document.path⟩ = some document.names)
    (distinct : (documents.map RenderedDocument.names).Nodup) (output : Path) :
    (documents.map fun document =>
      (Build.documentFile output document).components).Nodup := by
  have places : documents.map (fun document =>
      (Build.documentFile output document).components) =
        (documents.map RenderedDocument.names).map fun names =>
          output.components ++ names.map .name := by
    rw [List.map_map]
    apply List.map_congr_left
    intro document listed
    exact components_documentFile (inner document listed) output
  rw [places]
  refine distinct.map fun first second same => ?_
  have named : Function.Injective Component.name :=
    fun _ _ => Component.name.inj
  exact named.list_map (List.append_cancel_left same)

/-- A site is rendered just when each of its pages can be rendered in each of
its locales to a file of its own inside the output directory.  Then there is one
document for each page and locale, in this order, and the documents are written
to different files below the output directory.  Otherwise the error is the first
problem. -/
theorem render_outcome (site : Site) (placement : LangPlacement) :
    ((∃ documents, site.render placement = .ok documents) ↔
      Renderable placement site.variants) ∧
    (∀ documents, site.render placement = .ok documents →
      List.Forall₂ (Renders placement) site.variants documents ∧
        ∀ output : Path,
          (documents.map fun document =>
            (Build.documentFile output document).components).Nodup ∧
          ∀ document ∈ documents, document.names ≠ [] ∧
            (Build.documentFile output document).components =
              output.components ++ document.names.map .name) ∧
    ∀ error, site.render placement = .error error ↔
      ∃ before variant after, site.variants = before ++ variant :: after ∧
        Renderable placement before ∧
        Problem placement before variant error := by
  refine ⟨⟨?_, ?_⟩, ?_, ?_⟩
  · rintro ⟨documents, rendered⟩
    exact renderable_of_render rendered
  · intro renderable
    cases outcome : site.render placement with
    | ok documents => exact ⟨documents, rfl⟩
    | error error =>
        obtain ⟨before, variant, after, split, -, problem⟩ :=
          exists_problem_of_render outcome
        rw [split] at renderable
        exact absurd problem renderable.no_problem
  · intro documents rendered
    obtain ⟨each, distinct⟩ := render_eq_ok.mp rendered
    have inner := Renders.inner_of_mem each
    refine ⟨each, fun output => ⟨nodup_documentFiles inner distinct output, ?_⟩⟩
    intro document listed
    exact ⟨(Path.isFileName_of_innerNames? (inner document listed)).1,
      components_documentFile (inner document listed) output⟩
  · intro error
    constructor
    · exact exists_problem_of_render
    · rintro ⟨before, variant, after, split, sound, problem⟩
      cases outcome : site.render placement with
      | ok documents =>
          have renderable := renderable_of_render outcome
          rw [split] at renderable
          exact absurd problem renderable.no_problem
      | error other =>
          obtain ⟨before', variant', after', split', sound', problem'⟩ :=
            exists_problem_of_render outcome
          rw [split] at split'
          rw [Problem.first_unique split' sound sound' problem problem']

end WorkbookSite.Site
