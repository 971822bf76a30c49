import WorkbookSite.Proofs.CleanBuild
import WorkbookSite.Proofs.FollowedPaths

/-!
# Directories under guard

The clean guard compares places.  The place that a path names can be read off
its text: `Path.place` goes along its parts, without a look at the files.  A
path that can be followed leads to this very place, so it does not matter what
there is, nor how the directories are spelled: the guard refuses an output
directory exactly if its place is above, or is, that of a directory the site is
built from.
-/

namespace WorkbookSite

namespace Path

/-- Goes on along one part of a path.  An empty part and a `.` stay, a `..` goes
up, where this is possible, and any other part is a name. -/
def goAlong (here : Location) (part : List Char) : Location :=
  if part = [] ∨ part = ['.'] then here
  else if part = ['.', '.'] then here.dropLast
  else here ++ [String.ofList part]

/-- The place that a path names, seen from `home`. -/
def place (path : Path) (home : Location) : Location :=
  (splitSlashes path.text.toList).foldl goAlong
    (if path.isAbsolute then [] else home)

theorem isEmpty_join {base : Path} (named : base.isEmpty = false)
    (path : Path) : (base.join path).isEmpty = false := by
  have filled {first second : String} (written : first ≠ "") :
      (Path.mk (first ++ second)).isEmpty = false := by
    simpa [isEmpty] using fun empty => absurd empty written
  have named : base.text ≠ "" := by simpa [isEmpty] using named
  rw [join]
  split
  · rename_i absolute
    rw [isAbsolute] at absolute
    apply Bool.eq_false_iff.mpr
    intro empty
    rw [isEmpty, beq_iff_eq] at empty
    simp [empty] at absolute
  · split
    · exact filled named
    · rw [String.append_assoc]
      exact filled named

end Path

namespace CleanGuard

open FileSystem

variable {files : FileSystem} {settings : BuildSettings}

theorem resolve_step? (here : Location) (part : List Char) :
    resolve here (Path.step? part).toList = Path.goAlong here part := by
  unfold Path.step? Path.goAlong
  by_cases empty : part = []
  · simp [empty, resolve]
  · by_cases current : part = ['.']
    · simp [current, resolve]
    · by_cases parent : part = ['.', '.']
      · simp [parent, resolve]
      · simp [empty, current, parent, resolve]

theorem resolve_writtenSteps (here : Location) (characters : List Char) :
    resolve here (Path.writtenSteps characters) =
      (Path.splitSlashes characters).foldl Path.goAlong here := by
  rw [Path.writtenSteps]
  induction Path.splitSlashes characters generalizing here with
  | nil => rfl
  | cons part parts induction =>
      have split : (part :: parts).filterMap Path.step? =
          (Path.step? part).toList ++ parts.filterMap Path.step? := by
        rw [List.filterMap_cons]
        cases Path.step? part <;> rfl
      rw [split, resolve_append, resolve_step?, List.foldl_cons]
      exact induction _

/-- The components of a path lead to the place that its text names. -/
theorem lexicalLocation_eq_place (files : FileSystem) (path : Path) :
    lexicalLocation files path = path.place files.workingDirectory := by
  rw [lexicalLocation, resolve_components, Path.steps_eq_writtenSteps,
    Path.place]
  split
  · exact resolve_writtenSteps [] _
  · exact resolve_writtenSteps _ _

theorem location?_eq_place {path : Path} (written : path.isEmpty = false) :
    location? files path = some (path.place files.workingDirectory) := by
  rw [location?_eq, written, lexicalLocation_eq_place]
  rfl

/-- Removing what is at `output` would remove what is at `path`. -/
def Holds (home : Location) (output path : Path) : Prop :=
  output.place home <+: path.place home

theorem endangers_iff {output path : Path} (written : output.isEmpty = false)
    (named : path.isEmpty = false) :
    endangers files output path = true ↔
      Holds files.workingDirectory output path := by
  rw [endangers, location?_eq_place written, location?_eq_place named]
  exact List.isPrefixOf_iff_prefix

/-- The directories that a site is built from, in the order of the guard. -/
def guarded (settings : BuildSettings) : List Path :=
  [settings.siteDirectory, settings.specPath, settings.staticPath]

theorem isEmpty_of_guarded (named : settings.siteDirectory.isEmpty = false) :
    ∀ path ∈ guarded settings, path.isEmpty = false := by
  intro path listed
  simp only [guarded, List.mem_cons, List.not_mem_nil, or_false] at listed
  rcases listed with rfl | rfl | rfl
  · exact named
  · exact Path.isEmpty_join named _
  · exact Path.isEmpty_join named _

/-- The guard looks for the first directory that the output directory holds. -/
theorem endangered?_eq_some_iff
    (named : settings.siteDirectory.isEmpty = false) {path : Path} :
    endangered? files settings = some path ↔
      ∃ before after, guarded settings = before ++ path :: after ∧
        Holds files.workingDirectory settings.outputPath path ∧
        ∀ earlier ∈ before,
          ¬ Holds files.workingDirectory settings.outputPath earlier := by
  have written : settings.outputPath.isEmpty = false :=
    Path.isEmpty_join named _
  have held : ∀ path ∈ guarded settings,
      (endangers files settings.outputPath path = true ↔
        Holds files.workingDirectory settings.outputPath path) :=
    fun path listed =>
      endangers_iff written (isEmpty_of_guarded named path listed)
  have found : endangered? files settings =
    (guarded settings).find? (endangers files settings.outputPath) := rfl
  rw [found, List.find?_eq_some_iff_append]
  constructor
  · rintro ⟨here, before, after, split, others⟩
    refine ⟨before, after, split, (held path (by simp [split])).mp here, ?_⟩
    intro earlier listed holds
    have safe := others earlier listed
    rw [(held earlier (by simp [split, listed])).mpr holds] at safe
    cases safe
  · rintro ⟨before, after, split, here, others⟩
    refine ⟨(held path (by simp [split])).mpr here, before, after, split, ?_⟩
    intro earlier listed
    rw [Bool.not_eq_true', Bool.eq_false_iff]
    intro endangered
    exact others earlier listed
      ((held earlier (by simp [split, listed])).mp endangered)

theorem check_eq_error_iff {error : SiteError} :
    check files settings = .error error ↔
      ∃ path, endangered? files settings = some path ∧
        error = .unsafeOutput settings.outputPath path := by
  rw [check]
  cases endangered? files settings with
  | none => simp
  | some path =>
      simp only [Option.elim_some, Except.error.injEq, Option.some.injEq]
      constructor
      · rintro rfl
        exact ⟨path, rfl, rfl⟩
      · rintro ⟨_, rfl, rfl⟩
        rfl

theorem check_eq_ok_iff :
    check files settings = .ok () ↔ endangered? files settings = none := by
  rw [check]
  cases endangered? files settings with
  | none => simp
  | some path => simp

theorem endangered?_eq_none_iff
    (named : settings.siteDirectory.isEmpty = false) :
    endangered? files settings = none ↔
      ∀ path ∈ guarded settings,
        ¬ Holds files.workingDirectory settings.outputPath path := by
  have written : settings.outputPath.isEmpty = false :=
    Path.isEmpty_join named _
  have found : endangered? files settings =
    (guarded settings).find? (endangers files settings.outputPath) := rfl
  rw [found, List.find?_eq_none]
  apply forall₂_congr
  intro path listed
  rw [endangers_iff written (isEmpty_of_guarded named path listed)]

/-- Whatever the files are, the guard refuses an output directory exactly if its
place is that of the site, the spec or the static directory or is above it, and
names the first of these; and it locates every path where its text says, whether
the path can be followed or not. -/
theorem check_outcome (files : FileSystem) (settings : BuildSettings)
    (named : settings.siteDirectory.isEmpty = false) :
    (∀ error, check files settings = .error error ↔
      ∃ before path after, guarded settings = before ++ path :: after ∧
        Holds files.workingDirectory settings.outputPath path ∧
        (∀ earlier ∈ before,
          ¬ Holds files.workingDirectory settings.outputPath earlier) ∧
        error = .unsafeOutput settings.outputPath path) ∧
    (check files settings = .ok () ↔
      ∀ path ∈ guarded settings,
        ¬ Holds files.workingDirectory settings.outputPath path) ∧
    ∀ path, (path.isEmpty = false →
        location? files path = some (path.place files.workingDirectory)) ∧
      ∀ location, files.locate path = .ok location →
        location = path.place files.workingDirectory ∧
          location = lexicalLocation files path := by
  refine ⟨?_, ?_, ?_⟩
  · intro error
    rw [check_eq_error_iff]
    constructor
    · rintro ⟨path, found, rfl⟩
      obtain ⟨before, after, split, holds, others⟩ :=
        (endangered?_eq_some_iff named).mp found
      exact ⟨before, path, after, split, holds, others, rfl⟩
    · rintro ⟨before, path, after, split, holds, others, rfl⟩
      exact ⟨path, (endangered?_eq_some_iff named).mpr
        ⟨before, after, split, holds, others⟩, rfl⟩
  · rw [check_eq_ok_iff, endangered?_eq_none_iff named]
  · intro path
    refine ⟨location?_eq_place, ?_⟩
    intro location located
    have here := locate_eq_lexicalLocation located
    exact ⟨here.trans (lexicalLocation_eq_place files path), here⟩

/-- A site whose output directory is spelled with a directory that does not
exist, with more `..` than there are directories above, and with slashes that
say nothing. -/
def roundaboutSettings : BuildSettings where
  siteDirectory := ⟨"./site/"⟩
  specDirectory := ⟨"spec"⟩
  staticDirectory := ⟨"/site/spec//static/./"⟩
  outputDirectory := ⟨"missing/.././../../..//site/spec/"⟩
  clean := true
  lang := .doctype
  sitemapBase := none

/-- Its place is the spec directory, which is not above the site directory. -/
theorem check_roundabout :
    roundaboutSettings.siteDirectory.isEmpty = false ∧
      check Build.nestedFiles roundaboutSettings =
        .error (.unsafeOutput roundaboutSettings.outputPath
          ⟨"./site/spec"⟩) ∧
      ∃ before path after,
        guarded roundaboutSettings = before ++ path :: after ∧
          Holds Build.nestedFiles.workingDirectory roundaboutSettings.outputPath
            path ∧
          (∀ earlier ∈ before, ¬ Holds Build.nestedFiles.workingDirectory
            roundaboutSettings.outputPath earlier) ∧
          SiteError.unsafeOutput roundaboutSettings.outputPath
            ⟨"./site/spec"⟩ =
              .unsafeOutput roundaboutSettings.outputPath path := by
  have named : roundaboutSettings.siteDirectory.isEmpty = false := by
    decide
  have refused : check Build.nestedFiles roundaboutSettings =
      .error (.unsafeOutput roundaboutSettings.outputPath
        ⟨"./site/spec"⟩) :=
    check_eq_error_iff.mpr ⟨_, by decide +kernel, rfl⟩
  exact ⟨named, refused,
    ((check_outcome Build.nestedFiles roundaboutSettings named).1 _).mp refused⟩

end CleanGuard

end WorkbookSite
