import WorkbookSite.Proofs.CheckedBuild
import WorkbookSite.Proofs.MaintainedWrites
import WorkbookSite.Proofs.RenderedDocuments

/-!
# Builds that stay in their output directory

Whatever a site says, and wherever a build stops, nothing changes outside of
the output directory, except that directories named on the way to it are made.
The path of a document is taken apart into names before it is put below the
output directory, and no name leads out of a directory.
-/

namespace WorkbookSite

open CleanGuard FileSystem FileAction

/-- A place that a path passes or ends at. -/
def FileSystem.OnTheWay (files : FileSystem) (path : Path)
    (place : Location) : Prop :=
  ∃ passed, passed <+: path.components ∧
    place = resolve files.workingDirectory passed

namespace Build

variable {settings : BuildSettings} {output : Path}
  {start files after : FileSystem}

/-- What is different from the start is below the output directory, or is a
new directory on the way to it. -/
structure Confined (start : FileSystem) (output : Path)
    (files : FileSystem) : Prop where
  settled : files.workingDirectory = start.workingDirectory
  named : files.Named
  changed : ∀ ⦃place⦄, files.item? place ≠ start.item? place →
    lexicalLocation start output <+: place ∨
      start.item? place = none ∧ files.item? place = some .directory ∧
        start.OnTheWay output place

namespace Confined

theorem refl (named : start.Named) : Confined start output start := by
  constructor
  · rfl
  · exact named
  · intro place changed
    exact absurd rfl changed

theorem put (confined : Confined start output files) {place : Location}
    {name : String} {item : Item} (proper : Path.IsFileName name)
    (allowed : lexicalLocation start output <+: place ++ [name] ∨
      files.item? (place ++ [name]) = none ∧ item = .directory ∧
        start.OnTheWay output (place ++ [name])) :
    Confined start output (files.put (place ++ [name]) item) := by
  constructor
  · exact confined.settled
  · exact confined.named.put proper
  · intro other changed
    rw [item?_put _ _ (by simp)] at changed ⊢
    by_cases same : other = place ++ [name]
    · subst same
      rw [if_pos rfl]
      rcases allowed with below | ⟨absent, rfl, passed⟩
      · exact .inl below
      · by_cases before : start.item? (place ++ [name]) = none
        · exact .inr ⟨before, rfl, passed⟩
        · have differs : files.item? (place ++ [name]) ≠
              start.item? (place ++ [name]) := by
            rw [absent]
            exact Ne.symm before
          rcases confined.changed differs with below | ⟨missing, -⟩
          · exact .inl below
          · exact absurd missing before
    · rw [if_neg same] at changed ⊢
      exact confined.changed changed

theorem removeTree {outcome : Except Refusal Unit} (named : start.Named)
    (ran : removeTree output start = (outcome, after)) :
    Confined start output after := by
  rcases removeTree_ran ran with ⟨rfl, -⟩ | ⟨removed, located, -, emptied⟩
  · exact .refl named
  · have here := locate_eq_lexicalLocation located
    have left := item?_of_removed emptied
    constructor
    · exact workingDirectory_removeTree ran
    · intro place name item stored
      rcases left (place ++ [name]) with same | ⟨gone, -⟩
      · exact named (same.symm.trans stored)
      · rw [gone] at stored
        cases stored
    · intro place changed
      rcases left place with same | ⟨-, below⟩
      · exact absurd same changed
      · exact .inl (here ▸ below)

theorem writable : Writable (Confined start output) start.workingDirectory
    output (fun _ => True) := by
  constructor
  · intro files confined
    exact confined.settled
  · intro files passed name confined listed absent
    apply confined.put
    · exact Path.isFileName_of_mem_components (name_mem_of_passed listed)
    · exact .inr ⟨absent, rfl, passed ++ [.name name], listed,
        (resolve_concat_name ..).symm⟩
  · intro files names name confined proper _
    apply confined.put proper
    rw [List.append_assoc]
    exact .inl (List.prefix_append ..)
  · intro files names name content confined _ proper _
    apply confined.put proper
    rw [List.append_assoc]
    exact .inl (List.prefix_append ..)

end Confined

theorem confined_writeOutput {documents : List RenderedDocument}
    {outcome : Except SiteError Nat} (named : files.Named)
    (inner : ∀ document ∈ documents,
      Path.innerNames? ⟨document.path⟩ = some document.names)
    (ran : writeOutput settings documents files = (outcome, after)) :
    Confined files settings.outputPath after := by
  have writable := @Confined.writable settings.outputPath files
  refine (writable.writeOutput rfl (fun _ => trivial) (fun _ => Confined.named)
    (fun document listed => ⟨_, inner document listed⟩) (.refl named) ?_ ran).1
  intro outcome after failed
  obtain ⟨result, removed, -⟩ := removeOutput_ran failed
  exact .removeTree named removed

/-- Whatever ends up different after a build, whether it succeeds or not, is
the output directory or below it, or is a new directory on the way to it; and
this is the directory that the output path leads to, before and after. -/
theorem run_confined [WorkbookReader] {outcome : Except SiteError BuildReport}
    (named : files.Named) (ran : run settings files = (outcome, after)) :
    (∀ place, after.item? place ≠ files.item? place →
      lexicalLocation files settings.outputPath <+: place ∨
        files.item? place = none ∧ after.item? place = some .directory ∧
          files.OnTheWay settings.outputPath place) ∧
      ∀ output, files.locate settings.outputPath = .ok output ∨
          after.locate settings.outputPath = .ok output →
        output = lexicalLocation files settings.outputPath := by
  have confined : Confined files settings.outputPath after := by
    rcases run_ran ran with ⟨error, -, rfl, -⟩ |
      ⟨site, documents, result, -, prepared, wrote, -⟩
    · exact .refl named
    · apply confined_writeOutput named ?_ wrote
      exact Site.Renders.inner_of_mem (prepare_eq_ok.mp prepared).2.1
  constructor
  · exact confined.changed
  · intro output leads
    rcases leads with before | later
    · exact locate_eq_lexicalLocation before
    · rw [locate_eq_lexicalLocation later,
        lexicalLocation_congr confined.settled]

/-! ## A detour on the way to the output directory -/

def detourSettings : BuildSettings :=
  { nestedSettings with outputDirectory := ⟨"new/../www"⟩ }

def detourFiles : FileSystem :=
  siteFiles (pagesWorkbook [("index", "//a/./b.html/")])

theorem named_detourFiles : detourFiles.Named := by
  apply IsTree.named
  apply isTree_of_items rfl
  decide +kernel

/-- A document is new in the output directory, and `new`, which the output
path leaves again, is a new directory. -/
theorem run_confined_detour :
    detourFiles.Named ∧
      (run detourSettings detourFiles).1 =
        .ok ⟨1, 1, 0, ⟨"site/new/../www"⟩⟩ ∧
      (∀ place ∈ [["site", "www", "a", "b.html"], ["site", "new"]],
        (run detourSettings detourFiles).2.item? place ≠
          detourFiles.item? place) ∧
      detourFiles.OnTheWay detourSettings.outputPath ["site", "new"] := by
  have ran : run detourSettings detourFiles = (_, _) := (Prod.eta _).symm
  have changed : ∀ place ∈ [["site", "www", "a", "b.html"], ["site", "new"]],
      (run detourSettings detourFiles).2.item? place ≠
        detourFiles.item? place := by
    decide +kernel
  have elsewhere :
      ¬ lexicalLocation detourFiles detourSettings.outputPath <+:
        ["site", "new"] := by
    decide +kernel
  have confined := (run_confined named_detourFiles ran).1 ["site", "new"]
    (changed _ (by simp))
  exact ⟨named_detourFiles, Outcome.eq_ok_of_toOption (by decide +kernel),
    changed, (confined.resolve_left elsewhere).2.2⟩

end Build

end WorkbookSite
