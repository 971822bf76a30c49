import WorkbookSite.Proofs.FittingBuild
import WorkbookSite.Proofs.PlainPaths

/-!
# Builds with plain paths

When the paths of the settings are plain, a build that succeeds has found
nothing in the way of its output directory.  Nothing of older output is left
then, and what is neither below the output directory nor above it is as it was.
-/

namespace WorkbookSite

open FileSystem CleanGuard FileAction

/-- None of the paths leads back to the directory above. -/
structure BuildSettings.IsPlain (settings : BuildSettings) : Prop where
  site : settings.siteDirectory.IsPlain
  spec : settings.specDirectory.IsPlain
  static : settings.staticDirectory.IsPlain
  output : settings.outputDirectory.IsPlain

namespace BuildSettings.IsPlain

variable {settings : BuildSettings} (plain : settings.IsPlain)
include plain

theorem specPath : settings.specPath.IsPlain := plain.site.join plain.spec

theorem staticPath : settings.staticPath.IsPlain :=
  plain.site.join plain.static

theorem outputPath : settings.outputPath.IsPlain :=
  plain.site.join plain.output

end BuildSettings.IsPlain

/-- The place that `inner` names is the one that `outer` names or lies below
it.  The empty path names no place. -/
def FileSystem.LiesIn (files : FileSystem) (inner outer : Path) : Prop :=
  outer.isEmpty = false ∧
    lexicalLocation files outer <+: lexicalLocation files inner

instance (files : FileSystem) (inner outer : Path) :
    Decidable (files.LiesIn inner outer) :=
  inferInstanceAs (Decidable (_ ∧ _))

namespace Build

variable {files middle after : FileSystem} {settings : BuildSettings}
  {output path : Path}

/-- If a directory is made along a path that ends in a `.`, the directory
before the `.` was there, unless something above it was made in its place. -/
theorem directory_of_made (tree : files.IsTree) {above : List Component}
    {name : String} (last : path.steps.getLast? = some .current)
    (spelled : path.components = above ++ [.name name])
    (made : makeDirectories path files = (.ok (), after)) :
    files.item? (lexicalLocation files path) = some .directory ∨
      ∃ passed, passed <+: above ∧
        resolve files.workingDirectory passed = lexicalLocation files path := by
  unfold makeDirectories at made
  replace made := get_bind_ran.mp made
  simp only [last, spelled, List.getLast?_concat, List.dropLast_concat] at made
  obtain ⟨_, between, ran, ended⟩ := bind_succeeded made
  replace ended := get_bind_ran.mp ended
  have along := makeAlong_ran tree tree.home (fun name listed => by
    have within : .name name ∈ path.components := by
      rw [spelled]
      exact List.mem_append_left _ listed
    exact Path.isFileName_of_mem_components within) ran
  cases located : between.locate path with
  | error refusal =>
      simp only [located] at ended
      cases (throw_ran.mp ended).1
  | ok place =>
      have here := locate_eq_lexicalLocation located
      rw [lexicalLocation_congr along.keeps.workingDirectory] at here
      have there := directory_of_locate last located
      rw [here] at there
      by_cases before :
          files.item? (lexicalLocation files path) = some .directory
      · exact .inl before
      · obtain ⟨-, -, passed, listed, ends⟩ :=
          along.made (there.trans_ne (Ne.symm before))
        exact .inr ⟨passed, listed, ends.symm⟩

section

variable (tree : files.IsTree) (plain : output.IsPlain)
  (apart : ¬ lexicalLocation files output <+: files.workingDirectory)
  (removed : removeOutput output files = (.ok (), middle))
  (same : path.steps = output.steps)
  (made : makeDirectories path middle = (.ok (), after))
include tree plain apart removed same made

/-- An output directory that is removed and made again is named with its own
name: a path that ends in a `.` leads nowhere when it is to be removed, and the
directory before the `.` is not made later. -/
theorem named_of_made : ∃ name, output.steps.getLast? = some (.name name) := by
  obtain ⟨above, name, spelled⟩ := plain.components_eq apart
  rcases plain.steps_getLast? spelled with named | last
  · exact named
  exfalso
  obtain ⟨result, ran, ⟨-, allowed⟩ | ⟨failed, -⟩⟩ :=
    Build.removeOutput_ran removed
  · have nowhere : ∀ place, files.locate output ≠ .ok place := by
      intro place located
      exact allowed (removeTree_unnamed located
        (directory_of_locate last located) (by simp [last]) (by simp [last])
        ran)
    obtain rfl : middle = files := by
      rcases removeTree_ran ran with ⟨same, -⟩ | ⟨place, located, -⟩
      · exact same
      · exact absurd located (nowhere place)
    have components : path.components = above ++ [.name name] := by
      rw [Path.components, same]
      exact spelled
    have leads : lexicalLocation middle path = lexicalLocation middle output := by
      rw [lexicalLocation, components, ← spelled, lexicalLocation]
    rcases directory_of_made tree (same ▸ last) components made with
      directory | ⟨passed, listed, ends⟩
    · rw [leads] at directory
      refine nowhere _ (plain.locate tree ?_ directory)
      apply isEmpty_eq_false_of_steps
      intro none
      simp [none] at last
    · exact plain.resolve_ne spelled apart listed (ends.trans leads)
  · cases failed

theorem clearWay_of_made : ClearWay files output := by
  obtain ⟨name, last⟩ := named_of_made tree plain apart removed same made
  refine ⟨⟨name, last⟩, ?_, apart⟩
  intro passed content listed stored
  rcases plain.passed_cases files.workingDirectory listed with rfl | above
  · have home := tree.home
    rw [resolve] at stored
    rw [stored] at home
    cases home
  · obtain ⟨result, ran, ⟨-, allowed⟩ | ⟨failed, -⟩⟩ :=
      Build.removeOutput_ran removed
    · rcases removeTree_named last ran with ⟨refusal, -, -, rfl⟩ |
        ⟨place, located, ⟨-, rfl, -⟩ | ⟨directory, -, -⟩⟩
      · have components : path.components = output.components := by
          rw [Path.components, same, ← Path.components]
        rw [makeDirectories_eq (by simp [same, last]), components] at made
        have along := makeAlong_ran tree tree.home
          (fun _ => Path.isFileName_of_mem_components) made
        obtain ⟨latest, found⟩ := along.keeps.file stored
        rw [along.opened rfl listed] at found
        cases found
      · exact absurd rfl allowed
      · rw [isDirectoryAt, locate_eq_lexicalLocation located] at directory
        rw [tree.item?_prefix (beq_iff_eq.mp directory) above] at stored
        cases stored
    · cases failed

end

/-- A build with plain paths gets as far as opening its output directory, which
does not lie in the static directory. -/
structure PlainBuild (files : FileSystem) (settings : BuildSettings) :
    Prop where
  tree : files.IsTree
  clean : settings.clean = true
  plain : settings.IsPlain
  outside : ¬ files.LiesIn settings.outputPath settings.staticPath
  passed : guard files settings = .ok ()
  clear : ClearWay files settings.outputPath
  ready : Ready files settings

theorem plainBuild_of_writeOutput {documents : List RenderedDocument}
    {assets : Nat} (tree : files.IsTree) (clean : settings.clean = true)
    (plain : settings.IsPlain)
    (outside : ¬ files.LiesIn settings.outputPath settings.staticPath)
    (apart : ¬ lexicalLocation files settings.outputPath <+:
      files.workingDirectory)
    (passed : guard files settings = .ok ())
    (ran : writeOutput settings documents files = (.ok assets, after)) :
    PlainBuild files settings := by
  have clear : ClearWay files settings.outputPath := by
    obtain ⟨removed, path, made, either, ran⟩ := made_of_writeOutput clean ran
    apply clearWay_of_made tree plain.outputPath apart removed ?_ ran
    rcases either with rfl | rfl
    · rfl
    · rw [Path.steps_join_ofNames (List.forall_mem_nil _), List.map_nil,
        List.append_nil]
  exact ⟨tree, clean, plain, outside, passed, clear,
    ready_of_writeOutput tree clean clear ran⟩

/-- Neither place is above the other one. -/
def Separate (first second : Location) : Prop :=
  ¬ first <+: second ∧ ¬ second <+: first

theorem Separate.append {first second : Location}
    (separate : Separate first second) (names : List String) :
    Separate first (second ++ names) := by
  constructor
  · intro above
    rcases List.prefix_or_prefix_of_prefix above (List.prefix_append ..) with
      before | before
    · exact separate.1 before
    · exact separate.2 before
  · intro above
    exact separate.2 ((List.prefix_append ..).trans above)

namespace PlainBuild

variable (build : PlainBuild files settings)
include build

theorem written : settings.outputPath.isEmpty = false :=
  written_of_guard build.clean build.passed

theorem treeEmptied : (emptied files settings).IsTree :=
  (build.clear.removeOutput_ran build.tree build.ready.removed).1

theorem settled : (emptied files settings).workingDirectory =
    files.workingDirectory :=
  workingDirectory_removeOutput build.ready.removed

/-- What is made again is above the output directory. -/
theorem item?_opened {place : Location}
    (elsewhere : ¬ place <+: lexicalLocation files settings.outputPath) :
    (opened files settings).item? place =
      (emptied files settings).item? place := by
  by_contra changed
  obtain ⟨absent, -, passed, listed, rfl⟩ := build.ready.along.made changed
  rcases build.plain.outputPath.passed_cases
    (emptied files settings).workingDirectory listed with rfl | above
  · rw [resolve, build.treeEmptied.home] at absent
    cases absent
  · rw [build.settled] at above elsewhere
    exact elsewhere above

/-- Nothing is left of older output. -/
theorem item?_emptied_below (names : List String) :
    (emptied files settings).item?
      (lexicalLocation files settings.outputPath ++ names) = none := by
  obtain ⟨name, last⟩ := build.clear.named
  have inside : lexicalLocation files settings.outputPath ++ names ≠ [] := by
    intro none
    apply build.clear.apart
    rw [(List.append_eq_nil_iff.mp none).1]
    exact List.nil_prefix
  obtain ⟨result, ran, ⟨-, allowed⟩ | ⟨failed, -⟩⟩ :=
    Build.removeOutput_ran build.ready.removed
  · rcases removeTree_named last ran with ⟨refusal, failed, -, same⟩ |
      ⟨place, located, ⟨-, rfl, -⟩ | ⟨-, -, same⟩⟩
    · rw [same]
      have absent : files.item?
          (lexicalLocation files settings.outputPath) = none := by
        cases stored : files.item?
            (lexicalLocation files settings.outputPath) with
        | none => rfl
        | some item =>
            cases item with
            | directory =>
                rw [build.plain.outputPath.locate build.tree build.written
                  stored] at failed
                cases failed
            | file content =>
                exact absurd stored (build.clear.free List.prefix_rfl)
      by_contra found
      obtain ⟨item, stored⟩ := Option.ne_none_iff_exists'.mp found
      by_cases none : names = []
      · rw [none, List.append_nil, absent] at stored
        cases stored
      · rw [build.tree.item?_above stored none] at absent
        cases absent
    · exact absurd rfl allowed
    · rw [same, locate_eq_lexicalLocation located, item?_removeAt inside,
        if_pos (List.prefix_append ..)]
  · cases failed

theorem item?_opened_below {names : List String} (inside : names ≠ []) :
    (opened files settings).item?
      (lexicalLocation files settings.outputPath ++ names) = none := by
  rw [build.item?_opened, build.item?_emptied_below]
  intro above
  have lengths := above.length_le
  rw [List.length_append] at lengths
  have some := List.length_pos_iff.mpr inside
  omega

/-- What lies apart from the output directory is as it was. -/
theorem item?_emptied {place : Location}
    (elsewhere : ¬ lexicalLocation files settings.outputPath <+: place) :
    (emptied files settings).item? place = files.item? place := by
  obtain ⟨result, ran, -⟩ := Build.removeOutput_ran build.ready.removed
  rcases removeTree_ran ran with ⟨same, -⟩ | ⟨removed, located, -, emptied⟩
  · rw [same]
  · rw [locate_eq_lexicalLocation located] at emptied
    exact (item?_of_removed emptied place).resolve_right fun ⟨_, below⟩ =>
      elsewhere below

theorem item?_of_separate {place : Location}
    (separate : Separate (lexicalLocation files settings.outputPath) place) :
    (opened files settings).item? place = files.item? place := by
  rw [build.item?_opened separate.2, build.item?_emptied separate.1]

theorem static_separate (written : settings.staticPath.isEmpty = false) :
    Separate (lexicalLocation files settings.outputPath)
      (lexicalLocation files settings.staticPath) :=
  ⟨not_prefix_of_guard build.clean build.passed (by simp) written,
    fun above => build.outside ⟨written, above⟩⟩

theorem assetsApart : AssetsApart files settings := by
  intro source first located _ above
  have here := locate_eq_lexicalLocation located
  rw [lexicalLocation_congr build.settled] at here
  rw [here] at above
  exact build.outside ⟨(locate_eq_ok_iff.mp located).1,
    (List.prefix_append ..).trans above⟩

end PlainBuild

end Build

end WorkbookSite
