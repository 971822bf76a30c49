import WorkbookSite.Proofs.CopiedAssets

/-!
# Assets that are mirrored

While assets are copied that lie apart from the output directory, each file
below the output directory holds what the asset with the same names holds.
-/

namespace WorkbookSite.Build

open FileSystem CleanGuard FileAction

variable {planned : Plan} {opened files after : FileSystem} {output : Path}
  {source : Location} {listed : String → Prop}

/-- Each file below the output directory is a copy of the asset that has the
same names. -/
def Mirrors (opened : FileSystem) (output : Path) (source : Location)
    (files : FileSystem) : Prop :=
  ∀ ⦃names content⦄,
    files.item? (lexicalLocation opened output ++ names) =
        some (.file content) →
      opened.item? (source ++ names) = some (.file content)

namespace Mirrors

variable (mirrors : Mirrors opened output source files)
include mirrors

theorem makeDirectories {path : Path} {outcome : Except Refusal Unit}
    (ran : makeDirectories path files = (outcome, after)) :
    Mirrors opened output source after := by
  have grown : Extends (fun _ _ _ => False) files after :=
    extends_makeDirectories (fun _ _ _ _ _ => id) ran
  intro names content stored
  apply mirrors
  exact (grown.written stored).resolve_right fun ⟨_, written, _⟩ => written

theorem copyFile {names : List String} {content : Content}
    {outcome : Except Refusal Unit}
    (settled : files.workingDirectory = opened.workingDirectory)
    (proper : ∀ name ∈ names, Path.IsFileName name)
    (stored : opened.item? (source ++ names) = some (.file content))
    (apart : source ++ names ≠ lexicalLocation opened output ++ names)
    (ran : copyFile (source ++ names) content (output.join (.ofNames names))
      files = (outcome, after)) :
    Mirrors opened output source after := by
  have leads : lexicalLocation files (output.join (.ofNames names)) =
      lexicalLocation opened output ++ names := by
    rw [lexicalLocation_join_ofNames files proper,
      lexicalLocation_congr settled]
  rcases bind_ran ran with ⟨place, middle, wrote, ended⟩ |
    ⟨refusal, wrote, -⟩
  · obtain ⟨rfl, inside, -, located⟩ := writeFile_succeeded wrote
    have here := locate_eq_lexicalLocation located
    rw [lexicalLocation_put, leads] at here
    subst here
    rw [if_neg (Ne.symm apart)] at ended
    obtain ⟨-, rfl⟩ := pure_ran.mp ended
    intro others latest found
    rw [item?_put _ _ inside] at found
    by_cases same : others = names
    · subst same
      rw [if_pos rfl] at found
      cases found
      exact stored
    · rw [if_neg fun place => same (List.append_cancel_left place)] at found
      exact mirrors found
  · rcases writeFile_ran wrote with ⟨_, -, rfl⟩ | ⟨_, succeeded, -⟩
    · exact mirrors
    · cases succeeded

end Mirrors

/-- A copy of assets goes on mirroring them. -/
theorem copyable_mirrors {total : Nat} (way : opened.OpenTo output)
    (tree : opened.IsTree) (closed : planned.Closed opened output)
    (covers : planned.Covers opened output source listed)
    (enough : opened.items.length < total) (earlier : FileSystem) :
    Assets.Copyable
      (fun names files => Inside planned opened output earlier names files ∧
        Mirrors opened output source files)
      (fun _ => True) source output (Listed opened source listed) total := by
  have copies := copyable way tree closed covers enough earlier
  constructor
  · intro files names child inner
    exact ⟨copies.leave inner.1, inner.2⟩
  · intro files names child inner inside reached found
    exact copies.inside inside.1 reached found
  · intro names _ _
    trivial
  · intro files names child content inside reached stored outcome after ran
    obtain ⟨inside, mirrors⟩ := inside
    obtain ⟨kept, -⟩ := copies.file inside reached stored ran
    refine ⟨⟨kept, ?_⟩, fun _ _ => trivial⟩
    obtain ⟨item, here, -, same⟩ := reached.asset covers
    rw [same inside.1] at stored
    rw [stored] at here
    apply mirrors.copyFile inside.1.grown.workingDirectory
      (reached.isFileName tree) here ?_ ran
    obtain ⟨first, rest, -, spelled, within, -⟩ := reached
    rw [spelled]
    exact covers.separate within
  · intro files names child outcome after inside reached stored ran
    obtain ⟨inside, mirrors⟩ := inside
    obtain ⟨entered, stopped⟩ := copies.directory inside reached stored ran
    have still := mirrors.makeDirectories ran
    refine ⟨fun succeeded => ⟨entered succeeded, still⟩, ?_⟩
    intro refusal failed
    exact ⟨⟨(stopped refusal failed).1, still⟩, trivial⟩

end WorkbookSite.Build
