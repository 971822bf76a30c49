import WorkbookSite.Proofs.PlainBuilds
import WorkbookSite.Proofs.ReopenedDirectories
import WorkbookSite.Proofs.WalkedFiles

/-!
# Trees that are merged

A tree is copied place by place to a goal that lies apart from it.  What is done
so far stands at the goal, in the place of older files; all else there, and all
that is not below the goal, is as it was.  A copy goes on until a place is a
file on one side and a directory on the other.
-/

namespace WorkbookSite.Assets

open FileSystem CleanGuard FileAction

variable {opened files after : FileSystem} {origin goal : Location}
  {target : Path} {done others : List String → Prop}
  {above names : List String} {name : String} {item : Item} {count : Nat}

/-- What is done of the tree at `origin` has been copied to `goal`, and all else
is as it was when the goal was opened. -/
structure Merged (opened : FileSystem) (origin goal : Location)
    (done : List String → Prop) (files : FileSystem) : Prop where
  tree : files.IsTree
  ordered : files.InWalkOrder
  keeps : Keeps opened files
  outside : ∀ ⦃place⦄, ¬ goal <+: place →
    files.item? place = opened.item? place
  copied : ∀ ⦃names item⦄, done names →
    opened.item? (origin ++ names) = some item →
      files.item? (goal ++ names) = some item
  kept : ∀ ⦃names⦄, (done names → opened.item? (origin ++ names) = none) →
    files.item? (goal ++ names) = opened.item? (goal ++ names)

/-- The same names lead to a file on one side and to a directory on the
other. -/
def Clash (opened : FileSystem) (origin goal : Location)
    (within : List String → Prop) : Prop :=
  ∃ names one other, within names ∧
    opened.item? (origin ++ names) = some one ∧
    opened.item? (goal ++ names) = some other ∧ one.kind ≠ other.kind

theorem Clash.mono (clash : Clash opened origin goal done)
    (listed : ∀ names, done names → others names) :
    Clash opened origin goal others := by
  obtain ⟨names, one, other, here, rest⟩ := clash
  exact ⟨names, one, other, listed names here, rest⟩

/-- So many files are among the places at `origin`. -/
def HasFiles (opened : FileSystem) (origin : Location)
    (within : List String → Prop) (count : Nat) : Prop :=
  ∃ listed : List (List String), listed.Nodup ∧ listed.length = count ∧
    ∀ names, names ∈ listed ↔ within names ∧
      ∃ content, opened.item? (origin ++ names) = some (.file content)

/-- Once the directory above is done, the action copies what is at the name and
below it, and counts the files; only a clash among it can make it fail. -/
def Copies (opened : FileSystem) (origin goal : Location)
    (above : List String) (name : String)
    (action : FileAction SiteError Nat) : Prop :=
  ∀ ⦃done files⦄, Merged opened origin goal done files → done above →
    (∃ count after, action files = (.ok count, after) ∧
      Merged opened origin goal
        (fun other => done other ∨ above ++ [name] <+: other) after ∧
      HasFiles opened origin (above ++ [name] <+: ·) count) ∨
    Clash opened origin goal (above ++ [name] <+: ·) ∧
      ∃ error after, action files = (.error error, after)

/-! ## Counting -/

namespace HasFiles

theorem none (nothing : ∀ names, ¬ done names) :
    HasFiles opened origin done 0 := by
  refine ⟨[], List.nodup_nil, rfl, fun names => ?_⟩
  simp [nothing names]

theorem single {content : Content}
    (stored : opened.item? (origin ++ names) = some (.file content)) :
    HasFiles opened origin (· = names) 1 := by
  refine ⟨[names], List.nodup_singleton names, rfl, fun other => ?_⟩
  rw [List.mem_singleton]
  constructor
  · rintro rfl
    exact ⟨rfl, content, stored⟩
  · exact And.left

theorem congr (counted : HasFiles opened origin done count)
    (same : ∀ names content,
      opened.item? (origin ++ names) = some (.file content) →
        (done names ↔ others names)) :
    HasFiles opened origin others count := by
  obtain ⟨listed, distinct, length, members⟩ := counted
  refine ⟨listed, distinct, length, fun names => ?_⟩
  rw [members]
  apply and_congr_left
  rintro ⟨content, stored⟩
  exact same names content stored

theorem or {more : Nat} (counted : HasFiles opened origin done count)
    (further : HasFiles opened origin others more)
    (apart : ∀ names, done names → ¬ others names) :
    HasFiles opened origin (fun names => done names ∨ others names)
      (count + more) := by
  obtain ⟨first, one, rfl, members⟩ := counted
  obtain ⟨second, two, rfl, also⟩ := further
  refine ⟨first ++ second, ?_, List.length_append, fun names => ?_⟩
  · apply one.append two
    intro names here there
    exact apart names ((members names).mp here).1 ((also names).mp there).1
  · rw [List.mem_append, members, also, or_and_right]

end HasFiles

/-! ## One step -/

namespace Merged

theorem start (tree : opened.IsTree) (ordered : opened.InWalkOrder)
    (entered : opened.item? origin = some .directory)
    (reached : opened.item? goal = some .directory) :
    Merged opened origin goal (· = []) opened := by
  refine ⟨tree, ordered, .refl opened, fun _ _ => rfl, ?_, fun _ _ => rfl⟩
  rintro names item rfl stored
  rw [List.append_nil] at stored ⊢
  rw [reached, ← stored, entered]

variable (merged : Merged opened origin goal done files)
include merged

/-- What is done matters only where there is something to copy. -/
theorem congr (same : ∀ names item,
      opened.item? (origin ++ names) = some item →
        (done names ↔ others names)) :
    Merged opened origin goal others files := by
  refine ⟨merged.tree, merged.ordered, merged.keeps, merged.outside, ?_, ?_⟩
  · intro names item here stored
    exact merged.copied ((same names item stored).mpr here) stored
  · intro names absent
    apply merged.kept
    intro here
    cases stored : opened.item? (origin ++ names) with
    | none => rfl
    | some item =>
        rw [absent ((same names item stored).mp here)] at stored
        cases stored

/-- An item that is in the way was there before. -/
theorem clash {one other : Item}
    (stored : opened.item? (origin ++ names) = some one)
    (there : files.item? (goal ++ names) = some other)
    (differ : one.kind ≠ other.kind) :
    Clash opened origin goal (names <+: ·) := by
  refine ⟨names, one, other, List.prefix_rfl, stored, ?_, differ⟩
  rw [← there]
  apply Eq.symm
  apply merged.kept
  intro here
  rw [merged.copied here stored] at there
  cases there
  exact absurd rfl differ

/-- The tree that is copied does not change. -/
theorem item?_origin (apart : Build.Separate goal origin)
    (names : List String) :
    files.item? (origin ++ names) = opened.item? (origin ++ names) :=
  merged.outside (apart.append names).1

theorem parent (tree : opened.IsTree) (entered : done above)
    (stored : opened.item? (origin ++ (above ++ [name])) = some item) :
    files.item? (goal ++ above) = some .directory := by
  rw [← List.append_assoc] at stored
  exact merged.copied entered (tree.parent stored)

/-- What is there already is done. -/
theorem found (stored : opened.item? (origin ++ names) = some item)
    (there : files.item? (goal ++ names) = some item) :
    Merged opened origin goal (fun other => done other ∨ other = names)
      files := by
  refine ⟨merged.tree, merged.ordered, merged.keeps, merged.outside, ?_, ?_⟩
  · rintro other also (here | rfl) copy
    · exact merged.copied here copy
    · rw [there, ← copy, stored]
  · intro other absent
    exact merged.kept fun here => absent (.inl here)

theorem put (tree : opened.IsTree) (entered : done above)
    (stored : opened.item? (origin ++ (above ++ [name])) = some item)
    (free : files.isDirectoryAt (goal ++ (above ++ [name])) = false)
    (new : item = .directory →
      files.item? (goal ++ (above ++ [name])) = none) :
    Merged opened origin goal
      (fun other => done other ∨ other = above ++ [name])
      (files.put (goal ++ (above ++ [name])) item) := by
  have parent := merged.parent tree entered stored
  have inside : goal ++ (above ++ [name]) ≠ [] := by simp
  have proper := tree.isFileName_of_mem stored
    (by simp : name ∈ origin ++ (above ++ [name]))
  have here : (files.put (goal ++ (above ++ [name])) item).item?
      (goal ++ (above ++ [name])) = some item := by
    rw [item?_put _ _ inside, if_pos rfl]
  have elsewhere : ∀ {place}, place ≠ goal ++ (above ++ [name]) →
      (files.put (goal ++ (above ++ [name])) item).item? place =
        files.item? place := by
    intro place other
    rw [item?_put _ _ inside, if_neg other]
  constructor
  · rw [← List.append_assoc] at free ⊢
    exact merged.tree.put parent proper.1 proper.2 (.inr free)
  · exact merged.ordered.put _ item
  · apply merged.keeps.trans
    cases item with
    | directory => exact .put_directory (new rfl)
    | file content => exact .put_file content inside free
  · intro place outside
    rw [elsewhere (by rintro rfl; exact outside (List.prefix_append ..))]
    exact merged.outside outside
  · intro other copy either found
    by_cases same : other = above ++ [name]
    · subst same
      rw [here, ← found, stored]
    · rw [elsewhere fun place => same (List.append_cancel_left place)]
      exact merged.copied (either.resolve_right same) found
  · intro other absent
    have apart : other ≠ above ++ [name] := by
      rintro rfl
      rw [absent (.inr rfl)] at stored
      cases stored
    rw [elsewhere fun place => apart (List.append_cancel_left place)]
    exact merged.kept fun before => absent (.inl before)

section

variable (tree : opened.IsTree) (leads : opened.LeadsTo target goal)
include tree leads

theorem copyFile (apart : Build.Separate goal origin) (entered : done above)
    {content : Content}
    (stored : opened.item? (origin ++ (above ++ [name])) =
      some (.file content)) :
    (∃ after, FileSystem.copyFile (origin ++ (above ++ [name])) content
        (target.join (.ofNames (above ++ [name]))) files = (.ok (), after) ∧
      Merged opened origin goal
        (fun other => done other ∨ other = above ++ [name]) after) ∨
    Clash opened origin goal (above ++ [name] <+: ·) ∧ ∃ refusal after,
      FileSystem.copyFile (origin ++ (above ++ [name])) content
        (target.join (.ofNames (above ++ [name]))) files =
          (.error refusal, after) := by
  have here := leads.keeps merged.keeps
  have proper : ∀ other ∈ above ++ [name], Path.IsFileName other :=
    fun other listed => (tree.isFileName_of_mem stored
      (List.mem_append_right _ listed)).1
  have elsewhere : goal ++ (above ++ [name]) ≠ origin ++ (above ++ [name]) := by
    intro same
    rw [List.append_cancel_right_eq] at same
    exact apart.1 (same ▸ List.prefix_rfl)
  by_cases free : files.isDirectoryAt (goal ++ (above ++ [name])) = false
  · left
    have wrote := here.way.writeFile_eq_ok merged.tree proper
      (here.location.symm ▸ merged.parent tree entered stored)
      (tree.isFileName_of_mem stored (by simp)).2
      (by rw [here.location, List.append_assoc]; exact free) content
    rw [here.location, List.append_assoc] at wrote
    refine ⟨_, ?_, merged.put tree entered stored free (by simp)⟩
    rw [FileSystem.copyFile, bind_of_succeeded wrote, if_neg elsewhere]
    rfl
  · right
    have there : files.item? (goal ++ (above ++ [name])) =
        some .directory := by
      rw [Bool.not_eq_false, isDirectoryAt, beq_iff_eq] at free
      exact free
    refine ⟨merged.clash stored there (by simp [Item.kind]), ?_⟩
    rcases ran : FileSystem.copyFile (origin ++ (above ++ [name])) content
      (target.join (.ofNames (above ++ [name]))) files with
      ⟨refusal | _, after⟩
    · exact ⟨refusal, after, rfl⟩
    · obtain ⟨place, middle, wrote, -⟩ := bind_succeeded ran
      obtain ⟨rfl, -, noDirectory, located⟩ := writeFile_succeeded wrote
      have same := locate_eq_lexicalLocation located
      rw [lexicalLocation_put, lexicalLocation_join_ofNames files proper,
        here.location] at same
      rw [same] at noDirectory
      exact absurd noDirectory free

theorem makeDirectories (entered : done above)
    (stored : opened.item? (origin ++ (above ++ [name])) =
      some .directory) :
    (∃ after, FileSystem.makeDirectories
        (target.join (.ofNames (above ++ [name]))) files = (.ok (), after) ∧
      Merged opened origin goal
        (fun other => done other ∨ other = above ++ [name]) after) ∨
    Clash opened origin goal (above ++ [name] <+: ·) ∧ ∃ refusal after,
      FileSystem.makeDirectories
        (target.join (.ofNames (above ++ [name]))) files =
          (.error refusal, after) := by
  have here := leads.keeps merged.keeps
  have proper : ∀ other ∈ above ++ [name], Path.IsFileName other :=
    fun other listed => (tree.isFileName_of_mem stored
      (List.mem_append_right _ listed)).1
  have parent := merged.parent tree entered stored
  have passed : ∀ ⦃passed⦄, passed <+: above.map Component.name →
      files.item? (resolve goal passed) = some .directory := by
    rintro passed ⟨later, spelled⟩
    obtain ⟨higher, rest, rfl, rfl, -⟩ :=
      List.map_eq_append_iff.mp spelled.symm
    rw [resolve_names]
    apply merged.tree.item?_prefix parent
    rw [← List.append_assoc]
    exact List.prefix_append ..
  rw [here.makeDirectories_below (by simp) proper, List.map_append,
    makeAlong_append_of_open passed, resolve_names, List.map_singleton,
    makeAlong, get_bind_eq, List.append_assoc]
  cases there : files.item? (goal ++ (above ++ [name])) with
  | none =>
      left
      have short : isNameTooLong name = false :=
        (tree.isFileName_of_mem stored (by simp)).2
      have free : files.isDirectoryAt (goal ++ (above ++ [name])) = false := by
        rw [isDirectoryAt, there]
        rfl
      simp only [short]
      exact ⟨_, rfl, merged.put tree entered stored free fun _ => there⟩
  | some item =>
      cases item with
      | directory => exact .inl ⟨files, rfl, merged.found stored there⟩
      | file content =>
          exact .inr ⟨merged.clash stored there (by simp [Item.kind]),
            _, _, rfl⟩

end

/-- The loop over the children of a directory copies what is in each child. -/
theorem children (entered : done above)
    {copyInside : List String → FileAction SiteError Nat}
    {children : List String} (count : Nat) (distinct : children.Nodup)
    (each : ∀ child ∈ children,
      Copies opened origin goal above child (copyInside (above ++ [child]))) :
    (∃ total after, (children.foldlM (fun count child => do
          let copied ← copyInside (above ++ [child])
          pure (count + copied)) count : FileAction SiteError Nat) files =
            (.ok (count + total), after) ∧
      Merged opened origin goal (fun other => done other ∨
        ∃ child ∈ children, above ++ [child] <+: other) after ∧
      HasFiles opened origin
        (fun other => ∃ child ∈ children, above ++ [child] <+: other) total) ∨
    Clash opened origin goal
        (fun other => ∃ child ∈ children, above ++ [child] <+: other) ∧
      ∃ error after, (children.foldlM (fun count child => do
          let copied ← copyInside (above ++ [child])
          pure (count + copied)) count : FileAction SiteError Nat) files =
            (.error error, after) := by
  induction children generalizing done files count with
  | nil =>
      refine .inl ⟨0, files, rfl, merged.congr ?_, .none ?_⟩
      · simp
      · simp
  | cons child children induction =>
      obtain ⟨new, distinct⟩ := List.nodup_cons.mp distinct
      obtain ⟨here, others⟩ := List.forall_mem_cons.mp each
      rw [List.foldlM_cons]
      rcases here merged entered with
        ⟨copied, middle, ran, between, counted⟩ | ⟨clash, error, after, ran⟩
      · have first : (do
            let copied ← copyInside (above ++ [child])
            pure (count + copied) : FileAction SiteError Nat) files =
              (.ok (count + copied), middle) := by
          rw [bind_of_succeeded ran]
          rfl
        rw [bind_of_succeeded first]
        rcases induction between (.inl entered) (count + copied) distinct
            others with
          ⟨total, after, rest, final, further⟩ | ⟨clash, failed⟩
        · left
          refine ⟨copied + total, after, ?_, final.congr ?_, ?_⟩
          · rw [rest, Nat.add_assoc]
          · intro other _ _
            simp only [List.exists_mem_cons_iff, or_assoc]
          · apply (counted.or further ?_).congr
            · intro other _ _
              rw [List.exists_mem_cons_iff]
            · rintro other one ⟨next, listed, two⟩
              have same : above ++ [child] = above ++ [next] :=
                (List.prefix_of_prefix_length_le one two
                  (by simp)).eq_of_length (by simp)
              obtain ⟨rfl, -⟩ := List.cons.inj (List.append_cancel_left same)
              exact new listed
        · refine .inr ⟨clash.mono ?_, failed⟩
          intro other within
          exact List.exists_mem_cons_of_exists within
      · right
        refine ⟨clash.mono ?_, error, after, ?_⟩
        · intro other within
          exact ⟨child, List.mem_cons_self, within⟩
        have first : (do
            let copied ← copyInside (above ++ [child])
            pure (count + copied) : FileAction SiteError Nat) files =
              (.error error, after) := bind_of_failed ran
        rw [bind_of_failed first]

end Merged

/-- What is below names, or at them, is at them or below one of the children of
the place that they lead to. -/
theorem prefix_iff_of_children (tree : opened.IsTree) {children : List String}
    (listed : ∀ child, child ∈ children ↔
      (opened.item? (origin ++ (names ++ [child]))).isSome = true)
    {other : List String}
    (stored : opened.item? (origin ++ other) = some item) :
    names <+: other ↔ other = names ∨
      ∃ child ∈ children, names ++ [child] <+: other := by
  constructor
  · rintro ⟨rest, rfl⟩
    cases rest with
    | nil => exact .inl (List.append_nil names)
    | cons child rest =>
        refine .inr ⟨child, (listed child).mpr ?_, rest, by simp⟩
        rw [List.append_cons, ← List.append_assoc] at stored
        exact tree.isSome_item?_above stored
  · rintro (rfl | ⟨child, -, below⟩)
    · exact List.prefix_rfl
    · exact (List.prefix_append names [child]).trans below

variable (tree : opened.IsTree) (leads : opened.LeadsTo target goal)
  (apart : Build.Separate goal origin)
include tree leads apart

theorem copies_file {copyInside : List String → FileAction SiteError Nat}
    {content : Content}
    (stored : opened.item? (origin ++ (above ++ [name])) =
      some (.file content)) :
    Copies opened origin goal above name
      (copyItem origin target copyInside (above ++ [name])) := by
  intro done files merged entered
  have here := merged.item?_origin apart (above ++ [name])
  rw [stored] at here
  rw [copyItem, get_bind_eq]
  simp only [here]
  have nothing : ∀ child, child ∈ ([] : List String) ↔
      (opened.item? (origin ++ (above ++ [name] ++ [child]))).isSome =
        true := by
    intro child
    rw [← List.append_assoc origin]
    cases below : opened.item? (origin ++ (above ++ [name]) ++ [child]) with
    | none => simp
    | some item =>
        rw [tree.parent below] at stored
        cases stored
  have alone : ∀ other item, opened.item? (origin ++ other) = some item →
      (other = above ++ [name] ↔ above ++ [name] <+: other) := by
    intro other item found
    rw [prefix_iff_of_children tree nothing found]
    simp
  rcases merged.copyFile tree leads apart entered stored with
    ⟨after, copied, final⟩ | ⟨clash, refusal, after, failed⟩
  · left
    refine ⟨1, after, ?_, final.congr ?_, (HasFiles.single stored).congr ?_⟩
    · rw [bind_of_succeeded (orElseFail_of_succeeded copied)]
      rfl
    · intro other item found
      exact or_congr_right (alone other item found)
    · intro other latest found
      exact alone other _ found
  · right
    exact ⟨clash, _, after, bind_of_failed (orElseFail_of_failed failed)⟩

theorem copies_directory {copyInside : List String → FileAction SiteError Nat}
    (stored : opened.item? (origin ++ (above ++ [name])) = some .directory)
    (each : ∀ child item,
      opened.item? (origin ++ (above ++ [name] ++ [child])) = some item →
        Copies opened origin goal (above ++ [name]) child
          (copyInside (above ++ [name] ++ [child]))) :
    Copies opened origin goal above name
      (copyItem origin target copyInside (above ++ [name])) := by
  intro done files merged entered
  have here := merged.item?_origin apart (above ++ [name])
  rw [stored] at here
  rw [copyItem, get_bind_eq]
  simp only [here]
  have listed : ∀ child,
      child ∈ files.children (origin ++ (above ++ [name])) ↔
        (opened.item? (origin ++ (above ++ [name] ++ [child]))).isSome =
          true := by
    intro child
    rw [mem_children_iff, List.append_assoc, merged.item?_origin apart]
  have below : ∀ other item, opened.item? (origin ++ other) = some item →
      (above ++ [name] <+: other ↔ other = above ++ [name] ∨
        ∃ child ∈ files.children (origin ++ (above ++ [name])),
          above ++ [name] ++ [child] <+: other) :=
    fun _ _ => prefix_iff_of_children tree listed
  rcases merged.makeDirectories tree leads entered stored with
    ⟨middle, made, reached⟩ | ⟨clash, refusal, after, failed⟩
  · rw [bind_of_succeeded (orElseFail_of_succeeded made)]
    have distinct := merged.ordered.nodup_children
      (origin ++ (above ++ [name]))
    have inner : ∀ child ∈ files.children (origin ++ (above ++ [name])),
        Copies opened origin goal (above ++ [name]) child
          (copyInside (above ++ [name] ++ [child])) := by
      intro child within
      obtain ⟨item, found⟩ :=
        Option.isSome_iff_exists.mp ((listed child).mp within)
      exact each child item found
    rcases reached.children (.inr rfl) 0 distinct inner with
      ⟨total, after, copied, final, counted⟩ | ⟨clash, failed⟩
    · left
      refine ⟨total, after, ?_, final.congr ?_, counted.congr ?_⟩
      · rw [copied, Nat.zero_add]
      · intro other item found
        rw [below other item found, or_assoc]
      · intro other content found
        rw [below other _ found, iff_or_self]
        rintro rfl
        rw [stored] at found
        cases found
    · refine .inr ⟨clash.mono ?_, failed⟩
      rintro other ⟨child, -, within⟩
      exact (List.prefix_append _ [child]).trans within
  · right
    exact ⟨clash, _, after, bind_of_failed (orElseFail_of_failed failed)⟩

/-- A place that is copied is done, with all that is below it. -/
theorem copies_copyPlace {levels : Nat}
    (enough : opened.items.length < (above ++ [name]).length + levels)
    (stored : opened.item? (origin ++ (above ++ [name])) = some item) :
    Copies opened origin goal above name
      (copyPlace origin target levels (above ++ [name])) := by
  induction levels generalizing above name item with
  | zero =>
      have bound := tree.length_le stored
      rw [List.length_append] at bound
      omega
  | succ levels induction =>
      rw [copyPlace]
      cases item with
      | file content => exact copies_file tree leads apart stored
      | directory =>
          apply copies_directory tree leads apart stored
          intro child item found
          apply induction _ found
          rw [List.length_append, List.length_singleton]
          omega

end WorkbookSite.Assets
