import WorkbookSite.Proofs.FilledOutput

/-!
# Assets that are copied

Assets that lie apart from the output directory stay as they are while they are
copied.  So a copy that does not fail makes, for each asset, an item of the
same kind below the output directory.
-/

namespace WorkbookSite.Build

open FileSystem CleanGuard FileAction

variable {planned : Plan} {opened earlier files after : FileSystem}
  {output : Path} {source : Location} {listed : String → Prop}

/-- The plan covers the assets, each under its first name that is listed, and
these lie apart from the output directory. -/
structure Plan.Covers (planned : Plan) (opened : FileSystem) (output : Path)
    (source : Location) (listed : String → Prop) : Prop where
  asset : ∀ ⦃first rest item⦄, listed first →
    opened.item? (source ++ first :: rest) = some item →
      planned (first :: rest) item.kind
  separate : ∀ ⦃first rest names⦄, listed first →
    source ++ first :: rest ≠ lexicalLocation opened output ++ names

/-- The names lead to an asset that is listed. -/
def Listed (opened : FileSystem) (source : Location) (listed : String → Prop)
    (names : List String) : Prop :=
  ∃ first rest item, names = first :: rest ∧ listed first ∧
    opened.item? (source ++ names) = some item

namespace Listed

variable {names : List String}
  (reached : Listed opened source listed names)
include reached

theorem isFileName (tree : opened.IsTree) :
    ∀ name ∈ names, Path.IsFileName name := by
  intro name within
  obtain ⟨first, rest, item, -, -, stored⟩ := reached
  exact (tree.isFileName_of_mem stored (List.mem_append_right _ within)).1

/-- An asset that is listed is planned, and stays as it is. -/
theorem asset (covers : planned.Covers opened output source listed) :
    ∃ item, opened.item? (source ++ names) = some item ∧
      planned names item.kind ∧
      ∀ ⦃earlier files⦄, Filling planned opened output earlier files →
        files.item? (source ++ names) = some item := by
  obtain ⟨first, rest, item, rfl, here, stored⟩ := reached
  refine ⟨item, stored, covers.asset here stored, ?_⟩
  intro earlier files filling
  rw [filling.outside fun _ => covers.separate here]
  exact stored

theorem child (covers : planned.Covers opened output source listed)
    (filling : Filling planned opened output earlier files) {child : String}
    (found : child ∈ files.children (source ++ names)) :
    Listed opened source listed (names ++ [child]) := by
  obtain ⟨first, rest, item, rfl, here, -⟩ := reached
  obtain ⟨below, there⟩ :=
    Option.isSome_iff_exists.mp (mem_children_iff.mp found)
  rw [List.append_assoc, List.cons_append] at there
  rw [filling.outside fun _ => covers.separate here] at there
  exact ⟨first, rest ++ [child], below, rfl, here, there⟩

/-- What is below an asset is in one of its children, which is still there. -/
theorem mem_children (tree : opened.IsTree)
    (covers : planned.Covers opened output source listed)
    (filling : Filling planned opened output earlier files) {child : String}
    {below : List String} {item : Item}
    (stored : opened.item? (source ++ (names ++ [child]) ++ below) =
      some item) : child ∈ files.children (source ++ names) := by
  obtain ⟨nearest, found⟩ :=
    Option.isSome_iff_exists.mp (tree.isSome_item?_above stored)
  obtain ⟨first, rest, _, rfl, here, -⟩ := reached
  have inner : Listed opened source listed (first :: rest ++ [child]) :=
    ⟨first, rest ++ [child], nearest, rfl, here, found⟩
  obtain ⟨_, -, -, same⟩ := inner.asset covers
  rw [mem_children_iff, List.append_assoc, same filling]
  rfl

end Listed

/-- What holds while the assets inside a directory are copied. -/
abbrev Inside (planned : Plan) (opened : FileSystem) (output : Path)
    (earlier : FileSystem) (names : List String) (files : FileSystem) : Prop :=
  Filling planned opened output earlier files ∧
    files.item? (lexicalLocation opened output ++ names) = some .directory

section

variable {total : Nat} (way : opened.OpenTo output) (tree : opened.IsTree)
  (closed : planned.Closed opened output)
  (covers : planned.Covers opened output source listed)
  (enough : opened.items.length < total)
include way tree closed covers

theorem file_copied {names : List String} {child : String} {content : Content}
    {outcome : Except Refusal Unit}
    (inside : Inside planned opened output earlier names files)
    (reached : Listed opened source listed (names ++ [child]))
    (stored : files.item? (source ++ (names ++ [child])) =
      some (.file content))
    (ran : copyFile (source ++ (names ++ [child])) content
      (output.join (.ofNames (names ++ [child]))) files = (outcome, after)) :
    Inside planned opened output earlier names after ∧
      (outcome = .ok () → ∃ latest, after.item?
        (lexicalLocation opened output ++ (names ++ [child])) =
          some (.file latest)) ∧
      (planned.Fits → outcome = .ok ()) := by
  obtain ⟨item, -, wanted, same⟩ := reached.asset covers
  rw [same inside.1] at stored
  cases stored
  have proper := reached.isFileName tree
  obtain ⟨kept, copied, succeeds⟩ :=
    inside.1.copyFile way closed proper inside.2 wanted ran
  have still :=
    (inside.1.again.copyFile way closed proper inside.2 wanted ran).1.keeps
  rw [List.append_assoc] at copied
  exact ⟨⟨kept, still.directory inside.2⟩, copied, succeeds⟩

theorem directory_copied {names : List String} {child : String}
    {outcome : Except Refusal Unit}
    (inside : Inside planned opened output earlier names files)
    (reached : Listed opened source listed (names ++ [child]))
    (stored : files.item? (source ++ (names ++ [child])) = some .directory)
    (ran : makeDirectories (output.join (.ofNames (names ++ [child]))) files =
      (outcome, after)) :
    Inside planned opened output earlier names after ∧
      (outcome = .ok () →
        Inside planned opened output earlier (names ++ [child]) after) ∧
      (planned.Fits → outcome = .ok ()) := by
  obtain ⟨item, -, wanted, same⟩ := reached.asset covers
  rw [same inside.1] at stored
  cases stored
  have proper := reached.isFileName tree
  obtain ⟨kept, opens, succeeds⟩ :=
    inside.1.makeDirectories way closed (by simp) proper wanted ran
  have still := (inside.1.again.makeDirectories way closed (by simp) proper
    wanted ran).1.keeps
  exact ⟨⟨kept, still.directory inside.2⟩,
    fun succeeded => ⟨kept, opens succeeded⟩, succeeds⟩

include enough

theorem copyable (earlier : FileSystem) :
    Assets.Copyable (Inside planned opened output earlier)
      (fun _ => ¬ planned.Fits) source output (Listed opened source listed)
      total := by
  constructor
  · intro files names child inner
    obtain ⟨filling, directory⟩ := inner
    rw [← List.append_assoc] at directory
    exact ⟨filling, filling.tree.parent directory⟩
  · intro files names child inner inside reached found
    exact reached.child covers inside.1 found
  · intro names reached deep
    obtain ⟨first, rest, item, -, -, stored⟩ := reached
    have bound := tree.length_le stored
    rw [List.length_append] at bound
    omega
  · intro files names child content inside reached stored outcome after ran
    obtain ⟨kept, -, succeeds⟩ :=
      file_copied way tree closed covers inside reached stored ran
    exact ⟨kept, Outcome.not_of_error succeeds⟩
  · intro files names child outcome after inside reached stored ran
    obtain ⟨kept, opens, succeeds⟩ :=
      directory_copied way tree closed covers inside reached stored ran
    refine ⟨opens, ?_⟩
    intro refusal failed
    exact ⟨kept, Outcome.not_of_error succeeds refusal failed⟩

end

/-- The asset and all that is below it has been copied. -/
def Copied (opened : FileSystem) (output : Path) (source : Location)
    (names : List String) (files : FileSystem) : Prop :=
  ∀ ⦃below item⦄, opened.item? (source ++ (names ++ below)) = some item →
    ∃ copy, files.item? (lexicalLocation opened output ++ (names ++ below)) =
      some copy ∧ copy.kind = item.kind

theorem Copied.kept {names : List String}
    (copied : Copied opened output source names files)
    (keeps : Keeps files after) :
    Copied opened output source names after := by
  intro below item stored
  obtain ⟨copy, found, kind⟩ := copied stored
  obtain ⟨latest, there, same⟩ := keeps.kind found
  exact ⟨latest, there, same.trans kind⟩

/-- Nothing is below a file, so its copy is all that is to be there. -/
theorem copied_of_file (tree : opened.IsTree) {names : List String}
    {content latest : Content}
    (stored : opened.item? (source ++ names) = some (.file content))
    (found : files.item? (lexicalLocation opened output ++ names) =
      some (.file latest)) : Copied opened output source names files := by
  intro below item there
  by_cases none : below = []
  · rw [none, List.append_nil] at there ⊢
    rw [stored] at there
    cases there
    exact ⟨.file latest, found, rfl⟩
  · rw [← List.append_assoc] at there
    rw [tree.item?_above there none] at stored
    cases stored

theorem copied_of_directory {names : List String}
    (stored : opened.item? (source ++ names) = some .directory)
    (found : files.item? (lexicalLocation opened output ++ names) =
      some .directory)
    (inner : ∀ child below item,
      opened.item? (source ++ (names ++ [child]) ++ below) = some item →
        Copied opened output source (names ++ [child]) files) :
    Copied opened output source names files := by
  intro below item there
  cases below with
  | nil =>
      rw [List.append_nil] at there ⊢
      rw [stored] at there
      cases there
      exact ⟨.directory, found, rfl⟩
  | cons child below =>
      rw [List.append_cons names] at there ⊢
      have copied : Copied opened output source (names ++ [child]) files := by
        apply inner child below item
        rw [List.append_assoc]
        exact there
      exact copied there

/-- When the loop over the children of a directory succeeds, each child has
been copied. -/
theorem copied_of_children {fault : SiteError → Prop}
    {copyInside : List String → FileAction SiteError Nat}
    {names children : List String} {count total : Nat}
    (maintained : ∀ child ∈ children, ∀ earlier,
      Maintains (Inside planned opened output earlier names) fault
        (copyInside (names ++ [child])))
    (copies : ∀ child ∈ children, ∀ ⦃files after copied⦄,
      Inside planned opened output files names files →
        copyInside (names ++ [child]) files = (.ok copied, after) →
          Copied opened output source (names ++ [child]) after)
    (start : Inside planned opened output files names files)
    (ran : (children.foldlM (fun count child => do
        let copied ← copyInside (names ++ [child])
        pure (count + copied)) count : FileAction SiteError Nat) files =
          (.ok total, after)) :
    ∀ child ∈ children,
      Copied opened output source (names ++ [child]) after := by
  induction children generalizing files count with
  | nil => exact List.forall_mem_nil _
  | cons child children induction =>
      obtain ⟨here, others⟩ := List.forall_mem_cons.mp maintained
      obtain ⟨first, later⟩ := List.forall_mem_cons.mp copies
      rw [List.foldlM_cons] at ran
      obtain ⟨next, middle, one, rest⟩ := bind_succeeded ran
      obtain ⟨copied, reached, ran, counted⟩ := bind_succeeded one
      obtain ⟨-, rfl⟩ := pure_ran.mp counted
      have between := (here files start ran).1
      have onward : Inside planned opened output reached names reached :=
        ⟨between.1.again, between.2⟩
      have kept : Inside planned opened output reached names after :=
        (Assets.maintains_copyInside next (fun other listed =>
          others other listed reached) onward rest).1
      refine List.forall_mem_cons.mpr
        ⟨?_, induction others later onward rest⟩
      exact (first start ran).kept kept.1.keeps

section

variable {total : Nat} (way : opened.OpenTo output) (tree : opened.IsTree)
  (closed : planned.Closed opened output)
  (covers : planned.Covers opened output source listed)
  (enough : opened.items.length < total)
include way tree closed covers enough

theorem copied_of_copyPlace {levels count : Nat} {names : List String}
    {child : String}
    (reached : Listed opened source listed (names ++ [child]))
    (deep : total ≤ (names ++ [child]).length + levels)
    (start : Inside planned opened output files names files)
    (ran : Assets.copyPlace source output levels (names ++ [child]) files =
      (.ok count, after)) :
    Copied opened output source (names ++ [child]) after := by
  induction levels generalizing names child files after count with
  | zero => cases (throw_ran.mp ran).1
  | succ levels induction =>
      obtain ⟨item, stored, -, same⟩ := reached.asset covers
      have here := same start.1
      rw [Assets.copyPlace, Assets.copyItem] at ran
      replace ran := get_bind_ran.mp ran
      simp only [here] at ran
      cases item with
      | file content =>
          obtain ⟨_, middle, wrote, counted⟩ := bind_succeeded ran
          obtain ⟨-, rfl⟩ := pure_ran.mp counted
          obtain ⟨latest, found⟩ := (file_copied way tree closed covers start
            reached here (orElseFail_succeeded wrote)).2.1 rfl
          exact copied_of_file tree stored found
      | directory =>
          obtain ⟨_, middle, opens, copying⟩ := bind_succeeded ran
          have entered := (directory_copied way tree closed covers start
            reached here (orElseFail_succeeded opens)).2.1 rfl
          have onward : Inside planned opened output middle (names ++ [child])
              middle := ⟨entered.1.again, entered.2⟩
          have listing : ∀ inner ∈ files.children
              (source ++ (names ++ [child])),
              Listed opened source listed (names ++ [child] ++ [inner]) :=
            fun inner found => reached.child covers start.1 found
          have deeper (inner : String) :
              total ≤ (names ++ [child] ++ [inner]).length + levels := by
            rw [List.length_append, List.length_singleton]
            omega
          have maintained : ∀ inner ∈ files.children
              (source ++ (names ++ [child])), ∀ earlier,
              Maintains (Inside planned opened output earlier
                (names ++ [child])) (fun _ => ¬ planned.Fits)
                (Assets.copyPlace source output levels
                  (names ++ [child] ++ [inner])) :=
            fun inner found earlier =>
              (copyable way tree closed covers enough earlier).maintains _
                (listing inner found) (deeper inner)
          have copied : ∀ inner ∈ files.children (source ++ (names ++ [child])),
              Copied opened output source (names ++ [child] ++ [inner]) after :=
            copied_of_children maintained
              (fun inner found _ _ _ inside ran =>
                induction (listing inner found) (deeper inner) inside ran)
              onward copying
          have kept := (Assets.maintains_copyInside 0
            (fun inner found => maintained inner found middle) onward copying).1
          apply copied_of_directory stored kept.2
          intro inner below item there
          exact copied inner (reached.mem_children tree covers start.1 there)

end

end WorkbookSite.Build
