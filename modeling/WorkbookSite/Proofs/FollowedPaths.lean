import WorkbookSite.Proofs.FileGrowth
import WorkbookSite.Site.CleanGuard

/-!
# Where paths lead

A path that can be followed leads to the place that its components name, so
what is below a directory of the file system is also below it by name.  The
names of a place, written after a directory, lead from the directory to that
place.
-/

namespace WorkbookSite

namespace Path

/-- A name that a path can give to a file: one component, which means
neither the directory it stands in nor the one above. -/
structure IsFileName (name : String) : Prop where
  noSlash : '/' ∉ name.toList
  step : step? name.toList = some (.name name)

theorem splitSlashes_ne_nil (characters : List Char) :
    splitSlashes characters ≠ [] := by
  cases characters with
  | nil => simp [splitSlashes]
  | cons character rest =>
      rw [splitSlashes]
      by_cases slash : character = '/'
      · simp [slash]
      · rw [if_neg slash]
        cases splitSlashes rest with
        | nil => simp
        | cons part parts => simp

theorem splitSlashes_append (before after : List Char) :
    splitSlashes (before ++ '/' :: after) =
      splitSlashes before ++ splitSlashes after := by
  induction before with
  | nil => simp [splitSlashes]
  | cons character before induction =>
      rw [List.cons_append, splitSlashes, splitSlashes, induction]
      by_cases slash : character = '/'
      · simp [slash]
      · rw [if_neg slash, if_neg slash]
        cases split : splitSlashes before with
        | nil => exact absurd split (splitSlashes_ne_nil before)
        | cons part parts => rfl

theorem splitSlashes_of_notMem {part : List Char} (noSlash : '/' ∉ part) :
    splitSlashes part = [part] := by
  induction part with
  | nil => rfl
  | cons character part induction =>
      rw [List.mem_cons, not_or] at noSlash
      rw [splitSlashes, if_neg (Ne.symm noSlash.1), induction noSlash.2]

theorem notMem_of_mem_splitSlashes {characters part : List Char}
    (listed : part ∈ splitSlashes characters) : '/' ∉ part := by
  induction characters generalizing part with
  | nil =>
      obtain rfl : part = [] := by simpa [splitSlashes] using listed
      exact List.not_mem_nil
  | cons character rest induction =>
      rw [splitSlashes] at listed
      by_cases slash : character = '/'
      · rw [if_pos slash] at listed
        rcases List.mem_cons.mp listed with rfl | later
        · exact List.not_mem_nil
        · exact induction later
      · rw [if_neg slash] at listed
        cases split : splitSlashes rest with
        | nil => exact absurd split (splitSlashes_ne_nil rest)
        | cons first others =>
            rw [split] at listed induction
            rcases List.mem_cons.mp listed with rfl | later
            · rw [List.mem_cons, not_or]
              exact ⟨Ne.symm slash, induction List.mem_cons_self⟩
            · exact induction (List.mem_cons_of_mem _ later)

theorem isFileName_of_step? {part : List Char} {name : String}
    (noSlash : '/' ∉ part) (step : step? part = some (.name name)) :
    IsFileName name := by
  have same : part = name.toList := by
    unfold step? at step
    split at step
    · cases step
    · split at step
      · cases step
      · split at step
        · cases step
        · cases step
          rw [String.toList_ofList]
  rw [same] at noSlash step
  exact ⟨noSlash, step⟩

theorem isFileName_of_mem_steps {path : Path} {name : String}
    (listed : .name name ∈ path.steps) : IsFileName name := by
  have fromPart : .name name ∈
      (splitSlashes path.text.toList).filterMap step? := by
    rw [steps] at listed
    split at listed
    · simpa using listed
    · exact listed
  obtain ⟨part, split, step⟩ := List.mem_filterMap.mp fromPart
  exact isFileName_of_step? (notMem_of_mem_splitSlashes split) step

theorem components_subset_steps (path : Path) :
    path.components ⊆ path.steps := by
  intro component listed
  rw [components] at listed
  cases split : path.steps with
  | nil => simp [split] at listed
  | cons first others =>
      simp only [split, List.mem_cons, List.mem_filter] at listed ⊢
      exact listed.imp_right And.left

theorem isFileName_of_mem_components {path : Path} {name : String}
    (listed : .name name ∈ path.components) : IsFileName name :=
  isFileName_of_mem_steps (components_subset_steps path listed)

theorem name_mem_components {path : Path} {name : String}
    (listed : .name name ∈ path.steps) : .name name ∈ path.components := by
  rw [components]
  cases spelled : path.steps with
  | nil => simp [spelled] at listed
  | cons first others =>
      rw [spelled] at listed
      rcases List.mem_cons.mp listed with rfl | later
      · exact List.mem_cons_self
      · exact List.mem_cons_of_mem _ (List.mem_filter.mpr ⟨later, rfl⟩)

theorem isFileName_of_innerNames? {path : Path} {names : List String}
    (inner : path.innerNames? = some names) :
    names ≠ [] ∧ ∀ name ∈ names, IsFileName name := by
  rw [innerNames?] at inner
  split at inner
  · cases inner
  · simp only at inner
    split at inner
    · cases inner
    · rename_i kept
      cases inner
      refine ⟨fun empty => kept (List.isEmpty_iff.mpr empty), ?_⟩
      intro name listed
      obtain ⟨component, written, named⟩ := List.mem_filterMap.mp listed
      cases component with
      | name other =>
          cases named
          exact isFileName_of_mem_components written
      | root | current | parent => cases named

theorem IsFileName.ne_empty {name : String} (fileName : IsFileName name) :
    name.toList ≠ [] := by
  intro empty
  have step := fileName.step
  rw [empty] at step
  cases step

/-! ## The steps of a joined path -/

theorem steps_ofNames {names : List String}
    (proper : ∀ name ∈ names, IsFileName name) :
    (splitSlashes (ofNames names).text.toList).filterMap step? =
      names.map .name := by
  simp only [ofNames, String.toList_intercalate]
  induction names with
  | nil => rfl
  | cons name names induction =>
      have here := proper name List.mem_cons_self
      have others := induction fun other listed =>
        proper other (List.mem_cons_of_mem _ listed)
      cases names with
      | nil =>
          simp [splitSlashes_of_notMem here.noSlash, here.step]
      | cons second names =>
          have split : "/".toList.intercalate
              ((name :: second :: names).map String.toList) =
                name.toList ++ '/' :: "/".toList.intercalate
                  ((second :: names).map String.toList) := by
            simp [List.intercalate]
          rw [split, splitSlashes_append, List.filterMap_append, others,
            splitSlashes_of_notMem here.noSlash]
          simp [here.step]

theorem isAbsolute_ofNames {names : List String}
    (proper : ∀ name ∈ names, IsFileName name) :
    (ofNames names).isAbsolute = false := by
  simp only [isAbsolute, ofNames, String.toList_intercalate]
  cases names with
  | nil => rfl
  | cons name names =>
      have here := proper name List.mem_cons_self
      cases spelled : name.toList with
      | nil => exact absurd spelled here.ne_empty
      | cons first others =>
          have other : first ≠ '/' := by
            intro slash
            apply here.noSlash
            rw [spelled, slash]
            exact List.mem_cons_self
          cases names with
          | nil => simp [spelled, other]
          | cons second names => simp [List.intercalate, spelled, other]

/-- The steps that are written in a text. -/
def writtenSteps (characters : List Char) : List Component :=
  (splitSlashes characters).filterMap step?

theorem steps_eq_writtenSteps (path : Path) :
    path.steps =
      if path.isAbsolute then .root :: writtenSteps path.text.toList
      else writtenSteps path.text.toList := rfl

theorem writtenSteps_slash (before after : List Char) :
    writtenSteps (before ++ '/' :: after) =
      writtenSteps before ++ writtenSteps after := by
  rw [writtenSteps, splitSlashes_append, List.filterMap_append]
  rfl

theorem writtenSteps_append_of_slash {before : List Char} (after : List Char)
    (slash : before.getLast? = some '/') :
    writtenSteps (before ++ after) =
      writtenSteps before ++ writtenSteps after := by
  obtain ⟨start, rfl⟩ := List.getLast?_eq_some_iff.mp slash
  have none : writtenSteps [] = [] := rfl
  rw [List.append_assoc, List.singleton_append, writtenSteps_slash,
    writtenSteps_slash, none, List.append_nil]

theorem toList_join (base : Path) {path : Path}
    (relative : path.isAbsolute = false) :
    (base.join path).text.toList = path.text.toList ∧ base.text.toList = [] ∨
      (base.join path).isAbsolute = base.isAbsolute ∧
        writtenSteps (base.join path).text.toList =
          writtenSteps base.text.toList ++ writtenSteps path.text.toList := by
  rw [join, relative]
  by_cases empty : base.isEmpty = true
  · have nothing : base.text = "" := beq_iff_eq.mp empty
    refine .inl ⟨?_, by rw [nothing]; rfl⟩
    simp [empty, nothing]
  · obtain ⟨first, others, spelled⟩ :
        ∃ first others, base.text.toList = first :: others := by
      apply List.exists_cons_of_ne_nil
      intro nothing
      exact empty (beq_iff_eq.mpr (by simpa using nothing))
    refine .inr ?_
    by_cases slash : base.endsInSlash = true
    · have last : base.text.toList.getLast? = some '/' := beq_iff_eq.mp slash
      have joined := writtenSteps_append_of_slash path.text.toList last
      simp [slash, isAbsolute, spelled] at joined ⊢
      exact joined
    · simp only [empty, slash]
      constructor
      · simp [isAbsolute, spelled]
      · simp [writtenSteps_slash]

/-- A path below a directory is followed after the path of the directory. -/
theorem steps_join {base path : Path} (relative : path.isAbsolute = false) :
    (base.join path).steps = base.steps ++ path.steps := by
  have written := steps_eq_writtenSteps path
  rw [relative, if_neg Bool.false_ne_true] at written
  rw [written]
  rcases toList_join base relative with
    ⟨same, nothing⟩ | ⟨absolute, joined⟩
  · have here : base.steps = [] := by
      simp [steps_eq_writtenSteps, isAbsolute, nothing, writtenSteps,
        splitSlashes, step?]
    have relative : (base.join path).isAbsolute = false := by
      rwa [isAbsolute, same]
    rw [here, steps_eq_writtenSteps, relative, same]
    rfl
  · rw [steps_eq_writtenSteps, steps_eq_writtenSteps, absolute, joined]
    cases base.isAbsolute with
    | true => rfl
    | false => rfl

theorem components_of_steps_append {path base : Path} {names : List String}
    (steps : path.steps = base.steps ++ names.map .name) :
    path.components = base.components ++ names.map .name := by
  have named : (names.map Component.name).filter (· != .current) =
      names.map .name := by
    rw [List.filter_eq_self]
    intro component listed
    obtain ⟨name, -, rfl⟩ := List.mem_map.mp listed
    rfl
  rw [components, components, steps]
  cases base.steps with
  | nil =>
      cases names with
      | nil => rfl
      | cons name names =>
          rw [List.map_cons, List.filter_cons_of_pos rfl,
            List.cons.injEq] at named
          simp [named.2]
  | cons first others => simp [named]

theorem prefix_append_cases {passed first second : List Component}
    (listed : passed <+: first ++ second) :
    passed <+: first ∨
      ∃ between, between <+: second ∧ passed = first ++ between := by
  rcases List.prefix_or_prefix_of_prefix listed
    (List.prefix_append first second) with before | ⟨between, rfl⟩
  · exact .inl before
  · exact .inr ⟨between, (List.prefix_append_right_inj first).mp listed, rfl⟩

/-- One more step along a path in two parts is in the first part or, when that
is all passed, in the second. -/
theorem snoc_prefix_append_cases {passed first second : List Component}
    {step : Component} (listed : passed ++ [step] <+: first ++ second) :
    passed ++ [step] <+: first ∨
      ∃ between, passed = first ++ between ∧ between ++ [step] <+: second := by
  rcases prefix_append_cases listed with before | ⟨reached, within, spelled⟩
  · exact .inl before
  · rcases List.eq_nil_or_concat reached with rfl | ⟨between, last, rfl⟩
    · rw [spelled, List.append_nil]
      exact .inl List.prefix_rfl
    · rw [List.concat_eq_append] at spelled within
      rw [← List.append_assoc] at spelled
      obtain ⟨rfl, same⟩ := List.append_inj' spelled rfl
      cases same
      exact .inr ⟨between, rfl, within⟩

section Names

variable {base : Path} {names : List String}
  (proper : ∀ name ∈ names, IsFileName name)
include proper

theorem steps_join_ofNames :
    (base.join (.ofNames names)).steps = base.steps ++ names.map .name := by
  have relative := isAbsolute_ofNames proper
  rw [steps_join relative, steps_eq_writtenSteps (.ofNames names), relative,
    if_neg Bool.false_ne_true, writtenSteps, steps_ofNames proper]

theorem components_join_ofNames :
    (base.join (.ofNames names)).components =
      base.components ++ names.map .name :=
  components_of_steps_append (steps_join_ofNames proper)

theorem getLast?_ofNames (named : names ≠ []) :
    ∃ last, (ofNames names).text.toList.getLast? = some last ∧
      last ≠ '/' := by
  simp only [ofNames, String.toList_intercalate]
  induction names with
  | nil => exact absurd rfl named
  | cons name names induction =>
      have here := proper name List.mem_cons_self
      cases names with
      | nil =>
          refine ⟨name.toList.getLast here.ne_empty, ?_, ?_⟩
          · simpa using List.getLast?_eq_some_getLast here.ne_empty
          · intro slash
            apply here.noSlash
            rw [← slash]
            exact List.getLast_mem here.ne_empty
      | cons second names =>
          obtain ⟨last, ends, other⟩ := induction
            (fun other listed => proper other (List.mem_cons_of_mem _ listed))
            (by simp)
          have split : "/".toList.intercalate
              ((name :: second :: names).map String.toList) =
                (name.toList ++ ['/']) ++ "/".toList.intercalate
                  ((second :: names).map String.toList) := by
            simp [List.intercalate]
          refine ⟨last, ?_, other⟩
          rw [split, List.getLast?_append, ends]
          rfl

theorem endsInSlash_join_ofNames (named : names ≠ []) :
    (base.join (.ofNames names)).endsInSlash = false := by
  obtain ⟨last, ends, other⟩ := getLast?_ofNames proper named
  obtain ⟨before, joined⟩ : ∃ before,
      (base.join (.ofNames names)).text.toList =
        before ++ (ofNames names).text.toList := by
    rw [join, isAbsolute_ofNames proper, if_neg Bool.false_ne_true]
    split
    · exact ⟨base.text.toList, String.toList_append⟩
    · exact ⟨(base.text ++ "/").toList, String.toList_append⟩
  rw [endsInSlash, joined, List.getLast?_append, ends]
  simpa using other

end Names

/-- A join with no names adds a slash at most, and so no step. -/
theorem steps_join_nil (path : Path) :
    (path.join (.ofNames [])).steps = path.steps := by
  rw [steps_join_ofNames (List.forall_mem_nil IsFileName), List.map_nil,
    List.append_nil]

theorem components_join_nil (path : Path) :
    (path.join (.ofNames [])).components = path.components := by
  rw [components_join_ofNames (List.forall_mem_nil IsFileName), List.map_nil,
    List.append_nil]

end Path

namespace CleanGuard

theorem resolve_append (here : Location) (first second : List Component) :
    resolve here (first ++ second) = resolve (resolve here first) second := by
  induction first generalizing here with
  | nil => rfl
  | cons component first induction =>
      cases component with
      | root | current | parent | name => exact induction _

theorem resolve_names (here : Location) (names : List String) :
    resolve here (names.map .name) = here ++ names := by
  induction names generalizing here with
  | nil => exact (List.append_nil here).symm
  | cons name names induction =>
      rw [List.map_cons, resolve, induction, List.append_assoc]
      rfl

theorem resolve_concat_name (here : Location) (passed : List Component)
    (name : String) :
    resolve here (passed ++ [.name name]) = resolve here passed ++ [name] := by
  rw [resolve_append]
  rfl

theorem resolve_filter_current (here : Location) (steps : List Component) :
    resolve here (steps.filter (· != .current)) = resolve here steps := by
  induction steps generalizing here with
  | nil => rfl
  | cons step steps induction =>
      cases step with
      | root | current | parent | name => exact induction _

/-- A `.` says nothing about where a path leads. -/
theorem resolve_components (here : Location) (path : Path) :
    resolve here path.components = resolve here path.steps := by
  rw [Path.components]
  cases path.steps with
  | nil => rfl
  | cons first others =>
      cases first with
      | root | current | parent | name => exact resolve_filter_current _ others

/-- What is passed on a path is what its components pass. -/
theorem exists_components_prefix {path : Path} {passed : List Component}
    (listed : passed <+: path.steps) :
    ∃ kept, kept <+: path.components ∧
      ∀ here, resolve here passed = resolve here kept := by
  rw [Path.components]
  cases spelled : path.steps with
  | nil =>
      rw [spelled] at listed
      obtain rfl := List.prefix_nil.mp listed
      exact ⟨[], List.prefix_rfl, fun _ => rfl⟩
  | cons first others =>
      rw [spelled] at listed
      cases passed with
      | nil => exact ⟨[], List.nil_prefix, fun _ => rfl⟩
      | cons step passed =>
          obtain ⟨rfl, within⟩ := List.cons_prefix_cons.mp listed
          refine ⟨step :: passed.filter (· != .current),
            List.cons_prefix_cons.mpr ⟨rfl, within.filter _⟩, ?_⟩
          intro here
          have same := resolve_filter_current (resolve here [step]) passed
          rw [← resolve_append, ← resolve_append] at same
          exact same.symm

/-- Where the components of a path lead depends only on where relative paths
start. -/
theorem lexicalLocation_congr {files after : FileSystem}
    (settled : after.workingDirectory = files.workingDirectory) (path : Path) :
    lexicalLocation after path = lexicalLocation files path := by
  rw [lexicalLocation, lexicalLocation, settled]

@[simp]
theorem lexicalLocation_put (files : FileSystem) (place : Location)
    (item : Item) (path : Path) :
    lexicalLocation (files.put place item) path =
      lexicalLocation files path := rfl

theorem lexicalLocation_join_ofNames (files : FileSystem) {base : Path}
    {names : List String} (proper : ∀ name ∈ names, Path.IsFileName name) :
    lexicalLocation files (base.join (.ofNames names)) =
      lexicalLocation files base ++ names := by
  rw [lexicalLocation, Path.components_join_ofNames proper, resolve_append,
    resolve_names]
  rfl

end CleanGuard

namespace FileSystem

open CleanGuard

variable {files : FileSystem}

theorem follow_eq_resolve {here place : Location} {step : Component}
    (followed : files.follow here step = .ok place) :
    place = resolve here [step] := by
  unfold follow at followed
  split at followed
  · cases followed
    rfl
  · cases followed
  · cases followed
  · cases followed
    rfl
  · cases followed
    rfl
  · split at followed
    · cases followed
    · split at followed
      · cases followed
        rfl
      · cases followed

theorem foldlM_follow_eq_resolve {here place : Location}
    {steps : List Component}
    (followed : steps.foldlM files.follow here = .ok place) :
    place = resolve here steps := by
  induction steps generalizing here with
  | nil =>
      cases followed
      rfl
  | cons step steps induction =>
      rw [List.foldlM_cons] at followed
      obtain ⟨next, first, rest⟩ := Outcome.bind_eq_ok.mp followed
      rw [induction rest, follow_eq_resolve first, ← resolve_append]
      rfl

/-- A path that can be followed leads where its components say. -/
theorem locate_eq_lexicalLocation {path : Path} {place : Location}
    (located : files.locate path = .ok place) :
    place = lexicalLocation files path := by
  obtain ⟨-, location, followed, ended⟩ := locate_eq_ok_iff.mp located
  have same : place = location := by
    split at ended
    · exact follow_eq_resolve ended
    · cases ended
      rfl
  rw [same, foldlM_follow_eq_resolve followed, lexicalLocation,
    resolve_components]

/-- To the guard, a path leads where its components say, whether it can be
followed or not. -/
theorem location?_eq (files : FileSystem) (path : Path) :
    CleanGuard.location? files path =
      if path.isEmpty then none else some (lexicalLocation files path) := by
  rw [CleanGuard.location?]
  cases located : files.locate path with
  | ok place =>
      rw [locate_eq_lexicalLocation located, (locate_eq_ok_iff.mp located).1]
      rfl
  | error refusal => rfl

end FileSystem

end WorkbookSite
