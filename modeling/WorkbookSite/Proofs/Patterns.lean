import Mathlib.Data.List.TakeWhile

/-!
# Patterns

Regular patterns with numbered groups, read by backtracking.  `Pattern.ways`
lists every way to read a pattern from a position, the preferred one first: an
alternative before the later ones, and a repetition as often as it goes.  What
follows a pattern takes the first of these ways with which it succeeds; in
`Pattern.thenTry` the pattern is followed by a function on positions, and the
rest of this module says when no way but the longest has to be tried.
-/

namespace WorkbookSite.Text

/-- A regular pattern. -/
inductive Pattern where
  /-- A character that passes the test. -/
  | one (test : Char → Bool)
  | nothing
  | sequence (first second : Pattern)
  /-- The first pattern, or else the second. -/
  | either (first second : Pattern)
  /-- The pattern any number of times, and as often as possible. -/
  | many (repeated : Pattern)
  | group (number : Nat) (inside : Pattern)

/-- A place in a text. -/
structure Position where
  rest : List Char
  /-- The groups that were read so far, the latest one first. -/
  groups : List (Nat × List Char)
deriving DecidableEq, Repr

/-- What was read between two positions. -/
def Position.taken (here next : Position) : List Char :=
  here.rest.take (here.rest.length - next.rest.length)

theorem Position.taken_eq {here next : Position} {text : List Char}
    (whole : here.rest = text ++ next.rest) : here.taken next = text := by
  rw [taken, whole, List.length_append, Nat.add_sub_cancel, List.take_left']
  rfl

namespace Pattern

/-- A character by itself. -/
def literal (character : Char) : Pattern := one (· == character)

/-- The pattern, or nothing. -/
def optional (pattern : Pattern) : Pattern := either pattern nothing

/-- Any number of characters that pass the test. -/
def manyOf (test : Char → Bool) : Pattern := many (one test)

/-- At least one character that passes the test. -/
def someOf (test : Char → Bool) : Pattern :=
  sequence (one test) (manyOf test)

/-- The ways to read the pattern, in the order in which they are tried.  A
repetition that reads nothing is not repeated. -/
def ways : Pattern → Position → List Position
  | one test, here =>
      match here.rest with
      | [] => []
      | character :: rest =>
          if test character then [⟨rest, here.groups⟩] else []
  | nothing, here => [here]
  | sequence first second, here =>
      (first.ways here).flatMap fun next => second.ways next
  | either first second, here => first.ways here ++ second.ways here
  | many repeated, here =>
      ((repeated.ways here).flatMap fun next =>
        if next.rest.length < here.rest.length then (many repeated).ways next
        else []) ++ [here]
  | group number inside, here =>
      (inside.ways here).map fun next =>
        ⟨next.rest, (number, here.taken next) :: next.groups⟩
termination_by pattern here => (sizeOf pattern, here.rest.length)

/-- The texts that a pattern stands for. -/
def Accepts : Pattern → List Char → Prop
  | one test, text => ∃ character, test character = true ∧ text = [character]
  | nothing, text => text = []
  | sequence first second, text =>
      ∃ before after, first.Accepts before ∧ second.Accepts after ∧
        text = before ++ after
  | either first second, text => first.Accepts text ∨ second.Accepts text
  | many repeated, text =>
      ∃ parts : List (List Char),
        (∀ part ∈ parts, repeated.Accepts part) ∧ text = parts.flatten
  | group _ inside, text => inside.Accepts text

/-- The match at the start of a text. -/
def match? (pattern : Pattern) (source : List Char) : Option Position :=
  (pattern.ways ⟨source, []⟩).head?

/-- The first match in a text. -/
def search? (pattern : Pattern) : List Char → Option Position
  | [] => pattern.match? []
  | character :: rest =>
      (pattern.match? (character :: rest)).or (pattern.search? rest)

/-- The groups of the matches in a text, each searched for behind the one before
it.  No match is expected to be empty. -/
def findAll (pattern : Pattern) (source : List Char) :
    List (List (Nat × List Char)) :=
  match pattern.search? source with
  | none => []
  | some next =>
      next.groups ::
        if next.rest.length < source.length then pattern.findAll next.rest
        else []
termination_by source.length

/-- What `later` gives after the first way to read the pattern with which it
succeeds. -/
def thenTry {α : Type} (pattern : Pattern) (here : Position)
    (later : Position → Option α) : Option α :=
  (pattern.ways here).findSome? later

section Accepts

/-- Every way to read a pattern reads a text that it stands for. -/
theorem accepts_of_mem_ways {pattern : Pattern} {here next : Position}
    (way : next ∈ pattern.ways here) :
    ∃ text, pattern.Accepts text ∧ here.rest = text ++ next.rest := by
  induction pattern, here using ways.induct generalizing next with
  | case1 test here source => simp [ways, source] at way
  | case2 test here character rest source fits =>
      simp only [ways, source, fits, if_true, List.mem_singleton] at way
      subst way
      exact ⟨[character], ⟨character, fits, rfl⟩, source⟩
  | case3 test here character rest source unfit =>
      simp [ways, source, unfit] at way
  | case4 here =>
      simp only [ways, List.mem_singleton] at way
      subst way
      exact ⟨[], rfl, rfl⟩
  | case5 first second here later earlier =>
      simp only [ways, List.mem_flatMap] at way
      obtain ⟨middle, before, after⟩ := way
      obtain ⟨text, accepted, whole⟩ := earlier before
      obtain ⟨more, acceptedMore, left⟩ := later middle after
      refine ⟨text ++ more, ⟨text, more, accepted, acceptedMore, rfl⟩, ?_⟩
      rw [whole, left, List.append_assoc]
  | case6 first second here earlier later =>
      simp only [ways, List.mem_append] at way
      rcases way with way | way
      · obtain ⟨text, accepted, whole⟩ := earlier way
        exact ⟨text, .inl accepted, whole⟩
      · obtain ⟨text, accepted, whole⟩ := later way
        exact ⟨text, .inr accepted, whole⟩
  | case7 repeated here later once =>
      rw [ways] at way
      simp only [List.mem_append, List.mem_flatMap, List.mem_singleton] at way
      rcases way with ⟨middle, before, after⟩ | rfl
      · split at after
        · rename_i shorter
          obtain ⟨text, accepted, whole⟩ := once before
          obtain ⟨_, ⟨parts, acceptedParts, rfl⟩, left⟩ :=
            later middle shorter after
          refine ⟨text ++ parts.flatten, ⟨text :: parts,
            List.forall_mem_cons.mpr ⟨accepted, acceptedParts⟩, rfl⟩, ?_⟩
          rw [whole, left, List.append_assoc]
        · cases after
      · exact ⟨[], ⟨[], List.forall_mem_nil _, rfl⟩, rfl⟩
  | case8 number inside here once =>
      simp only [ways, List.mem_map] at way
      obtain ⟨middle, before, rfl⟩ := way
      exact @once middle before

/-- Every text that a pattern stands for is read in some way. -/
theorem exists_mem_ways {pattern : Pattern} {text : List Char}
    (accepted : pattern.Accepts text) (rest : List Char)
    (groups : List (Nat × List Char)) :
    ∃ next ∈ pattern.ways ⟨text ++ rest, groups⟩, next.rest = rest := by
  induction pattern generalizing text rest groups with
  | one test =>
      obtain ⟨character, fits, rfl⟩ := accepted
      exact ⟨⟨rest, groups⟩, by simp [ways, fits], rfl⟩
  | nothing =>
      cases accepted
      exact ⟨⟨rest, groups⟩, by simp [ways], rfl⟩
  | sequence first second earlier later =>
      obtain ⟨before, after, acceptedBefore, acceptedAfter, rfl⟩ := accepted
      obtain ⟨⟨_, middle⟩, way, rfl⟩ :=
        earlier acceptedBefore (after ++ rest) groups
      obtain ⟨next, wayAfter, left⟩ := later acceptedAfter rest middle
      refine ⟨next, ?_, left⟩
      rw [ways, List.append_assoc]
      exact List.mem_flatMap.mpr ⟨_, way, wayAfter⟩
  | either first second earlier later =>
      rw [ways]
      rcases accepted with accepted | accepted
      · obtain ⟨next, way, left⟩ := earlier accepted rest groups
        exact ⟨next, List.mem_append_left _ way, left⟩
      · obtain ⟨next, way, left⟩ := later accepted rest groups
        exact ⟨next, List.mem_append_right _ way, left⟩
  | many repeated once =>
      obtain ⟨parts, acceptedParts, rfl⟩ := accepted
      induction parts generalizing groups with
      | nil =>
          rw [ways]
          exact ⟨⟨rest, groups⟩, List.mem_append_right _ (by simp), rfl⟩
      | cons part parts induction =>
          obtain ⟨first, others⟩ := List.forall_mem_cons.mp acceptedParts
          by_cases empty : part = []
          · subst empty
            exact induction groups others
          · obtain ⟨⟨_, middle⟩, way, rfl⟩ :=
              once first (parts.flatten ++ rest) groups
            obtain ⟨next, later, left⟩ := induction middle others
            refine ⟨next, ?_, left⟩
            have shorter : (parts.flatten ++ rest).length <
                (part ++ (parts.flatten ++ rest)).length := by
              have positive := List.length_pos_iff.mpr empty
              simp only [List.length_append]
              omega
            rw [ways, List.flatten_cons, List.append_assoc]
            apply List.mem_append_left
            refine List.mem_flatMap.mpr ⟨_, way, ?_⟩
            rwa [if_pos shorter]
  | group number inside once =>
      obtain ⟨next, way, left⟩ := once accepted rest groups
      rw [ways]
      exact ⟨_, List.mem_map_of_mem way, left⟩

/-- A pattern matches at the start of a text that begins with a text it stands
for, and of no other. -/
theorem isSome_match?_iff {pattern : Pattern} {source : List Char} :
    (pattern.match? source).isSome ↔
      ∃ text rest, pattern.Accepts text ∧ source = text ++ rest := by
  rw [match?]
  constructor
  · intro matched
    obtain ⟨next, first⟩ := Option.isSome_iff_exists.mp matched
    obtain ⟨text, accepted, whole⟩ :=
      accepts_of_mem_ways (List.mem_of_mem_head? first)
    exact ⟨text, next.rest, accepted, whole⟩
  · rintro ⟨text, rest, accepted, rfl⟩
    obtain ⟨next, way, -⟩ := exists_mem_ways accepted rest []
    exact List.isSome_head?.mpr (List.ne_nil_of_mem way)

variable {test : Char → Bool} {text : List Char}

theorem accepts_literal {character : Char} :
    (literal character).Accepts text ↔ text = [character] := by
  simp [literal, Accepts]

theorem accepts_optional {pattern : Pattern} :
    pattern.optional.Accepts text ↔ pattern.Accepts text ∨ text = [] :=
  Iff.rfl

theorem accepts_manyOf :
    (manyOf test).Accepts text ↔ ∀ character ∈ text, test character = true := by
  constructor
  · rintro ⟨parts, accepted, rfl⟩ character listed
    obtain ⟨part, member, inPart⟩ := List.mem_flatten.mp listed
    obtain ⟨other, fits, rfl⟩ := accepted part member
    rwa [List.mem_singleton.mp inPart]
  · intro inside
    refine ⟨text.map fun character => [character], ?_, ?_⟩
    · intro part listed
      obtain ⟨character, member, rfl⟩ := List.mem_map.mp listed
      exact ⟨character, inside character member, rfl⟩
    · exact (List.flatMap_singleton' text).symm

theorem accepts_someOf :
    (someOf test).Accepts text ↔
      text ≠ [] ∧ ∀ character ∈ text, test character = true := by
  constructor
  · rintro ⟨_, more, ⟨character, fits, rfl⟩, rest, rfl⟩
    exact ⟨by simp, List.forall_mem_cons.mpr ⟨fits, accepts_manyOf.mp rest⟩⟩
  · rintro ⟨present, inside⟩
    obtain ⟨character, more, rfl⟩ := List.exists_cons_of_ne_nil present
    obtain ⟨fits, rest⟩ := List.forall_mem_cons.mp inside
    exact ⟨[character], more, ⟨character, fits, rfl⟩, accepts_manyOf.mpr rest,
      rfl⟩

end Accepts

section ThenTry

variable {α : Type} {later : Position → Option α}

theorem findSome?_flatMap {β γ : Type} (list : List β) (next : β → List γ)
    (later : γ → Option α) :
    (list.flatMap next).findSome? later =
      list.findSome? fun item => (next item).findSome? later := by
  induction list with
  | nil => rfl
  | cons item list induction =>
      rw [List.flatMap_cons, List.findSome?_append, induction,
        List.findSome?_cons]
      cases (next item).findSome? later <;> rfl

theorem match?_eq (pattern : Pattern) (source : List Char) :
    pattern.match? source = pattern.thenTry ⟨source, []⟩ some := by
  rw [match?, thenTry]
  cases pattern.ways ⟨source, []⟩ <;> rfl

theorem thenTry_one_nil (test : Char → Bool)
    (groups : List (Nat × List Char)) :
    (one test).thenTry ⟨[], groups⟩ later = none := by
  rw [thenTry, ways]
  rfl

theorem thenTry_one_cons (test : Char → Bool) (character : Char)
    (rest : List Char) (groups : List (Nat × List Char)) :
    (one test).thenTry ⟨character :: rest, groups⟩ later =
      if test character then later ⟨rest, groups⟩ else none := by
  simp only [thenTry, ways]
  split <;> simp

theorem thenTry_nothing (here : Position) :
    nothing.thenTry here later = later here := by
  rw [thenTry, ways]
  simp

theorem thenTry_sequence (first second : Pattern) (here : Position) :
    (sequence first second).thenTry here later =
      first.thenTry here fun next => second.thenTry next later := by
  rw [thenTry, ways, findSome?_flatMap]
  rfl

theorem thenTry_either (first second : Pattern) (here : Position) :
    (either first second).thenTry here later =
      (first.thenTry here later).or (second.thenTry here later) := by
  rw [thenTry, ways, List.findSome?_append]
  rfl

theorem thenTry_optional (pattern : Pattern) (here : Position) :
    pattern.optional.thenTry here later =
      (pattern.thenTry here later).or (later here) := by
  rw [optional, thenTry_either, thenTry_nothing]

theorem thenTry_many (repeated : Pattern) (here : Position) :
    (many repeated).thenTry here later =
      (repeated.thenTry here fun next =>
        if next.rest.length < here.rest.length then
          (many repeated).thenTry next later
        else none).or (later here) := by
  rw [thenTry, ways, List.findSome?_append, findSome?_flatMap]
  congr 1
  · apply congrArg (List.findSome? · _)
    funext next
    split <;> rfl
  · simp

theorem thenTry_group (number : Nat) (inside : Pattern) (here : Position) :
    (group number inside).thenTry here later =
      inside.thenTry here fun next =>
        later ⟨next.rest, (number, here.taken next) :: next.groups⟩ := by
  rw [thenTry, ways, List.findSome?_map]
  rfl

/-- A run of such characters is never cut short for what follows: where `later`
fails behind the whole run, it fails inside the run as well. -/
def Committed (test : Char → Bool) (later : Position → Option α) : Prop :=
  ∀ ⦃run rest : List Char⦄ ⦃groups : List (Nat × List Char)⦄
    (groups' : List (Nat × List Char)), run ≠ [] →
    (∀ character ∈ run, test character = true) →
    (∀ character ∈ rest.head?, test character = false) →
    later ⟨rest, groups⟩ = none → later ⟨run ++ rest, groups'⟩ = none

variable {test : Char → Bool}

theorem Committed.of_head
    (fails : ∀ {character : Char} (rest : List Char)
      (groups : List (Nat × List Char)),
      test character = true → later ⟨character :: rest, groups⟩ = none) :
    Committed test later := by
  intro run rest groups groups' present inside ends failed
  obtain ⟨first, more, rfl⟩ := List.exists_cons_of_ne_nil present
  exact fails _ _ (inside first List.mem_cons_self)

theorem Committed.of_ne_none (succeeds : ∀ here, later here ≠ none) :
    Committed test later := by
  intro run rest groups groups' present inside ends failed
  exact absurd failed (succeeds _)

theorem thenTry_manyOf (committed : Committed test later) (source : List Char)
    (groups : List (Nat × List Char)) :
    (manyOf test).thenTry ⟨source, groups⟩ later =
      later ⟨source.dropWhile test, groups⟩ := by
  induction source with
  | nil => rw [manyOf, thenTry_many, thenTry_one_nil, Option.none_or]; rfl
  | cons character rest induction =>
      rw [manyOf] at induction ⊢
      rw [thenTry_many, thenTry_one_cons]
      simp only [List.length_cons, Nat.lt_add_one, if_true]
      by_cases fits : test character = true
      · rw [if_pos fits, induction, List.dropWhile_cons_of_pos fits]
        cases result : later ⟨rest.dropWhile test, groups⟩ with
        | some _ => rfl
        | none =>
            have run : ∀ other ∈ character :: rest.takeWhile test,
                test other = true := by
              rintro other (_ | ⟨_, listed⟩)
              · exact fits
              · exact List.mem_takeWhile_imp listed
            have ends : ∀ other ∈ (rest.dropWhile test).head?,
                test other = false := by
              intro other first
              simpa [Option.mem_def.mp first] using
                List.head?_dropWhile_not test rest
            have failed :=
              committed groups (List.cons_ne_nil _ _) run ends result
            rw [List.cons_append, List.takeWhile_append_dropWhile] at failed
            rw [failed]
            rfl
      · rw [if_neg fits, List.dropWhile_cons_of_neg fits, Option.none_or]

theorem thenTry_someOf (committed : Committed test later) (source : List Char)
    (groups : List (Nat × List Char)) :
    (someOf test).thenTry ⟨source, groups⟩ later =
      if (source.takeWhile test).isEmpty then none
      else later ⟨source.dropWhile test, groups⟩ := by
  rw [someOf, thenTry_sequence]
  cases source with
  | nil => rw [thenTry_one_nil]; rfl
  | cons character rest =>
      rw [thenTry_one_cons, thenTry_manyOf committed]
      by_cases fits : test character = true <;> simp [fits]

end ThenTry

end Pattern

end WorkbookSite.Text
