import WorkbookSite.Proofs.Outcomes
import WorkbookSite.Proofs.SpelledTokens
import WorkbookSite.Proofs.TokenAssembly

/-!
# Implied end tags

A fragment is written with some of its end tags left out.  `WrittenAs` lists the
ways to write nodes as tokens; only end tags that may be left out are.  The
tokens of a source, with texts joined that follow each other, are one of the
ways to write the nodes that the source stands for.
-/

namespace WorkbookSite.Markup

/-- The ways to write nodes as tokens. -/
inductive WrittenAs : List Node → List Token → Prop where
  | nil : WrittenAs [] []
  | text {content : String} {nodes : List Node} {tokens : List Token}
      (later : WrittenAs nodes tokens) :
      WrittenAs (.text content :: nodes) (.text content :: tokens)
  | comment {content : String} {nodes : List Node} {tokens : List Token}
      (later : WrittenAs nodes tokens) :
      WrittenAs (.comment content :: nodes) (.comment content :: tokens)
  /-- A void element has a start tag only, with a slash or without. -/
  | void {name : String} {attributes : List (String × String)}
      {selfClosing : Bool} {nodes : List Node} {tokens : List Token}
      (void : isVoid name = true) (later : WrittenAs nodes tokens) :
      WrittenAs (.element name attributes [] :: nodes)
        (.startTag ⟨name, attributes, selfClosing⟩ :: tokens)
  /-- Any element without children may close itself. -/
  | selfClosed {name : String} {attributes : List (String × String)}
      {nodes : List Node} {tokens : List Token}
      (later : WrittenAs nodes tokens) :
      WrittenAs (.element name attributes [] :: nodes)
        (.startTag ⟨name, attributes, true⟩ :: tokens)
  | ended {name : String} {attributes : List (String × String)}
      {children nodes : List Node} {inner tokens : List Token}
      (nonvoid : isVoid name = false) (inside : WrittenAs children inner)
      (later : WrittenAs nodes tokens) :
      WrittenAs (.element name attributes children :: nodes)
        (.startTag ⟨name, attributes, false⟩ ::
          (inner ++ .endTag name :: tokens))
  | leftOpen {name : String} {attributes : List (String × String)}
      {children nodes : List Node} {inner tokens : List Token}
      (optional : hasOptionalEnd name = true) (inside : WrittenAs children inner)
      (later : WrittenAs nodes tokens) :
      WrittenAs (.element name attributes children :: nodes)
        (.startTag ⟨name, attributes, false⟩ :: (inner ++ tokens))

namespace WrittenAs

theorem append {first second : List Node} {before after : List Token}
    (one : WrittenAs first before) (other : WrittenAs second after) :
    WrittenAs (first ++ second) (before ++ after) := by
  induction one with
  | nil => exact other
  | text later induction => exact .text induction
  | comment later induction => exact .comment induction
  | void isVoid later induction => exact .void isVoid induction
  | selfClosed later induction => exact .selfClosed induction
  | ended nonvoid inside later _ induction =>
      rw [List.cons_append, List.cons_append, List.append_assoc]
      exact .ended nonvoid inside induction
  | leftOpen optional inside later _ induction =>
      rw [List.cons_append, List.cons_append, List.append_assoc]
      exact .leftOpen optional inside induction

theorem split {first second : List Node} {tokens : List Token}
    (written : WrittenAs (first ++ second) tokens) :
    ∃ before after, tokens = before ++ after ∧ WrittenAs first before ∧
      WrittenAs second after := by
  induction first generalizing tokens with
  | nil => exact ⟨[], tokens, rfl, .nil, written⟩
  | cons node first induction =>
      cases written with
      | text later =>
          obtain ⟨before, after, rfl, one, other⟩ := induction later
          exact ⟨_ :: before, after, rfl, .text one, other⟩
      | comment later =>
          obtain ⟨before, after, rfl, one, other⟩ := induction later
          exact ⟨_ :: before, after, rfl, .comment one, other⟩
      | void isVoid later =>
          obtain ⟨before, after, rfl, one, other⟩ := induction later
          exact ⟨_ :: before, after, rfl, .void isVoid one, other⟩
      | selfClosed later =>
          obtain ⟨before, after, rfl, one, other⟩ := induction later
          exact ⟨_ :: before, after, rfl, .selfClosed one, other⟩
      | ended nonvoid inside later =>
          obtain ⟨before, after, rfl, one, other⟩ := induction later
          exact ⟨_, after, by simp, .ended nonvoid inside one, other⟩
      | leftOpen optional inside later =>
          obtain ⟨before, after, rfl, one, other⟩ := induction later
          exact ⟨_, after, by simp, .leftOpen optional inside one, other⟩

/-- If a text comes last, so does its token. -/
theorem last_text {nodes : List Node} {content : String}
    {tokens : List Token}
    (written : WrittenAs (nodes ++ [.text content]) tokens) :
    ∃ before, tokens = before ++ [.text content] ∧ WrittenAs nodes before := by
  obtain ⟨before, after, rfl, one, other⟩ := written.split
  cases other with
  | text later =>
      cases later
      exact ⟨before, rfl, one⟩

end WrittenAs

namespace Token

/-- Adds a token; a text that follows a text becomes one with it. -/
def joinNext (joined : List Token) (token : Token) : List Token :=
  match token, joined.getLast? with
  | .text content, some (.text previous) =>
      joined.dropLast ++ [.text (previous ++ content)]
  | _, _ => joined ++ [token]

/-- The tokens with texts joined that follow each other. -/
def joinTexts (tokens : List Token) : List Token := tokens.foldl joinNext []

def isText : Token → Bool
  | .text _ => true
  | _ => false

end Token

namespace Assembly

/-- The tokens are written for the assembly: those of the finished nodes and, in
each open element, its start tag and those of its children so far. -/
inductive Follows : Assembly → List Token → Prop where
  | outside {finished : List Node} {tokens : List Token}
      (written : WrittenAs finished tokens) : Follows ⟨[], finished⟩ tokens
  | inside {innermost : Element} {outer : List Element}
      {finished : List Node} {before inner : List Token}
      (nonvoid : isVoid innermost.name = false)
      (around : Follows ⟨outer, finished⟩ before)
      (written : WrittenAs innermost.children inner) :
      Follows ⟨innermost :: outer, finished⟩
        (before ++
          .startTag ⟨innermost.name, innermost.attributes, false⟩ :: inner)

variable {assembly : Assembly} {tokens : List Token}

/-- The tokens end with those of the nodes at the place where the next node
goes.  If these nodes change, the tokens change with them there. -/
theorem Follows.modifyNodes (follows : assembly.Follows tokens)
    (change : List Node → List Node) :
    ∃ before inner, tokens = before ++ inner ∧
      WrittenAs assembly.siblings inner ∧
      ∀ {changed}, WrittenAs (change assembly.siblings) changed →
        (assembly.modifyNodes change).Follows (before ++ changed) := by
  cases follows with
  | outside written =>
      exact ⟨[], tokens, rfl, written, fun changed => .outside changed⟩
  | @inside innermost outer finished before inner nonvoid around written =>
      let opening : Token :=
        .startTag ⟨innermost.name, innermost.attributes, false⟩
      refine ⟨before ++ [opening], inner, by simp [opening], written, ?_⟩
      intro inner written
      have grown : Follows
          ⟨⟨innermost.name, innermost.attributes, change innermost.children⟩ ::
            outer, finished⟩ (before ++ opening :: inner) :=
        .inside nonvoid around written
      rwa [List.append_assoc]

theorem Follows.append {node : Node} {added : List Token}
    (follows : assembly.Follows tokens) (written : WrittenAs [node] added) :
    (assembly.append node).Follows (tokens ++ added) := by
  obtain ⟨before, inner, rfl, siblings, grow⟩ :=
    follows.modifyNodes (· ++ [node])
  rw [List.append_assoc]
  exact grow (siblings.append written)

/-- An open element whose end tag may be left out can be closed at any time. -/
theorem Follows.closeOptional (follows : assembly.Follows tokens)
    (optional : ∀ name ∈ (assembly.opened.map (·.name)).head?,
      hasOptionalEnd name = true) :
    assembly.close.Follows tokens := by
  cases follows with
  | outside written => exact .outside written
  | @inside innermost outer finished before inner nonvoid around written =>
      have closed : WrittenAs [innermost.node] _ :=
        .leftOpen (optional _ rfl) written .nil
      rw [List.append_nil] at closed
      exact around.append closed

/-- Its own end tag closes an open element. -/
theorem Follows.closeTag {name : String} (follows : assembly.Follows tokens)
    (named : name ∈ (assembly.opened.map (·.name)).head?) :
    assembly.close.Follows (tokens ++ [.endTag name]) := by
  cases follows with
  | outside written => cases named
  | @inside innermost outer finished before inner nonvoid around written =>
      cases named
      have closed : WrittenAs [innermost.node] _ :=
        .ended nonvoid written .nil
      rw [List.append_assoc]
      exact around.append closed

theorem Follows.closeMany {count : Nat} (follows : assembly.Follows tokens)
    (optional : ∀ name ∈ (assembly.opened.map (·.name)).take count,
      hasOptionalEnd name = true) :
    (assembly.closeMany count).Follows tokens := by
  induction count generalizing assembly with
  | zero => exact follows
  | succ count induction =>
      have left : assembly.close.opened.map (·.name) =
          (assembly.opened.map (·.name)).drop 1 := names_closeMany 1 assembly
      rw [Assembly.closeMany]
      cases names : assembly.opened.map (·.name) with
      | nil =>
          rw [names] at left
          exact induction (follows.closeOptional (by simp [names]))
            (by simp [left])
      | cons first names' =>
          rw [names] at left optional
          rw [List.take_succ_cons] at optional
          obtain ⟨firstOptional, others⟩ := List.forall_mem_cons.mp optional
          exact induction (follows.closeOptional (by simpa [names]))
            (by simpa [left] using others)

theorem Follows.closeWhile {test : String → Bool}
    (follows : assembly.Follows tokens)
    (optional : ∀ name, test name = true → hasOptionalEnd name = true) :
    (assembly.closeWhile test).Follows tokens := by
  apply follows.closeMany
  intro name listed
  have taken := List.prefix_iff_eq_take.mp (List.takeWhile_prefix
    (fun element : Element => test element.name) (l := assembly.opened))
  rw [← List.map_take, ← taken] at listed
  obtain ⟨element, inside, rfl⟩ := List.mem_map.mp listed
  exact optional element.name
    (List.mem_takeWhile_imp (p := fun element : Element => test element.name)
      inside)

/-- The assembly and the tokens end with the same text, if the tokens end with a
text. -/
structure Tracks (assembly : Assembly) (tokens : List Token) : Prop where
  follows : assembly.Follows tokens
  lastText : ∀ content, tokens.getLast? = some (.text content) →
    assembly.siblings.getLast? = some (.text content)

theorem Follows.tracks {token : Token} (follows : assembly.Follows (tokens ++ [token]))
    (other : token.isText = false) : assembly.Tracks (tokens ++ [token]) := by
  refine ⟨follows, ?_⟩
  intro content last
  rw [List.getLast?_concat] at last
  cases last
  cases other

theorem Tracks.takeText {content : String} (tracks : assembly.Tracks tokens)
    (written : content ≠ "") :
    (assembly.modifyNodes (appendText · content)).Tracks
      (Token.joinNext tokens (.text content)) := by
  obtain ⟨before, inner, rfl, siblings, grow⟩ :=
    tracks.follows.modifyNodes (appendText · content)
  by_cases textual : ∃ previous,
      assembly.siblings.getLast? = some (.text previous)
  · obtain ⟨previous, last⟩ := textual
    obtain ⟨nodes, ends⟩ := List.getLast?_eq_some_iff.mp last
    rw [ends] at siblings
    obtain ⟨innerBefore, rfl, nodesWritten⟩ := siblings.last_text
    have joined : appendText assembly.siblings content =
        nodes ++ [.text (previous ++ content)] := by
      simp [appendText, ends]
    have tokensJoined :
        Token.joinNext (before ++ (innerBefore ++ [.text previous]))
          (.text content) =
        before ++ (innerBefore ++ [.text (previous ++ content)]) := by
      simp [Token.joinNext, ← List.append_assoc]
    rw [tokensJoined]
    constructor
    · apply grow
      rw [joined]
      exact nodesWritten.append (.text .nil)
    · intro whole same
      rw [siblings_modifyNodes, joined]
      simpa [← List.append_assoc] using same
  · have alone : ∀ previous, (before ++ inner).getLast? ≠
        some (.text previous) :=
      fun previous last => textual ⟨previous, tracks.lastText previous last⟩
    have joined : appendText assembly.siblings content =
        assembly.siblings ++ [.text content] := by
      unfold appendText
      split
      · rename_i previous last
        exact absurd ⟨previous, last⟩ textual
      · rw [if_neg written]
    have tokensJoined : Token.joinNext (before ++ inner) (.text content) =
        before ++ (inner ++ [.text content]) := by
      unfold Token.joinNext
      split
      · rename_i last
        exact absurd last (alone _)
      · rw [List.append_assoc]
    rw [tokensJoined]
    constructor
    · apply grow
      rw [joined]
      exact siblings.append (.text .nil)
    · intro whole same
      rw [siblings_modifyNodes, joined]
      simpa [← List.append_assoc] using same

theorem hasOptionalEnd_of_startTagCloses {opened start : String}
    (closes : startTagCloses opened start = true) :
    hasOptionalEnd opened = true := by
  unfold startTagCloses at closes
  split at closes <;> first | decide | cases closes

theorem Tracks.takeStartTag {tag : StartTag} (tracks : assembly.Tracks tokens) :
    (assembly.takeStartTag tag).Tracks (tokens ++ [.startTag tag]) := by
  have closed : (assembly.closeWhile (startTagCloses · tag.name)).Follows
      tokens :=
    tracks.follows.closeWhile fun name => hasOptionalEnd_of_startTagCloses
  apply Follows.tracks _ rfl
  obtain ⟨name, attributes, selfClosing⟩ := tag
  unfold Assembly.takeStartTag
  cases void : isVoid name with
  | true =>
      simp only [Bool.or_true, if_true]
      exact closed.append (.void void .nil)
  | false =>
      cases selfClosing with
      | true => exact closed.append (.selfClosed .nil)
      | false =>
          simp only [Bool.or_false, Bool.false_eq_true, if_false]
          exact .inside void closed .nil

theorem Tracks.takeEndTag {name : String} {result : Assembly}
    (tracks : assembly.Tracks tokens)
    (taken : assembly.takeEndTag name = .ok result) :
    result.Tracks (tokens ++ [.endTag name]) := by
  unfold Assembly.takeEndTag at taken
  split at taken
  · cases taken
  simp only at taken
  split at taken
  · cases taken
  rename_i innermost outer opened
  split at taken
  · rename_i named
    cases taken
    apply Follows.tracks _ rfl
    apply Follows.closeTag
    · split
      · apply tracks.follows.closeWhile
        intro other passed
        exact (Bool.and_eq_true_iff.mp passed).2
      · exact tracks.follows
    · rw [opened]
      simp [named]
  · cases taken

/-- One token is taken. -/
theorem Tracks.take {token : Token} {result : Assembly}
    (tracks : assembly.Tracks tokens) (written : token ≠ .text "")
    (taken : assembly.take token = .ok result) :
    result.Tracks (Token.joinNext tokens token) := by
  cases token with
  | text content =>
      cases taken
      exact tracks.takeText fun empty => written (congrArg Token.text empty)
  | comment content =>
      cases taken
      exact (tracks.follows.append (.comment .nil)).tracks rfl
  | startTag tag =>
      cases taken
      exact tracks.takeStartTag
  | endTag name => exact tracks.takeEndTag taken

theorem Tracks.run {more : List Token} {result : Assembly}
    (tracks : assembly.Tracks tokens)
    (written : ∀ token ∈ more, token ≠ .text "")
    (taken : more.foldlM Assembly.take assembly = .ok result) :
    result.Tracks (more.foldl Token.joinNext tokens) := by
  induction more generalizing assembly tokens with
  | nil =>
      cases taken
      exact tracks
  | cons token more induction =>
      obtain ⟨first, others⟩ := List.forall_mem_cons.mp written
      rw [List.foldlM_cons] at taken
      obtain ⟨next, here, later⟩ := Outcome.bind_eq_ok.mp taken
      exact induction (tracks.take first here) others later

theorem Follows.written (follows : assembly.Follows tokens)
    (none : assembly.opened = []) : WrittenAs assembly.finished tokens := by
  cases follows with
  | outside written => exact written
  | inside => cases none

theorem written_of_finish {result : Assembly} {nodes : List Node}
    (written : ∀ token ∈ tokens, token ≠ .text "")
    (taken : tokens.foldlM Assembly.take {} = .ok result)
    (finished : result.finish = .ok nodes) :
    WrittenAs nodes (Token.joinTexts tokens) := by
  have start : Tracks {} [] := ⟨.outside .nil, nofun⟩
  have ran : result.Tracks (Token.joinTexts tokens) := start.run written taken
  have closed : (result.closeWhile hasOptionalEnd).Follows
      (Token.joinTexts tokens) := ran.follows.closeWhile fun _ => id
  unfold finish at finished
  simp only at finished
  split at finished
  · rename_i none
    cases finished
    exact closed.written none
  · cases finished

end Assembly

namespace Token

/-- What a token adds to the nodes: an end tag adds nothing, and a start tag an
element however it is closed. -/
def content? : Token → Option Token
  | .endTag _ => none
  | .startTag tag => some (.startTag { tag with selfClosing := false })
  | token => some token

/-- Whether the token is a start tag that needs an end tag of that name. -/
def opens (name : String) : Token → Bool
  | .startTag tag => tag.name == name && !tag.selfClosing && !isVoid tag.name
  | _ => false

end Token

theorem isVoid_of_hasOptionalEnd {name : String}
    (optional : hasOptionalEnd name = true) : isVoid name = false := by
  have each : ∀ other ∈ optionalEndNames, isVoid other = false := by decide
  exact each name (List.contains_iff_mem.mp optional)

/-- Every text, comment, element and attribute is written once and in its
place. -/
theorem WrittenAs.content_eq {nodes : List Node} {tokens : List Token}
    (written : WrittenAs nodes tokens) :
    tokens.filterMap Token.content? =
      (Node.tokensList nodes).filterMap Token.content? := by
  induction written with
  | nil => rfl
  | text later induction =>
      simp [Node.tokensList, Node.tokens, Token.content?, induction]
  | comment later induction =>
      simp [Node.tokensList, Node.tokens, Token.content?, induction]
  | void void later induction =>
      simp [Node.tokensList, Node.tokens, Token.content?, void, induction]
  | @selfClosed name attributes nodes tokens later induction =>
      cases void : isVoid name <;>
        simp [Node.tokensList, Node.tokens, Token.content?, void, induction,
          List.filterMap_cons]
  | ended nonvoid inside later insideInduction induction =>
      simp [Node.tokensList, Node.tokens, Token.content?, nonvoid,
        insideInduction, induction, List.filterMap_cons]
  | leftOpen optional inside later insideInduction induction =>
      simp [Node.tokensList, Node.tokens, Token.content?,
        isVoid_of_hasOptionalEnd optional, insideInduction, induction,
        List.filterMap_cons]

/-- Where an end tag must not be left out, each element has its own. -/
theorem WrittenAs.count_endTag {nodes : List Node} {tokens : List Token}
    (written : WrittenAs nodes tokens) {name : String}
    (required : hasOptionalEnd name = false) :
    tokens.count (.endTag name) = tokens.countP (Token.opens name) := by
  induction written with
  | nil => rfl
  | text later induction => simpa [Token.opens] using induction
  | comment later induction => simpa [Token.opens] using induction
  | void void later induction => simpa [Token.opens, void] using induction
  | selfClosed later induction => simpa [Token.opens] using induction
  | @ended other attributes children nodes inner tokens nonvoid inside later
      insideInduction induction =>
      by_cases same : other = name
      · subst same
        simp [Token.opens, nonvoid, insideInduction, induction]
        omega
      · simp [Token.opens, nonvoid, same, insideInduction, induction]
  | @leftOpen other attributes children nodes inner tokens optional inside
      later insideInduction induction =>
      have different : other ≠ name := by
        rintro rfl
        rw [optional] at required
        cases required
      simp [Token.opens, different, insideInduction, induction]

namespace Fragment

/-- The tokens of a source that is parsed spell the whole of it.  Joined, they
are a way to write the nodes that it stands for: nothing of the source is lost
or moved, and only end tags that may be left out are missing. -/
theorem written_of_parse {source context : String} {nodes : List Node}
    (markup : textMode context = .normal)
    (parsed : parse source context = .ok nodes) :
    ∃ tokens, Token.scan source.toList = (tokens, none) ∧
      Spelled source.toList tokens [] ∧
      WrittenAs nodes (Token.joinTexts tokens) ∧
      (Token.joinTexts tokens).filterMap Token.content? =
        (Node.tokensList nodes).filterMap Token.content? ∧
      ∀ name, hasOptionalEnd name = false →
        (Token.joinTexts tokens).count (.endTag name) =
          (Token.joinTexts tokens).countP (Token.opens name) := by
  simp only [parse, markup, parseMarkup] at parsed
  obtain ⟨assembly, taken, finished⟩ := Outcome.bind_eq_ok.mp parsed
  cases scanned : Token.scan source.toList with
  | mk tokens failure =>
      rw [scanned] at taken finished
      cases failure with
      | some error => cases finished
      | none =>
          have spelled := Token.spelled_of_scan scanned
          have written : WrittenAs nodes (Token.joinTexts tokens) :=
            Assembly.written_of_finish spelled.text_ne_empty taken finished
          exact ⟨tokens, rfl, spelled, written, written.content_eq,
            fun name required => written.count_endTag required⟩

/-- A list with a paragraph in its last item, a script, and a span that closes
itself. -/
def openItems : String :=
  "a &lt; b<ul><LI>x<li Class=y><p>z<br/></ul><script>a<b</Script><span/>"

theorem written_openItems :
    textMode "div" = .normal ∧ ∃ nodes, parse openItems "div" = .ok nodes ∧
      ∃ tokens, Token.scan openItems.toList = (tokens, none) ∧
        Spelled openItems.toList tokens [] ∧
        WrittenAs nodes (Token.joinTexts tokens) ∧
        (Token.joinTexts tokens).filterMap Token.content? =
          (Node.tokensList nodes).filterMap Token.content? ∧
        ∀ name, hasOptionalEnd name = false →
          (Token.joinTexts tokens).count (.endTag name) =
            (Token.joinTexts tokens).countP (Token.opens name) := by
  have accepted : (parse openItems "div").toOption.isSome = true := by
    decide +kernel
  obtain ⟨nodes, found⟩ := Option.isSome_iff_exists.mp accepted
  have parsed := Outcome.eq_ok_of_toOption found
  exact ⟨by decide, nodes, parsed, written_of_parse (by decide) parsed⟩

end Fragment

end WorkbookSite.Markup
