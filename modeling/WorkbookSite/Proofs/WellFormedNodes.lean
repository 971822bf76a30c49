import Mathlib
import WorkbookSite.Markup.Node
import WorkbookSite.Markup.Tag
import WorkbookSite.Markup.Token
import WorkbookSite.Markup.Vocabulary

/-!
# Well-formed nodes

The nodes that markup can stand for.  Texts are neither empty nor next to each
other, names can be written in a tag, and an element has no child that would
end it or that its way of reading text would not give back.
-/

namespace WorkbookSite.Markup

open Text (isBlank)

/-- A lowercase letter, followed by lowercase letters, digits and hyphens. -/
def IsElementName (name : String) : Prop :=
  ∃ initial more, name.toList = initial :: more ∧ initial.isLower = true ∧
    ∀ character ∈ more,
      character.isLower = true ∨ character.isDigit = true ∨ character = '-'

instance (name : String) : Decidable (IsElementName name) :=
  decidable_of_iff
    ((name.toList.head?.any (·.isLower) && name.toList.tail.all
      fun character =>
        character.isLower || character.isDigit || character == '-') = true)
    (by cases spelled : name.toList <;>
      simp [IsElementName, spelled, or_assoc])

/-- A name that ends at none of its characters when it is read inside a tag,
and that is in lowercase. -/
def IsAttributeName (name : String) : Prop :=
  name ≠ "" ∧ ∀ character ∈ name.toList,
    isBlank character = false ∧ character ∉ ['"', '\'', '>', '/', '='] ∧
      character.isUpper = false

/-- What an element whose text is not read as markup may contain. -/
def BodyFits (name : String) (children : List Node) : Prop :=
  children = [] ∨ ∃ content, children = [.text content] ∧
    (textMode name = .raw →
      ¬ '<' :: '/' :: name.toList <:+: lowercase content.toList)

/-- What an element is made of, whatever its children contain. -/
structure ElementFits (name : String) (attributes : List (String × String))
    (children : List Node) : Prop where
  named : IsElementName name
  attributesNamed : ∀ pair ∈ attributes, IsAttributeName pair.1
  void : isVoid name = true → children = []
  unclosed : ∀ {start attributes inner},
    Node.element start attributes inner ∈ children →
      startTagCloses name start = false
  body : textMode name ≠ .normal → BodyFits name children

def Node.isText : Node → Bool
  | .text _ => true
  | _ => false

/-- No text stands next to a text. -/
def SeparateTexts (nodes : List Node) : Prop :=
  nodes.IsChain fun earlier later =>
    earlier.isText = false ∨ later.isText = false

inductive Node.WellFormed : Node → Prop where
  | text {content : String} (written : content ≠ "") :
      WellFormed (.text content)
  | comment {content : String}
      (inside : ¬ "-->".toList <:+: content.toList) :
      WellFormed (.comment content)
  | element {name : String} {attributes : List (String × String)}
      {children : List Node}
      (fits : ElementFits name attributes children)
      (separate : SeparateTexts children)
      (inside : ∀ child ∈ children, child.WellFormed) :
      WellFormed (.element name attributes children)

/-- Well-formed nodes that can stand side by side. -/
def WellFormedNodes (nodes : List Node) : Prop :=
  SeparateTexts nodes ∧ ∀ node ∈ nodes, node.WellFormed

mutual

/-- The tokens of a node, with every end tag written. -/
def Node.tokens : Node → List Token
  | .text content => [.text content]
  | .comment content => [.comment content]
  | .element name attributes children =>
      .startTag ⟨name, attributes, isVoid name⟩ ::
        if isVoid name then []
        else Node.tokensList children ++ [.endTag name]

def Node.tokensList : List Node → List Token
  | [] => []
  | node :: nodes => node.tokens ++ Node.tokensList nodes

end

theorem isUpper_of_isDigit {character : Char}
    (digit : character.isDigit = true) : character.isUpper = false := by
  simp [Char.isUpper, Char.isDigit, UInt32.le_iff_toNat_le] at *
  omega

theorem eq_of_toLower_eq {character lowered : Char}
    (other : lowered.isLower = false) (same : character.toLower = lowered) :
    character = lowered := by
  have letter : character.isAlpha = false := by
    rw [← Char.isLower_toLower_eq_isAlpha, same, other]
  have small : ¬ character.isUpper = true := by
    simp_all [Char.isAlpha]
  rw [← same, Char.toLower_eq_of_not_isUpper small]

theorem lowercase_eq_self {name : List Char}
    (lower : ∀ character ∈ name, character.isUpper = false) :
    lowercase name = name := by
  refine (List.map_congr_left ?_).trans (List.map_id name)
  intro character listed
  exact Char.toLower_eq_of_not_isUpper
    (Bool.eq_false_iff.mp (lower character listed))

theorem isElementName_of_mem {name : String}
    (listed : name ∈ elementNames) : IsElementName name := by
  have each : ∀ name ∈ elementNames, IsElementName name := by decide +kernel
  exact each name listed

theorem IsElementName.lowercase_eq {name : String}
    (named : IsElementName name) : lowercase name.toList = name.toList := by
  obtain ⟨initial, more, spelled, initialLower, moreFit⟩ := named
  apply lowercase_eq_self
  intro character listed
  rw [spelled] at listed
  have kind : character.isLower = true ∨ character.isDigit = true ∨
      character = '-' := by
    rcases List.mem_cons.mp listed with rfl | later
    · exact .inl initialLower
    · exact moreFit character later
  rcases kind with lower | digit | rfl
  · exact Bool.eq_false_iff.mpr (Char.not_isUpper_of_isLower lower)
  · exact isUpper_of_isDigit digit
  · decide

theorem IsElementName.less_notMem {name : String}
    (named : IsElementName name) : '<' ∉ name.toList := by
  obtain ⟨initial, more, spelled, lower, inside⟩ := named
  rw [spelled, List.mem_cons, not_or]
  constructor
  · intro same
    subst same
    exact absurd lower (by decide)
  · intro listed
    exact absurd (inside '<' listed) (by decide)

theorem IsAttributeName.lowercase_eq {name : String}
    (named : IsAttributeName name) : lowercase name.toList = name.toList :=
  lowercase_eq_self fun character listed => (named.2 character listed).2.2

end WorkbookSite.Markup
