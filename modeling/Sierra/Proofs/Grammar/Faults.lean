import Sierra.Grammar.Expectation
import Sierra.Proofs.Grammar.Next
import Sierra.Proofs.Grammar.Phrase

/-!
# Which fault an error is

Whether an error is an invalid parameter, a break of structure or a misplaced token is told by what
could have come next, by the token in front of the error and by the token found. A parser of a part
does not know all that could come next where it is used. It blames rightly when its fault fits
whatever its surroundings add, as long as this tells nothing new: no name, no closing token, and
nothing at all where only `self` could come.
-/

namespace Sierra

set_option autoImplicit false

open scoped Computability

/-- The tokens whose lack breaks the structure, whatever else could come; `end` is not among them,
since parts may always be repeated in front of it. -/
def Token.Kind.closers : List Token.Kind :=
  [.punctuation .semicolon, .punctuation .rightBracket, .punctuation .rightParen, .keyword .self]

/-- What is found would make a parameter of a form that is none: a name with a type, a type without
a name, or `self` alone. -/
def Deforms (could : Set Token.Kind) (before : Option Token.Kind) (found : Token.Kind) : Prop :=
  (could = {.keyword .self} ∧ before = some .identifier ∧ found = .punctuation .colon) ∨
  (could = {.keyword .self} ∧ before = some (.punctuation .colon) ∧ found = .identifier) ∨
  (found = .keyword .self ∧ .identifier ∈ could ∧ .punctuation .colon ∈ could)

/-- The text is over, a list of parameters is closed at once, or a closing token is missing. Nothing
but a list of parameters begins with a parenthesis. -/
def Unclosed (could : Set Token.Kind) (before : Option Token.Kind) (found : Token.Kind) : Prop :=
  found = .endOfInput ∨
  (found = .punctuation .rightParen ∧ before = some (.punctuation .leftParen)) ∨
  ∃ kind ∈ Token.Kind.closers, kind ∈ could

def Fault.Fits (fault : Fault) (could : Set Token.Kind) (before : Option Token.Kind)
    (found : Token.Kind) : Prop :=
  match fault with
  | .invalidParameter _ => Deforms could before found
  | .incomplete _ _ => ¬Deforms could before found ∧ Unclosed could before found
  | .misplaced _ _ => ¬Deforms could before found ∧ ¬Unclosed could before found
  | .strayCharacter _ => False

section Surroundings

variable {could middle base : Set Token.Kind} {extra bound : List Token.Kind}

/-- What could come next in some surroundings of a part tells no more than what could come next in
the part. -/
structure Widens (could base : Set Token.Kind) : Prop where
  more : base ⊆ could
  telling : ∀ kind ∈ .identifier :: Token.Kind.closers, kind ∈ could → kind ∈ base
  colon : .identifier ∈ could → .punctuation .colon ∈ could → .punctuation .colon ∈ base
  alone : .keyword .self ∈ base → could ⊆ base

theorem Widens.refl (base : Set Token.Kind) : Widens base base :=
  ⟨fun _ member => member, fun _ _ member => member, fun _ member => member,
    fun _ _ member => member⟩

theorem Widens.trans (far : Widens could middle) (near : Widens middle base) :
    Widens could base := by
  have name : .identifier ∈ could → .identifier ∈ middle := far.telling _ (by simp)
  have self : .keyword .self ∈ base → .keyword .self ∈ middle := fun member => near.more member
  constructor
  · exact fun _ member => far.more (near.more member)
  · exact fun kind listed member => near.telling kind listed (far.telling kind listed member)
  · exact fun named member => near.colon (name named) (far.colon named member)
  · exact fun member _ inside => near.alone member (far.alone (self member) inside)

/-- Tokens that tell nothing new where those of `bound` could come. -/
def Harmless (extra bound : List Token.Kind) : Prop :=
  (∀ kind ∈ extra, kind ∉ .identifier :: Token.Kind.closers) ∧
  (.punctuation .colon ∈ extra → .identifier ∉ bound) ∧ (extra = [] ∨ .keyword .self ∉ bound)

instance (extra bound : List Token.Kind) : Decidable (Harmless extra bound) :=
  inferInstanceAs (Decidable (_ ∧ _))

theorem widens_of_harmless (harmless : Harmless extra bound)
    (bounded : ∀ kind ∈ base, kind ∈ bound) (more : base ⊆ could)
    (only : ∀ kind ∈ could, kind ∈ base ∨ kind ∈ extra) : Widens could base := by
  obtain ⟨telling, colon, alone⟩ := harmless
  have told : ∀ kind ∈ .identifier :: Token.Kind.closers, kind ∈ could → kind ∈ base :=
    fun kind listed member => (only kind member).resolve_right fun added =>
      telling kind added listed
  refine ⟨more, told, ?_, ?_⟩
  · intro named member
    apply (only _ member).resolve_right
    exact fun added => colon added (bounded _ (told _ (by simp) named))
  · intro self kind member
    rcases alone with none | absent
    · simpa [none] using only kind member
    · exact absurd (bounded _ self) absent

section Parts

variable {first second : Language Token.Kind} {left right : Outline Token.Kind}
  {front back word : List Token.Kind}

/-- Inside the first of two parts, the second adds what it begins with, and this only where a
sentence of the first is over. -/
theorem widens_inside (outlined : Outlines first left) (outlined' : Outlines second right)
    (apart : left.Apart right) (viable : Viable first word)
    (harmless : word ∈ first → Harmless right.first left.next) :
    Widens (nexts (first * second) word) (nexts first word) := by
  have separate := outlined.apart outlined' apart
  have more : nexts first word ⊆ nexts (first * second) word :=
    nexts_left_subset word outlined'.inhabited
  by_cases sentence : word ∈ first
  · apply widens_of_harmless (harmless sentence)
    · exact fun kind goesOn => outlined.next word kind sentence goesOn
    · exact more
    · intro kind goesOn
      rcases separate.nexts_inside viable goesOn with inside | ⟨-, begins⟩
      · exact .inl inside
      · exact .inr (outlined'.first kind begins)
  · have same : nexts (first * second) word = nexts first word := by
      apply Set.Subset.antisymm _ more
      intro kind goesOn
      exact (separate.nexts_inside viable goesOn).resolve_right fun ended => sentence ended.1
    rw [same]
    exact Widens.refl _

/-- Behind the first of two parts, the first adds what may go on behind it, and this only where
nothing of the second has been read. -/
theorem widens_behind (outlined : Outlines first left) (outlined' : Outlines second right)
    (apart : left.Apart right) (sentence : front ∈ first)
    (stops : ∀ head, back.head? = some head → ¬Viable first (front ++ [head]))
    (harmless : Harmless left.next right.first) :
    Widens (nexts (first * second) (front ++ back)) (nexts second back) := by
  have separate := outlined.apart outlined' apart
  have more : nexts second back ⊆ nexts (first * second) (front ++ back) :=
    nexts_right_subset sentence back
  cases back with
  | nil =>
      apply widens_of_harmless harmless
      · exact fun kind goesOn => outlined'.first kind goesOn
      · exact more
      · intro kind goesOn
        rcases separate.nexts_behind sentence stops goesOn with behind | ⟨-, inside⟩
        · exact .inl behind
        · exact .inr (outlined.next front kind sentence inside)
  | cons head back =>
      have same : nexts (first * second) (front ++ head :: back) = nexts second (head :: back) := by
        apply Set.Subset.antisymm _ more
        intro kind goesOn
        exact (separate.nexts_behind sentence stops goesOn).resolve_right (by simp)
      rw [same]
      exact Widens.refl _

end Parts

/-- Tokens that make neither a parameter nor a closing token possible. -/
def Quiet (bound : List Token.Kind) : Prop :=
  (∀ kind ∈ Token.Kind.closers, kind ∉ bound) ∧
  ¬(.identifier ∈ bound ∧ .punctuation .colon ∈ bound)

instance (bound : List Token.Kind) : Decidable (Quiet bound) :=
  inferInstanceAs (Decidable (_ ∧ _))

variable {before : Option Token.Kind} {found : Token.Kind} {message : String} {rule : Rule}

theorem fits_at_end (message : String) (rule : Rule) (could : Set Token.Kind)
    (before : Option Token.Kind) :
    (Fault.incomplete message rule).Fits could before .endOfInput :=
  ⟨by simp [Deforms], .inl rfl⟩

/-- Where no closing token could come, what is found is misplaced, unless it is a `self` that makes
a parameter without a name. -/
theorem misplaced_fits (unclosed : ∀ kind ∈ Token.Kind.closers, kind ∉ bound)
    (formed : found = .keyword .self → ¬(.identifier ∈ bound ∧ .punctuation .colon ∈ bound))
    (bounded : ∀ kind ∈ base, kind ∈ bound) (widens : Widens could base)
    (inside : found ≠ .endOfInput)
    (behind : before = some (.punctuation .leftParen) → found ≠ .punctuation .rightParen) :
    (Fault.misplaced message rule).Fits could before found := by
  have absent : ∀ kind ∈ Token.Kind.closers, kind ∉ could :=
    fun kind listed member => unclosed kind listed
      (bounded kind (widens.telling kind (List.mem_cons_of_mem _ listed) member))
  have alone : could ≠ {.keyword .self} := by
    intro same
    exact absent (.keyword .self) (by decide) (by simp [same])
  constructor
  · intro deforms
    rcases deforms with ⟨same, -⟩ | ⟨same, -⟩ | ⟨self, named, colon⟩
    · exact alone same
    · exact alone same
    · exact formed self ⟨bounded _ (widens.telling _ (by simp) named),
        bounded _ (widens.colon named colon)⟩
  · intro closing
    rcases closing with ended | ⟨closed, opened⟩ | ⟨kind, listed, member⟩
    · exact inside ended
    · exact behind opened closed
    · exact absent kind listed member

/-- Where a closing token other than `self` could come and no name, it is missing. -/
theorem incomplete_fits {kind : Token.Kind} (closer : kind ∈ Token.Kind.closers)
    (other : kind ≠ .keyword .self) (possible : kind ∈ base) (unnamed : .identifier ∉ base)
    (widens : Widens could base) : (Fault.incomplete message rule).Fits could before found := by
  have alone : could ≠ {.keyword .self} := by
    intro same
    have member := widens.more possible
    rw [same] at member
    exact other member
  constructor
  · intro deforms
    rcases deforms with ⟨same, -⟩ | ⟨same, -⟩ | ⟨-, named, -⟩
    · exact alone same
    · exact alone same
    · exact unnamed (widens.telling _ (by simp) named)
  · exact .inr (.inr ⟨kind, closer, widens.more possible⟩)

end Surroundings

/-- The fault at `found`, behind the part `used` of a sentence, fits in all surroundings. -/
def Blamed (language : Language Token.Kind) (used : List Token.Kind) (found : Token.Kind)
    (fault : Fault) : Prop :=
  ∀ could before, (found ≠ .endOfInput → Widens could (nexts language used)) →
    (used = [] → before = some (.punctuation .leftParen) → found ≠ .punctuation .rightParen) →
    fault.Fits could (used.getLast?.or before) found

section Blamed

variable {language wider : Language Token.Kind} {used used' : List Token.Kind} {found : Token.Kind}
  {fault : Fault}

theorem Blamed.widen (blamed : Blamed language used found fault)
    (widens : found ≠ .endOfInput → Widens (nexts wider used) (nexts language used)) :
    Blamed wider used found fault := by
  intro could before widens' behind
  exact blamed could before (fun inside => (widens' inside).trans (widens inside)) behind

theorem Blamed.prepend (blamed : Blamed language used' found fault)
    (widens : found ≠ .endOfInput → Widens (nexts wider (used ++ used')) (nexts language used'))
    (opened : used' = [] → used.getLast? = some (.punctuation .leftParen) →
      found ≠ .punctuation .rightParen) : Blamed wider (used ++ used') found fault := by
  intro could before widens' behind
  rw [List.getLast?_append, Option.or_assoc]
  apply blamed could _ fun inside => (widens' inside).trans (widens inside)
  intro nothing last
  cases final : used.getLast? with
  | none =>
      have empty : used = [] := List.getLast?_eq_none_iff.mp final
      exact behind (by simp [empty, nothing]) (by simpa [final] using last)
  | some kind => exact opened nothing (by simpa [final] using last)

end Blamed

/-- No sentence ends with an opening parenthesis. -/
def Settled (language : Language Token.Kind) : Prop :=
  ∀ word ∈ language, word.getLast? ≠ some (.punctuation .leftParen)

section Settled

variable {first second : Language Token.Kind}

theorem settled_one : Settled 1 := by
  intro word sentence
  simp [(Language.mem_one word).mp sentence]

theorem settled_add (settled : Settled first) (settled' : Settled second) :
    Settled (first + second) := by
  intro word sentence
  rcases sentence with member | member
  · exact settled word member
  · exact settled' word member

theorem settled_mul (settled : Settled first) (settled' : Settled second) :
    Settled (first * second) := by
  intro word sentence
  obtain ⟨front, member, back, member', rfl⟩ := Language.mem_mul.mp sentence
  rw [List.getLast?_append]
  cases final : back.getLast? with
  | none => exact settled front member
  | some kind => simpa [final] using settled' back member'

theorem settled_mul_of_solid (solid : [] ∉ second) (settled : Settled second) :
    Settled (first * second) := by
  intro word sentence
  obtain ⟨front, -, back, member, rfl⟩ := Language.mem_mul.mp sentence
  rw [List.getLast?_append]
  cases final : back.getLast? with
  | none => exact absurd (List.getLast?_eq_none_iff.mp final ▸ member) solid
  | some kind => simpa [final] using settled back member

theorem settled_kstar (settled : Settled first) : Settled first∗ := by
  intro word sentence
  obtain ⟨words, rfl, members⟩ := Language.mem_kstar.mp sentence
  clear sentence
  induction words with
  | nil => simp
  | cons front words induction =>
      have later := induction fun other member => members other (by simp [member])
      rw [List.flatten_cons, List.getLast?_append]
      cases final : words.flatten.getLast? with
      | none => exact settled front (members front (by simp))
      | some kind => simpa [final] using later

end Settled

end Sierra
