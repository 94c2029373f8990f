import Sierra.Proofs.Grammar.Viable
import Sierra.Token

/-!
# Phrases

A phrase is a form that a run of tokens can have, together with the value that each run of that form
stands for. Phrases are put together like the right-hand sides of a grammar: one token, one phrase
behind another, a choice, an optional part, a repetition. Nothing here says how a run of tokens is
taken apart, and nothing prevents two values of one run. The sentences of a phrase are the kinds of
its runs.
-/

namespace Sierra

set_option autoImplicit false

open scoped Computability

variable {α β : Type}

def kinds (tokens : List Token) : List Token.Kind :=
  tokens.map (·.kind)

@[simp] theorem kinds_nil : kinds [] = [] := rfl

@[simp] theorem kinds_cons (token : Token) (tokens : List Token) :
    kinds (token :: tokens) = token.kind :: kinds tokens := rfl

@[simp] theorem kinds_append (front back : List Token) :
    kinds (front ++ back) = kinds front ++ kinds back :=
  List.map_append ..

@[simp] theorem length_kinds (tokens : List Token) : (kinds tokens).length = tokens.length :=
  List.length_map ..

def Phrase (α : Type) : Type :=
  List Token → α → Prop

namespace Phrase

def oneOf (kinds : List Token.Kind) : Phrase Token := fun tokens token =>
  tokens = [token] ∧ token.kind ∈ kinds

instance : Applicative Phrase where
  pure value := fun tokens other => tokens = [] ∧ other = value
  map f phrase := fun tokens value => ∃ part, phrase tokens part ∧ value = f part
  seq first second := fun tokens value =>
    ∃ front back f part, tokens = front ++ back ∧ first front f ∧ second () back part ∧
      value = f part

instance : OrElse (Phrase α) where
  orElse first second := fun tokens value => first tokens value ∨ second () tokens value

/-- A phrase whose second part may depend on the value of its first. -/
def bind (first : Phrase α) (second : α → Phrase β) : Phrase β := fun tokens value =>
  ∃ front back part, tokens = front ++ back ∧ first front part ∧ second part back value

def optional (part : Phrase α) : Phrase (Option α) := fun tokens value =>
  (tokens = [] ∧ value = none) ∨ ∃ inner, part tokens inner ∧ value = some inner

inductive Repeats (item : Phrase α) : List Token → List α → Prop where
  | done : Repeats item [] []
  | round {front back value values} :
      item front value → Repeats item back values → Repeats item (front ++ back) (value :: values)

def many (item : Phrase α) : Phrase (List α) :=
  Repeats item

def located (phrase : Phrase (Location → α)) : Phrase α := fun tokens value =>
  ∃ token rest f, tokens = token :: rest ∧ phrase tokens f ∧ value = f token.location

def behind (kind : Token.Kind) (phrase : Phrase α) : Phrase α :=
  (oneOf [kind]).bind fun _ => phrase

def sentences (phrase : Phrase α) : Language Token.Kind :=
  {word | ∃ tokens value, phrase tokens value ∧ kinds tokens = word}

theorem kinds_mem_sentences {phrase : Phrase α} {tokens : List Token} {value : α}
    (derived : phrase tokens value) : kinds tokens ∈ phrase.sentences :=
  ⟨tokens, value, derived, rfl⟩

theorem ext {first second : Phrase α}
    (same : ∀ tokens value, first tokens value ↔ second tokens value) : first = second := by
  funext tokens value
  exact propext (same tokens value)

@[simp] theorem pure_iff {value other : α} {tokens : List Token} :
    (pure value : Phrase α) tokens other ↔ tokens = [] ∧ other = value := Iff.rfl

@[simp] theorem map_iff {f : α → β} {phrase : Phrase α} {tokens : List Token} {value : β} :
    (f <$> phrase) tokens value ↔ ∃ part, phrase tokens part ∧ value = f part := Iff.rfl

@[simp] theorem seq_iff {first : Phrase (α → β)} {second : Phrase α} {tokens : List Token}
    {value : β} : (first <*> second) tokens value ↔
      ∃ front back f part, tokens = front ++ back ∧ first front f ∧ second back part ∧
        value = f part := Iff.rfl

@[simp] theorem either_iff {first second : Phrase α} {tokens : List Token} {value : α} :
    (first <|> second) tokens value ↔ first tokens value ∨ second tokens value := Iff.rfl

theorem seq_eq_bind (first : Phrase (α → β)) (second : Phrase α) :
    (first <*> second) = first.bind fun f => f <$> second := by
  apply ext
  intro tokens value
  constructor
  · intro derivation
    obtain ⟨front, back, f, part, same, derived, derived', result⟩ := derivation
    exact ⟨front, back, f, same, derived, part, derived', result⟩
  · intro derivation
    obtain ⟨front, back, f, same, derived, part, derived', result⟩ := derivation
    exact ⟨front, back, f, part, same, derived, derived', result⟩

theorem either_comm (first second : Phrase α) : (first <|> second) = (second <|> first) :=
  ext fun _ _ => or_comm

theorem alone_or_seq (f : α → β) {γ : Type} (g : α → γ → β) (first : Phrase α) (part : Phrase γ) :
    (f <$> first <|> g <$> first <*> part) =
      ((fun value tail => tail.elim (f value) (g value)) <$> first <*> part.optional) := by
  apply ext
  intro tokens value
  constructor
  · intro derivation
    rcases derivation with ⟨base, derived, rfl⟩ | ⟨front, back, _, inner, rfl, ⟨base, derived, rfl⟩,
      derived', rfl⟩
    · exact ⟨tokens, [], _, none, by simp, ⟨base, derived, rfl⟩, .inl ⟨rfl, rfl⟩, rfl⟩
    · exact ⟨front, back, _, some inner, rfl, ⟨base, derived, rfl⟩, .inr ⟨inner, derived', rfl⟩,
        rfl⟩
  · intro derivation
    obtain ⟨front, back, _, tail, rfl, ⟨base, derived, rfl⟩, ⟨rfl, rfl⟩ | ⟨inner, derived', rfl⟩,
      rfl⟩ := derivation
    · exact .inl ⟨base, by simpa using derived, rfl⟩
    · exact .inr ⟨front, back, _, inner, rfl, ⟨base, derived, rfl⟩, derived', rfl⟩

theorem map_map {γ : Type} (f : α → β) (g : β → γ) (phrase : Phrase α) :
    g <$> f <$> phrase = (fun value => g (f value)) <$> phrase := by
  apply ext
  intro tokens value
  constructor
  · intro derivation
    obtain ⟨_, ⟨part, derived, rfl⟩, rfl⟩ := derivation
    exact ⟨part, derived, rfl⟩
  · intro derivation
    obtain ⟨part, derived, rfl⟩ := derivation
    exact ⟨f part, ⟨part, derived, rfl⟩, rfl⟩

theorem map_bind {γ : Type} (f : α → β) (first : Phrase α) (second : β → Phrase γ) :
    (f <$> first).bind second = first.bind fun value => second (f value) := by
  apply ext
  intro tokens value
  constructor
  · intro derivation
    obtain ⟨front, back, _, same, ⟨part, derived, rfl⟩, derived'⟩ := derivation
    exact ⟨front, back, part, same, derived, derived'⟩
  · intro derivation
    obtain ⟨front, back, part, same, derived, derived'⟩ := derivation
    exact ⟨front, back, f part, same, ⟨part, derived, rfl⟩, derived'⟩

theorem bind_assoc {γ : Type} (first : Phrase α) (second : α → Phrase β) (third : β → Phrase γ) :
    (first.bind second).bind third = first.bind fun value => (second value).bind third := by
  apply ext
  intro tokens value
  constructor
  · intro derivation
    obtain ⟨_, back, part, rfl, ⟨front, middle, inner, rfl, derived, derived'⟩, derived''⟩ :=
      derivation
    exact ⟨front, middle ++ back, inner, List.append_assoc .., derived, middle, back, part, rfl,
      derived', derived''⟩
  · intro derivation
    obtain ⟨front, _, inner, rfl, derived, middle, back, part, rfl, derived', derived''⟩ :=
      derivation
    exact ⟨front ++ middle, back, part, (List.append_assoc ..).symm,
      ⟨front, middle, inner, rfl, derived, derived'⟩, derived''⟩

/-- A second part of which only the value depends on the first. -/
theorem map_seq {γ : Type} (first : Phrase α) (f : α → γ → β) (second : Phrase γ) :
    (f <$> first <*> second) = first.bind fun value => f value <$> second := by
  rw [seq_eq_bind, map_bind]

theorem pure_bind (value : α) (second : α → Phrase β) :
    (pure value : Phrase α).bind second = second value := by
  apply ext
  intro tokens other
  constructor
  · intro derivation
    obtain ⟨_, back, _, rfl, ⟨rfl, rfl⟩, derived⟩ := derivation
    exact derived
  · intro derived
    exact ⟨[], tokens, value, rfl, ⟨rfl, rfl⟩, derived⟩

theorem bind_pure (first : Phrase α) (f : α → β) :
    (first.bind fun value => pure (f value)) = f <$> first := by
  apply ext
  intro tokens value
  constructor
  · intro derivation
    obtain ⟨front, back, part, rfl, derived, rfl, result⟩ := derivation
    exact ⟨part, by simpa using derived, result⟩
  · intro derivation
    obtain ⟨part, derived, result⟩ := derivation
    exact ⟨tokens, [], part, by simp, derived, rfl, result⟩

theorem sentences_map (f : α → β) (phrase : Phrase α) :
    (f <$> phrase).sentences = phrase.sentences := by
  apply Language.ext
  intro word
  constructor
  · intro sentence
    obtain ⟨tokens, value, ⟨part, derived, -⟩, rfl⟩ := sentence
    exact kinds_mem_sentences derived
  · intro sentence
    obtain ⟨tokens, part, derived, rfl⟩ := sentence
    exact ⟨tokens, f part, ⟨part, derived, rfl⟩, rfl⟩

theorem sentences_pure (value : α) : (pure value : Phrase α).sentences = 1 := by
  apply Language.ext
  intro word
  rw [Language.mem_one]
  constructor
  · intro sentence
    obtain ⟨tokens, other, ⟨rfl, -⟩, rfl⟩ := sentence
    rfl
  · intro empty
    exact ⟨[], value, ⟨rfl, rfl⟩, empty.symm⟩

/-- Where the second part has the same sentences whatever the first stood for, the sentences of both
are a product. -/
theorem sentences_bind {first : Phrase α} {second : α → Phrase β} {language : Language Token.Kind}
    (uniform : ∀ tokens part, first tokens part → (second part).sentences = language) :
    (first.bind second).sentences = first.sentences * language := by
  apply Language.ext
  intro word
  rw [Language.mem_mul]
  constructor
  · intro sentence
    obtain ⟨tokens, value, ⟨front, back, part, rfl, derived, derived'⟩, rfl⟩ := sentence
    refine ⟨kinds front, kinds_mem_sentences derived, kinds back, ?_, (kinds_append ..).symm⟩
    exact uniform front part derived ▸ kinds_mem_sentences derived'
  · intro product
    obtain ⟨_, ⟨front, part, derived, rfl⟩, other, member, rfl⟩ := product
    rw [← uniform front part derived] at member
    obtain ⟨back, value, derived', rfl⟩ := member
    exact ⟨front ++ back, value, ⟨front, back, part, rfl, derived, derived'⟩, kinds_append ..⟩

theorem sentences_seq (first : Phrase (α → β)) (second : Phrase α) :
    (first <*> second).sentences = first.sentences * second.sentences := by
  rw [seq_eq_bind]
  exact sentences_bind fun _ f _ => sentences_map f second

theorem sentences_either (first second : Phrase α) :
    (first <|> second).sentences = first.sentences + second.sentences := by
  apply Language.ext
  intro word
  rw [Language.mem_add]
  constructor
  · intro sentence
    obtain ⟨tokens, value, derived | derived, rfl⟩ := sentence
    · exact .inl (kinds_mem_sentences derived)
    · exact .inr (kinds_mem_sentences derived)
  · intro choice
    rcases choice with ⟨tokens, value, derived, rfl⟩ | ⟨tokens, value, derived, rfl⟩
    · exact ⟨tokens, value, .inl derived, rfl⟩
    · exact ⟨tokens, value, .inr derived, rfl⟩

theorem optional_unfold (part : Phrase α) : part.optional = (pure none <|> some <$> part) := rfl

theorem many_unfold (item : Phrase α) :
    item.many = (pure [] <|> List.cons <$> item <*> item.many) := by
  apply ext
  intro tokens values
  constructor
  · intro derivation
    cases derivation with
    | done => exact .inl ⟨rfl, rfl⟩
    | @round front back value others derived derived' =>
        exact .inr ⟨front, back, List.cons value, others, rfl, ⟨value, derived, rfl⟩, derived', rfl⟩
  · intro derivation
    rcases derivation with ⟨rfl, rfl⟩ | ⟨front, back, _, others, rfl, ⟨value, derived, rfl⟩,
      derived', rfl⟩
    · exact .done
    · exact .round derived derived'

theorem nothing_or_nil {value : α} {phrase : Phrase α} (solid : [] ∉ phrase.sentences) (other : α) :
    (pure value <|> phrase) [] other ↔ other = value := by
  constructor
  · intro derivation
    rcases derivation with ⟨-, same⟩ | derived
    · exact same
    · exact absurd (kinds_mem_sentences derived) solid
  · intro same
    exact .inl ⟨rfl, same⟩

theorem sentences_optional (part : Phrase α) :
    part.optional.sentences = 1 + part.sentences := by
  apply Language.ext
  intro word
  rw [Language.mem_add, Language.mem_one]
  constructor
  · intro sentence
    obtain ⟨tokens, value, ⟨rfl, -⟩ | ⟨inner, derived, -⟩, rfl⟩ := sentence
    · exact .inl rfl
    · exact .inr (kinds_mem_sentences derived)
  · intro choice
    rcases choice with rfl | ⟨tokens, inner, derived, rfl⟩
    · exact ⟨[], none, .inl ⟨rfl, rfl⟩, rfl⟩
    · exact ⟨tokens, some inner, .inr ⟨inner, derived, rfl⟩, rfl⟩

theorem sentences_many (item : Phrase α) : item.many.sentences = item.sentences∗ := by
  apply Language.ext
  intro word
  rw [Language.mem_kstar]
  constructor
  · intro sentence
    obtain ⟨tokens, values, derived, rfl⟩ := sentence
    induction derived with
    | done => exact ⟨[], rfl, by simp⟩
    | round derived _ induction =>
        obtain ⟨words, same, members⟩ := induction
        refine ⟨_ :: words, by rw [List.flatten_cons, ← same, kinds_append], ?_⟩
        simp only [List.mem_cons, forall_eq_or_imp]
        exact ⟨kinds_mem_sentences derived, members⟩
  · intro factored
    obtain ⟨words, rfl, members⟩ := factored
    induction words with
    | nil => exact ⟨[], [], .done, rfl⟩
    | cons word words induction =>
        obtain ⟨front, value, derived, rfl⟩ := members word (by simp)
        obtain ⟨back, values, derived', same⟩ :=
          induction fun other member => members other (by simp [member])
        refine ⟨front ++ back, value :: values, .round derived derived', ?_⟩
        rw [List.flatten_cons, ← same, kinds_append]

end Phrase

end Sierra
