import Sierra.Proofs.Token.Spelling
import Sierra.Tree.Text

/-!
# Texts that can be told apart

A way of writing is legible if what was written, and where it ends, can be told from any text that
begins with it, as long as no word goes on behind it. Words are written legibly, and so are parts in
a row, parts that may be absent and lists of parts if the parts are.
-/

namespace Sierra

set_option autoImplicit false

variable {α β γ : Type}

/-- A text of letters, digits and underscores. Every name and every number is one. -/
def Unbroken (text : String) : Prop :=
  text ≠ "" ∧ ∀ c ∈ text.toList, Token.Kind.identifier.Continues c

/-- Where a valid value is written, its view and what is behind it are determined. -/
def Legible (valid : α → Prop) (view : α → β) (write : α → String) : Prop :=
  ∀ first second behind behind', valid first → valid second →
    Token.Kind.identifier.Stops behind → Token.Kind.identifier.Stops behind' →
    (write first).toList ++ behind = (write second).toList ++ behind' →
    view first = view second ∧ behind = behind'

/-- What is written of a valid value begins with such a character. -/
def Leads (valid : α → Prop) (lead : Char → Prop) (write : α → String) : Prop :=
  ∀ value, valid value → ∃ c, (write value).toList.head? = some c ∧ lead c

section Ends

theorem stops_nil : Token.Kind.identifier.Stops [] :=
  nofun

/-- Trees write one of these characters behind each of their parts. -/
theorem stops_of_closing {c : Char} (closing : c ∈ [',', ')', ']']) (rest : List Char) :
    Token.Kind.identifier.Stops (c :: rest) := by
  intro next head
  obtain rfl : c = next := Option.some.inj head
  simp only [List.mem_cons, List.not_mem_nil, or_false] at closing
  rcases closing with rfl | rfl | rfl
  all_goals
    unfold Token.Kind.Continues
    decide

/-- A word does not end inside an unbroken text. -/
theorem Unbroken.nil_of_stops {text : String} (unbroken : Unbroken text)
    {front between rest : List Char} (split : text.toList = front ++ between)
    (stops : Token.Kind.identifier.Stops (between ++ rest)) : between = [] := by
  cases between with
  | nil => rfl
  | cons c between => exact absurd (unbroken.2 c (by simp [split])) (stops c rfl)

theorem Unbroken.leads {lead : Char → Prop}
    (leading : ∀ c, Token.Kind.identifier.Continues c → lead c) : Leads Unbroken lead id := by
  rintro text ⟨some, characters⟩
  cases same : text.toList with
  | nil => exact absurd (String.toList_eq_nil_iff.mp same) some
  | cons c rest => exact ⟨c, by simp [same], leading c (characters c (by simp [same]))⟩

theorem head_append {front : String} {c : Char} (head : front.toList.head? = some c)
    (back : String) : (front ++ back).toList.head? = some c := by
  rw [String.toList_append, List.head?_append, head]
  rfl

/-- Texts that begin with different characters are not the same, whatever is behind them. -/
theorem head_unique {front front' : String} {c c' : Char} {behind behind' : List Char}
    (head : front.toList.head? = some c) (head' : front'.toList.head? = some c')
    (same : front.toList ++ behind = front'.toList ++ behind') : c = c' := by
  obtain ⟨rest, text⟩ := List.head?_eq_some_iff.mp head
  obtain ⟨rest', text'⟩ := List.head?_eq_some_iff.mp head'
  rw [text, text'] at same
  exact (List.cons.inj same).1

end Ends

namespace Legible

variable {valid : α → Prop} {view : α → β} {write : α → String}

theorem word : Legible Unbroken id id := by
  intro first second behind behind' unbroken unbroken' stops stops' same
  rcases List.append_eq_append_iff.mp same with ⟨between, longer, left⟩ | ⟨between, longer, left⟩
  · obtain rfl := unbroken'.nil_of_stops longer (left ▸ stops)
    exact ⟨(String.toList_inj.mp (by simpa using longer)).symm, by simpa using left⟩
  · obtain rfl := unbroken.nil_of_stops longer (left ▸ stops')
    exact ⟨String.toList_inj.mp (by simpa using longer), by simpa using left.symm⟩

theorem comap (legible : Legible valid view write) (part : γ → α) :
    Legible (fun value => valid (part value)) (fun value => view (part value))
      (fun value => write (part value)) :=
  fun first second => legible (part first) (part second)

/-- The same texts, said to be those of other views. -/
theorem imp {valid' : α → Prop} {view' : α → γ} {write' : α → String}
    (legible : Legible valid view write) (fits : ∀ value, valid' value → valid value)
    (seen : ∀ first second, view first = view second → view' first = view' second)
    (written : ∀ value, write' value = write value) : Legible valid' view' write' := by
  intro first second behind behind' fit fit' stops stops' same
  rw [written, written] at same
  obtain ⟨alike, ended⟩ :=
    legible first second behind behind' (fits _ fit) (fits _ fit') stops stops' same
  exact ⟨seen first second alike, ended⟩

theorem opened (legible : Legible valid view write) (opening : String) :
    Legible valid view fun value => opening ++ write value := by
  intro first second behind behind' fit fit' stops stops' same
  simp only [String.toList_append, List.append_assoc] at same
  exact legible first second behind behind' fit fit' stops stops' (List.append_cancel_left same)

theorem closed (legible : Legible valid view write) :
    Legible valid view fun value => write value ++ ")" := by
  intro first second behind behind' fit fit' _ _ same
  have inner : (write first).toList ++ ')' :: behind = (write second).toList ++ ')' :: behind' := by
    simpa using same
  obtain ⟨alike, ended⟩ := legible first second _ _ fit fit' (stops_of_closing (by simp) behind)
    (stops_of_closing (by simp) behind') inner
  exact ⟨alike, (List.cons.inj ended).2⟩

theorem beside {valid' : α → Prop} {view' : α → γ} {write' : α → String}
    (legible : Legible valid view write) (legible' : Legible valid' view' write') :
    Legible (fun value => valid value ∧ valid' value) (fun value => (view value, view' value))
      (fun value => write value ++ ", " ++ write' value) := by
  rintro first second behind behind' ⟨fit, right⟩ ⟨fit', right'⟩ stops stops' same
  have parts : (write first).toList ++ ',' :: ' ' :: ((write' first).toList ++ behind) =
      (write second).toList ++ ',' :: ' ' :: ((write' second).toList ++ behind') := by
    simpa using same
  obtain ⟨alike, rest⟩ := legible first second _ _ fit fit' (stops_of_closing (by simp) _)
    (stops_of_closing (by simp) _) parts
  obtain ⟨alike', ended⟩ := legible' first second behind behind' right right' stops stops'
    (by simpa using rest)
  exact ⟨Prod.ext alike alike', ended⟩

theorem not_absent (leads : Leads valid (· ≠ '_') write) {value : α} (fit : valid value)
    (behind behind' : List Char) : (write value).toList ++ behind ≠ '_' :: behind' := by
  obtain ⟨c, head, lead⟩ := leads value fit
  obtain ⟨rest, text⟩ := List.head?_eq_some_iff.mp head
  rw [text]
  exact fun same => lead (List.cons.inj same).1

/-- A part that is absent is an underscore, with which no part begins. -/
theorem optional (legible : Legible valid view write) (leads : Leads valid (· ≠ '_') write) :
    Legible (fun part => ∀ value, part = some value → valid value) (Option.map view)
      (fun part => orAbsent (part.map write)) := by
  intro first second behind behind' fit fit' stops stops' same
  cases first with
  | none =>
      cases second with
      | none => exact ⟨rfl, by simpa [orAbsent] using same⟩
      | some value =>
          have absent : (write value).toList ++ behind' = '_' :: behind := by
            simpa [orAbsent] using same.symm
          exact absurd absent (not_absent leads (fit' value rfl) _ _)
  | some value =>
      cases second with
      | none =>
          have absent : (write value).toList ++ behind = '_' :: behind' := by
            simpa [orAbsent] using same
          exact absurd absent (not_absent leads (fit value rfl) _ _)
      | some value' =>
          obtain ⟨alike, ended⟩ := legible value value' behind behind' (fit value rfl)
            (fit' value' rfl) stops stops' same
          exact ⟨congrArg some alike, ended⟩

end Legible

def listed (write : α → String) (others : List α) : List Char :=
  others.flatMap fun other => ',' :: ' ' :: (write other).toList

section Lists

variable {valid : α → Prop} {view : α → β} {write : α → String}

theorem listed_cons (other : α) (others : List α) : listed write (other :: others) =
    ',' :: ' ' :: ((write other).toList ++ listed write others) :=
  rfl

theorem bracketed_nil : (bracketed []).toList = ['[', ']'] := by
  simp [bracketed]

theorem bracketed_cons (first : α) (others : List α) :
    (bracketed ((first :: others).map write)).toList =
      '[' :: ((write first).toList ++ (listed write others ++ [']'])) := by
  have inner : (String.intercalate ", " ((first :: others).map write)).toList =
      (write first).toList ++ listed write others := by
    induction others generalizing first with
    | nil => simp [listed]
    | cons other others induction =>
        rw [List.map_cons, List.map_cons, String.intercalate_cons_cons, String.toList_append,
          String.toList_append, ← List.map_cons, induction, listed_cons]
        simp
  rw [bracketed, String.toList_append, String.toList_append, inner]
  simp

theorem stops_of_listed (others : List α) (rest : List Char) :
    Token.Kind.identifier.Stops (listed write others ++ ']' :: rest) := by
  cases others with
  | nil => exact stops_of_closing (by simp) rest
  | cons other others => exact stops_of_closing (by simp) _

namespace Legible

theorem listed (legible : Legible valid view write) {others others' : List α}
    {behind behind' : List Char} (fit : ∀ other ∈ others, valid other)
    (fit' : ∀ other ∈ others', valid other)
    (same : Sierra.listed write others ++ ']' :: behind =
      Sierra.listed write others' ++ ']' :: behind') :
    others.map view = others'.map view ∧ behind = behind' := by
  induction others generalizing others' with
  | nil =>
      cases others' with
      | nil => exact ⟨rfl, (List.cons.inj same).2⟩
      | cons other' others' => simp [Sierra.listed] at same
  | cons other others induction =>
      cases others' with
      | nil => simp [Sierra.listed] at same
      | cons other' others' =>
          rw [List.forall_mem_cons] at fit fit'
          have items : (write other).toList ++ (Sierra.listed write others ++ ']' :: behind) =
              (write other').toList ++ (Sierra.listed write others' ++ ']' :: behind') := by
            simpa [listed_cons] using same
          obtain ⟨alike, rest⟩ := legible other other' _ _ fit.1 fit'.1 (stops_of_listed others _)
            (stops_of_listed others' _) items
          obtain ⟨alike', ended⟩ := induction fit.2 fit'.2 rest
          exact ⟨List.cons_eq_cons.mpr ⟨alike, alike'⟩, ended⟩

theorem not_closed (leads : Leads valid (· ≠ ']') write) {first : α} (fit : valid first)
    (others : List α) (behind behind' : List Char) :
    (Sierra.bracketed ((first :: others).map write)).toList ++ behind ≠
      (Sierra.bracketed []).toList ++ behind' := by
  obtain ⟨c, head, lead⟩ := leads first fit
  obtain ⟨rest, text⟩ := List.head?_eq_some_iff.mp head
  rw [bracketed_cons, bracketed_nil, text]
  intro same
  exact lead (List.cons.inj (List.cons.inj same).2).1

theorem bracketed (legible : Legible valid view write) (leads : Leads valid (· ≠ ']') write) :
    Legible (fun values => ∀ value ∈ values, valid value) (List.map view)
      (fun values => Sierra.bracketed (values.map write)) := by
  intro first second behind behind' fit fit' stops stops' same
  cases first with
  | nil =>
      cases second with
      | nil => exact ⟨rfl, List.append_cancel_left same⟩
      | cons value others =>
          exact (not_closed leads (fit' value List.mem_cons_self) others _ _ same.symm).elim
  | cons value others =>
      cases second with
      | nil => exact (not_closed leads (fit value List.mem_cons_self) others _ _ same).elim
      | cons value' others' =>
          dsimp only at same
          rw [bracketed_cons, bracketed_cons] at same
          exact legible.listed fit fit' (by simpa [listed_cons] using same)

end Legible

end Lists

end Sierra
