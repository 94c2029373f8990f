import Sierra.Text.Escape

/-!
# Quoted characters

A character is quoted without control characters, whatever it is, so a quote is safe to print. And
it can be told from its quote: a single character stands for itself, a backslash with one character
behind it for one of seven characters, and a longer quote for the code point that it names.
-/

namespace Sierra.Text

set_option autoImplicit false

/-- The characters that a terminal may act upon: U+0000 to U+001F and U+007F to U+009F. -/
def Control (c : Char) : Prop :=
  c.toNat ≤ 0x1f ∨ (0x7f ≤ c.toNat ∧ c.toNat ≤ 0x9f)

instance (c : Char) : Decidable (Control c) := inferInstanceAs (Decidable (_ ∨ _))

def Safe (text : String) : Prop :=
  ∀ c ∈ text.toList, ¬Control c

instance (text : String) : Decidable (Safe text) :=
  List.decidableBAll (fun c => ¬Control c) text.toList

@[simp] theorem safe_append (front back : String) :
    Safe (front ++ back) ↔ Safe front ∧ Safe back := by
  simp only [Safe, String.toList_append, List.forall_mem_append]

section Digits

def digitValue (digit : Char) : Nat :=
  if digit.isDigit then digit.toNat - '0'.toNat else digit.toNat - 'a'.toNat + 10

def hexadecimal (digits : List Char) : Nat :=
  digits.foldl (fun value digit => 16 * value + digitValue digit) 0

theorem digit_value_digit : ∀ digit < 16, digitValue (Nat.digitChar digit) = digit := by
  decide

theorem digit_not_control : ∀ digit < 16, ¬Control (Nat.digitChar digit) := by
  decide

/-- A number is written as its last digit behind the digits of what is left. -/
@[elab_as_elim] theorem digits_induction {motive : Nat → List Char → Prop}
    (single : ∀ digit < 16, motive digit [Nat.digitChar digit])
    (behind : ∀ number digits, ∀ digit < 16, motive number digits →
      motive (16 * number + digit) (digits ++ [Nat.digitChar digit]))
    (number : Nat) : motive number (Nat.toDigits 16 number) := by
  induction number using Nat.strongRecOn with
  | _ number induction =>
  by_cases short : number < 16
  · rw [Nat.toDigits_of_lt_base short]
    exact single number short
  · have left := induction (number / 16) (Nat.div_lt_self (by omega) (by decide))
    have whole := behind _ _ (number % 16) (Nat.mod_lt _ (by decide)) left
    rwa [Nat.div_add_mod, ← Nat.toDigits_of_base_le (by decide) (Nat.le_of_not_lt short)] at whole

theorem hexadecimal_digits (number : Nat) : hexadecimal (Nat.toDigits 16 number) = number := by
  induction number using digits_induction with
  | single digit small => simpa [hexadecimal] using digit_value_digit digit small
  | behind number digits digit small induction =>
      rw [hexadecimal] at induction ⊢
      rw [List.foldl_append, induction, List.foldl_cons, List.foldl_nil,
        digit_value_digit digit small]

theorem digits_not_control (number : Nat) : ∀ c ∈ Nat.toDigits 16 number, ¬Control c := by
  induction number using digits_induction with
  | single digit small => simpa using digit_not_control digit small
  | behind number digits digit small induction =>
      rw [List.forall_mem_append]
      exact ⟨induction, by simpa using digit_not_control digit small⟩

end Digits

theorem unprintable_of_control {c : Char} (control : Control c) : isUnprintable c = true := by
  refine List.any_eq_true.mpr ?_
  rcases control with low | ⟨low, high⟩
  · exact ⟨(0x0, 0x1f), List.mem_cons_self, by simp [CodeRange.holds, low]⟩
  · refine ⟨(0x7f, 0xa0), List.mem_cons_of_mem _ List.mem_cons_self, ?_⟩
    simp only [CodeRange.holds, Bool.and_eq_true, decide_eq_true_eq]
    omega

theorem escape_code_point_eq (c : Char) : (escapeCodePoint c).toList =
    '\x5c' :: 'u' :: '\x7b' :: (Nat.toDigits 16 c.toNat ++ ['\x7d']) := by
  simp [escapeCodePoint]

/-- No quote has a control character, not even the quote of one. -/
theorem escape_safe (c : Char) : Safe (escape c) := by
  unfold escape
  split
  case h_8 =>
    split
    case isTrue =>
      unfold Safe
      rw [escape_code_point_eq]
      simp only [List.forall_mem_cons, List.forall_mem_append]
      exact ⟨by decide, by decide, by decide, digits_not_control _, by decide, by simp⟩
    case isFalse shown =>
      have visible : ¬isUnprintable c = true := fun unprintable => shown (by simp [unprintable])
      simpa [Safe] using fun control => visible (unprintable_of_control control)
  all_goals decide

/-- The code point of the character that a quote is for. -/
def quoted : List Char → Nat
  | [c] => c.toNat
  | ['\x5c', letter] =>
      match letter with
      | '0' => 0
      | 't' => 9
      | 'r' => 13
      | 'n' => 10
      | itself => itself.toNat
  | '\x5c' :: 'u' :: '\x7b' :: rest => hexadecimal rest.dropLast
  | _ => 0

theorem quoted_escape (c : Char) : quoted (escape c).toList = c.toNat := by
  unfold escape
  split
  case h_8 =>
    split
    case isTrue =>
      rw [escape_code_point_eq]
      have digits : quoted ('\x5c' :: 'u' :: '\x7b' :: (Nat.toDigits 16 c.toNat ++ ['\x7d'])) =
          hexadecimal (Nat.toDigits 16 c.toNat ++ ['\x7d']).dropLast := rfl
      rw [digits, List.dropLast_concat, hexadecimal_digits]
    case isFalse =>
      rw [String.toList_singleton]
      rfl
  all_goals rfl

theorem escape_injective : Function.Injective escape := by
  intro c d same
  apply Char.toNat_inj.mp
  rw [← quoted_escape c, same, quoted_escape d]

end Sierra.Text
