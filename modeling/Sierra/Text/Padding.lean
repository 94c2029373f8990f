/-!
# Columns of text

Texts are filled up with spaces to a least width, in front or behind. A text that is wide enough
stays as it is.
-/

namespace Sierra.Text

set_option autoImplicit false

def spaces (width : Nat) : String :=
  String.ofList (List.replicate width ' ')

def alignRight (width : Nat) (text : String) : String :=
  String.ofList (text.toList.leftpad width ' ')

def alignLeft (width : Nat) (text : String) : String :=
  String.ofList (text.toList.rightpad width ' ')

theorem length_spaces (width : Nat) : (spaces width).length = width := by
  simp [spaces]

theorem align_right_eq (width : Nat) (text : String) :
    alignRight width text = spaces (width - text.length) ++ text := by
  simp [alignRight, spaces, List.leftpad, String.length_toList]

theorem align_left_eq (width : Nat) (text : String) :
    alignLeft width text = text ++ spaces (width - text.length) := by
  simp [alignLeft, spaces, List.rightpad, String.length_toList]

end Sierra.Text
