import Sierra.Proofs.Reports
import Sierra.Proofs.Text.Legible
import Sierra.Proofs.Text.Lines

/-!
# The table loses nothing

An entry of a row ends at the first character that no entry of its column has: a colon, a space or a
quote. So the entries can be told however wide they are, and with them where the row ends. No row
begins as the ruler does, which ends the table. Its rows are lines, numbered from zero, one for each
token.
-/

namespace Sierra

set_option autoImplicit false

/-- The tokens agree in everything that the table shows of a token. -/
structure Token.Agree (first second : Token) : Prop where
  kind : first.kind = second.kind
  lexeme : first.lexeme = second.lexeme
  line : first.location.line = second.location.line
  column : first.location.column = second.location.column

section Entries

variable {stop : Char} {behind behind' : List Char}

theorem not_mem_number (other : ¬Digit stop) (number : Nat) : stop ∉ (toString number).toList :=
  fun member => other (digits_of_to_string number stop member)

theorem number_injective : Function.Injective (toString : Nat → String) := by
  intro number number' same
  rw [Nat.toString_eq_ofList_toDigits, Nat.toString_eq_ofList_toDigits, String.ofList_inj] at same
  rw [← @Nat.ofDigitChars_ten_toDigits number, same, Nat.ofDigitChars_ten_toDigits]

theorem number_told (other : ¬Digit stop) {number number' : Nat}
    (same : (toString number).toList ++ stop :: behind =
      (toString number').toList ++ stop :: behind') : number = number' ∧ behind = behind' := by
  obtain ⟨digits, left⟩ :=
    Text.stop_unique (not_mem_number other number) (not_mem_number other number') same
  exact ⟨number_injective (String.toList_injective digits), left⟩

namespace Token.Kind

theorem of_tag_tag (kind : Token.Kind) : ofTag? kind.tag = some kind := by
  have each : ∀ kind ∈ all, ofTag? kind.tag = some kind := by decide
  exact each kind kind.mem_all

theorem tag_injective : Function.Injective tag := by
  intro kind kind' same
  apply Option.some.inj
  rw [← of_tag_tag, same, of_tag_tag]

theorem plain_tag (kind : Token.Kind) : Plain kind.tag ∧ ' ' ∉ kind.tag.toList := by
  have each : ∀ kind ∈ all, Plain kind.tag ∧ ' ' ∉ kind.tag.toList := by decide
  exact each kind kind.mem_all

end Token.Kind

end Entries

/-- Nothing that is written of a token ends the quotes around it. -/
def Token.Quotable (token : Token) : Prop :=
  Plain token.lexeme ∧ '"' ∉ token.lexeme.toList

theorem quotable_of_tokenize {text : String} {file : Option String} {tokens : List Token}
    (reply : tokenize text file = .ok tokens) : ∀ token ∈ tokens, token.Quotable := by
  obtain ⟨front, finish, tiles, rfl⟩ := tiles_of_tokenize reply
  intro token member
  rcases List.mem_append.mp member with inside | last
  · have lexeme := is_lexeme_of_spells (tiles.spelled token inside)
    refine ⟨plain_of_lexeme lexeme, ?_⟩
    intro quote
    exact absurd (admitted_of_lexeme lexeme '"' quote) (by decide)
  · rw [List.mem_singleton.mp last]
    exact ⟨plain_empty, List.not_mem_nil⟩

namespace Report

section Rows

variable {index : Nat} {token token' : Token} {tokens tokens' : List Token}
  {behind behind' : List Char}

/-- A space behind spaces may as well stand in front of them. -/
theorem spaces_behind (width : Nat) (rest : List Char) :
    (Text.spaces width).toList ++ ' ' :: rest = ' ' :: ((Text.spaces width).toList ++ rest) := by
  induction width with
  | zero => rfl
  | succ width induction =>
      have more : (Text.spaces (width + 1)).toList = ' ' :: (Text.spaces width).toList := by
        simp [Text.spaces, List.replicate_succ]
      rw [more, List.cons_append, induction, List.cons_append]

/-- A row as its entries, each with the character in front of which it ends. -/
theorem row_eq (index : Nat) (token : Token) : (tokenRow index token).toList ++ behind =
    (Text.alignRight 4 (toString index) ++ ": ").toList ++
      ((toString token.location.line).toList ++ ':' ::
        ((toString token.location.column).toList ++ ' ' ::
          ((Text.spaces (8 - token.location.lineColumn.length)).toList ++
            (token.kind.tag.toList ++ ' ' ::
              ((Text.spaces (20 - token.kind.tag.length)).toList ++ ('|' :: ' ' :: '"' ::
                (token.lexeme.toList ++ '"' :: '\n' :: behind))))))) := by
  simp only [← spaces_behind]
  simp [tokenRow, Text.align_left_eq, Location.lineColumn]

theorem row_told (quotable : token.Quotable) (quotable' : token'.Quotable)
    (same : (tokenRow index token).toList ++ behind =
      (tokenRow index token').toList ++ behind') : token.Agree token' ∧ behind = behind' := by
  rw [row_eq, row_eq] at same
  obtain ⟨line, same⟩ := number_told (by decide) (List.append_cancel_left same)
  obtain ⟨column, same⟩ := number_told (by decide) same
  have place : token.location.lineColumn = token'.location.lineColumn := by
    rw [Location.lineColumn, Location.lineColumn, line, column]
  rw [place] at same
  obtain ⟨tag, same⟩ := Text.stop_unique token.kind.plain_tag.2 token'.kind.plain_tag.2
    (List.append_cancel_left same)
  have kind : token.kind = token'.kind :=
    Token.Kind.tag_injective (String.toList_injective tag)
  rw [kind] at same
  have quoted := List.append_cancel_left same
  simp only [List.cons.injEq, true_and] at quoted
  obtain ⟨lexeme, ended⟩ := Text.stop_unique quotable.2 quotable'.2 quoted
  exact ⟨⟨kind, String.toList_injective lexeme, line, column⟩, (List.cons.inj ended).2⟩

theorem row_congr (agree : token.Agree token') (index : Nat) :
    tokenRow index token = tokenRow index token' := by
  obtain ⟨kind, lexeme, line, column⟩ := agree
  simp only [tokenRow, Location.lineColumn, kind, lexeme, line, column]

def rowsFrom (index : Nat) (tokens : List Token) : List String :=
  tokens.mapIdx fun place => tokenRow (index + place)

theorem rows_from_cons (index : Nat) (token : Token) (tokens : List Token) :
    rowsFrom index (token :: tokens) = tokenRow index token :: rowsFrom (index + 1) tokens := by
  simp only [rowsFrom, List.mapIdx_cons, Nat.add_zero, List.cons.injEq, true_and]
  simp [Nat.add_assoc, Nat.add_comm 1]

theorem join_rows_cons (index : Nat) (token : Token) (tokens : List Token) :
    (String.join (rowsFrom index (token :: tokens))).toList ++ behind =
      (tokenRow index token).toList ++
        ((String.join (rowsFrom (index + 1) tokens)).toList ++ behind) := by
  rw [rows_from_cons, String.join_cons, String.toList_append, List.append_assoc]

theorem rows_congr (agree : List.Forall₂ Token.Agree tokens tokens') (index : Nat) :
    rowsFrom index tokens = rowsFrom index tokens' := by
  induction agree generalizing index with
  | nil => rfl
  | cons first _ induction =>
      rw [rows_from_cons, rows_from_cons, row_congr first, induction (index + 1)]

/-- A row begins with its number or with a space in front of it. -/
theorem row_not_ruled (index : Nat) (token : Token) :
    (tokenRow index token).toList ++ behind ≠ '=' :: behind' := by
  have without : '=' ∉ (Text.alignRight 4 (toString index) ++ ": ").toList := by
    have number : '=' ∉ (toString index).toList := not_mem_number (by decide) index
    have pad : '=' ∉ (Text.spaces (4 - (toString index).length)).toList := by simp [Text.spaces]
    rw [Text.align_right_eq]
    simp only [String.toList_append, List.mem_append, not_or]
    exact ⟨⟨pad, number⟩, by decide⟩
  rw [row_eq]
  cases front : (Text.alignRight 4 (toString index) ++ ": ").toList with
  | nil => simp at front
  | cons c rest =>
      intro same
      rw [front, (List.cons.inj same).1] at without
      exact without List.mem_cons_self

theorem rows_told (quotable : ∀ token ∈ tokens, token.Quotable)
    (quotable' : ∀ token ∈ tokens', token.Quotable) (index : Nat)
    (same : (String.join (rowsFrom index tokens)).toList ++ '=' :: behind =
      (String.join (rowsFrom index tokens')).toList ++ '=' :: behind') :
    List.Forall₂ Token.Agree tokens tokens' := by
  -- The rows of both tables go together, with the same number on both sides.
  induction tokens generalizing tokens' index with
  | nil =>
      cases tokens' with
      | nil => exact .nil
      | cons token' tokens' =>
          rw [join_rows_cons] at same
          exact absurd same.symm (row_not_ruled index token')
  | cons token tokens induction =>
      rw [join_rows_cons] at same
      cases tokens' with
      | nil => exact absurd same (row_not_ruled index token)
      | cons token' tokens' =>
          rw [join_rows_cons] at same
          rw [List.forall_mem_cons] at quotable quotable'
          obtain ⟨agree, left⟩ := row_told quotable.1 quotable'.1 same
          exact .cons agree (induction quotable.2 quotable'.2 (index + 1) left)

end Rows

section Table

def heading (file : String) : String :=
  "Tokens for '" ++ file ++ "':\n" ++ ruler ++ "\n"

def footing (count : Nat) : String :=
  ruler ++ "\nTotal tokens: " ++ toString count ++ "\n"

theorem table_eq (file : String) (tokens : List Token) : tokenTable file tokens =
    heading file ++ String.join (rowsFrom 0 tokens) ++ footing tokens.length := by
  have rows : rowsFrom 0 tokens = tokens.mapIdx tokenRow := by simp [rowsFrom]
  have group : ∀ front a b c d : String,
      front ++ a ++ b ++ c ++ d = front ++ (a ++ b ++ c ++ d) := by
    intro front a b c d
    simp only [String.append_assoc]
  unfold tokenTable heading footing
  rw [rows, group]

theorem footing_ruled (count : Nat) : ∃ rest, (footing count).toList = '=' :: rest := by
  have line : ruler.toList = '=' :: List.replicate 59 '=' := String.toList_ofList
  have ruled : ruler.toList.head? = some '=' := by rw [line, List.head?_cons]
  have begun : ∀ a b c : String, (ruler ++ a ++ b ++ c).toList.head? = some '=' :=
    fun a b c => head_append (head_append (head_append ruled a) b) c
  exact List.head?_eq_some_iff.mp (begun _ _ _)

theorem table_told {file : String} {tokens tokens' : List Token}
    (quotable : ∀ token ∈ tokens, token.Quotable) (quotable' : ∀ token ∈ tokens', token.Quotable) :
    tokenTable file tokens = tokenTable file tokens' ↔ List.Forall₂ Token.Agree tokens tokens' := by
  rw [table_eq, table_eq]
  constructor
  · intro same
    obtain ⟨rest, ruled⟩ := footing_ruled tokens.length
    obtain ⟨rest', ruled'⟩ := footing_ruled tokens'.length
    have lists := congrArg String.toList same
    simp only [String.toList_append, List.append_assoc, ruled, ruled'] at lists
    exact rows_told quotable quotable' 0 (List.append_cancel_left lists)
  · intro agree
    rw [rows_congr agree, agree.length_eq]

/-- A row shows its number and the token, on one line. -/
def IsRow (index : Nat) (token : Token) (row : String) : Prop :=
  ∃ left between right line, row = line ++ "\n" ∧ Plain line ∧
    line = Text.spaces left ++ toString index ++ ": " ++ toString token.location.line ++ ":" ++
      toString token.location.column ++ Text.spaces between ++ " " ++ token.kind.tag ++
      Text.spaces right ++ " | \"" ++ token.lexeme ++ "\""

/-- A table has a row for each token, the end of the text last, numbered from zero, and counts its
rows. -/
def IsTable (file : String) (tokens : List Token) (text : String) : Prop :=
  (∃ front finish, tokens = front ++ [Token.endOfInput finish]) ∧ ∃ rows : List String,
    rows.length = tokens.length ∧
    (∀ index token, tokens[index]? = some token → ∃ row, rows[index]? = some row ∧
      IsRow index token row) ∧
    text = heading file ++ String.join rows ++ footing rows.length

theorem row_is_row (index : Nat) {token : Token} (quotable : token.Quotable) :
    IsRow index token (tokenRow index token) := by
  refine ⟨4 - (toString index).length, 8 - token.location.lineColumn.length,
    20 - token.kind.tag.length, _, ?_, ?_, rfl⟩
  · simp [tokenRow, Text.align_right_eq, Text.align_left_eq, Location.lineColumn,
      String.append_assoc]
  · have colon : Plain ":" := plain_of_list rfl
    have colon' : Plain ": " := plain_of_list rfl
    have blank : Plain " " := plain_of_list rfl
    have bar : Plain " | \"" := plain_of_list rfl
    have quote : Plain "\"" := plain_of_list rfl
    have tag := token.kind.plain_tag.1
    simp only [plain_append, plain_spaces, plain_to_string, colon, colon', blank, bar, quote, tag,
      quotable.1, and_self]

theorem table_is_table {source file : String} {list : List Token}
    (reply : tokenize source (some file) = .ok list) :
    IsTable file list (tokenTable file list) := by
  have quotable := quotable_of_tokenize reply
  obtain ⟨front, finish, -, last⟩ := tiles_of_tokenize reply
  refine ⟨⟨front, finish, last⟩, rowsFrom 0 list, List.length_mapIdx, ?_, ?_⟩
  · intro index token place
    have member := List.mem_of_getElem? place
    refine ⟨tokenRow index token, ?_, row_is_row index (quotable token member)⟩
    simp [rowsFrom, place]
  · rw [table_eq, rowsFrom, List.length_mapIdx]

theorem tokens_shown_iff (coloured : Bool) {source file shown : String} :
    tokens.render coloured source file = .ok shown ↔
      ∃ list, tokenize source (some file) = .ok list ∧ tokenTable file list = shown := by
  rw [render_ok_iff]
  simp only [text]
  cases tokenize source (some file) <;> simp [bind, Except.bind, pure, Except.pure]

end Table

theorem token_tables_lose_nothing (file : String) (coloured coloured' : Bool)
    (source source' shown shown' : String)
    (accepted : tokens.render coloured source file = .ok shown)
    (accepted' : tokens.render coloured' source' file = .ok shown') :
    ∃ list list', tokenize source (some file) = .ok list ∧
      tokenize source' (some file) = .ok list' ∧
      (shown = shown' ↔ List.Forall₂ Token.Agree list list') ∧
      IsTable file list shown ∧ IsTable file list' shown' := by
  obtain ⟨list, reply, rfl⟩ := (tokens_shown_iff coloured).mp accepted
  obtain ⟨list', reply', rfl⟩ := (tokens_shown_iff coloured').mp accepted'
  exact ⟨list, list', reply, reply', table_told (quotable_of_tokenize reply)
    (quotable_of_tokenize reply'), table_is_table reply, table_is_table reply'⟩

/-- A tab is one column like a space, so the tables of the first two texts are the same. Two spaces
are a column more, and so the third table differs. -/
theorem tab_is_tabled_like_space : ∃ shown wider list others,
    tokens.render false "use a;" "b" = .ok shown ∧
    tokens.render false "use\ta;" "b" = .ok shown ∧
    tokens.render false "use  a;" "b" = .ok wider ∧
    tokenize "use a;" (some "b") = .ok list ∧ tokenize "use\ta;" (some "b") = .ok list ∧
    tokenize "use  a;" (some "b") = .ok others ∧
    IsTable "b" list shown ∧ IsTable "b" others wider ∧
    List.Forall₂ Token.Agree list list ∧ ¬List.Forall₂ Token.Agree list others ∧ shown ≠ wider ∧
    shown = heading "b" ++ String.join
      ["   0: 1:1      Keyword(Use)         | \"use\"\n",
        "   1: 1:5      Identifier           | \"a\"\n",
        "   2: 1:6      Semicolon            | \";\"\n",
        "   3: 1:7      Eof                  | \"\"\n"] ++ footing 4 := by
  let list (blanks : Nat) : List Token :=
    [⟨.keyword .use, "use", ⟨1, 1, 0, some "b"⟩⟩,
      ⟨.identifier, "a", ⟨1, 4 + blanks, 3 + blanks, some "b"⟩⟩,
      ⟨.punctuation .semicolon, ";", ⟨1, 5 + blanks, 4 + blanks, some "b"⟩⟩,
      .endOfInput ⟨1, 6 + blanks, 5 + blanks, some "b"⟩]
  have reply : tokenize "use a;" (some "b") = .ok (list 1) := by decide +kernel
  have reply' : tokenize "use\ta;" (some "b") = .ok (list 1) := by decide +kernel
  have wider : tokenize "use  a;" (some "b") = .ok (list 2) := by decide +kernel
  have shown := (tokens_shown_iff false).mpr ⟨_, reply, rfl⟩
  have shown' := (tokens_shown_iff false).mpr ⟨_, reply', rfl⟩
  have apart := (tokens_shown_iff false).mpr ⟨_, wider, rfl⟩
  obtain ⟨first, second, read, read', told, table, -⟩ :=
    token_tables_lose_nothing "b" false false _ _ _ _ shown shown'
  obtain ⟨first', others, reread, read'', told', -, table'⟩ :=
    token_tables_lose_nothing "b" false false _ _ _ _ shown apart
  obtain rfl := Except.ok.inj (reply.symm.trans read)
  obtain rfl := Except.ok.inj (reply'.symm.trans read')
  obtain rfl := Except.ok.inj (reply.symm.trans reread)
  obtain rfl := Except.ok.inj (wider.symm.trans read'')
  have unlike : ¬List.Forall₂ Token.Agree (list 1) (list 2) := by
    rintro (_ | ⟨-, _ | ⟨agree, -⟩⟩)
    exact absurd agree.column (by decide)
  exact ⟨_, _, _, _, shown, shown', apart, reply, reply', wider, table, table', told.mp rfl, unlike,
    fun same => unlike (told'.mp same), by decide +kernel⟩

end Report

end Sierra
