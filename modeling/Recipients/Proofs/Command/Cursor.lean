import Recipients.Proofs.Command.Plain
import Recipients.Proofs.Position

/-
  The position in a line up to which it has been read. Nothing can be read at a position that is past
  the end or inside a character. From the start of a line on, whatever is done at a cursor, this does
  not happen, and the cursor is where the rests of the line say that it is (`exists_reach`). Where the
  command at hand has another argument, a token takes a character at least (`exists_token`).
-/

namespace Recipients
namespace Command

theorem next_suffix (kind : TokenKind) (rest : Text) : (next kind rest).2 <:+ rest :=
  (List.dropWhile_suffix _).trans (readToken_suffix kind none false rest)

/-- What a token takes where there is another argument. -/
theorem exists_next (kind : TokenKind) {rest : Text} (h : hasArgument rest = true) :
    ∃ c read, rest = c :: read ++ (next kind rest).2 := by
  obtain ⟨taken, htaken⟩ := next_suffix kind rest
  cases taken with
  | nil =>
    have hlt := next_length_lt kind h
    rw [List.nil_append] at htaken
    rw [htaken] at hlt
    exact absurd hlt (Nat.lt_irrefl _)
  | cons c read => exact ⟨c, read, htaken.symm⟩

/-- How many bytes there are up to the character that ends a token. -/
def tokenBytes (kind : TokenKind) (quote : Option Char) (held : Bool) : Text → Nat
  | [] => 0
  | c :: r =>
    if held then c.utf8Size + tokenBytes kind quote false r
    else if quote.isNone && kind.endsAt c then 0
    else if quote = some c then c.utf8Size + tokenBytes kind none false r
    else if quote.isNone && (c == '\'' || c == '"') then
      c.utf8Size + tokenBytes kind (some c) false r
    else if c = '\\' ∧ quote ≠ some '\'' then c.utf8Size + tokenBytes kind quote true r
    else c.utf8Size + tokenBytes kind quote false r

theorem bytes_readToken (kind : TokenKind) (quote : Option Char) (held : Bool) (cs : Text) :
    Text.bytes cs = tokenBytes kind quote held cs + Text.bytes (readToken kind quote held cs).2 := by
  fun_induction readToken kind quote held cs with
  | case1 => rfl
  | case2 quote c r ih =>
    rw [tokenBytes, if_pos rfl, Text.bytes_cons, ih, onto, Nat.add_assoc]
  | case3 quote held c r hheld hend =>
    rw [tokenBytes, if_neg hheld, if_pos hend, Nat.zero_add]
  | case4 held c r hheld hend ih =>
    rw [tokenBytes, if_neg hheld, if_neg hend, if_pos rfl, Text.bytes_cons, ih, onto, Nat.add_assoc]
  | case5 quote held c r hheld hend hquote hopen ih =>
    rw [tokenBytes, if_neg hheld, if_neg hend, if_neg hquote, if_pos hopen, Text.bytes_cons, ih, onto,
      Nat.add_assoc]
  | case6 quote held c r hheld hend hquote hopen hescape ih =>
    rw [tokenBytes, if_neg hheld, if_neg hend, if_neg hquote, if_neg hopen, if_pos hescape,
      Text.bytes_cons, ih, Nat.add_assoc]
  | case7 quote held c r hheld hend hquote hopen hescape ih =>
    rw [tokenBytes, if_neg hheld, if_neg hend, if_neg hquote, if_neg hopen, if_neg hescape,
      Text.bytes_cons, ih, onto, Nat.add_assoc]

/-- What can be done at a cursor. -/
inductive Move where
  | token (kind : TokenKind)
  | semicolon
  | comment

/-- What is left of a line afterwards. -/
def Move.after (rest : Text) : Move → Text
  | .token kind => (next kind rest).2
  | .semicolon => (afterSemicolon? rest).getD rest
  | .comment => if (comment? rest).isSome then [] else rest

theorem readToken_head (kind : TokenKind) (quote : Option Char) (held : Bool) (cs : Text) :
    ∀ c ∈ (readToken kind quote held cs).2.head?, kind.endsAt c = true := by
  fun_induction readToken kind quote held cs with
  | case1 =>
    intro c hc
    cases hc
  | case2 | case4 | case5 | case6 | case7 =>
    rename_i ih
    exact ih
  | case3 quote held c r hheld hend =>
    intro c' hc'
    obtain rfl := Option.some.inj hc'
    exact (Bool.and_eq_true_iff.1 hend).2

theorem comment?_isSome (r : Text) : (comment? ('#' :: r)).isSome = true := by
  unfold comment?
  split <;> simp_all

/-- Behind addresses there is nothing but a comment. -/
theorem after_addresses (rest : Text) : Move.comment.after (next .addresses rest).2 = [] := by
  have hhead := readToken_head .addresses none false rest
  rw [next]
  generalize (readToken .addresses none false rest).2 = more at hhead ⊢
  cases more with
  | nil => rfl
  | cons c r =>
    obtain rfl : c = '#' := beq_iff_eq.1 (hhead c rfl)
    exact if_pos (comment?_isSome r)

end Command

namespace Cursor

open Command (Move TokenKind afterSemicolon? bytes_readToken comment? comment?_isSome exists_next
  hasArgument next readToken_suffix start tokenBytes)

def skipBlanks? (z : Cursor) : Option Cursor :=
  z.left?.map fun rest => z.advance (Text.bytes rest - Text.bytes (Text.trimStart rest))

/-- The cursor afterwards; `none` if the position does not allow to read. -/
def move? (z : Cursor) (m : Move) : Option Cursor :=
  z.left?.bind fun rest =>
    match m with
    | .token kind => (z.advance (tokenBytes kind none false rest)).skipBlanks?
    | .semicolon => if rest.head? = some ';' then (z.advance 1).skipBlanks? else some z
    | .comment =>
      if rest.head? = some '#' then (z.advance 1).left?.map fun _ => { z with pos := Text.bytes z.text }
      else some z

/-- The cursor after some moves from the start of a line. -/
def reach? (line : Text) (moves : List Move) : Option Cursor :=
  (skipBlanks? ⟨line, 0⟩).bind fun z => moves.foldlM move? z

variable {z : Cursor} {line rest : Text}

theorem exists_skipBlanks (h : z.At line rest) :
    ∃ z', z.skipBlanks? = some z' ∧ z'.At line (start rest) := by
  obtain ⟨blanks, hblanks⟩ : start rest <:+ rest := List.dropWhile_suffix _
  refine ⟨z.advance (Text.bytes blanks), ?_, At.advance (by rwa [hblanks])⟩
  have hbytes : Text.bytes rest - Text.bytes (Text.trimStart rest) = Text.bytes blanks := by
    rw [← start, ← hblanks, Text.bytes_append, hblanks]
    exact Nat.add_sub_cancel _ _
  rw [skipBlanks?, h.left, Option.map_some, hbytes]

/-- A move goes on to what it leaves of the line. -/
theorem exists_move (h : z.At line rest) (m : Move) :
    ∃ z', z.move? m = some z' ∧ z'.At line (m.after rest) := by
  unfold move?
  rw [h.left, Option.bind_some]
  cases m with
  | token kind =>
    obtain ⟨taken, htaken⟩ := readToken_suffix kind none false rest
    have hbytes : tokenBytes kind none false rest = Text.bytes taken := by
      have hsum := bytes_readToken kind none false rest
      rw [← htaken, Text.bytes_append, htaken] at hsum
      exact (Nat.add_right_cancel hsum).symm
    dsimp only
    rw [hbytes]
    exact exists_skipBlanks (At.advance (by rwa [htaken]))
  | semicolon =>
    dsimp only
    split
    · rename_i hhead
      obtain ⟨r, rfl⟩ := List.head?_eq_some_iff.1 hhead
      have hsign : z.At line ([';'] ++ r) := h
      exact exists_skipBlanks hsign.advance
    · rename_i hhead
      have hnone : afterSemicolon? rest = none := by
        unfold afterSemicolon?
        split
        · exact absurd rfl hhead
        · rfl
      exact ⟨z, rfl, by rw [Move.after, hnone]; exact h⟩
  | comment =>
    dsimp only
    split
    · rename_i hhead
      obtain ⟨r, rfl⟩ := List.head?_eq_some_iff.1 hhead
      refine ⟨{ z with pos := Text.bytes z.text }, ?_, ?_⟩
      · rw [show z.advance 1 = z.advance (Text.bytes ['#']) from rfl, (At.advance h).left]
        rfl
      · rw [Move.after, if_pos (comment?_isSome r), ← h.text]
        exact At.finish z.text
    · rename_i hhead
      have hnone : (comment? rest).isSome = false := by
        unfold comment?
        split <;> simp_all
      exact ⟨z, rfl, by rw [Move.after, hnone]; exact h⟩

theorem exists_moves (h : z.At line rest) (moves : List Move) :
    ∃ z', moves.foldlM move? z = some z' ∧ z'.At line (moves.foldl Move.after rest) := by
  induction moves generalizing z rest with
  | nil => exact ⟨z, rfl, h⟩
  | cons m moves ih =>
    obtain ⟨z', hmove, hat⟩ := exists_move h m
    obtain ⟨z'', hmoves, hat'⟩ := ih hat
    refine ⟨z'', ?_, hat'⟩
    rw [List.foldlM_cons, hmove]
    exact hmoves

/-- Whatever is done on a line, the cursor can be read at. -/
theorem exists_reach (line : Text) (moves : List Move) :
    ∃ z, reach? line moves = some z ∧ z.At line (moves.foldl Move.after (start line)) := by
  obtain ⟨z, hskip, hat⟩ := exists_skipBlanks (At.start line)
  obtain ⟨z', hmoves, hat'⟩ := exists_moves hat moves
  refine ⟨z', ?_, hat'⟩
  rw [reach?, hskip]
  exact hmoves

/-- Where there is another argument, a token takes a character at least. -/
theorem exists_token (h : z.At line rest) (hargument : hasArgument rest = true) (kind : TokenKind) :
    ∃ z' c read, z.move? (.token kind) = some z' ∧ z'.At line (next kind rest).2 ∧
      rest = c :: read ++ (next kind rest).2 ∧ z'.pos = z.pos + Text.bytes (c :: read) := by
  obtain ⟨z', hmove, hat⟩ := exists_move h (.token kind)
  obtain ⟨c, read, hrest⟩ := exists_next kind hargument
  exact ⟨z', c, read, hmove, hat, hrest, At.pos_eq (hrest ▸ h) hat⟩

end Cursor
end Recipients
