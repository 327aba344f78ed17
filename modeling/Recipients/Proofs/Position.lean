import Recipients.Text

/-
  Positions in a text, counted in the bytes of its UTF-8 form. From a position that is past the end or
  inside a character nothing can be read; the others are those that the standard library calls valid
  (`isValid_iff`). A cursor keeps a position, and where it is says what is left of the text
  (`Cursor.At`).
-/

namespace Recipients
namespace Text

def bytes (t : Text) : Nat := (String.ofList t).utf8ByteSize

@[simp] theorem bytes_nil : bytes [] = 0 := rfl

@[simp] theorem bytes_cons (c : Char) (t : Text) : bytes (c :: t) = c.utf8Size + bytes t := by
  rw [bytes, String.ofList_cons, String.utf8ByteSize_append, String.utf8ByteSize_singleton]
  rfl

@[simp] theorem bytes_append (s t : Text) : bytes (s ++ t) = bytes s + bytes t := by
  rw [bytes, String.ofList_append, String.utf8ByteSize_append]
  rfl

/-- What is left from a position on; `none` past the end and inside a character. -/
def from? : (pos : Nat) → Text → Option Text
  | 0, t => some t
  | _ + 1, [] => none
  | pos + 1, c :: t => if c.utf8Size ≤ pos + 1 then from? (pos + 1 - c.utf8Size) t else none

variable {pos : Nat} {t rest : Text}

theorem from?_append (read rest : Text) : from? (bytes read) (read ++ rest) = some rest := by
  induction read with
  | nil => rw [bytes_nil, List.nil_append, from?]
  | cons c read ih =>
    obtain ⟨n, hn⟩ := Nat.exists_eq_succ_of_ne_zero (Nat.ne_of_gt c.utf8Size_pos)
    have hpos : bytes (c :: read) = n + bytes read + 1 := by
      rw [bytes_cons, hn]
      omega
    have hle : c.utf8Size ≤ n + bytes read + 1 := by omega
    have hrest : n + bytes read + 1 - c.utf8Size = bytes read := by omega
    rw [hpos, List.cons_append, from?, if_pos hle, hrest, ih]

theorem from?_eq_some_iff : from? pos t = some rest ↔ ∃ read, t = read ++ rest ∧ bytes read = pos := by
  constructor
  · intro h
    fun_induction from? pos t with
    | case1 t => exact ⟨[], (Option.some.inj h), rfl⟩
    | case2 => cases h
    | case3 pos c t hle ih =>
      obtain ⟨read, rfl, hread⟩ := ih h
      refine ⟨c :: read, rfl, ?_⟩
      rw [bytes_cons, hread]
      omega
    | case4 => cases h
  · rintro ⟨read, rfl, rfl⟩
    exact from?_append read rest

/-- The positions from which something, or the empty text at the end, can be read. -/
theorem isValid_iff : String.Pos.Raw.IsValid (String.ofList t) ⟨pos⟩ ↔ ∃ rest, from? pos t = some rest := by
  simp only [String.Pos.Raw.isValid_iff_exists_append, from?_eq_some_iff]
  constructor
  · rintro ⟨s, u, hsplit, hpos⟩
    refine ⟨u.toList, s.toList, ?_, ?_⟩
    · rw [← String.toList_append, ← hsplit, String.toList_ofList]
    · rw [bytes, String.ofList_toList]
      exact (congrArg String.Pos.Raw.byteIdx hpos).symm
  · rintro ⟨rest, read, rfl, rfl⟩
    exact ⟨String.ofList read, String.ofList rest, String.ofList_append, rfl⟩

end Text

/-- A text and the position in it up to which it has been read. -/
structure Cursor where
  text : Text
  pos : Nat

namespace Cursor

/-- What is left of the text. -/
def left? (z : Cursor) : Option Text := Text.from? z.pos z.text

def advance (z : Cursor) (count : Nat) : Cursor := { z with pos := z.pos + count }

/-- The cursor is in the text `t`, and `rest` is left of it. -/
structure At (z : Cursor) (t rest : Text) : Prop where
  text : z.text = t
  left : z.left? = some rest

namespace At

variable {z z' : Cursor} {t rest read : Text}

theorem start (t : Text) : At ⟨t, 0⟩ t t := ⟨rfl, Text.from?_append [] t⟩

theorem finish (t : Text) : At ⟨t, Text.bytes t⟩ t [] :=
  ⟨rfl, Text.from?_eq_some_iff.2 ⟨t, (List.append_nil t).symm, rfl⟩⟩

theorem suffix (h : z.At t rest) : rest <:+ t := by
  obtain ⟨rfl, hleft⟩ := h
  obtain ⟨before, hbefore, -⟩ := Text.from?_eq_some_iff.1 hleft
  exact ⟨before, hbefore.symm⟩

theorem isValid (h : z.At t rest) : String.Pos.Raw.IsValid (String.ofList t) ⟨z.pos⟩ := by
  obtain ⟨rfl, hleft⟩ := h
  exact Text.isValid_iff.2 ⟨rest, hleft⟩

theorem advance (h : z.At t (read ++ rest)) : (z.advance (Text.bytes read)).At t rest := by
  obtain ⟨before, hbefore, hpos⟩ := Text.from?_eq_some_iff.1 h.left
  refine ⟨h.text, Text.from?_eq_some_iff.2 ⟨before ++ read, ?_, ?_⟩⟩
  · rw [List.append_assoc]
    exact hbefore
  · rw [Text.bytes_append, hpos]
    rfl

theorem pos_eq (h : z.At t (read ++ rest)) (h' : z'.At t rest) : z'.pos = z.pos + Text.bytes read := by
  obtain ⟨rfl, hleft⟩ := h
  obtain ⟨htext, hleft'⟩ := h'
  obtain ⟨before, hbefore, hpos⟩ := Text.from?_eq_some_iff.1 hleft
  obtain ⟨before', hbefore', hpos'⟩ := Text.from?_eq_some_iff.1 hleft'
  rw [htext, hbefore, ← List.append_assoc] at hbefore'
  rw [← hpos, ← hpos', ← List.append_cancel_right hbefore', Text.bytes_append]

end At
end Cursor
end Recipients
