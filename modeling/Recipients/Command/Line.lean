import Recipients.Command.Token

/-
  The commands of a line: a first word and the words after it, with semicolons between the
  commands. The addresses of an alias run to the end of the line, so nothing follows that command.
-/

namespace Recipients

/-- A word and what follows it. -/
structure Word where
  text : Text
  after : Text
  deriving DecidableEq, Repr

structure Command where
  first : Text
  words : List Word
  deriving DecidableEq, Repr

namespace Command

theorem next_length_lt (kind : TokenKind) {rest : Text} (h : hasArgument rest = true) :
    (next kind rest).2.length < rest.length := by
  cases rest with
  | nil => simp [hasArgument] at h
  | cons c r =>
    simp only [hasArgument, List.head?_cons, Option.any_some, Bool.and_eq_true, bne_iff_ne,
      ne_eq] at h
    cases hc : kind.endsAt c with
    | false =>
      have hread := readToken_length_lt kind (r := r) hc
      have hstart := start_length_le (readToken kind none false (c :: r)).2
      simp only [next, List.length_cons]
      omega
    | true =>
      have hblank : Text.isBlank c = true := by
        cases kind <;> simp_all [TokenKind.endsAt]
      have hstart := start_length_le r
      simp only [next, readToken, hc, Option.isNone_none, Bool.and_self, Bool.false_eq_true,
        ↓reduceIte, List.length_cons, start, Text.trimStart, List.dropWhile_cons, hblank]
      simp only [start, Text.trimStart] at hstart
      omega

/-- The words up to the end of the command, and what follows them. -/
def readWords (rest : Text) : List Word × Text :=
  if _h : hasArgument rest = true then
    let found := next .word rest
    let more := readWords found.2
    (⟨found.1, found.2⟩ :: more.1, more.2)
  else ([], rest)
termination_by rest.length
decreasing_by exact next_length_lt .word _h

theorem readWords_length_le (rest : Text) : (readWords rest).2.length ≤ rest.length := by
  fun_induction readWords rest with
  | case1 rest h found more ih =>
    have := next_length_lt .word h
    exact Nat.le_trans ih (Nat.le_of_lt this)
  | case2 => exact Nat.le_refl _

theorem afterSemicolon?_length_lt {rest more : Text} (h : afterSemicolon? rest = some more) :
    more.length < rest.length := by
  unfold afterSemicolon? at h
  split at h
  · rename_i r
    have := start_length_le r
    cases h
    simp only [List.length_cons]
    omega
  · cases h

theorem hasArgument_of_not_isOver {rest : Text} (h : isOver rest = false)
    (h' : afterSemicolon? rest = none) : hasArgument rest = true := by
  cases rest with
  | nil => simp [isOver] at h
  | cons c r =>
    by_cases hc : c = ';'
    · subst hc
      simp [afterSemicolon?] at h'
    · simp_all [isOver, hasArgument]

/-- The word that begins the definition of an alias. -/
def aliasWord : Text := "alias".toList

/-- The commands that a rest of a line holds. -/
def ofRest (rest : Text) : List Command :=
  if _hover : isOver rest = true then []
  else match _hsemi : afterSemicolon? rest with
    | some more => ofRest more
    | none =>
      let first := next .word rest
      let found := readWords first.2
      let command : Command := ⟨first.1, found.1⟩
      if first.1 = aliasWord then [command]
      else match _hend : afterSemicolon? found.2 with
        | some more => command :: ofRest more
        | none => [command]
termination_by rest.length
decreasing_by
  · exact afterSemicolon?_length_lt _hsemi
  · have hfirst := next_length_lt .word
      (hasArgument_of_not_isOver (Bool.eq_false_iff.2 _hover) _hsemi)
    have hwords : found.2.length ≤ first.2.length := readWords_length_le first.2
    have hend := afterSemicolon?_length_lt _hend
    exact Nat.lt_trans (Nat.lt_of_lt_of_le hend hwords) hfirst

/-- The commands of a line. -/
def ofLine (line : Text) : List Command := ofRest (start line)

end Command
end Recipients
