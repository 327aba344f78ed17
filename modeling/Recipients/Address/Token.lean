import Recipients.Address

/-
  The tokens of address text. A comment, a quoted string or a stretch of plain words is read in one
  go; the first two have to close. What is left of the input is never longer than the input
  (`readToken_length_le`), and shorter where no white space stands in front (`readToken_length_lt`).
-/

namespace Recipients

inductive ParseError where
  | mismatchedParen
  | mismatchedQuote
  | badRoute
  | badRouteAddr
  | badAddrSpec
  deriving DecidableEq, Repr

namespace ParseError

/-- What is wrong, without the words that introduce it. -/
def reason : ParseError → Text
  | mismatchedParen => "mismatched parentheses".toList
  | mismatchedQuote => "mismatched quotes".toList
  | badRoute => "bad route in <>".toList
  | badRouteAddr => "bad address in <>".toList
  | badAddrSpec => "bad addr-spec".toList

def message (e : ParseError) : Text := "Parse error: ".toList ++ e.reason

end ParseError

namespace Address

/-- A character of plain words: neither white space nor special. -/
def isOrdinary (c : Char) : Bool := !isGap c && !isSpecial c

/-- What a reader finds, and its input from there on. -/
abbrev Found := Except ParseError (Text × Text)

def Found.cons (c : Char) : Found → Found
  | .ok (t, rest) => .ok (c :: t, rest)
  | .error e => .error e

theorem Found.cons_eq_ok {c : Char} {f : Found} {t rest : Text} :
    f.cons c = .ok (t, rest) ↔ ∃ u, f = .ok (u, rest) ∧ t = c :: u := by
  cases f with
  | error e => simp [Found.cons]
  | ok p =>
    obtain ⟨u, r⟩ := p
    simp only [Found.cons, Except.ok.injEq, Prod.mk.injEq]
    constructor
    · rintro ⟨rfl, rfl⟩
      exact ⟨u, ⟨rfl, rfl⟩, rfl⟩
    · rintro ⟨_, ⟨rfl, rfl⟩, rfl⟩
      exact ⟨rfl, rfl⟩

/-- The rest of a comment inside `depth` further comments. -/
def readComment : (depth : Nat) → Text → Found
  | d, '\\' :: c :: r => (readComment d r).cons c
  | d, '(' :: r => (readComment (d + 1) r).cons '('
  | 0, ')' :: r => .ok ([], r)
  | d + 1, ')' :: r => (readComment d r).cons ')'
  | _, ['\\'] => .error .mismatchedParen
  | d, c :: r => (readComment d r).cons c
  | _, [] => .error .mismatchedParen

/-- The rest of a quoted string. -/
def readQuoted : Text → Found
  | '\\' :: c :: r => (readQuoted r).cons c
  | '"' :: r => .ok ([], r)
  | ['\\'] => .error .mismatchedQuote
  | c :: r => (readQuoted r).cons c
  | [] => .error .mismatchedQuote

/-- One token: the inside of a comment or of a quoted string, one special character, or a
    stretch of ordinary characters. -/
def readToken : Text → Found
  | [] => .ok ([], [])
  | c :: r =>
    if c = '(' then readComment 0 r
    else if c = '"' then readQuoted r
    else if isSpecial c then .ok ([c], r)
    else .ok ((c :: r).takeWhile isOrdinary, (c :: r).dropWhile isOrdinary)

theorem readComment_length {d : Nat} {cs t rest : Text} (h : readComment d cs = .ok (t, rest)) :
    rest.length < cs.length := by
  fun_induction readComment d cs generalizing t with
  | case1 | case2 | case4 | case6 =>
    rename_i ih
    obtain ⟨u, hu, _⟩ := Found.cons_eq_ok.1 h
    have := ih hu
    simp only [List.length_cons]
    omega
  | case3 r => simp_all
  | case5 => simp at h
  | case7 => simp at h

theorem readQuoted_length {cs t rest : Text} (h : readQuoted cs = .ok (t, rest)) :
    rest.length < cs.length := by
  fun_induction readQuoted cs generalizing t with
  | case1 | case4 =>
    rename_i ih
    obtain ⟨u, hu, _⟩ := Found.cons_eq_ok.1 h
    have := ih hu
    simp only [List.length_cons]
    omega
  | case2 r => simp_all
  | case3 => simp at h
  | case5 => simp at h

theorem length_dropWhile_le (p : Char → Bool) (cs : Text) :
    (cs.dropWhile p).length ≤ cs.length :=
  (List.dropWhile_suffix p).length_le

theorem readToken_length_le {cs t rest : Text} (h : readToken cs = .ok (t, rest)) :
    rest.length ≤ cs.length := by
  cases cs with
  | nil => simp_all [readToken]
  | cons c r =>
    simp only [readToken] at h
    split at h
    · exact Nat.le_of_lt (Nat.lt_succ_of_lt (readComment_length h))
    · split at h
      · exact Nat.le_of_lt (Nat.lt_succ_of_lt (readQuoted_length h))
      · split at h
        · simp_all
        · simp only [Except.ok.injEq, Prod.mk.injEq] at h
          exact h.2 ▸ length_dropWhile_le _ _

/-- A token that does not begin at white space takes something from its input. -/
theorem readToken_length_lt {c : Char} {r t rest : Text} (hc : isGap c = false)
    (h : readToken (c :: r) = .ok (t, rest)) : rest.length ≤ r.length := by
  simp only [readToken] at h
  split at h
  · exact Nat.le_of_lt (readComment_length h)
  · split at h
    · exact Nat.le_of_lt (readQuoted_length h)
    · split at h
      · simp_all
      · rename_i hs
        simp only [Except.ok.injEq, Prod.mk.injEq] at h
        have ho : isOrdinary c = true := by simp [isOrdinary, hc, hs]
        rw [← h.2, List.dropWhile_cons_of_pos ho]
        exact length_dropWhile_le _ _

def skipGap (cs : Text) : Text := cs.dropWhile isGap

theorem skipGap_length_le (cs : Text) : (skipGap cs).length ≤ cs.length :=
  length_dropWhile_le _ _

end Address
end Recipients
