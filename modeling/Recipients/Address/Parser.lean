import Recipients.Address.Printer
import Recipients.Address.Token

/-
  Reading mailboxes, bare ones and those in angle brackets. Comments may stand anywhere; they are
  collected and name the entry in the end. A route before the mailbox is read and dropped.
-/

namespace Recipients
namespace Address

/-- A comment joins the ones read before it, a space between them. -/
def joinComment (before body : Text) : Text :=
  (if before.isEmpty then [] else before ++ [' ']) ++ body

/-- Part of a mailbox, the comments met on the way, and the input after it. -/
structure Part where
  text : Text
  comment : Text
  rest : Text

/-- Reads on to the end or to a special character outside `allowed`. -/
def readPart (allowed : Text) (text comment cs : Text) : Except ParseError Part :=
  match _h : skipGap cs with
  | [] => .ok ⟨text, comment, []⟩
  | c :: r =>
    if isSpecial c && !allowed.contains c then .ok ⟨text, comment, c :: r⟩
    else if c = '(' then
      match _hc : readComment 0 r with
      | .error e => .error e
      | .ok (body, rest) => readPart allowed text (joinComment comment body) rest
    else if c = '"' then
      match _hc : readQuoted r with
      | .error e => .error e
      | .ok (body, rest) => readPart allowed (text ++ quoted body) comment rest
    else if isSpecial c then readPart allowed (text ++ [c]) comment r
    else readPart allowed (text ++ (c :: r).takeWhile isOrdinary) comment (r.dropWhile isOrdinary)
termination_by cs.length
decreasing_by
  all_goals
    have hle := skipGap_length_le cs
    rw [_h, List.length_cons] at hle
  · have := readComment_length _hc
    omega
  · have := readQuoted_length _hc
    omega
  · omega
  · have := length_dropWhile_le isOrdinary r
    omega

theorem readPart_length_le {allowed text comment cs : Text} {p : Part}
    (h : readPart allowed text comment cs = .ok p) : p.rest.length ≤ cs.length := by
  fun_induction readPart allowed text comment cs with
  | case1 => simp [← Except.ok.inj h]
  | case2 text comment cs c r hs _ =>
    rw [← Except.ok.inj h, ← hs]
    exact skipGap_length_le cs
  | case3 | case5 => simp at h
  | case4 text comment cs r body rest hc hs _ ih =>
    have := ih h
    have := readComment_length hc
    have := skipGap_length_le cs
    rw [hs, List.length_cons] at this
    omega
  | case6 text comment cs r body rest hc hs _ _ ih =>
    have := ih h
    have := readQuoted_length hc
    have := skipGap_length_le cs
    rw [hs, List.length_cons] at this
    omega
  | case7 text comment cs c r hs _ _ _ _ ih =>
    have := ih h
    have := skipGap_length_le cs
    rw [hs, List.length_cons] at this
    omega
  | case8 text comment cs c r hs _ _ _ _ ih =>
    have := ih h
    have := length_dropWhile_le isOrdinary r
    have := skipGap_length_le cs
    rw [hs, List.length_cons] at this
    omega

def localAllowed : Text := ['.', '"', '(', '\\']

def domainAllowed : Text := ['.', '(', '[', ']', '\\']

def routeAllowed : Text := [',', '.', '\\', '[', ']', '(']

/-- Reads `local` or `local@domain`. -/
def readMailbox (comment cs : Text) : Except ParseError Part :=
  match readPart localAllowed [] comment cs with
  | .ok ⟨text, comment, '@' :: rest⟩ => readPart domainAllowed (text ++ ['@']) comment rest
  | other => other

theorem readMailbox_length_le {comment cs : Text} {p : Part}
    (h : readMailbox comment cs = .ok p) : p.rest.length ≤ cs.length := by
  unfold readMailbox at h
  split at h
  · rename_i hp
    have := readPart_length_le hp
    have := readPart_length_le h
    simp only [List.length_cons] at *
    omega
  · exact readPart_length_le h

/-- An entry for a mailbox; a comment names it if it has no name yet. -/
def entryOf (name : Option Text) (mailbox comment : Text) : Address :=
  { personal := name.or (if comment.isEmpty then none else some comment), mailbox := some mailbox }

/-- Reads the names of a route, each after an at sign; yields the comments and the rest. -/
def readRoute (comment cs : Text) : Found :=
  match cs with
  | '@' :: r =>
    match _h : readPart routeAllowed [] comment r with
    | .error e => .error e
    | .ok p => readRoute p.comment p.rest
  | _ => .ok (comment, cs)
termination_by cs.length
decreasing_by
  have := readPart_length_le _h
  simp only [List.length_cons]
  omega

theorem readRoute_length_le {comment cs c rest : Text}
    (h : readRoute comment cs = .ok (c, rest)) : rest.length ≤ cs.length := by
  fun_induction readRoute comment cs with
  | case1 => simp at h
  | case2 comment r p hp ih =>
    have := ih h
    have := readPart_length_le hp
    simp only [List.length_cons]
    omega
  | case3 => simp_all

/-- The null mailbox `@` stands for nothing at all between the brackets. -/
def angleMailbox (m : Text) : Text := if m.isEmpty then ['@'] else m

/-- Passes over a route and its colon, where the input begins with an at sign. -/
def skipRoute (comment cs : Text) : Found :=
  match skipGap cs with
  | '@' :: r =>
    match readRoute comment ('@' :: r) with
    | .ok (c, ':' :: rest) => .ok (c, rest)
    | .ok _ => .error .badRoute
    | .error e => .error e
  | r => .ok (comment, r)

theorem skipRoute_length_le {comment cs c rest : Text}
    (h : skipRoute comment cs = .ok (c, rest)) : rest.length ≤ cs.length := by
  have hs := skipGap_length_le cs
  unfold skipRoute at h
  split at h
  · rename_i hskip
    rw [hskip] at hs
    split at h
    · rename_i hroute
      have := readRoute_length_le hroute
      rw [← (Prod.mk.inj (Except.ok.inj h)).2]
      simp only [List.length_cons] at *
      omega
    · simp at h
    · simp at h
  · rw [← (Prod.mk.inj (Except.ok.inj h)).2]
    exact hs

/-- Reads the inside of angle brackets and the closing bracket. -/
def readAngle (name : Option Text) (comment cs : Text) : Except ParseError (Address × Text) :=
  match skipRoute comment cs with
  | .error e => .error e
  | .ok (c, r) =>
    match readMailbox c r with
    | .error e => .error e
    | .ok ⟨text, c, '>' :: rest⟩ =>
      .ok ({ entryOf name text c with mailbox := some (angleMailbox text) }, rest)
    | .ok _ => .error .badRouteAddr

theorem readAngle_length_le {name : Option Text} {comment cs rest : Text} {a : Address}
    (h : readAngle name comment cs = .ok (a, rest)) : rest.length ≤ cs.length := by
  unfold readAngle at h
  split at h
  · simp at h
  · rename_i hroute
    have := skipRoute_length_le hroute
    split at h
    · simp at h
    · rename_i hm
      have := readMailbox_length_le hm
      rw [← (Prod.mk.inj (Except.ok.inj h)).2]
      simp only [List.length_cons] at *
      omega
    · simp at h

/-- Reads a bare entry out of the words collected for it: a mailbox, up to a separator at most. -/
def readBare (phrase comment : Text) : Except ParseError Address :=
  match readMailbox comment phrase with
  | .ok ⟨text, c, rest⟩ =>
    match rest with
    | [] | ',' :: _ | ';' :: _ => .ok (entryOf none text c)
    | _ => .error .badAddrSpec
  | .error e => .error e

/-- Words that cannot be read as a bare entry are none; what is wrong with them is not told. -/
def bareEntry? (phrase comment : Text) : Option Address := (readBare phrase comment).toOption

end Address
end Recipients
