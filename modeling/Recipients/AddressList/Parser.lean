import Recipients.Address.Parser
import Recipients.AddressList

/-
  Reading address text. Structure that does not close (comments, quotes, angle brackets) is an
  error; a bare entry that cannot be read is passed over. A step never leaves more than it found
  (`Draft.step_length_le`), so the reading ends.
-/

namespace Recipients
namespace AddressList

open Address (isGap skipGap skipGap_length_le readComment readComment_length readQuoted
  readQuoted_length readToken readToken_length_le readToken_length_lt joinComment readAngle
  readAngle_length_le bareEntry?)

/-- A comment on its own names the last entry, if that is a mailbox without a name. -/
def nameLast (comment : Text) : AddressList → AddressList
  | [] => []
  | [a] =>
    if a.personal.isNone && a.mailbox.any (fun m => !m.isEmpty) then
      [{ a with personal := some comment }]
    else [a]
  | a :: b :: r => a :: nameLast comment (b :: r)

/-- A list while it is read: its entries so far, the words and comments collected for the next
    one, and how many mailboxes were read. -/
structure Draft where
  entries : AddressList
  phrase : Text := []
  comment : Text := []
  count : Nat := 0

namespace Draft

/-- Turns what was collected into an entry, or into the name of the last one. -/
def close (d : Draft) : Draft :=
  if d.phrase.isEmpty then
    if d.comment.isEmpty then d else { d with entries := nameLast d.comment d.entries }
  else
    match bareEntry? d.phrase d.comment with
    | some a => { d with entries := d.entries ++ [a], count := d.count + 1 }
    | none => d

/-- Adds an entry and starts collecting afresh. -/
def push (d : Draft) (a : Address) (counted : Nat) : Draft :=
  { entries := d.entries ++ [a], count := d.count + counted }

/-- Starts collecting afresh. -/
def clear (d : Draft) : Draft := { entries := d.entries, count := d.count }

/-- The words so far, with a space after them if `spaced` and there are any. -/
def joined (d : Draft) (spaced : Bool) : Text :=
  if spaced && !d.phrase.isEmpty then d.phrase ++ [' '] else d.phrase

/-- Takes up the input `c :: r`; `gap` says that white space stood before it. -/
def step (d : Draft) (gap : Bool) (c : Char) (r : Text) : Except ParseError (Draft × Text) :=
  match c with
  | ',' => .ok (d.close.clear, r)
  | ';' => .ok (d.close.push Address.groupEnd 0, r)
  | ':' => .ok (d.push (Address.groupMarker d.phrase) 0, r)
  | '(' =>
    match readComment 0 r with
    | .error e => .error e
    | .ok (body, rest) => .ok ({ d with comment := joinComment d.comment body }, rest)
  | '"' =>
    match readQuoted r with
    | .error e => .error e
    | .ok (body, rest) =>
      let text := if rest.head? == some '@' then Address.quoted body else body
      .ok ({ d with phrase := d.joined true ++ text }, rest)
  | '<' =>
    match readAngle (if d.phrase.isEmpty then none else some d.phrase) d.comment r with
    | .error e => .error e
    | .ok (a, rest) => .ok (d.push a 1, rest)
  | '\\' =>
    match readToken r.tail with
    | .error e => .error e
    | .ok (t, rest) => .ok ({ d with phrase := d.joined gap ++ r.take 1 ++ t }, rest)
  | c =>
    match readToken (c :: r) with
    | .error e => .error e
    | .ok (t, rest) => .ok ({ d with phrase := d.joined gap ++ t }, rest)

theorem step_length_le {d d' : Draft} {gap : Bool} {c : Char} {r rest : Text}
    (hc : isGap c = false) (h : d.step gap c r = .ok (d', rest)) : rest.length ≤ r.length := by
  unfold step at h
  split at h
  · simp_all
  · simp_all
  · simp_all
  · split at h
    · simp at h
    · rename_i hr
      simp only [Except.ok.injEq, Prod.mk.injEq] at h
      exact h.2 ▸ Nat.le_of_lt (readComment_length hr)
  · split at h
    · simp at h
    · rename_i hr
      simp only [Except.ok.injEq, Prod.mk.injEq] at h
      exact h.2 ▸ Nat.le_of_lt (readQuoted_length hr)
  · split at h
    · simp at h
    · rename_i hr
      simp only [Except.ok.injEq, Prod.mk.injEq] at h
      exact h.2 ▸ readAngle_length_le hr
  · split at h
    · simp at h
    · rename_i hr
      simp only [Except.ok.injEq, Prod.mk.injEq] at h
      have := readToken_length_le hr
      rw [← h.2]
      simp only [List.length_tail] at this
      omega
  · split at h
    · simp at h
    · rename_i hr
      simp only [Except.ok.injEq, Prod.mk.injEq] at h
      exact h.2 ▸ readToken_length_lt hc hr

/-- Reads to the end of the input, or up to the first error. -/
def scan (d : Draft) (cs : Text) : Draft × Option ParseError :=
  match _h : skipGap cs with
  | [] => (d.close, none)
  | c :: r =>
    match _hs : d.step (cs.head?.any isGap) c r with
    | .error e => (d, some e)
    | .ok (d', rest) => scan d' rest
termination_by cs.length
decreasing_by
  have hle := skipGap_length_le cs
  rw [_h, List.length_cons] at hle
  have hc : isGap c = false := by
    have := List.head?_dropWhile_not isGap cs
    rw [← skipGap, _h] at this
    exact this
  have := step_length_le hc _hs
  omega

end Draft

/-- Reads address text onto a list. Yields the list afterwards and how many mailboxes were read;
    after an error the list has no more entries than before. -/
def parseOnto (l : AddressList) (cs : Text) : AddressList × Except ParseError Nat :=
  match Draft.scan { entries := l } cs with
  | (d, none) => (d.entries, .ok d.count)
  | (d, some e) => (d.entries.take l.length, .error e)

/-- Reads address text as a list of its own. -/
def parse (cs : Text) : Except ParseError AddressList :=
  match parseOnto [] cs with
  | (l, .ok _) => .ok l
  | (_, .error e) => .error e

/-- Characters that make free text more than a row of mailboxes. -/
def structural : Text := ['"', '<', '>', '(', ')', ':', ';', ',', '\\']

/-- Reads each of `words` onto a list. -/
def parseWordsOnto (l : AddressList) (n : Nat) : List Text → AddressList × Except ParseError Nat
  | [] => (l, .ok n)
  | w :: ws =>
    match parseOnto l w with
    | (l', .ok k) => parseWordsOnto l' (n + k) ws
    | (l', .error e) => (l', .error e)

/-- Reads what a person typed: without any structural character, mailboxes that spaces and tabs
    keep apart; otherwise address text. -/
def parseFreeOnto (l : AddressList) (cs : Text) : AddressList × Except ParseError Nat :=
  if cs.any fun c => structural.contains c then parseOnto l cs
  else
    let (l', result) := parseWordsOnto l 0 (Text.stretches (fun c => c == ' ' || c == '\t') cs)
    match result with
    | .ok n => (l', .ok n)
    | .error e => (l'.take l.length, .error e)

end AddressList
end Recipients
