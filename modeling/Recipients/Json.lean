import Recipients.Text

/-
  JSON values, as far as settings need them. Members of an object stay in order and may repeat. A
  text may hold halves of surrogate pairs that stand alone; numbers other than natural ones are
  only known to be numbers.
-/

namespace Recipients

inductive Json where
  | null
  | bool (b : Bool)
  | number (natural : Option Nat)
  /-- Characters, and `none` for half a surrogate pair. -/
  | string (units : List (Option Char))
  | array (items : List Json)
  | object (members : List (List (Option Char) × Json))
  deriving Inhabited, Repr

namespace Json

/-- The text of a string that holds nothing but characters. -/
def text? (units : List (Option Char)) : Option Text := units.mapM id

def ofText (t : Text) : Json := .string (t.map some)

theorem text?_map_some (t : Text) : text? (t.map some) = some t := by
  induction t with
  | nil => rfl
  | cons c t ih =>
    simp only [text?, List.map_cons, List.mapM_cons, id_eq, Option.pure_def] at ih ⊢
    rw [ih]
    rfl

end Json
end Recipients
