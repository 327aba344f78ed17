import Recipients.AddressList

/-
  An alias: a short name for a list of entries, with a comment and tags.
-/

namespace Recipients

structure Alias where
  name : Text
  addresses : AddressList
  comment : Option Text := none
  tags : List Text := []
  deriving DecidableEq, Repr

namespace Alias

/-- Alias names are matched up to ASCII case. -/
def isNamed (a : Alias) (name : Text) : Bool := a.name.alike name

/-- The tags as one text. -/
def tagText (a : Alias) : Text := Text.join [','] a.tags

/-- The word that carries tags in a comment starts so. -/
def tagMark : Text := "tags:".toList

/-- The tags in a text with commas between them; blanks around a tag, and empty tags, fall away. -/
def readTags (t : Text) : List Text :=
  ((Text.splitWhen (· == ',') t).map Text.trim).filter fun tag => !tag.isEmpty

/-- Takes comment and tags from the text of a comment: words that carry tags add theirs, the other
    words are the comment. -/
def annotate (a : Alias) (t : Text) : Alias :=
  let words := Text.words t
  let comment := Text.join [' '] (words.filter fun w => (Text.afterPrefix? tagMark w).isNone)
  { a with
    tags := a.tags ++ (words.filterMap (Text.afterPrefix? tagMark)).flatMap readTags
    comment := if comment.isEmpty then none else some comment }

end Alias
end Recipients
