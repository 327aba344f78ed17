import Recipients.Alias.Printer
import Recipients.Proofs.Text

/-
  The comment of an alias line. Comment and tags that were taken from some text are written as
  words with single spaces between them, the tags as the last word, and the same comment and tags
  are taken from these words again (`annotate_writtenComment`).
-/

namespace Recipients
namespace Alias

/-- The alias has the comment and the tags of some text. -/
def Annotated (a : Alias) : Prop :=
  ∃ t, annotate { a with comment := none, tags := [] } t = a

/-- A word without tags. -/
def IsCommentWord (w : Text) : Prop :=
  w ≠ [] ∧ (∀ c ∈ w, Text.isBlank c = false) ∧ Text.afterPrefix? tagMark w = none

def IsTag (t : Text) : Prop := t ≠ [] ∧ ∀ c ∈ t, Text.isBlank c = false ∧ c ≠ ','

/-- The words of a comment as an alias holds them. -/
def commentOf (ws : List Text) : Option Text :=
  if ws.isEmpty then none else some (Text.join [' '] ws)

/-- The word that carries tags, if there are any. -/
def tagWords (tags : List Text) : List Text :=
  if tags.isEmpty then [] else [tagMark ++ Text.join [','] tags]

/-! ## Tags -/

theorem afterPrefix?_eq_some {s t u : Text} (h : Text.afterPrefix? s t = some u) : t = s ++ u := by
  induction s generalizing t with
  | nil => exact Option.some.inj h
  | cons a s ih =>
    cases t with
    | nil => cases h
    | cons c t =>
      rw [Text.afterPrefix?] at h
      split at h
      · rename_i hac
        rw [hac, ih h, List.cons_append]
      · cases h

theorem afterPrefix?_append (s t : Text) : Text.afterPrefix? s (s ++ t) = some t := by
  induction s with
  | nil => rfl
  | cons a s ih => rw [List.cons_append, Text.afterPrefix?, if_pos rfl, ih]

/-- What a word without blanks carries are tags. -/
theorem isTag_of_mem_readTags {u tag : Text} (hu : ∀ c ∈ u, Text.isBlank c = false)
    (h : tag ∈ readTags u) : IsTag tag := by
  obtain ⟨hmem, hne⟩ := List.mem_filter.1 h
  obtain ⟨p, hp, rfl⟩ := List.mem_map.1 hmem
  have hpiece := Text.mem_splitWhen hp
  have htrim : p.trim = p := Text.trim_of_forall fun c hc => hu c (hpiece c hc).1
  rw [htrim] at hne ⊢
  exact ⟨by simpa using hne, fun c hc => ⟨hu c (hpiece c hc).1, by simpa using (hpiece c hc).2⟩⟩

theorem readTags_join {tags : List Text} (h : ∀ t ∈ tags, IsTag t) :
    readTags (Text.join [','] tags) = tags := by
  cases tags with
  | nil => rfl
  | cons t ts =>
    have hsplit : Text.splitWhen (· == ',') (Text.join [','] (t :: ts)) = t :: ts :=
      Text.splitWhen_join (List.cons_ne_nil t ts)
        (fun p hp c hc => by simpa using ((h p hp).2 c hc).2) rfl
    have htrim : (t :: ts).map Text.trim = t :: ts :=
      (List.map_congr_left fun p hp => Text.trim_of_forall fun c hc => ((h p hp).2 c hc).1).trans
        (List.map_id (t :: ts))
    rw [readTags, hsplit, htrim, List.filter_eq_self]
    intro p hp
    simpa using (h p hp).1

/-! ## Words -/

theorem nonblank_tagWords {tags : List Text} (h : ∀ t ∈ tags, IsTag t) :
    ∀ w ∈ tagWords tags, w ≠ [] ∧ ∀ c ∈ w, Text.isBlank c = false := by
  intro w hw
  unfold tagWords at hw
  split at hw
  · cases hw
  · rw [List.mem_singleton] at hw
    subst hw
    refine ⟨by simp [tagMark], fun c hc => ?_⟩
    rcases List.mem_append.1 hc with hc | hc
    · have hmark : ∀ d ∈ tagMark, Text.isBlank d = false := Text.forall_mem_of_all (by decide)
      exact hmark c hc
    · rcases Text.mem_of_mem_join hc with hc | ⟨t, ht, hc⟩
      · rw [List.mem_singleton.1 hc]
        rfl
      · exact ((h t ht).2 c hc).1

variable {ws tags : List Text}

theorem nonblank_words (hws : ∀ w ∈ ws, IsCommentWord w) (htags : ∀ t ∈ tags, IsTag t) :
    ∀ w ∈ ws ++ tagWords tags, w ≠ [] ∧ ∀ c ∈ w, Text.isBlank c = false := by
  intro w hw
  rcases List.mem_append.1 hw with hw | hw
  · exact ⟨(hws w hw).1, (hws w hw).2.1⟩
  · exact nonblank_tagWords htags w hw

theorem filter_words (hws : ∀ w ∈ ws, IsCommentWord w) :
    (ws ++ tagWords tags).filter (fun w => (Text.afterPrefix? tagMark w).isNone) = ws := by
  have hplain : ws.filter (fun w => (Text.afterPrefix? tagMark w).isNone) = ws := by
    rw [List.filter_eq_self]
    intro w hw
    rw [(hws w hw).2.2]
    rfl
  have hcarry : (tagWords tags).filter (fun w => (Text.afterPrefix? tagMark w).isNone) = [] := by
    rw [List.filter_eq_nil_iff]
    intro w hw
    unfold tagWords at hw
    split at hw
    · cases hw
    · rw [List.mem_singleton.1 hw, afterPrefix?_append]
      exact Bool.false_ne_true
  rw [List.filter_append, hplain, hcarry, List.append_nil]

theorem filterMap_words (hws : ∀ w ∈ ws, IsCommentWord w) (htags : ∀ t ∈ tags, IsTag t) :
    ((ws ++ tagWords tags).filterMap (Text.afterPrefix? tagMark)).flatMap readTags = tags := by
  have hplain : ws.filterMap (Text.afterPrefix? tagMark) = [] := by
    rw [List.filterMap_eq_nil_iff]
    exact fun w hw => (hws w hw).2.2
  rw [List.filterMap_append, hplain, List.nil_append]
  unfold tagWords
  cases tags with
  | nil => rfl
  | cons t ts =>
    rw [if_neg (by simp), List.filterMap_cons, afterPrefix?_append, List.filterMap_nil,
      List.flatMap_singleton, readTags_join htags]

theorem join_isEmpty (hws : ∀ w ∈ ws, IsCommentWord w) :
    (Text.join [' '] ws).isEmpty = ws.isEmpty := by
  cases ws with
  | nil => rfl
  | cons w ws => simp [Text.join_cons, (hws w List.mem_cons_self).1]

/-- The words of a comment and of its tags are read as that comment and those tags. -/
theorem annotate_join {plain : Alias} (hplain : plain.tags = []) (hws : ∀ w ∈ ws, IsCommentWord w)
    (htags : ∀ t ∈ tags, IsTag t) :
    plain.annotate (Text.join [' '] (ws ++ tagWords tags)) =
      { plain with comment := commentOf ws, tags := tags } := by
  have hwords := Text.words_join (nonblank_words hws htags)
  simp only [annotate, hwords, filter_words hws, filterMap_words hws htags, join_isEmpty hws, hplain,
    List.nil_append, commentOf]

/-! ## Comments of aliases -/

/-- With a comment or a tag, the words are what is written after the number sign. -/
theorem writtenComment_eq {a : Alias} (hcomment : a.comment = commentOf ws)
    (hsome : ws ++ tagWords a.tags ≠ []) :
    a.writtenComment = [' ', '#', ' '] ++ Text.join [' '] (ws ++ tagWords a.tags) := by
  unfold writtenComment tagText
  rw [hcomment]
  cases ws with
  | nil =>
    cases htags : a.tags with
    | nil =>
      rw [htags] at hsome
      exact absurd rfl hsome
    | cons t ts => simp [commentOf, tagWords, Text.join_cons]
  | cons w ws =>
    cases htags : a.tags with
    | nil => simp [commentOf, tagWords]
    | cons t ts => simp [commentOf, tagWords, Text.join_cons]

/-- What comment and tags are made of. -/
theorem Annotated.words {a : Alias} (ha : a.Annotated) :
    (∃ ws, (∀ w ∈ ws, IsCommentWord w) ∧ a.comment = commentOf ws) ∧ ∀ t ∈ a.tags, IsTag t := by
  obtain ⟨t, ht⟩ := ha
  have hword {w : Text} (hw : w ∈ t.words) : w ≠ [] ∧ ∀ c ∈ w, Text.isBlank c = false :=
    ⟨(Text.mem_stretches hw).1, fun c hc => ((Text.mem_stretches hw).2 c hc).2⟩
  have hcomment := congrArg Alias.comment ht
  have htags := congrArg Alias.tags ht
  constructor
  · have hws : ∀ w ∈ t.words.filter (fun w => (Text.afterPrefix? tagMark w).isNone),
        IsCommentWord w := by
      intro w hw
      obtain ⟨hw, hnone⟩ := List.mem_filter.1 hw
      exact ⟨(hword hw).1, (hword hw).2, Option.isNone_iff_eq_none.1 hnone⟩
    refine ⟨_, hws, ?_⟩
    rw [← hcomment, annotate, commentOf, ← join_isEmpty hws]
  · intro tag htag
    rw [← htags, annotate, List.nil_append, List.mem_flatMap] at htag
    obtain ⟨u, hu, htag⟩ := htag
    obtain ⟨w, hw, hafter⟩ := List.mem_filterMap.1 hu
    refine isTag_of_mem_readTags (fun c hc => (hword hw).2 c ?_) htag
    rw [afterPrefix?_eq_some hafter]
    exact List.mem_append_right _ hc

/-- What is written after the addresses: nothing, or a text from which the comment and the tags are
    taken again. It is one line: its only blanks are spaces. -/
theorem annotate_writtenComment {a : Alias} (ha : a.Annotated) :
    (a.writtenComment = [] ∧ a.comment = none ∧ a.tags = []) ∨
    ∃ t, a.writtenComment = [' ', '#', ' '] ++ t ∧ (∀ c ∈ t, c = ' ' ∨ Text.isBlank c = false) ∧
      ∀ plain : Alias, plain.tags = [] →
        plain.annotate t = { plain with comment := a.comment, tags := a.tags } := by
  obtain ⟨⟨ws, hws, hcomment⟩, htags⟩ := ha.words
  by_cases hnone : ws ++ tagWords a.tags = []
  · obtain ⟨rfl, hwords⟩ := List.append_eq_nil_iff.1 hnone
    have hcommentNone : a.comment = none := hcomment
    have htagsNone : a.tags = [] := by
      unfold tagWords at hwords
      split at hwords
      · rename_i h
        exact List.isEmpty_iff.1 h
      · cases hwords
    refine .inl ⟨?_, hcommentNone, htagsNone⟩
    rw [writtenComment, hcommentNone, htagsNone]
    rfl
  · refine .inr ⟨_, writtenComment_eq hcomment hnone, ?_, fun plain hplain => ?_⟩
    · intro c hc
      rcases Text.mem_of_mem_join hc with hc | ⟨w, hw, hc⟩
      · exact .inl (List.mem_singleton.1 hc)
      · exact .inr ((nonblank_words hws htags w hw).2 c hc)
    · rw [annotate_join hplain hws htags, hcomment]

end Alias
end Recipients
