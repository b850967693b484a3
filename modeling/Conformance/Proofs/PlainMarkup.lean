import Conformance.Output.Markup
import Mathlib.Algebra.GroupWithZero.Nat
import Mathlib.Data.List.Infix
import Mathlib.Data.List.TakeWhile

/-!
# Texts that markup leaves as they are

Markup shows a text as it is if the text is plain: it holds no tag, no backslash before a bracket,
and no character that never shows. Every other text loses characters.

That nothing else is unchanged needs an argument, since a text that loses one character might gain
another. Within one text it cannot (`bare_sublist`). But the key of a group is read together with
the tags around it, and a backslash at its end makes text of the tag that follows. So the argument
goes by weight. A blank weighs nothing, which makes it possible to weigh a table without knowing how
wide it is, and a backslash weighs more than the tag that it can bring back. By this measure
everything that markup does to a text makes it lighter.

Tags that a report sets itself are read one by one (`pieces_append_tag`): what stands before a tag
is read as if nothing followed, but for the backslashes at its end.
-/

set_option autoImplicit false

namespace Conformance.Markup

-- before any other instance: a text is looked through, and not all the characters there are
instance (priority := 2000) decidableForallMem (p : Char → Prop) [DecidablePred p]
    (cs : List Char) : Decidable (∀ c ∈ cs, p c) := List.decidableBAll p cs

/-! ## 1. Weights -/

/-- What a character weighs. -/
def weight (c : Char) : Nat := if c = ' ' then 0 else if c = '\\' then 8 else 1

/-- What characters weigh. -/
def weigh (cs : List Char) : Nat := (cs.map weight).sum

@[simp] theorem weigh_nil : weigh [] = 0 := rfl

@[simp] theorem weigh_cons (c : Char) (cs : List Char) :
    weigh (c :: cs) = weight c + weigh cs := rfl

@[simp] theorem weigh_append (first second : List Char) :
    weigh (first ++ second) = weigh first + weigh second := by
  unfold weigh
  rw [List.map_append, List.sum_append]

@[simp] theorem weigh_replicate (n : Nat) (c : Char) :
    weigh (List.replicate n c) = n * weight c := by
  induction n with
  | zero => simp
  | succ n ih =>
    rw [List.replicate_succ, weigh_cons, ih, Nat.succ_mul]
    omega

/-- What loses characters does not gain weight; and if it keeps its weight, it has lost none that
count. -/
theorem weigh_le_of_sublist {cs ds : List Char} (h : cs.Sublist ds) : weigh cs ≤ weigh ds := by
  induction h with
  | slnil => exact Nat.le_refl _
  | cons c _ ih =>
    rw [weigh_cons]
    omega
  | cons_cons c _ ih =>
    rw [weigh_cons, weigh_cons]
    omega

/-! ## 2. Plain texts -/

/-- A text that markup leaves as it is: no tag starts in it, no backslash stands before an opening
bracket, and every character shows. -/
structure IsPlain (cs : List Char) : Prop where
  noTag : ∀ s ∈ cs.tails, tag? s = none
  noEscape : ∀ s ∈ cs.tails, ¬ ['\\', '['] <+: s
  shows : ∀ c ∈ cs, isDropped c = false

-- by a pass over the text: there is an instance that goes through all characters there are
instance (cs : List Char) : Decidable (IsPlain cs) :=
  decidable_of_iff
    ((∀ s ∈ cs.tails, tag? s = none) ∧ (∀ s ∈ cs.tails, ¬ ['\\', '['] <+: s) ∧
      cs.all (isDropped · = false) = true)
    (by
      simp only [List.all_eq_true, decide_eq_true_eq]
      exact ⟨fun h => ⟨h.1, h.2.1, h.2.2⟩, fun h => ⟨h.noTag, h.noEscape, h.shows⟩⟩)

variable {cs body after rest plain : List Char} {c : Char}

/-- The inside of a tag. -/
def IsTagBody (body : List Char) : Prop :=
  ∃ c name, body = c :: name ∧ isTagStart c = true ∧ ∀ x ∈ name, isTagChar x = true

theorem IsTagBody.isTagChar (h : IsTagBody body) : ∀ x ∈ body, isTagChar x = true := by
  obtain ⟨c, name, rfl, hstart, hname⟩ := h
  intro x hx
  rcases List.mem_cons.mp hx with rfl | hx
  · -- no bracket starts a tag
    unfold Markup.isTagChar
    rw [Bool.and_eq_true, bne_iff_ne, bne_iff_ne]
    constructor <;> rintro rfl <;> exact absurd hstart (by decide)
  · exact hname x hx

/-- **Tags.** A tag at the front is a body in brackets. -/
theorem tag?_eq_some_iff :
    tag? cs = some (body, after) ↔ IsTagBody body ∧ cs = '[' :: body ++ ']' :: after := by
  constructor
  · intro h
    unfold tag? at h
    split at h
    · rename_i c rest
      split at h
      · rename_i hstart
        split at h
        · rename_i tail htail
          obtain ⟨rfl, rfl⟩ := Prod.mk.inj (Option.some.inj h)
          refine ⟨⟨c, _, rfl, hstart, fun x hx => List.mem_takeWhile_imp hx⟩, ?_⟩
          rw [List.cons_append, List.cons_append, ← htail, List.takeWhile_append_dropWhile]
        · exact absurd h (by simp)
      · exact absurd h (by simp)
    · exact absurd h (by simp)
  · rintro ⟨⟨c, name, rfl, hstart, hname⟩, rfl⟩
    -- the closing bracket is no tag character, so the body ends at the first one
    have hclose : isTagChar ']' = false := by decide
    simp [tag?, hstart, hclose, List.dropWhile_append_of_pos hname,
      List.takeWhile_append_of_pos hname]

/-- A tag stays one whatever follows. This lets a text be cut at its first tag. -/
theorem tag?_append (h : tag? cs = some (body, after)) (more : List Char) :
    tag? (cs ++ more) = some (body, after ++ more) := by
  obtain ⟨hbody, rfl⟩ := tag?_eq_some_iff.mp h
  exact tag?_eq_some_iff.mpr ⟨hbody, by simp⟩

/-- What is no tag does not become one by what comes before the next bracket. -/
theorem tag?_append_bracket (h : tag? cs = none) (hcs : cs ≠ []) (slashes : Nat)
    (more : List Char) : tag? (cs ++ (List.replicate slashes '\\' ++ '[' :: more)) = none := by
  by_contra hsome
  obtain ⟨⟨body, after⟩, htag⟩ := Option.ne_none_iff_exists'.mp hsome
  obtain ⟨hbody, heq⟩ := tag?_eq_some_iff.mp htag
  obtain ⟨first, inside, rfl⟩ := List.exists_cons_of_ne_nil hcs
  obtain rfl : first = '[' := (List.cons.inj heq).1
  have hinside : inside ++ (List.replicate slashes '\\' ++ '[' :: more) = body ++ ']' :: after :=
    (List.cons.inj heq).2
  have hslashes : ']' ∉ List.replicate slashes '\\' := fun h =>
    absurd (List.eq_of_mem_replicate h) (by decide)
  rcases List.append_eq_append_iff.mp hinside with ⟨back, rfl, hrest⟩ | ⟨back, rfl, hrest⟩
  · -- the tag would end after the text, so the opening bracket would be in it or right at its end
    rcases List.append_eq_append_iff.mp hrest with ⟨rest, rfl, hmore⟩ | ⟨rest, heq, hmore⟩
    · rcases List.cons_eq_append_iff.mp hmore with ⟨-, hmore⟩ | ⟨rest, rfl, -⟩
      · exact absurd (List.cons.inj hmore).1 (by decide)
      · exact absurd (hbody.isTagChar '[' (by simp)) (by decide)
    · rcases List.cons_eq_append_iff.mp hmore with ⟨-, hmore⟩ | ⟨rest, rfl, -⟩
      · exact absurd (List.cons.inj hmore).1 (by decide)
      · exact hslashes (heq ▸ by simp)
  · -- the tag would end in the text
    rcases List.cons_eq_append_iff.mp hrest with ⟨rfl, hmore⟩ | ⟨back, rfl, -⟩
    · rcases List.append_eq_cons_iff.mp hmore with ⟨-, hmore⟩ | ⟨rest, heq, -⟩
      · exact absurd (List.cons.inj hmore).1 (by decide)
      · exact hslashes (heq ▸ by simp)
    · have hearlier : tag? ('[' :: (body ++ ']' :: back)) = some (body, back) :=
        tag?_eq_some_iff.mpr ⟨hbody, rfl⟩
      rw [h] at hearlier
      exact absurd hearlier (by simp)

/-- Without a bracket there is nothing to read as markup. -/
theorem isPlain_of_forall (h : ∀ c ∈ cs, c ≠ '[' ∧ isDropped c = false) : IsPlain cs where
  noTag := by
    intro s hs
    by_contra hsome
    obtain ⟨⟨body, after⟩, htag⟩ := Option.ne_none_iff_exists'.mp hsome
    obtain ⟨-, rfl⟩ := tag?_eq_some_iff.mp htag
    exact (h '[' (((List.mem_tails _ _).mp hs).subset (by simp))).1 rfl
  noEscape := by
    intro s hs hescape
    exact (h '[' (((List.mem_tails _ _).mp hs).subset (hescape.subset (by simp)))).1 rfl
  shows := fun c hc => (h c hc).2

/-! ## 3. What pieces show -/

theorem unescape_sublist (cs : List Char) : (unescape cs).Sublist cs := by
  fun_induction unescape cs with
  | case1 rest ih => exact (ih.cons_cons '[').cons '\\'
  | case2 c rest _ ih => exact ih.cons_cons c
  | case3 => exact .slnil

/-- Nothing is dropped where no backslash stands before a bracket. -/
theorem unescape_eq_self (h : ∀ s ∈ cs.tails, ¬ ['\\', '['] <+: s) : unescape cs = cs := by
  fun_induction unescape cs with
  | case1 rest ih => exact absurd (List.prefix_append ['\\', '['] rest) (h _ (by simp))
  | case2 c rest _ ih =>
    rw [ih fun s hs => h s (by simp [hs])]
  | case3 => rfl

/-- Dropping a backslash makes a text lighter, so a text of the same weight had none to drop. -/
theorem noEscape_of_weigh (h : weigh (unescape cs) = weigh cs) :
    ∀ s ∈ cs.tails, ¬ ['\\', '['] <+: s := by
  fun_induction unescape cs with
  | case1 rest ih =>
    have hle := weigh_le_of_sublist (unescape_sublist rest)
    simp only [weigh_cons] at h
    exact absurd h (by simp [weight]; omega)
  | case2 c rest hne ih =>
    rw [weigh_cons, weigh_cons] at h
    rw [List.tails_cons, List.forall_mem_cons]
    refine ⟨fun hescape => ?_, ih (by omega)⟩
    obtain ⟨more, hmore⟩ := hescape
    obtain ⟨rfl, hrest⟩ := List.cons.inj hmore
    exact hne more rfl hrest.symm
  | case3 => simp

/-- Characters that never show have weight, so dropping one is noticed. -/
theorem weight_pos_of_isDropped (h : isDropped c = true) : 0 < weight c := by
  unfold weight
  split
  · rename_i hblank
    rw [hblank] at h
    exact absurd h (by decide)
  · split <;> omega

/-- Dropping a character makes a text lighter, so a text of the same weight shows all of them. -/
theorem shows_of_weigh (h : weigh (cs.filter (!isDropped ·)) = weigh cs) :
    ∀ c ∈ cs, isDropped c = false := by
  induction cs with
  | nil => simp
  | cons c rest ih =>
    have hle := weigh_le_of_sublist (List.filter_sublist (l := rest) (p := (!isDropped ·)))
    cases hc : isDropped c with
    | true =>
      rw [List.filter_cons_of_neg (by simp [hc]), weigh_cons] at h
      have hpos := weight_pos_of_isDropped hc
      omega
    | false =>
      rw [List.filter_cons_of_pos (by simp [hc]), weigh_cons, weigh_cons] at h
      rw [List.forall_mem_cons]
      exact ⟨hc, ih (by omega)⟩

theorem Piece.shown_sublist (piece : Piece) : piece.shown.Sublist piece.text :=
  List.filter_sublist.trans (unescape_sublist piece.text)

theorem shown_plain (h : IsPlain cs) : (Piece.plain cs).shown = cs := by
  unfold Piece.shown Piece.text
  rw [unescape_eq_self h.noEscape, List.filter_eq_self]
  intro c hc
  rw [h.shows c hc]
  rfl

/-! ## 4. Reading -/

/-- A text begins with its backslashes. -/
theorem eq_slashes_append (cs : List Char) :
    cs = List.replicate (cs.takeWhile (· == '\\')).length '\\' ++ cs.dropWhile (· == '\\') := by
  have hslashes : cs.takeWhile (· == '\\') =
      List.replicate (cs.takeWhile (· == '\\')).length '\\' :=
    List.eq_replicate_iff.mpr ⟨rfl, fun x hx => by simpa using List.mem_takeWhile_imp hx⟩
  rw [← hslashes, List.takeWhile_append_dropWhile]

/-- **One tag more.** At a tag the text before it ends, and the backslashes in front of the tag
belong to it. -/
theorem pieces_tag (h : tag? (cs.dropWhile (· == '\\')) = some (body, after)) :
    pieces plain cs = .plain plain ::
      tagPieces (cs.takeWhile (· == '\\')).length body ++ pieces [] after := by
  cases cs with
  | nil => exact absurd h (by simp [tag?])
  | cons c rest =>
    rw [pieces]
    split
    · rename_i body' after' hfound
      obtain ⟨rfl, rfl⟩ := Prod.mk.inj (Option.some.inj (hfound.symm.trans h))
      rfl
    · rename_i hnone
      rw [h] at hnone
      exact absurd hnone (by simp)

/-- **One character more.** Where no tag starts, the text goes on. -/
theorem pieces_char (h : tag? ((c :: rest).dropWhile (· == '\\')) = none) :
    pieces plain (c :: rest) = pieces (plain ++ [c]) rest := by
  rw [pieces]
  split
  · rename_i hfound
    rw [h] at hfound
    exact absurd hfound (by simp)
  · rfl

/-- A backslash at the front is not where a tag starts. -/
theorem tag?_eq_none_of_dropWhile (h : tag? (cs.dropWhile (· == '\\')) = none) :
    tag? cs = none := by
  cases cs with
  | nil => rfl
  | cons c rest =>
    by_cases hc : c = '\\'
    · rw [hc]
      simp [tag?]
    · rwa [List.dropWhile_cons_of_neg (by simpa using hc)] at h

/-- A text in which no tag starts anywhere is one piece. -/
theorem pieces_of_noTag (h : ∀ s ∈ cs.tails, tag? s = none) :
    pieces plain cs = [.plain (plain ++ cs)] := by
  induction cs generalizing plain with
  | nil => rw [pieces, List.append_nil]
  | cons c rest ih =>
    have hsuffix := List.dropWhile_suffix (· == '\\') (l := c :: rest)
    rw [pieces_char (h _ ((List.mem_tails _ _).mpr hsuffix)),
      ih fun s hs => h s (by simp [hs]), List.append_assoc, List.singleton_append]

/-- What stays in the text of a tag after backslashes. -/
theorem text_tagPieces (slashes : Nat) (body : List Char) :
    (tagPieces slashes body).flatMap Piece.text = List.replicate (slashes / 2) '\\' ++
      if slashes % 2 = 1 then '[' :: body ++ [']'] else [] := by
  unfold tagPieces
  rw [List.flatMap_append]
  congr 1
  · split
    · rename_i hzero
      rw [hzero]
      rfl
    · simp [Piece.text]
  · split <;> simp [Piece.text]

/-- The pieces of a tag hold no more text than the tag and its backslashes. -/
theorem text_tagPieces_sublist (slashes : Nat) (body : List Char) :
    ((tagPieces slashes body).flatMap Piece.text).Sublist
      (List.replicate slashes '\\' ++ ('[' :: body ++ [']'])) := by
  rw [text_tagPieces]
  refine List.Sublist.append ?_ ?_
  · exact List.replicate_sublist_replicate (a := '\\') |>.mpr (by omega)
  · split
    · exact List.Sublist.refl _
    · exact List.nil_sublist _

/-- A tag makes a text lighter, and so do the backslashes before it. -/
theorem weigh_tagPieces_lt (slashes : Nat) (body : List Char) :
    weigh ((tagPieces slashes body).flatMap Piece.text) <
      weigh (List.replicate slashes '\\' ++ ('[' :: body ++ [']'])) := by
  have hslash : weight '\\' = 8 := by decide
  have hbracket : weight '[' = 1 := by decide
  rw [text_tagPieces, weigh_append, weigh_append, weigh_replicate, weigh_replicate, hslash]
  split
  · omega
  · simp only [weigh_nil, weigh_cons, List.cons_append, hbracket]
    omega

/-- **Reading keeps the order of what stays.** Nothing is put in and nothing is moved, so what is
shown can only be less. -/
theorem text_pieces_sublist (plain cs : List Char) :
    ((pieces plain cs).flatMap Piece.text).Sublist (plain ++ cs) := by
  fun_induction pieces plain cs with
  | case1 plain => simp [Piece.text]
  | case2 plain c rest body after hfound ih =>
    obtain ⟨-, hdrop⟩ := tag?_eq_some_iff.mp hfound
    have htext := eq_slashes_append (c :: rest)
    rw [hdrop] at htext
    have htag := text_tagPieces_sublist ((c :: rest).takeWhile (· == '\\')).length body
    rw [htext, List.cons_append, List.flatMap_cons, List.flatMap_append]
    refine (List.Sublist.refl _).append ?_
    have happend := htag.append ih
    simpa [List.append_assoc] using happend
  | case3 plain c rest hfound ih => simpa [List.append_assoc] using ih

/-- **Only tags are taken out.** A text that reading does not make lighter has none. -/
theorem noTag_of_weigh
    (h : weigh ((pieces plain cs).flatMap Piece.text) = weigh (plain ++ cs)) :
    ∀ s ∈ cs.tails, tag? s = none := by
  fun_induction pieces plain cs with
  | case1 plain => simp [tag?]
  | case2 plain c rest body after hfound ih =>
    obtain ⟨-, hdrop⟩ := tag?_eq_some_iff.mp hfound
    have htext := congrArg weigh (eq_slashes_append (c :: rest))
    rw [hdrop] at htext
    -- the tag is lost, and nothing that follows makes up for its weight
    have htag := weigh_tagPieces_lt ((c :: rest).takeWhile (· == '\\')).length body
    have hafter := weigh_le_of_sublist (text_pieces_sublist [] after)
    simp only [List.cons_append, List.flatMap_cons, List.flatMap_append, weigh_append, weigh_cons,
      weigh_nil, Piece.text, List.nil_append] at h htext htag hafter
    omega
  | case3 plain c rest hfound ih =>
    rw [List.tails_cons, List.forall_mem_cons]
    exact ⟨tag?_eq_none_of_dropWhile hfound, ih (by simpa [List.append_assoc] using h)⟩

/-! ## 5. What a text shows -/

theorem flatMap_shown_sublist (pieces : List Piece) :
    (pieces.flatMap Piece.shown).Sublist (pieces.flatMap Piece.text) := by
  induction pieces with
  | nil => exact .slnil
  | cons piece rest ih => exact piece.shown_sublist.append ih

/-- **What shows is part of what is written**: cutting a text into pieces does not double anything.
-/
theorem shown_pieces_sublist (cs : List Char) : ((pieces [] cs).flatMap Piece.shown).Sublist cs :=
  (flatMap_shown_sublist _).trans (text_pieces_sublist [] cs)

/-- **Nothing is added.** What a text shows are characters of it, in order. -/
theorem bare_sublist (text : String) : (bare text).Sublist text.toList :=
  shown_pieces_sublist text.toList

/-- A plain piece that does not become lighter is shown as it is. -/
theorem isPlain_of_weigh_shown (hnoTag : ∀ s ∈ cs.tails, tag? s = none)
    (h : weigh (Piece.plain cs).shown = weigh cs) : IsPlain cs := by
  have hfilter := weigh_le_of_sublist
    (List.filter_sublist (l := unescape cs) (p := (!isDropped ·)))
  have hunescape := weigh_le_of_sublist (unescape_sublist cs)
  have hshown : weigh (Piece.plain cs).shown = weigh ((unescape cs).filter (!isDropped ·)) := rfl
  have hnoEscape : ∀ s ∈ cs.tails, ¬ ['\\', '['] <+: s := noEscape_of_weigh (by omega)
  rw [unescape_eq_self hnoEscape] at hshown hfilter
  exact ⟨hnoTag, hnoEscape, shows_of_weigh (by omega)⟩

/-- **Everything but a plain text gets lighter.** This is the direction in which being shown as it
is tells something about a text. -/
theorem isPlain_of_weigh (h : weigh ((pieces [] cs).flatMap Piece.shown) = weigh cs) :
    IsPlain cs := by
  have hshown := weigh_le_of_sublist (flatMap_shown_sublist (pieces [] cs))
  have htext := weigh_le_of_sublist (text_pieces_sublist [] cs)
  rw [List.nil_append] at htext
  have hnoTag : ∀ s ∈ cs.tails, tag? s = none :=
    noTag_of_weigh (by rw [List.nil_append]; omega)
  rw [pieces_of_noTag hnoTag, List.nil_append, List.flatMap_singleton] at h
  exact isPlain_of_weigh_shown hnoTag h

theorem shown_pieces_of_isPlain (h : IsPlain cs) : (pieces [] cs).flatMap Piece.shown = cs := by
  rw [pieces_of_noTag h.noTag, List.nil_append, List.flatMap_singleton, shown_plain h]

/-- **Plain texts** are the ones that are shown as they are. -/
theorem bare_eq_toList_iff {text : String} : bare text = text.toList ↔ IsPlain text.toList :=
  ⟨fun h => isPlain_of_weigh (congrArg weigh h), shown_pieces_of_isPlain⟩

/-- What is in brackets is lost if it could be the name of a style. -/
example : bare "list[int]" = "list".toList := by decide +kernel

/-! ## 6. Tags that a report sets -/

/-- Backslashes end where a bracket opens, so a tag and its backslashes can be told apart. -/
theorem dropWhile_slashes (slashes : Nat) (rest : List Char) :
    (List.replicate slashes '\\' ++ '[' :: rest).dropWhile (· == '\\') = '[' :: rest := by
  rw [List.dropWhile_append_of_pos (by simp)]
  simp

/-- The backslashes before a bracket are counted to the last. -/
theorem takeWhile_slashes (slashes : Nat) (rest : List Char) :
    (List.replicate slashes '\\' ++ '[' :: rest).takeWhile (· == '\\') =
      List.replicate slashes '\\' := by
  rw [List.takeWhile_append_of_pos (by simp)]
  simp

/-- A text that ends in no backslash is not all backslashes. -/
theorem dropWhile_ne_nil_of_getLast? (hcs : cs ≠ []) (hlast : cs.getLast? ≠ some '\\') :
    cs.dropWhile (· == '\\') ≠ [] := by
  intro hnil
  rw [List.dropWhile_eq_nil_iff] at hnil
  refine hlast ?_
  rw [List.getLast?_eq_some_getLast hcs]
  simpa using hnil _ (List.getLast_mem hcs)

/-- What follows a text is not read together with its first backslashes, unless it has nothing
else. -/
theorem slashes_append (h : cs.dropWhile (· == '\\') ≠ []) (more : List Char) :
    (cs ++ more).takeWhile (· == '\\') = cs.takeWhile (· == '\\') ∧
      (cs ++ more).dropWhile (· == '\\') = cs.dropWhile (· == '\\') ++ more := by
  induction cs with
  | nil => exact absurd rfl h
  | cons c rest ih =>
    rw [List.cons_append, List.takeWhile_cons, List.takeWhile_cons, List.dropWhile_cons,
      List.dropWhile_cons]
    split
    · rename_i hc
      rw [List.dropWhile_cons, if_pos hc] at h
      rw [(ih h).1, (ih h).2]
      exact ⟨rfl, rfl⟩
    · exact ⟨rfl, rfl⟩

/-- **A tag after a text.** What stands before a tag is read as if nothing followed, but for the
backslashes at its end, which belong to the tag. -/
theorem pieces_append_tag {before tail : List Char} (hbefore : before.getLast? ≠ some '\\')
    (slashes : Nat) (hbody : IsTagBody body) :
    pieces plain (before ++ (List.replicate slashes '\\' ++ ('[' :: body ++ ']' :: tail))) =
      pieces plain before ++ tagPieces slashes body ++ pieces [] tail := by
  have htag : tag? ('[' :: body ++ ']' :: tail) = some (body, tail) :=
    tag?_eq_some_iff.mpr ⟨hbody, rfl⟩
  fun_induction pieces plain before with
  | case1 plain =>
    rw [List.nil_append, List.cons_append, pieces_tag (by rwa [dropWhile_slashes]),
      takeWhile_slashes, List.length_replicate]
    rfl
  | case2 plain c rest body' after hfound ih =>
    have hsome : (c :: rest).dropWhile (· == '\\') ≠ [] := by
      intro hnil
      rw [hnil] at hfound
      exact absurd hfound (by simp [tag?])
    obtain ⟨hslashes, hrest⟩ := slashes_append hsome
      (List.replicate slashes '\\' ++ ('[' :: body ++ ']' :: tail))
    -- the first tag is still the first one
    have hfirst := tag?_append hfound
      (List.replicate slashes '\\' ++ ('[' :: body ++ ']' :: tail))
    rw [← hrest] at hfirst
    obtain ⟨-, hafter⟩ := tag?_eq_some_iff.mp hfound
    have hlast : after.getLast? ≠ some '\\' := by
      intro hlast
      refine hbefore ?_
      rw [← List.takeWhile_append_dropWhile (p := (· == '\\')) (l := c :: rest), hafter]
      cases after with
      | nil => exact absurd hlast (by simp)
      | cons x after => simpa [List.getLast?_append, List.getLast?_cons] using hlast
    rw [pieces_tag hfirst, hslashes, ih hlast]
    simp [List.append_assoc]
  | case3 plain c rest hnone ih =>
    have hsome := dropWhile_ne_nil_of_getLast? (List.cons_ne_nil c rest) hbefore
    obtain ⟨-, hrest⟩ := slashes_append hsome
      (List.replicate slashes '\\' ++ ('[' :: body ++ ']' :: tail))
    -- nor does the tag make one of what stands before it
    have hchar := tag?_append_bracket hnone hsome slashes (body ++ ']' :: tail)
    rw [← List.cons_append, ← hrest, List.cons_append] at hchar
    have hlast : rest.getLast? ≠ some '\\' := by
      intro hlast
      cases rest with
      | nil => exact absurd hlast (by simp)
      | cons next rest => exact hbefore (by rwa [List.getLast?_cons_cons])
    rw [List.cons_append, pieces_char hchar, ih hlast]

/-- Every text ends in some number of backslashes. At the end of a key they stand before the tag
that closes its style. -/
theorem exists_append_slashes (cs : List Char) :
    ∃ before slashes, cs = before ++ List.replicate slashes '\\' ∧
      before.getLast? ≠ some '\\' := by
  induction cs using List.reverseRecOn with
  | nil => exact ⟨[], 0, rfl, by simp⟩
  | append_singleton cs c ih =>
    by_cases hc : c = '\\'
    · obtain ⟨before, slashes, heq, hlast⟩ := ih
      refine ⟨before, slashes + 1, ?_, hlast⟩
      rw [hc, heq, List.append_assoc, List.replicate_succ']
    · exact ⟨cs ++ [c], 0, by simp, by simpa using hc⟩

/-- The names of the styles are insides of tags. -/
theorem isTagBody_style {style : String} (h : style ∈ styles) :
    IsTagBody style.toList ∧ IsTagBody ('/' :: style.toList) := by
  have hchars : ∀ style ∈ styles, (∃ c name, style.toList = c :: name ∧ isTagStart c = true) ∧
      ∀ c ∈ style.toList, isTagChar c = true := by
    simp only [styles, List.forall_mem_cons]
    refine ⟨?_, ?_, ?_, ?_, ?_, by simp⟩ <;> exact ⟨⟨_, _, rfl, by decide⟩, by decide⟩
  obtain ⟨⟨c, name, hname, hstart⟩, hchar⟩ := hchars style h
  refine ⟨⟨c, name, hname, hstart, fun x hx => hchar x ?_⟩, ⟨'/', _, rfl, by decide, hchar⟩⟩
  rw [hname]
  exact List.mem_cons_of_mem _ hx

/-- **A styled text** is read between its two tags, and the backslashes at its end belong to the
second. -/
theorem pieces_styled {style text : String} {before tail : List Char} (hstyle : style ∈ styles)
    (slashes : Nat) (htext : text.toList = before ++ List.replicate slashes '\\')
    (hbefore : before.getLast? ≠ some '\\') :
    pieces plain ((styled style text).toList ++ tail) =
      .plain plain :: .tag style.toList :: (pieces [] before ++
        tagPieces slashes ('/' :: style.toList) ++ pieces [] tail) := by
  obtain ⟨hopening, hclosing⟩ := isTagBody_style hstyle
  have hchars : (styled style text).toList ++ tail =
      [] ++ (List.replicate 0 '\\' ++ ('[' :: style.toList ++ ']' :: (before ++
        (List.replicate slashes '\\' ++ ('[' :: ('/' :: style.toList) ++ ']' :: tail))))) := by
    unfold styled
    simp [htext]
  rw [hchars, pieces_append_tag (by simp) 0 hopening, pieces_append_tag hbefore slashes hclosing,
    pieces]
  simp [tagPieces]

/-! ## 7. Keys

The key of a group stands in bold, and its count after it. The three are read as one text. -/

/-- A text that is shown as it is in a style: a backslash at its end would make text of the tag
after it. -/
structure IsPlainKey (key : List Char) : Prop where
  plain : IsPlain key
  last : key.getLast? ≠ some '\\'

/-- A plain text in a style is three pieces: the style, the text, and the end of the style. -/
theorem pieces_plainKey {style key : String} {tail : List Char} (hstyle : style ∈ styles)
    (hkey : IsPlainKey key.toList) : pieces plain ((styled style key).toList ++ tail) =
      .plain plain :: .tag style.toList :: .plain key.toList :: .tag ('/' :: style.toList) ::
        pieces [] tail := by
  rw [pieces_styled hstyle 0 (by simp) hkey.last, pieces_of_noTag hkey.plain.noTag]
  simp [tagPieces]

/-- What a styled text shows is what its parts do. -/
theorem bare_styled_append {style key tail : String} (hstyle : style ∈ styles)
    (hkey : IsPlainKey key.toList) : bare (styled style key ++ tail) = key.toList ++ bare tail := by
  unfold bare
  rw [String.toList_append, pieces_plainKey hstyle hkey]
  simp only [List.flatMap_cons, shown_plain hkey.plain]
  simp [Piece.shown, Piece.text, unescape]

/-- The tag weighs seven, and at least one of the backslashes before it is lost. -/
theorem weigh_closing_lt {slashes : Nat} (h : 0 < slashes) :
    weigh ((tagPieces slashes ('/' :: "bold".toList)).flatMap Piece.shown) < 8 * slashes := by
  have hslash : weight '\\' = 8 := by decide
  have hclosing : weigh ('[' :: ('/' :: "bold".toList) ++ [']']) = 7 := by decide
  have hshown := weigh_le_of_sublist
    (flatMap_shown_sublist (tagPieces slashes ('/' :: "bold".toList)))
  rw [text_tagPieces, weigh_append, weigh_replicate, hslash] at hshown
  split at hshown
  · omega
  · rw [weigh_nil] at hshown
    omega

/-- **Every other key gets lighter.** What is left of a key with a tag in it, or with a backslash at
its end, weighs less than the key. -/
theorem weigh_bare_key (key tail : String) :
    weigh (bare (styled "bold" key ++ tail)) ≤ weigh key.toList + weigh (bare tail) ∧
      (weigh (bare (styled "bold" key ++ tail)) = weigh key.toList + weigh (bare tail) →
        IsPlainKey key.toList) := by
  have hslash : weight '\\' = 8 := by decide
  obtain ⟨before, slashes, hkey, hlast⟩ := exists_append_slashes key.toList
  have hbefore := weigh_le_of_sublist (shown_pieces_sublist before)
  have hbare : weigh (bare (styled "bold" key ++ tail)) =
      weigh ((pieces [] before).flatMap Piece.shown) +
        weigh ((tagPieces slashes ('/' :: "bold".toList)).flatMap Piece.shown) +
          weigh (bare tail) := by
    unfold bare
    rw [String.toList_append, pieces_styled (by decide) slashes hkey hlast]
    simp only [List.flatMap_cons, List.flatMap_append, weigh_append]
    simp [Piece.shown, Piece.text, unescape]
  have hweigh := congrArg weigh hkey
  rw [weigh_append, weigh_replicate, hslash] at hweigh
  rcases Nat.eq_zero_or_pos slashes with rfl | hpos
  · -- no backslash stands before the tag, so it is read on its own
    have htag : weigh ((tagPieces 0 ('/' :: "bold".toList)).flatMap Piece.shown) = 0 := rfl
    have hsame : key.toList = before := by simpa using hkey
    refine ⟨by omega, fun heq => ⟨?_, hsame ▸ hlast⟩⟩
    rw [hsame]
    exact isPlain_of_weigh (by omega)
  · have hlighter := weigh_closing_lt hpos
    exact ⟨by omega, fun heq => by omega⟩

/-- A key that closes what is not open is not saved by the style it stands in. -/
theorem ClosesUnopened.key {key : String} (h : ClosesUnopened key)
    (hlast : key.toList.getLast? ≠ some '\\') (tail : String)
    (htail : ∀ s ∈ tail.toList.tails, tag? s = none) :
    ClosesUnopened (styled "bold" key ++ tail) := by
  unfold ClosesUnopened at h ⊢
  rw [String.toList_append, pieces_styled (by decide) 0 (by simp) hlast,
    pieces_of_noTag htail]
  simp [tagPieces, Piece.isOpening, Piece.isClosing, List.countP_cons, List.countP_append] at h ⊢
  omega

/-! ## 8. Texts of a report's own -/

/-- A character without a meaning in markup. -/
def IsInert (c : Char) : Prop := c ≠ '[' ∧ c ≠ '\\' ∧ isDropped c = false

instance (c : Char) : Decidable (IsInert c) := inferInstanceAs (Decidable (_ ∧ _ ∧ _))

/-- Characters without a meaning make no tag and escape none. -/
theorem isPlainKey_of_inert (h : ∀ c ∈ cs, IsInert c) : IsPlainKey cs where
  plain := isPlain_of_forall fun c hc => ⟨(h c hc).1, (h c hc).2.2⟩
  last := fun hlast => (h _ (List.mem_of_getLast? hlast)).2.1 rfl

/-- A text in which every style is closed again, whatever plain text stands before it. -/
def Shows (cs : List Char) : Prop := ∀ plain, Balanced (pieces plain cs)

/-- A plain text opens nothing, so there is nothing to close. -/
theorem shows_of_isPlain (h : IsPlain cs) : Shows cs := by
  intro plain
  rw [pieces_of_noTag h.noTag]
  exact .plain _ .nil

/-- Characters that leave no style open and no backslash behind, so that any text can follow. -/
structure IsClosed (cs : List Char) : Prop where
  shows_append : ∀ {after : List Char}, Shows after → Shows (cs ++ after)

namespace IsClosed

/-- A text in which every style is closed is shown, whatever follows. -/
theorem shows (h : IsClosed cs) : Shows cs := by
  have hempty : Shows [] := shows_of_isPlain (isPlain_of_forall (by simp))
  rw [← List.append_nil cs]
  exact h.shows_append hempty

theorem append {ds : List Char} (hcs : IsClosed cs) (hds : IsClosed ds) :
    IsClosed (cs ++ ds) where
  shows_append h := by
    rw [List.append_assoc]
    exact hcs.shows_append (hds.shows_append h)

theorem of_inert (hcs : ∀ c ∈ cs, IsInert c) : IsClosed cs where
  shows_append := by
    intro after h
    induction cs with
    | nil => exact h
    | cons c rest ih =>
      obtain ⟨⟨hbracket, hslash, -⟩, hrest⟩ := List.forall_mem_cons.mp hcs
      intro plain
      have hnone : tag? ((c :: (rest ++ after)).dropWhile (· == '\\')) = none := by
        rw [List.dropWhile_cons_of_neg (by simpa using hslash)]
        unfold tag?
        split
        · rename_i heq
          exact absurd (List.cons.inj heq).1 hbracket
        · rfl
      rw [List.cons_append, pieces_char hnone]
      exact ih hrest _

/-- A plain text in a style closes what it opens; headings, keys and counts are written like this.
-/
theorem of_styled {style key : String} (hstyle : style ∈ styles) (hkey : IsPlainKey key.toList) :
    IsClosed (styled style key).toList where
  shows_append := by
    intro after h plain
    rw [pieces_plainKey hstyle hkey]
    exact .plain _ (.span hstyle _ (h []))

/-- Texts with blanks between them. -/
theorem intercalate {texts : List String} (h : ∀ text ∈ texts, IsClosed text.toList) :
    IsClosed (" ".intercalate texts).toList := by
  induction texts with
  | nil => exact .of_inert (by simp)
  | cons first rest ih =>
    obtain ⟨hfirst, hrest⟩ := List.forall_mem_cons.mp h
    cases rest with
    | nil => rwa [String.intercalate_singleton]
    | cons next rest =>
      rw [String.intercalate_cons_cons, String.toList_append, String.toList_append]
      exact (hfirst.append (.of_inert (by decide))).append (ih hrest)

end IsClosed

end Conformance.Markup
