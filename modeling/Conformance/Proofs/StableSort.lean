import Conformance.Finding
import Mathlib.Data.List.Nodup

/-!
# The order of findings

Three properties pin down a stable sort: it rearranges what it was given, it puts keys in order,
and among findings of one key it changes nothing. `IsStableSort` says these three, and
`isStableSort_iff` says that exactly one list has them, namely the one `sortFindings` returns.

The third property is what every later argument works with. Two lists in order that agree on each
key are the same list, so a fact about sorted findings (that a filter may be applied before or
after, that blocks may be sorted before they are put together) is proved one key at a time, where
no order is left to speak of.
-/

set_option autoImplicit false

namespace Conformance

namespace SortKey

/-- One key comes no later than another: the paths decide, then the types, then the members, then
the positions. -/
def Precedes (a b : SortKey) : Prop :=
  a.path < b.path ∨ a.path = b.path ∧
    (a.typeName < b.typeName ∨ a.typeName = b.typeName ∧
      (a.memberName < b.memberName ∨ a.memberName = b.memberName ∧ a.position ≤ b.position))

/-- The comparison of two keys is a comparison of their parts from left to right. -/
theorem compare_eq (a b : SortKey) :
    a.compare b = (Ord.compare a.path b.path).then ((Ord.compare a.typeName b.typeName).then
      ((Ord.compare a.memberName b.memberName).then (Ord.compare a.position b.position))) := rfl

/-- Texts are compared character by character, as strings are ordered anyway. -/
theorem compare_text_eq_lt (a b : String) : Ord.compare a b = .lt ↔ a < b := by
  show compareOfLessAndEq a b = .lt ↔ a < b
  exact compareOfLessAndEq_eq_lt

/-- **The order of keys.** `le` decides `Precedes`. -/
theorem le_iff (a b : SortKey) : a.le b = true ↔ a.Precedes b := by
  unfold le Precedes
  rw [compare_eq]
  simp only [Ordering.isLE_then_iff_or, compare_text_eq_lt, Std.LawfulEqOrd.compare_eq_iff_eq,
    Std.isLE_compare]

instance : Std.TransCmp SortKey.compare := by
  unfold SortKey.compare
  infer_instance

/-- The order of places is transitive, total and antisymmetric, which is what makes the sorted list
unique. -/
theorem le_trans (a b c : SortKey) (hab : a.le b = true) (hbc : b.le c = true) :
    a.le c = true :=
  Std.TransCmp.isLE_trans hab hbc

theorem le_total (a b : SortKey) : (a.le b || b.le a) = true := by
  have hswap : b.compare a = (a.compare b).swap := Std.OrientedCmp.eq_swap
  unfold le
  rw [hswap, Ordering.isLE_swap]
  cases a.compare b <;> rfl

theorem le_antisymm {a b : SortKey} (hab : a.le b = true) (hba : b.le a = true) : a = b := by
  have heq : a.compare b = .eq := Std.OrientedCmp.isLE_antisymm hab hba
  rw [compare_eq] at heq
  simp only [Ordering.then_eq_eq, Std.LawfulEqOrd.compare_eq_iff_eq] at heq
  obtain ⟨hpath, htype, hmember, hposition⟩ := heq
  cases a
  cases b
  simp_all

end SortKey

/-! ## What a stable sort is -/

/-- The findings of one key, in the order given. -/
def atKey (key : SortKey) (findings : List Finding) : List Finding :=
  findings.filter fun f => f.sortKey = key

/-- `sorted` holds the given findings by path, type, member and position, and findings that agree
in all four in the order given. -/
structure IsStableSort (findings sorted : List Finding) : Prop where
  perm : sorted.Perm findings
  ordered : sorted.Pairwise fun a b => a.sortKey.Precedes b.sortKey
  stable : ∀ key, atKey key sorted = atKey key findings

theorem mem_atKey {key : SortKey} {findings : List Finding} {f : Finding} :
    f ∈ atKey key findings ↔ f ∈ findings ∧ f.sortKey = key := by
  simp [atKey]

/-- Taking the findings of one key commutes with any other selection. -/
theorem atKey_filter (key : SortKey) (p : Finding → Bool) (findings : List Finding) :
    atKey key (findings.filter p) = (atKey key findings).filter p := by
  unfold atKey
  rw [List.filter_filter, List.filter_filter]
  refine List.filter_congr fun f _ => ?_
  exact Bool.and_comm ..

theorem atKey_flatMap {α : Type} (key : SortKey) (blocks : List α) (f : α → List Finding) :
    atKey key (blocks.flatMap f) = blocks.flatMap fun block => atKey key (f block) := by
  unfold atKey
  rw [List.filter_flatMap]

/-- The least finding of a list in order stands at its head: nothing in the list comes strictly
before the head. -/
theorem head_precedes {a : Finding} {rest : List Finding}
    (h : (a :: rest).Pairwise fun x y => x.sortKey.Precedes y.sortKey) {f : Finding}
    (hf : f ∈ a :: rest) : a.sortKey.le f.sortKey = true := by
  rcases List.mem_cons.mp hf with rfl | hf
  · have htotal := SortKey.le_total f.sortKey f.sortKey
    rwa [Bool.or_self] at htotal
  · rw [SortKey.le_iff]
    exact (List.pairwise_cons.mp h).1 f hf

/-- Lists that agree at every key have the same members: a finding is found at its own key. -/
theorem mem_iff_of_atKey_eq {s t : List Finding} (h : ∀ key, atKey key s = atKey key t)
    (f : Finding) : f ∈ s ↔ f ∈ t := by
  have hiff : f ∈ atKey f.sortKey s ↔ f ∈ atKey f.sortKey t := by rw [h f.sortKey]
  rwa [mem_atKey, mem_atKey, and_iff_left rfl, and_iff_left rfl] at hiff

/-- **One list per family of keys.** Two lists in order that hold the same findings at every key,
in the same order there, are equal. -/
theorem eq_of_atKey_eq {s t : List Finding}
    (hs : s.Pairwise fun a b => a.sortKey.Precedes b.sortKey)
    (ht : t.Pairwise fun a b => a.sortKey.Precedes b.sortKey)
    (h : ∀ key, atKey key s = atKey key t) : s = t := by
  induction s generalizing t with
  | nil =>
    cases t with
    | nil => rfl
    | cons b t =>
      exact absurd ((mem_iff_of_atKey_eq h b).mpr List.mem_cons_self) List.not_mem_nil
  | cons a s ih =>
    cases t with
    | nil => exact absurd ((mem_iff_of_atKey_eq h a).mp List.mem_cons_self) List.not_mem_nil
    | cons b t =>
      -- each head is found in the other list, so neither comes after the other
      have hab : a.sortKey.le b.sortKey = true :=
        head_precedes hs ((mem_iff_of_atKey_eq h b).mpr List.mem_cons_self)
      have hba : b.sortKey.le a.sortKey = true :=
        head_precedes ht ((mem_iff_of_atKey_eq h a).mp List.mem_cons_self)
      have hkey : a.sortKey = b.sortKey := SortKey.le_antisymm hab hba
      have hheads : a = b ∧ atKey a.sortKey s = atKey a.sortKey t := by
        have hcons := h a.sortKey
        unfold atKey at hcons
        rw [List.filter_cons_of_pos (by simp), List.filter_cons_of_pos (by simp [hkey])] at hcons
        exact List.cons.inj hcons
      -- taking off one finding from both lists changes them at its own key only
      have htail : ∀ key, atKey key s = atKey key t := by
        intro key
        by_cases hk : a.sortKey = key
        · rw [← hk]
          exact hheads.2
        · have hcons := h key
          unfold atKey at hcons ⊢
          rwa [List.filter_cons_of_neg (by simpa using hk),
            List.filter_cons_of_neg (by simpa [← hkey] using hk)] at hcons
      rw [hheads.1, ih (List.pairwise_cons.mp hs).2 (List.pairwise_cons.mp ht).2 htail]

/-! ## `sortFindings` is the stable sort -/

@[simp] theorem sortFindings_nil : sortFindings [] = [] := List.mergeSort_nil

@[simp] theorem sortFindings_singleton (f : Finding) : sortFindings [f] = [f] :=
  List.mergeSort_singleton f

theorem sortFindings_perm (findings : List Finding) : (sortFindings findings).Perm findings :=
  List.mergeSort_perm findings _

theorem sortFindings_ordered (findings : List Finding) :
    (sortFindings findings).Pairwise fun a b => a.sortKey.Precedes b.sortKey := by
  have h : (sortFindings findings).Pairwise fun a b => a.sortKey.le b.sortKey = true :=
    @List.pairwise_mergeSort Finding (fun a b => a.sortKey.le b.sortKey)
      (fun a b c => SortKey.le_trans a.sortKey b.sortKey c.sortKey)
      (fun a b => SortKey.le_total a.sortKey b.sortKey) findings
  exact h.imp fun hle => (SortKey.le_iff _ _).mp hle

/-- Sorting leaves the findings of one key as they were. -/
theorem atKey_sortFindings (key : SortKey) (findings : List Finding) :
    atKey key (sortFindings findings) = atKey key findings := by
  -- findings of one key are a sublist in order, and a merge sort keeps those
  have hordered : (atKey key findings).Pairwise fun a b => a.sortKey.le b.sortKey = true := by
    refine List.pairwise_of_forall_mem_list fun a ha b hb => ?_
    have htotal := SortKey.le_total key key
    rw [(mem_atKey.mp ha).2, (mem_atKey.mp hb).2]
    rwa [Bool.or_self] at htotal
  have hsub : (atKey key findings).Sublist (sortFindings findings) :=
    @List.sublist_mergeSort Finding (fun a b => a.sortKey.le b.sortKey) findings
      (fun a b c => SortKey.le_trans a.sortKey b.sortKey c.sortKey)
      (fun a b => SortKey.le_total a.sortKey b.sortKey) _ hordered List.filter_sublist
  have hsubKey : (atKey key findings).Sublist (atKey key (sortFindings findings)) := by
    have hfilter := hsub.filter fun f => f.sortKey = key
    unfold atKey at hfilter ⊢
    simpa only [List.filter_filter, Bool.and_self] using hfilter
  -- nothing is added or lost, so they are the whole of what has that key
  have hlength : (atKey key findings).length = (atKey key (sortFindings findings)).length :=
    ((sortFindings_perm findings).filter _).length_eq.symm
  exact (hsubKey.eq_of_length hlength).symm

/-- **The stable sort of findings.** One list has the three properties, and it is the one that
`sortFindings` returns. -/
theorem isStableSort_iff {findings sorted : List Finding} :
    IsStableSort findings sorted ↔ sorted = sortFindings findings := by
  constructor
  · intro h
    refine eq_of_atKey_eq h.ordered (sortFindings_ordered findings) fun key => ?_
    rw [h.stable key, atKey_sortFindings]
  · rintro rfl
    exact ⟨sortFindings_perm findings, sortFindings_ordered findings,
      fun key => atKey_sortFindings key findings⟩

/-! ## What sorting commutes with -/

/-- Findings that agree at every key sort to the same list. -/
theorem sortFindings_congr {s t : List Finding} (h : ∀ key, atKey key s = atKey key t) :
    sortFindings s = sortFindings t := by
  refine eq_of_atKey_eq (sortFindings_ordered s) (sortFindings_ordered t) fun key => ?_
  rw [atKey_sortFindings, atKey_sortFindings, h key]

/-- Findings may be selected before or after sorting: selecting keeps the order among those that
stay. -/
theorem filter_sortFindings (p : Finding → Bool) (findings : List Finding) :
    (sortFindings findings).filter p = sortFindings (findings.filter p) := by
  refine eq_of_atKey_eq ((sortFindings_ordered findings).filter p)
    (sortFindings_ordered _) fun key => ?_
  rw [atKey_filter, atKey_sortFindings, atKey_sortFindings, atKey_filter]

/-- Blocks may be sorted, each on its own, before they are put together and sorted. -/
theorem sortFindings_flatMap_sortFindings {α : Type} (blocks : List α) (f : α → List Finding) :
    sortFindings (blocks.flatMap fun block => sortFindings (f block)) =
      sortFindings (blocks.flatMap f) := by
  refine sortFindings_congr fun key => ?_
  rw [atKey_flatMap, atKey_flatMap]
  refine congrArg (fun g => blocks.flatMap g) (funext fun block => ?_)
  exact atKey_sortFindings key (f block)

/-- What comes in front does not matter: lists that sort alike sort alike behind it. So a sort may
be put off while findings are collected. -/
theorem sortFindings_append_congr (front : List Finding) {s t : List Finding}
    (h : sortFindings s = sortFindings t) :
    sortFindings (front ++ s) = sortFindings (front ++ t) := by
  refine sortFindings_congr fun key => ?_
  have hkey : atKey key s = atKey key t := by
    rw [← atKey_sortFindings, h, atKey_sortFindings]
  unfold atKey at hkey ⊢
  rw [List.filter_append, List.filter_append, hkey]

/-! ## Blocks that their findings tell apart -/

/-- If one item of a list contributes, the list contributes what the item does. -/
theorem flatMap_eq_of_unique {α β : Type} {items : List α} {a : α} {g : α → List β}
    (hnodup : items.Nodup) (ha : a ∈ items) (hothers : ∀ b ∈ items, b ≠ a → g b = []) :
    items.flatMap g = g a := by
  induction items with
  | nil => exact absurd ha List.not_mem_nil
  | cons first rest ih =>
    obtain ⟨hfirst, hrest⟩ := List.nodup_cons.mp hnodup
    rw [List.flatMap_cons]
    by_cases heq : first = a
    · have hnone : rest.flatMap g = [] := by
        rw [List.flatMap_eq_nil_iff]
        intro b hb
        exact hothers b (List.mem_cons_of_mem _ hb) fun hba => hfirst (heq ▸ hba ▸ hb)
      rw [hnone, List.append_nil, heq]
    · have hmem : a ∈ rest := (List.mem_cons.mp ha).resolve_left (Ne.symm heq)
      rw [hothers first List.mem_cons_self heq, List.nil_append]
      exact ih hrest hmem fun b hb => hothers b (List.mem_cons_of_mem _ hb)

section Tags

variable {α τ : Type} {blocks others : List α} {found : α → List Finding} {tag : α → τ}
  {label : Finding → τ}

/-- Blocks with distinct tags, each of which is the label of all findings of its block: selecting a
label selects a block. -/
theorem filter_flatMap_of_tag [DecidableEq τ] (hnodup : (blocks.map tag).Nodup)
    (hfound : ∀ a ∈ blocks, ∀ f ∈ found a, label f = tag a) {a : α} (ha : a ∈ blocks) :
    (blocks.flatMap found).filter (fun f => label f = tag a) = found a := by
  have hown : (found a).filter (fun f => label f = tag a) = found a := by
    rw [List.filter_eq_self]
    intro f hf
    exact decide_eq_true (hfound a ha f hf)
  rw [List.filter_flatMap, flatMap_eq_of_unique (List.Nodup.of_map _ hnodup) ha, hown]
  -- a finding of another block has the tag of that block, which is another tag
  intro b hb hne
  rw [List.filter_eq_nil_iff]
  intro f hf hlabel
  have htag : tag b = tag a := (hfound b hb f hf).symm.trans (of_decide_eq_true hlabel)
  exact hne (List.inj_on_of_nodup_map hnodup hb ha htag)

/-- **The order of blocks does not matter.** If the key of a finding fixes its label, no two blocks
have findings of one key, and the blocks may come in any order before their findings are sorted. -/
theorem sortFindings_flatMap_of_tag (hperm : others.Perm blocks) (hnodup : (blocks.map tag).Nodup)
    (hfound : ∀ a ∈ blocks, ∀ f ∈ found a, label f = tag a)
    (hkeys : ∀ f g : Finding, f.sortKey = g.sortKey → label f = label g) :
    sortFindings (others.flatMap found) = sortFindings (blocks.flatMap found) := by
  refine sortFindings_congr fun key => ?_
  rw [atKey_flatMap, atKey_flatMap]
  have hdistinct : blocks.Nodup := List.Nodup.of_map _ hnodup
  by_cases hsome : ∃ a ∈ blocks, ∃ f ∈ found a, f.sortKey = key
  · obtain ⟨a, ha, f, hf, hkey⟩ := hsome
    -- a block with a finding of this key is the only one, wherever it stands
    have hunique : ∀ b ∈ blocks, b ≠ a → atKey key (found b) = [] := by
      intro b hb hne
      rw [List.eq_nil_iff_forall_not_mem]
      intro g hg
      obtain ⟨hmem, hsame⟩ := mem_atKey.mp hg
      have htag : tag b = tag a := by
        rw [← hfound b hb g hmem, ← hfound a ha f hf]
        exact hkeys g f (hsame.trans hkey.symm)
      exact hne (List.inj_on_of_nodup_map hnodup hb ha htag)
    rw [flatMap_eq_of_unique hdistinct ha hunique,
      flatMap_eq_of_unique (hperm.nodup_iff.mpr hdistinct) (hperm.mem_iff.mpr ha)
        fun b hb => hunique b (hperm.mem_iff.mp hb)]
  · have hnone : ∀ a ∈ blocks, atKey key (found a) = [] := by
      intro a ha
      rw [List.eq_nil_iff_forall_not_mem]
      intro f hf
      exact hsome ⟨a, ha, f, mem_atKey.mp hf⟩
    rw [List.flatMap_eq_nil_iff.mpr hnone,
      List.flatMap_eq_nil_iff.mpr fun a ha => hnone a (hperm.mem_iff.mp ha)]

end Tags

end Conformance
