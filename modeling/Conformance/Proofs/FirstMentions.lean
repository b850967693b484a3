import Conformance.Model.Unit
import Mathlib.Data.List.Sort

/-!
# References, each name once

A type mentions other types as supertypes, in references of its own, and as the types of fields,
parameters and results, and it may mention the same name many times. Its list of references has
every name once: of each name it keeps the first mention, and what it keeps stays in order.

A list that does this is a `KeepsFirst` of the mentions, and there is only one such list. The loop
that makes it goes over the mentions with the names it has seen. At every point the list so far
keeps the first of the mentions so far, and the names seen are theirs (`keepsFirst_firstByName`); a
mention of a name that was seen leaves the list as it is, and one of a new name goes to its end.
-/

set_option autoImplicit false

namespace Conformance

/-! ## 1. What is kept -/

/-- The position of the first reference of a name, past the end if there is none. -/
def firstPosition (refs : List TypeReference) (name : String) : Nat :=
  refs.findIdx (·.name = name)

/-- A list keeps the first reference of every name, and keeps them in order. -/
structure KeepsFirst (refs kept : List TypeReference) : Prop where
  /-- No name is kept twice. -/
  distinct : (kept.map (·.name)).Nodup
  /-- No name is lost, and none is made up. -/
  complete : ∀ name, name ∈ kept.map (·.name) ↔ name ∈ refs.map (·.name)
  /-- What is kept of a name is its first reference. -/
  first : ∀ r ∈ kept, refs.find? (·.name = r.name) = some r
  /-- What is kept was there before, in the same order. -/
  subsequence : kept.Sublist refs
  /-- Names stand in the order of their first references. A subsequence alone need not have them in
  this order, as the same reference may occur again later. -/
  ascending : kept.Pairwise fun r s => firstPosition refs r.name < firstPosition refs s.name

variable {refs kept : List TypeReference} {r : TypeReference} {name : String}

theorem firstPosition_lt_length_iff :
    firstPosition refs name < refs.length ↔ name ∈ refs.map (·.name) := by
  unfold firstPosition
  rw [List.findIdx_lt_length, List.mem_map]
  simp only [decide_eq_true_eq]

/-- References that follow do not move the first one of a name. -/
theorem firstPosition_append_of_mem (h : name ∈ refs.map (·.name)) (more : List TypeReference) :
    firstPosition (refs ++ more) name = firstPosition refs name := by
  have hlt := firstPosition_lt_length_iff.mpr h
  unfold firstPosition at hlt ⊢
  rw [List.findIdx_append, if_pos hlt]

/-- A name that is new stands first where the references so far end. -/
theorem firstPosition_append_of_not_mem (h : r.name ∉ refs.map (·.name)) :
    firstPosition (refs ++ [r]) r.name = refs.length := by
  have hge := mt firstPosition_lt_length_iff.mp h
  unfold firstPosition at hge ⊢
  rw [List.findIdx_append, if_neg hge, List.findIdx_cons]
  simp

/-- A reference whose name is there already adds no name. -/
theorem mem_names_append_of_mem (hseen : r.name ∈ refs.map (·.name)) :
    name ∈ (refs ++ [r]).map (·.name) ↔ name ∈ refs.map (·.name) := by
  rw [List.map_append, List.map_singleton, List.mem_append, List.mem_singleton]
  exact ⟨fun hname => hname.elim id fun hlast => hlast ▸ hseen, .inl⟩

namespace KeepsFirst

theorem mem_refs (h : KeepsFirst refs kept) (hr : r ∈ kept) : r.name ∈ refs.map (·.name) :=
  (h.complete r.name).mp (List.mem_map_of_mem hr)

/-- What is kept is what is found first under its own name. -/
theorem mem_iff (h : KeepsFirst refs kept) :
    r ∈ kept ↔ refs.find? (·.name = r.name) = some r := by
  refine ⟨h.first r, fun hfind => ?_⟩
  have hname : r.name ∈ kept.map (·.name) :=
    (h.complete r.name).mpr (List.mem_map_of_mem (List.mem_of_find?_eq_some hfind))
  obtain ⟨s, hs, hsame⟩ := List.mem_map.mp hname
  -- the reference kept under this name is also found first, so it is the same
  have hfirst := h.first s hs
  rw [hsame, hfind] at hfirst
  rw [Option.some.inj hfirst]
  exact hs

/-- There is only one way to keep the first of each name. -/
theorem unique {other : List TypeReference} (h : KeepsFirst refs kept)
    (hother : KeepsFirst refs other) : kept = other := by
  have : Std.Asymm fun r s : TypeReference =>
      firstPosition refs r.name < firstPosition refs s.name := ⟨fun _ _ => Nat.lt_asymm⟩
  exact h.ascending.eq_of_mem_iff hother.ascending fun r => h.mem_iff.trans hother.mem_iff.symm

/-! ## 2. One more reference -/

theorem nothing : KeepsFirst [] [] where
  distinct := List.nodup_nil
  complete := fun _ => Iff.rfl
  first := fun _ hr => absurd hr List.not_mem_nil
  subsequence := .slnil
  ascending := .nil

/-- What is found first is found first in a longer list. -/
theorem first_append (h : KeepsFirst refs kept) (hr : r ∈ kept) (more : List TypeReference) :
    (refs ++ more).find? (·.name = r.name) = some r := by
  rw [List.find?_append, h.first r hr, Option.some_or]

theorem ascending_append (h : KeepsFirst refs kept) (more : List TypeReference) :
    kept.Pairwise fun r s =>
      firstPosition (refs ++ more) r.name < firstPosition (refs ++ more) s.name := by
  refine h.ascending.imp_of_mem fun hr hs hlt => ?_
  rw [firstPosition_append_of_mem (h.mem_refs hr), firstPosition_append_of_mem (h.mem_refs hs)]
  exact hlt

/-- A reference whose name is there already is left out. -/
theorem leave (h : KeepsFirst refs kept) (hseen : r.name ∈ refs.map (·.name)) :
    KeepsFirst (refs ++ [r]) kept where
  distinct := h.distinct
  complete := fun name => (h.complete name).trans (mem_names_append_of_mem hseen).symm
  first := fun _ hs => h.first_append hs [r]
  subsequence := h.subsequence.trans (List.sublist_append_left refs [r])
  ascending := h.ascending_append [r]

/-- A reference whose name is new goes to the end. -/
theorem keep (h : KeepsFirst refs kept) (hnew : r.name ∉ refs.map (·.name)) :
    KeepsFirst (refs ++ [r]) (kept ++ [r]) where
  distinct := by
    rw [List.map_append, List.map_singleton]
    refine List.nodup_append.mpr ⟨h.distinct, List.nodup_singleton _, ?_⟩
    intro name hkept last hlast hsame
    have hlastName : name = r.name := hsame.trans (List.mem_singleton.mp hlast)
    exact hnew (hlastName ▸ (h.complete name).mp hkept)
  complete := by
    intro name
    simp only [List.map_append, List.mem_append, h.complete]
  first := by
    intro s hs
    rcases List.mem_append.mp hs with hkept | hlast
    · exact h.first_append hkept [r]
    · have hnone : refs.find? (·.name = r.name) = none := by
        rw [List.find?_eq_none]
        intro t ht hsame
        exact hnew (List.mem_map.mpr ⟨t, ht, of_decide_eq_true hsame⟩)
      rw [List.mem_singleton.mp hlast, List.find?_append, hnone, Option.none_or]
      simp
  subsequence := h.subsequence.append (.refl [r])
  ascending := by
    refine List.pairwise_append.mpr ⟨h.ascending_append [r], List.pairwise_singleton _ r, ?_⟩
    -- every name kept so far stands within the references so far, and the new one after them
    intro s hs last hlast
    have hbefore := h.mem_refs hs
    rw [List.mem_singleton.mp hlast, firstPosition_append_of_mem hbefore,
      firstPosition_append_of_not_mem hnew]
    exact firstPosition_lt_length_iff.mpr hbefore

end KeepsFirst

/-! ## 3. What a type mentions -/

namespace TypeDeclaration

/-- A type mentions another as a supertype, in a reference of its own, as the type of a field or of
a parameter, or as the type that a method returns. -/
inductive Mentions (t : TypeDeclaration) (r : TypeReference) : Prop
  | supertype (h : r ∈ t.supertypes)
  | reference (h : r ∈ t.references)
  | field (f : Field) (hf : f ∈ t.fields) (h : f.type? = some r)
  | parameter (m : Method) (hm : m ∈ t.methods) (p : Parameter) (hp : p ∈ m.parameters)
      (h : p.type? = some r)
  | result (m : Method) (hm : m ∈ t.methods) (h : m.returnType = some r)

/-- The mention of a name that comes first. -/
def firstMention? (t : TypeDeclaration) (name : String) : Option TypeReference :=
  t.mentions.find? (·.name = name)

variable {t : TypeDeclaration}

theorem mem_mentions_iff : r ∈ t.mentions ↔ t.Mentions r := by
  unfold mentions
  simp only [List.mem_append, List.mem_filterMap, List.mem_flatMap, Option.mem_toList]
  constructor
  · rintro (((h | h) | ⟨f, hf, h⟩) | ⟨m, hm, ⟨p, hp, h⟩ | h⟩)
    · exact .supertype h
    · exact .reference h
    · exact .field f hf h
    · exact .parameter m hm p hp h
    · exact .result m hm h
  · intro h
    cases h with
    | supertype h => exact .inl (.inl (.inl h))
    | reference h => exact .inl (.inl (.inr h))
    | field f hf h => exact .inl (.inr ⟨f, hf, h⟩)
    | parameter m hm p hp h => exact .inr ⟨m, hm, .inl ⟨p, hp, h⟩⟩
    | result m hm h => exact .inr ⟨m, hm, .inr h⟩

theorem mentions_of_firstMention? (h : t.firstMention? name = some r) :
    t.Mentions r ∧ r.name = name := by
  unfold firstMention? at h
  have hname := List.find?_some h
  exact ⟨mem_mentions_iff.mp (List.mem_of_find?_eq_some h), of_decide_eq_true hname⟩

/-- What is mentioned is mentioned a first time, so every name of a type is kept under some mention.
-/
theorem exists_firstMention? (h : t.Mentions r) : ∃ first, t.firstMention? r.name = some first := by
  have hsome : (t.firstMention? r.name).isSome = true := by
    refine List.find?_isSome.mpr ⟨r, mem_mentions_iff.mpr h, ?_⟩
    simp
  exact Option.isSome_iff_exists.mp hsome

/-! ## 4. All references -/

/-- **The loop.** If the list so far keeps the first of the references so far, and the names seen
are theirs, then the list in the end keeps the first of all references. -/
theorem keepsFirst_firstByName {seen : List String} {before : List TypeReference}
    (h : KeepsFirst before kept) (hseen : ∀ name, name ∈ seen ↔ name ∈ before.map (·.name))
    (refs : List TypeReference) :
    KeepsFirst (before ++ refs) (kept ++ firstByName seen refs) := by
  -- each reference goes over from those that are left to those before, and `seen` follows
  induction refs generalizing seen before kept with
  | nil =>
    unfold firstByName
    rw [List.append_nil, List.append_nil]
    exact h
  | cons r rest ih =>
    unfold firstByName
    rw [List.append_cons before r rest]
    by_cases hold : r.name ∈ seen
    · rw [if_pos (List.contains_iff_mem.mpr hold)]
      have hbefore : r.name ∈ before.map (·.name) := (hseen r.name).mp hold
      exact ih (h.leave hbefore) fun name =>
        (hseen name).trans (mem_names_append_of_mem hbefore).symm
    · rw [if_neg (by simpa using hold), List.append_cons kept r]
      refine ih (h.keep (mt (hseen r.name).mpr hold)) fun name => ?_
      rw [List.mem_cons, hseen, List.map_append, List.map_singleton, List.mem_append,
        List.mem_singleton]
      exact Or.comm

/-- The references of a type are its mentions, each name once. -/
theorem keepsFirst_allReferences (t : TypeDeclaration) : KeepsFirst t.mentions t.allReferences := by
  have hrun := keepsFirst_firstByName .nothing (fun _ => Iff.rfl) t.mentions
  rw [List.nil_append, List.nil_append] at hrun
  exact hrun

/-- What is listed is what is mentioned first under its own name. -/
theorem mem_allReferences : r ∈ t.allReferences ↔ t.firstMention? r.name = some r :=
  t.keepsFirst_allReferences.mem_iff

/-- **Each name once.** Go over the supertypes, the references, the types of the fields, and for
each method the types of its parameters and the type that it returns, where what is missing is
passed over. There is one list that keeps the first reference of every name and keeps them in
order, and it is the list of all references. So its names are those of what the type mentions. -/
theorem each_name_once (t : TypeDeclaration) :
    (∀ kept,
      KeepsFirst
        (t.supertypes ++ t.references ++ t.fields.filterMap (·.type?) ++
          t.methods.flatMap fun m => m.parameters.filterMap (·.type?) ++ m.returnType.toList)
        kept ↔ kept = t.allReferences) ∧
      ∀ name, name ∈ t.allReferences.map (·.name) ↔ ∃ r, t.Mentions r ∧ r.name = name := by
  have hkeeps : KeepsFirst t.mentions t.allReferences := t.keepsFirst_allReferences
  refine ⟨fun kept => ⟨fun hkept => KeepsFirst.unique hkept hkeeps, ?_⟩, fun name => ?_⟩
  · rintro rfl
    exact hkeeps
  · rw [hkeeps.complete, List.mem_map]
    simp only [mem_mentions_iff]

end TypeDeclaration

end Conformance
