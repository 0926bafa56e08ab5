import Mathlib.Data.List.Infix
import TemplateLang.Helper.Texts

/-!
# Splitting and joining texts

A separator is looked for from left to right, and behind each place where it stands the search
begins anew.  So a part ends where the separator stands first, and does not hold it, however the
separator overlaps itself or its surroundings.  Joining puts the separators back.  An empty
separator leaves the characters, which join to the text as well.
-/

namespace TemplateLang.Helper

variable {separator part text rest : List Char} {parts : List (List Char)} {skip : Nat}

/-! ## Parts up to the first separator -/

/-- No separator of a text begins in the part before a place. -/
def ClearBefore (separator part rest : List Char) : Prop :=
  ∀ before after, part ++ rest = before ++ separator ++ after → part.length ≤ before.length

/-- The parts of a text between separators: each ends where the first separator of what is left
begins, and the last one has none. -/
inductive Separated (separator : List Char) : List Char → List (List Char) → Prop where
  | last {text : List Char} (free : ¬ separator <:+: text) : Separated separator text [text]
  | cut {part rest : List Char} {parts : List (List Char)}
      (isFirst : ClearBefore separator part (separator ++ rest))
      (later : Separated separator rest parts) :
      Separated separator (part ++ separator ++ rest) (part :: parts)

theorem clearBefore_nil (separator rest : List Char) : ClearBefore separator [] rest :=
  fun _ _ _ => Nat.zero_le _

/-- A character at which no separator begins belongs to the part. -/
theorem ClearBefore.concat {c : Char} (clear : ClearBefore separator part (c :: rest))
    (noPlace : ¬ separator <+: c :: rest) : ClearBefore separator (part ++ [c]) rest := by
  intro before after isSplit
  rw [List.append_assoc, List.singleton_append] at isSplit
  have atLeast := clear before after isSplit
  rcases Nat.lt_or_eq_of_le atLeast with longer | same
  · rwa [List.length_append, List.length_singleton]
  · -- The separator would begin at the character.
    rw [List.append_assoc] at isSplit
    have here := (List.append_inj isSplit same).2
    exact absurd ⟨after, here.symm⟩ noPlace

theorem ClearBefore.free (some' : separator ≠ []) (clear : ClearBefore separator part rest) :
    ¬ separator <:+: part := by
  rintro ⟨before, after, isSplit⟩
  have atLeast := clear before (after ++ rest) (by rw [← isSplit]; simp)
  have longer := List.length_pos_iff.mpr some'
  have lengths := congrArg List.length isSplit
  simp only [List.length_append] at lengths
  omega

/-- No part holds the separator. -/
theorem Separated.free (some' : separator ≠ []) (separated : Separated separator text parts) :
    ∀ part ∈ parts, ¬ separator <:+: part := by
  induction separated with
  | last free => simpa using free
  | cut isFirst later ih =>
    rw [List.forall_mem_cons]
    exact ⟨isFirst.free some', ih⟩

/-- The parts with separators between are the text. -/
theorem Separated.intercalate_eq (separated : Separated separator text parts) :
    separator.intercalate parts = text := by
  induction separated with
  | last free => simp
  | cut isFirst later ih =>
    rename_i part rest parts
    have some' : parts ≠ [] := by
      cases later <;> exact List.cons_ne_nil _ _
    rcases List.exists_cons_of_ne_nil some' with ⟨first, others, rfl⟩
    rw [List.intercalate_cons_cons, ih, List.append_assoc]

/-! ## The scan -/

/-- The scan ends a part at the first separator.  Of a separator that was met, some characters
may be left to pass. -/
theorem separated_splitFrom (some' : separator ≠ [])
    (clear : ClearBefore separator part.reverse (text.drop skip)) :
    Separated separator (part.reverse ++ text.drop skip) (splitFrom separator part skip text) := by
  fun_induction splitFrom separator part skip text with
  | case1 part skip =>
    rw [List.drop_nil, List.append_nil]
    exact .last (clear.free some')
  | case2 part skip c rest ih => exact ih clear
  | case3 part c rest isPlace ih =>
    rcases List.isPrefixOf_iff_prefix.mp isPlace with ⟨after, isSplit⟩
    have behind : rest.drop (separator.length - 1) = after := by
      rcases List.exists_cons_of_ne_nil some' with ⟨first, others, rfl⟩
      rw [← (List.cons.inj isSplit).2, List.length_cons, Nat.add_sub_cancel]
      exact List.drop_left
    rw [List.drop_zero, ← isSplit, ← List.append_assoc]
    rw [List.drop_zero, ← isSplit] at clear
    apply Separated.cut clear
    rw [behind] at ih
    exact ih (clearBefore_nil separator after)
  | case4 part c rest noPlace ih =>
    rw [List.reverse_cons, List.append_assoc] at ih
    apply ih
    apply clear.concat
    rwa [← List.isPrefixOf_iff_prefix]

/-- Splitting at a separator finds the parts between the separators. -/
theorem separated_splitText (some' : separator ≠ []) (text : List Char) :
    Separated separator text (splitText separator text) := by
  have clear : ClearBefore separator ([] : List Char).reverse (text.drop 0) :=
    clearBefore_nil separator text
  rw [splitText, if_neg (by simpa using some')]
  exact separated_splitFrom some' clear

/-- The single characters with nothing between are the text. -/
theorem intercalate_characters (text : List Char) : [].intercalate (text.map ([·])) = text := by
  induction text with
  | nil => rfl
  | cons c rest ih =>
    cases rest with
    | nil => rfl
    | cons d rest => simpa using ih

theorem intercalate_splitText (separator text : List Char) :
    separator.intercalate (splitText separator text) = text := by
  by_cases none : separator = []
  · subst none
    exact intercalate_characters text
  · exact (separated_splitText none text).intercalate_eq

/-! ## The helpers -/

theorem split_texts (separator text : String) :
    split [.text text, .text separator] =
      .array (((splitText separator.toList text.toList).map String.ofList).map .text) := by
  rw [List.map_map]
  rfl

theorem join_texts (separator : String) (parts : List String) :
    join [.array (parts.map .text), .text separator] =
      .ok (.text (separator.intercalate parts)) := by
  have rendered : (parts.map Value.text).map Value.render = parts := by
    rw [List.map_map]
    exact List.map_id parts
  change Except.ok (Value.text (separator.intercalate _)) = _
  rw [rendered]

/-- The parts of a text join to it.  With an empty separator they are its characters.  With
another one they end where the separator stands first, and do not hold it. -/
theorem join_split (separator text : String) :
    ∃ parts : List String, split [.text text, .text separator] = .array (parts.map .text) ∧
      join [.array (parts.map .text), .text separator] = .ok (.text text) ∧
      (separator = "" → parts.map String.toList = text.toList.map ([·])) ∧
      (separator ≠ "" → Separated separator.toList text.toList (parts.map String.toList) ∧
        ∀ part ∈ parts, ¬ separator.toList <:+: part.toList) := by
  have restored : ((splitText separator.toList text.toList).map String.ofList).map String.toList =
      splitText separator.toList text.toList := by
    simp
  refine ⟨_, split_texts separator text, ?_, ?_, ?_⟩
  · rw [join_texts]
    congr 2
    rw [← String.toList_inj, String.toList_intercalate, restored, intercalate_splitText]
  · rintro rfl
    rw [restored]
    rfl
  · intro some'
    have someChars : separator.toList ≠ [] := by simpa using some'
    have separated := separated_splitText someChars text.toList
    rw [restored]
    constructor
    · exact separated
    · intro part isPart
      rcases List.mem_map.mp isPart with ⟨characters, isFound, rfl⟩
      rw [String.toList_ofList]
      exact separated.free someChars characters isFound

/-- A separator that overlaps itself, twice at the start and once more behind another character. -/
theorem join_split_overlapping :
    let parts := ["", "", "x", "a"]
    "aa" ≠ "" ∧ split [.text "aaaaxaaa", .text "aa"] = .array (parts.map .text) ∧
      join [.array (parts.map .text), .text "aa"] = .ok (.text "aaaaxaaa") ∧
      ∀ part ∈ parts, ¬ "aa".toList <:+: part.toList := by
  intro parts
  have some' : "aa" ≠ "" := by decide
  have found : split [.text "aaaaxaaa", .text "aa"] = .array (parts.map .text) := rfl
  rcases join_split "aa" "aaaaxaaa" with ⟨others, isSplit, joined, -, held⟩
  have sameValues : parts.map Value.text = others.map Value.text :=
    Value.array.inj (found.symm.trans isSplit)
  have same : parts = others := List.map_injective_iff.mpr (fun _ _ => Value.text.inj) sameValues
  subst same
  exact ⟨some', found, joined, (held some').2⟩

end TemplateLang.Helper
