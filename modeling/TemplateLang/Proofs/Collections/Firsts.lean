import TemplateLang.Proofs.Values.Equality

/-!
# The first of equal items

`uniq` compares an item with those it has kept, not with all that came before.  That is enough
since equality is transitive: what equals an item that was left out equals the one that was kept
for it.  So an item is kept if nothing before it equals it, whatever the order of the keys in its
objects.
-/

namespace TemplateLang.Helper

open Value

variable {kept items : List Value}

/-- What is kept equals nothing before it: neither what was kept, nor what was left out since that
equals something that was kept. -/
theorem firstsAfter_isFirst (formedKept : ∀ item ∈ kept, item.WellFormed)
    (formed : ∀ item ∈ items, item.WellFormed) {x : Value} (isKept : x ∈ firstsAfter kept items) :
    ∃ front back, items = front ++ x :: back ∧ ∀ y ∈ kept ++ front, y.equals x = false := by
  fun_induction firstsAfter kept items with
  | case1 => exact absurd isKept List.not_mem_nil
  | case2 kept item rest isOld ih =>
    obtain ⟨formedItem, formedRest⟩ := List.forall_mem_cons.mp formed
    obtain ⟨front, back, rfl, unequal⟩ := ih formedKept formedRest isKept
    obtain ⟨known, isKnown, same⟩ := List.any_eq_true.mp isOld
    have formedX : x.WellFormed := formedRest x (by simp)
    have differs : item.equals x = false := by
      rw [← Bool.not_eq_true]
      intro same'
      have alike : known.equals x = true :=
        equals_trans (formedKept known isKnown) formedItem formedX same same'
      rw [unequal known (List.mem_append_left _ isKnown)] at alike
      exact Bool.false_ne_true alike
    refine ⟨item :: front, back, rfl, fun y isBefore => ?_⟩
    rcases List.mem_append.mp isBefore with isEarlier | isIn
    · exact unequal y (List.mem_append_left _ isEarlier)
    · rcases List.mem_cons.mp isIn with rfl | isLater
      · exact differs
      · exact unequal y (List.mem_append_right _ isLater)
  | case3 kept item rest isNew ih =>
    obtain ⟨formedItem, formedRest⟩ := List.forall_mem_cons.mp formed
    rcases List.mem_cons.mp isKept with rfl | isLater
    · exact ⟨[], rest, rfl, by simpa using isNew⟩
    · have formedKept' : ∀ known ∈ kept ++ [item], known.WellFormed := by
        intro known isKnown
        rcases List.mem_append.mp isKnown with isEarlier | isIn
        · exact formedKept known isEarlier
        · rwa [List.mem_singleton.mp isIn]
      obtain ⟨front, back, rfl, unequal⟩ := ih formedKept' formedRest isLater
      exact ⟨item :: front, back, rfl, by simpa using unequal⟩

/-- Items that differ from each other and from what was kept are all kept. -/
theorem firstsAfter_of_unequal
    (unequalKept : ∀ x ∈ kept, ∀ y ∈ items, x.equals y = false)
    (unequal : items.Pairwise fun x y => x.equals y = false) : firstsAfter kept items = items := by
  induction items generalizing kept with
  | nil => rfl
  | cons item rest ih =>
    obtain ⟨differs, unequalRest⟩ := List.pairwise_cons.mp unequal
    have isNew : ¬ kept.any (·.equals item) = true := by
      simpa using fun x isKept => unequalKept x isKept item List.mem_cons_self
    rw [firstsAfter, if_neg isNew, ih _ unequalRest]
    intro x isKept y isIn
    rcases List.mem_append.mp isKept with isOld | isItem
    · exact unequalKept x isOld y (List.mem_cons_of_mem item isIn)
    · rw [List.mem_singleton.mp isItem]
      exact differs y isIn

/-- What is kept is kept again. -/
theorem firsts_firsts (items : List Value) : firsts (firsts items) = firsts items :=
  firstsAfter_of_unequal (List.forall_mem_nil _) (firstsAfter_unequal [] items).2

/-- `uniq` keeps the first of the items that equal each other: those are in their order, no two
of them equal, every item equals one of them, and nothing before one of them in the array equals
it.  Of what is kept nothing is left out again. -/
theorem uniq_firsts (formed : ∀ item ∈ items, item.WellFormed)
    (noNaN : ∀ item ∈ items, Number.nan ∉ item.numbers) :
    ∃ kept, uniq [array items] = .ok (array kept) ∧ kept.Sublist items ∧
      (kept.Pairwise fun x y => x.equals y = false ∧ y.equals x = false) ∧
      (∀ item ∈ items, ∃ x ∈ kept, x.equals item = true) ∧
      (∀ x ∈ kept, ∃ front back, items = front ++ x :: back ∧
        ∀ y ∈ front, y.equals x = false) ∧
      uniq [array kept] = .ok (array kept) := by
  have isSublist : (firsts items).Sublist items := firstsAfter_sublist [] items
  refine ⟨firsts items, rfl, isSublist, ?_, ?_, ?_, ?_⟩
  · refine (firstsAfter_unequal [] items).2.imp_of_mem fun {x y} isFirst isSecond differs => ?_
    refine ⟨differs, ?_⟩
    rw [← Bool.not_eq_true] at differs ⊢
    exact mt (equals_symm (formed y (isSublist.subset isSecond))
      (formed x (isSublist.subset isFirst))) differs
  · intro item isIn
    rcases firstsAfter_covers [] items item isIn with isKept | covered
    · exact ⟨item, isKept, (equals_self_iff (formed item isIn)).mpr (noNaN item isIn)⟩
    · exact covered
  · intro x isKept
    exact firstsAfter_isFirst (List.forall_mem_nil _) formed isKept
  · exact congrArg (fun kept => Except.ok (array kept)) (firsts_firsts items)

/-- Of two objects with their keys in different orders and the two zeros, each first one. -/
theorem uniq_firsts_reordered :
    let items := [object [("a", null), ("b", text "x")], number (.zero true),
      object [("b", text "x"), ("a", null)], number (.zero false)]
    (∀ item ∈ items, item.WellFormed) ∧ (∀ item ∈ items, Number.nan ∉ item.numbers) ∧
      uniq [array items] =
        .ok (array [object [("a", null), ("b", text "x")], number (.zero true)]) ∧
      (object [("a", null), ("b", text "x")]).equals (number (.zero true)) = false := by
  intro items
  have formed : ∀ item ∈ items, item.WellFormed := by
    simp [items, WellFormed, WellFormedEntries]
  have noNaN : ∀ item ∈ items, Number.nan ∉ item.numbers := by
    simp [items, numbers, numbersOfEntries, Number.zero]
  obtain ⟨kept, result, -, unequal, -⟩ := uniq_firsts formed noNaN
  have found : uniq [array items] =
      .ok (array [object [("a", null), ("b", text "x")], number (.zero true)]) := by
    rfl
  obtain rfl := array.inj (Except.ok.inj (result.symm.trans found))
  exact ⟨formed, noNaN, found, (List.rel_of_pairwise_cons unequal List.mem_cons_self).1⟩

end TemplateLang.Helper
