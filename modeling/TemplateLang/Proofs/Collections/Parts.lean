import TemplateLang.Helper.Sliced
import TemplateLang.Proofs.Lines.Positions

/-!
# Parts of arrays and texts

`slice` takes the items between two positions.  Every finite number is a position: without its
fraction, counted from the end if negative, and moved between the ends.  So a number cuts an
array or a text into two parts that make it up again.

With the length and the positions as doubles the same part is found, for up to `2 ^ 53` items,
and only ends that are not in order make it no range of the items.
-/

namespace TemplateLang.Helper

open Number

variable {α : Type}

/-! ## Items between positions -/

/-- The position among so many items that an integer leads to. -/
def placeAmong (length : Nat) (n : Int) : Nat :=
  (max 0 (min (if n < 0 then length + n else n) length)).toNat

theorem placeAmong_le (length : Nat) (n : Int) : placeAmong length n ≤ length := by
  unfold placeAmong
  omega

theorem placeAmong_zero (length : Nat) : placeAmong length 0 = 0 := by
  unfold placeAmong
  omega

theorem relativePosition_eq {x : Number} {n : Int} (cutTo : x.truncate? = some n) (length : Nat) :
    relativePosition length x = placeAmong length n := by
  unfold relativePosition placeAmong
  rw [cutTo]
  dsimp only
  split <;> omega

/-- Positions that are counted from `first` on do not tell ranges apart that agree from there. -/
theorem filter_between_congr (items : List α) {first start stop start' stop' : Nat}
    (same : ∀ i, first ≤ i → (start ≤ i ∧ i < stop ↔ start' ≤ i ∧ i < stop')) :
    ((items.zipIdx first).filter fun entry => start ≤ entry.2 ∧ entry.2 < stop) =
      (items.zipIdx first).filter fun entry => start' ≤ entry.2 ∧ entry.2 < stop' := by
  apply List.filter_congr
  intro entry isIn
  exact decide_eq_decide.mpr (same entry.2 (List.le_snd_of_mem_zipIdx isIn))

theorem part_eq_filterFrom (items : List α) (first start stop : Nat) :
    part items start stop = ((items.zipIdx first).filter fun entry =>
      first + start ≤ entry.2 ∧ entry.2 < first + stop).map Prod.fst := by
  induction items generalizing first start stop with
  | nil => simp [part]
  | cons item rest ih =>
    rw [List.zipIdx_cons, List.filter_cons]
    cases stop with
    | zero =>
      have noItem : part (item :: rest) start 0 = part rest 0 0 := by simp [part]
      rw [if_neg (by simp), noItem, ih (first + 1)]
      exact congrArg (List.map Prod.fst) (filter_between_congr rest fun i _ => by omega)
    | succ stop =>
      cases start with
      | zero =>
        have isFirst : part (item :: rest) 0 (stop + 1) = item :: part rest 0 stop := rfl
        rw [if_pos (by simp), isFirst, ih (first + 1), List.map_cons]
        exact congrArg (item :: List.map Prod.fst ·)
          (filter_between_congr rest fun i _ => by omega)
      | succ start =>
        have isLater : part (item :: rest) (start + 1) (stop + 1) = part rest start stop := rfl
        rw [if_neg (by simp), isLater, ih (first + 1)]
        exact congrArg (List.map Prod.fst) (filter_between_congr rest fun i _ => by omega)

/-- A part consists of the items whose positions lie between its ends. -/
theorem part_eq_filter (items : List α) (start stop : Nat) :
    part items start stop =
      (items.zipIdx.filter fun entry => start ≤ entry.2 ∧ entry.2 < stop).map Prod.fst := by
  simpa using part_eq_filterFrom items 0 start stop

/-- What comes before a position and what comes from it on are everything. -/
theorem part_append_part (items : List α) (place : Nat) :
    part items 0 place ++ part items place items.length = items := by
  rw [part, part, List.drop_zero, List.take_length, List.take_append_drop]

theorem part_eq_nil (items : List α) {start stop : Nat} (inverted : stop ≤ start) :
    part items start stop = [] :=
  List.drop_eq_nil_of_le ((List.length_take_le _ _).trans inverted)

/-! ## Parts in doubles -/

/-- Up to `2 ^ 53` items a double leads to the same position as an integer. -/
theorem relativeIndex?_eq {length : Nat} (few : length ≤ 2 ^ 53) (x : Number) :
    relativeIndex? length x = some (relativePosition length x) := by
  have isZero : (zero false).toInt? = some 0 := toInt?_zero
  have isCount : (ofInt length).toInt? = some (length : Int) := toInt?_ofInt_of_le few
  unfold relativeIndex?
  dsimp only
  cases x with
  | nan => exact toSize_clamp? (x := nan) few nofun
  | infinite s =>
    cases s with
    | false => exact toSize_clamp? (x := infinite false) few nofun
    | true =>
      have sum : ofInt length + infinite true = infinite true := by
        rcases eq_finite_of_toInt? isCount with ⟨_, _, _, _, count⟩
        rw [count]
        rfl
      change (clamp? _ _ (ofInt length + infinite true)).map toSize = _
      rw [sum]
      exact toSize_clamp? (x := infinite true) few nofun
  | finite s m e canonical =>
    have isInt := toInt?_trunc (x := finite s m e canonical) rfl
    have cutTo : (finite s m e canonical).truncate? = some _ := rfl
    generalize signed s _ = n at isInt cutTo
    generalize finite s m e canonical = x at isInt cutTo ⊢
    rw [less_of_toInt? isInt isZero, relativePosition, cutTo]
    dsimp only
    by_cases fromEnd : n < 0
    · have clamped := toSize_clamp? few fun _ => toInt?_of_truncate?_add isCount isInt
      have place : min (length + n).toNat length = (length + n).toNat := by omega
      rw [if_pos (decide_eq_true fromEnd), if_pos fromEnd, clamped, clampTo_add few isCount isInt,
        place]
    · rw [if_neg (by simpa using fromEnd), if_neg fromEnd,
        toSize_clamp? few fun _ => toInt?_of_truncate?_trunc, clampTo_of_toInt? isInt]

/-- Positions among the items that are in order make a range of them. -/
theorem range?_eq_some (items : List α) {start stop : Nat} (ordered : start ≤ stop)
    (within : stop ≤ items.length) : range? items start stop = some (part items start stop) :=
  if_pos ⟨ordered, within⟩

/-- Where ends that are not in order make no range, the part is empty. -/
theorem getD_range? (items : List α) {start stop : Nat} (within : stop ≤ items.length) :
    (range? items start stop).getD [] = part items start stop := by
  rcases Nat.lt_or_ge stop start with inverted | ordered
  · rw [range?, if_neg (by omega), Option.getD_none, part_eq_nil items (Nat.le_of_lt inverted)]
  · rw [range?_eq_some items ordered within, Option.getD_some]

/-! ## The helper -/

/-- What has parts: arrays of values and texts of characters. -/
inductive Sequence : {α : Type} → (List α → Value) → Prop where
  | array : Sequence Value.array
  | text : Sequence fun characters => Value.text (String.ofList characters)

section

variable {whole : List α → Value} (sequence : Sequence whole) (items : List α)

include sequence

theorem slice_from (start : Number) :
    slice [whole items, .number start] = .ok (whole (partBetween items start none)) := by
  cases sequence with
  | array => rfl
  | text =>
    change Except.ok (Value.text (String.ofList (partBetween (String.ofList items).toList _ _))) = _
    rw [String.toList_ofList]
    rfl

theorem slice_between (start stop : Number) :
    slice [whole items, .number start, .number stop] =
      .ok (whole (partBetween items start (some stop))) := by
  cases sequence with
  | array => rfl
  | text =>
    change Except.ok (Value.text (String.ofList (partBetween (String.ofList items).toList _ _))) = _
    rw [String.toList_ofList]
    rfl

/-- An array or a text is the part before a finite number and the part from it on.  Two finite
numbers mark the items whose positions lie between the places that they lead to: a range of the
items, of which none is missing, or none if the places are not in order.  With up to `2 ^ 53`
items the same places and the same part are found in doubles. -/
theorem slice_partitions {j k : Number} {m n : Int} (cutFirst : j.truncate? = some m)
    (cutSecond : k.truncate? = some n) :
    (∃ front back,
      slice [whole items, .number (.zero false), .number k] = .ok (whole front) ∧
      slice [whole items, .number k] = .ok (whole back) ∧ front ++ back = items) ∧
    ∃ kept,
      slice [whole items, .number j, .number k] = .ok (whole kept) ∧
      kept = (items.zipIdx.filter fun entry =>
        placeAmong items.length m ≤ entry.2 ∧ entry.2 < placeAmong items.length n).map Prod.fst ∧
      (placeAmong items.length n ≤ placeAmong items.length m → kept = []) ∧
      (placeAmong items.length m ≤ placeAmong items.length n →
        range? items (placeAmong items.length m) (placeAmong items.length n) = some kept) ∧
      (items.length ≤ 2 ^ 53 →
        relativeIndex? items.length j = some (placeAmong items.length m) ∧
        relativeIndex? items.length k = some (placeAmong items.length n) ∧
        partBetween? items j (some k) = some kept) := by
  have isZero : (Number.zero false).truncate? = some 0 := truncate?_of_toInt? toInt?_zero
  have places : partBetween items j (some k) =
      part items (placeAmong items.length m) (placeAmong items.length n) := by
    rw [partBetween, relativePosition_eq cutFirst, Option.map_some, Option.getD_some,
      relativePosition_eq cutSecond]
  have within := placeAmong_le items.length n
  constructor
  · refine ⟨_, _, slice_between sequence items _ _, slice_from sequence items _, ?_⟩
    rw [partBetween, partBetween, Option.map_some, Option.map_none, Option.getD_some,
      Option.getD_none, relativePosition_eq isZero, placeAmong_zero]
    exact part_append_part items _
  · refine ⟨_, slice_between sequence items j k, ?_, ?_, ?_, ?_⟩
    · rw [places]
      exact part_eq_filter items _ _
    · intro inverted
      rw [places]
      exact part_eq_nil items inverted
    · intro ordered
      rw [places]
      exact range?_eq_some items ordered within
    · intro few
      have first := relativeIndex?_eq few j
      have second := relativeIndex?_eq few k
      rw [relativePosition_eq cutFirst] at first
      rw [relativePosition_eq cutSecond] at second
      refine ⟨first, second, ?_⟩
      unfold partBetween?
      rw [first, places, ← getD_range? items within]
      simp only [second, Option.bind_eq_bind, Option.bind_some]

end

/-- From three and a half characters before the end up to the fourth one, with a character of two
bytes before them. -/
theorem slice_partitions_fromEnd :
    let items := ['h', 'é', 'l', 'l', 'o']
    Sequence (fun characters => Value.text (String.ofList characters)) ∧
      (Number.ofInt (-7) / Number.ofInt 2).truncate? = some (-3) ∧
      (Number.ofInt 4).truncate? = some 4 ∧
      slice [.text (String.ofList items), .number (Number.ofInt (-7) / Number.ofInt 2),
        .number (Number.ofInt 4)] = .ok (.text "ll") ∧
      range? items 2 4 = some ['l', 'l'] ∧
      partBetween? items (Number.ofInt (-7) / Number.ofInt 2) (some (Number.ofInt 4)) =
        some ['l', 'l'] := by
  intro items
  have cutFirst : (Number.ofInt (-7) / Number.ofInt 2).truncate? = some (-3) := by decide
  have cutSecond : (Number.ofInt 4).truncate? = some 4 := by decide
  rcases slice_partitions .text items cutFirst cutSecond with
    ⟨-, kept, result, keptEq, -, isRange, doubles⟩
  have isKept : kept = ['l', 'l'] := by
    rw [keptEq]
    decide
  subst isKept
  exact ⟨.text, cutFirst, cutSecond, result, isRange (by decide), (doubles (by decide)).2.2⟩

end TemplateLang.Helper
