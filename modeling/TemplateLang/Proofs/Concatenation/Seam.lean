import TemplateLang.Proofs.Locality.Template
import TemplateLang.Proofs.RoundTrip.Grouped

/-!
# Two templates in a row

The text of a template and that of another one after it are together the text of a template,
unless a brace on each side makes an opening mark at the seam.  Its elements are those of the
first template and then those of the second, moved to their places.  Raw text that ends the
first and raw text that begins the second are one run.
-/

namespace TemplateLang

open Cursor

/-- Elements and those after them, where raw text goes on across the seam. -/
def joinElements : List Element → List Element → List Element
  | [], others => others
  | [.raw text span], .raw text' span' :: others =>
    .raw (text ++ text') (span.union span') :: others
  | element :: pieces, others => element :: joinElements pieces others

namespace Grammar

variable {around : Around} {setting : Setting} {cursor next : Cursor} {pieces : List Element}

/-! ## Raw text at the seam -/

/-- A character that begins no opening mark is raw text. -/
theorem rawText_cons {c : Char} {text : List Char}
    (noMark : startsWithMark (c :: text) setting.tags.opening.toList = false) :
    rawText setting (c :: text) = c :: rawText setting text := by
  unfold rawText
  dsimp only
  split
  · rfl
  · rename_i someMark
    rw [startsWithMark, Bool.and_eq_false_iff, Bool.not_eq_false'] at noMark
    rw [cutBefore?, noMark.resolve_left someMark, if_neg Bool.false_ne_true]
    cases cutBefore? setting.tags.opening.toList text <;> rfl

/-- No raw text stands where an opening mark begins. -/
theorem rawText_eq_nil {text : List Char}
    (stops : text = [] ∨ startsWithMark text setting.tags.opening.toList = true) :
    rawText setting text = [] := by
  rcases stops with rfl | starts
  · rcases rawText_spec setting [] with ⟨after, split, -⟩
    exact (List.append_eq_nil_iff.mp split.symm).1
  · apply Decidable.byContradiction
    intro someText
    rw [no_tag_of_rawText someText] at starts
    exact Bool.noConfusion starts

/-- Text without an opening mark is raw, and raw text goes on after it, if no mark begins at
its end. -/
theorem rawText_append_of_apart (standard : setting.tags = Delimiters.standard)
    {front back : List Char} (free : ¬ setting.tags.opening.toList <:+: front)
    (apart : front.getLast? = some '\x7b' → back.head? ≠ some '\x7b') :
    rawText setting (front ++ back) = front ++ rawText setting back := by
  have markEq : setting.tags.opening.toList = ['\x7b', '\x7b'] := by rw [standard]; decide
  rw [markEq] at free
  induction front with
  | nil => rfl
  | cons c front ih =>
    have noMark : startsWithMark (c :: (front ++ back)) setting.tags.opening.toList = false := by
      rw [Bool.eq_false_iff]
      intro starts
      rw [markEq] at starts
      rcases (startsWithMark_iff.mp starts).2 with ⟨rest, restEq⟩
      rcases List.cons.inj restEq with ⟨rfl, restEq'⟩
      cases front with
      | nil => exact apart rfl (congrArg List.head? restEq'.symm)
      | cons d front =>
        rcases List.cons.inj restEq' with ⟨rfl, -⟩
        exact free (List.prefix_append _ front).isInfix
    rw [List.cons_append, rawText_cons noMark, ih, List.cons_append]
    · exact fun within => free (within.trans (List.suffix_cons c front).isInfix)
    · intro isLast
      apply apart
      rw [List.getLast?_cons, isLast]
      rfl

/-- Raw text up to the end of the text is all of the text. -/
theorem rawText_of_ended (ended : (raw setting cursor).2.rest = []) :
    rawText setting cursor.rest = cursor.rest := by
  rcases rawText_spec setting cursor.rest with ⟨after, split, -⟩
  have crosses : cursor.Crosses (rawText setting cursor.rest) (raw setting cursor).2 :=
    crosses_of_rest split
  have restEq := crosses.1
  rw [ended, List.append_nil] at restEq
  exact restEq.symm

theorem spanTo_union {start middle stop : Cursor} (front : start.Reaches middle)
    (back : middle.Reaches stop) :
    (start.spanTo middle).union (middle.spanTo stop) = start.spanTo stop := by
  have ordered := front.offset_le
  have ordered' := back.offset_le
  simp only [spanTo, Span.between, Span.union, Span.mk.injEq]
  omega

theorem crosses_seam (ended : (raw setting cursor).2.rest = []) :
    (cursor.inside around).Crosses cursor.rest ((raw setting cursor).2.inside around) := by
  have crosses : cursor.Crosses cursor.rest (raw setting cursor).2 := by
    rw [raw_eq, rawText_of_ended ended]
    exact crosses_of_rest (List.append_nil _).symm
  exact crosses.inside

section

variable (standard : setting.tags = Delimiters.standard)
  (ended : (raw setting cursor).2.rest = [])
  (apart : cursor.rest.getLast? = some '\x7b' → around.after.head? ≠ some '\x7b')

include standard ended apart

/-- Raw text up to the end of the text goes on with what comes after it. -/
theorem rawText_inside :
    rawText setting (cursor.inside around).rest =
      cursor.rest ++ rawText setting around.after := by
  have someOpening : setting.tags.opening ≠ "" := by rw [standard]; decide
  rcases rawText_spec setting cursor.rest with ⟨after, -, free, -⟩
  have freeHere := free someOpening
  rw [rawText_of_ended ended] at freeHere
  exact rawText_append_of_apart standard freeHere apart

/-- A run of raw text from before the seam ends where the one from the seam on ends. -/
theorem raw_inside_of_ended {seam : Cursor}
    (seamEq : (raw setting cursor).2.inside around = seam) :
    raw setting (cursor.inside around) =
      (.raw (String.ofList (cursor.rest ++ rawText setting seam.rest))
        ((cursor.inside around).spanTo (raw setting seam).2), (raw setting seam).2) := by
  have seamRest : seam.rest = around.after := by
    rw [← seamEq, rest_inside, ended, List.nil_append]
  have before : (cursor.inside around).Crosses cursor.rest seam := seamEq ▸ crosses_seam ended
  have after : seam.Crosses (rawText setting seam.rest) (raw setting seam).2 := by
    rcases rawText_spec setting seam.rest with ⟨back, split, -⟩
    exact crosses_of_rest split
  rw [raw_eq, rawText_inside standard ended apart, ← seamRest, ← (before.trans after).2]

variable (notDone : cursor.rest ≠ [])

include notDone

/-- Raw text from before the seam is read up to where the run from the seam on ends. -/
theorem derives_raw_seam {others : List Element} {seam stop : Cursor}
    (seamEq : (raw setting cursor).2.inside around = seam)
    (later : DerivesBlock setting (.elements [] others) (raw setting seam).2 stop) :
    DerivesBlock setting
      (.elements [] (.raw (String.ofList (cursor.rest ++ rawText setting seam.rest))
        ((cursor.inside around).spanTo (raw setting seam).2) :: others))
      (cursor.inside around) stop := by
  have rawEq := raw_inside_of_ended standard ended apart seamEq
  have noTag : startsWithMark (cursor.inside around).rest setting.tags.opening.toList = false := by
    apply no_tag_of_rawText
    rw [rawText_inside standard ended apart]
    exact fun empty => notDone (List.append_eq_nil_iff.mp empty).1
  have goesOn : ((cursor.inside around).rest.isEmpty ||
      atBlockWord setting [] (cursor.inside around)) = false := by
    rw [atBlockWord_nil, Bool.or_false, Bool.eq_false_iff, Ne, List.isEmpty_iff, rest_inside,
      List.append_eq_nil_iff]
    exact fun both => notDone both.1
  have later' :
      DerivesBlock setting (.elements [] others) (raw setting (cursor.inside around)).2 stop := by
    rw [rawEq]
    exact later
  have whole := DerivesBlock.raw goesOn noTag later'
  rw [rawEq] at whole
  exact whole

/-- Raw text up to the seam is joined with the elements after the seam. -/
theorem derives_joined_raw {others : List Element} {stop : Cursor}
    (later : DerivesBlock setting (.elements [] others) ((raw setting cursor).2.inside around)
      stop) :
    DerivesBlock setting
      (.elements [] (joinElements [(raw setting cursor).1.shift around.distance] others))
      (cursor.inside around) stop := by
  have reaches : (cursor.inside around).Reaches ((raw setting cursor).2.inside around) :=
    ⟨_, (crosses_seam ended).2.symm⟩
  have elementEq : (raw setting cursor).1.shift around.distance =
      .raw (String.ofList cursor.rest)
        ((cursor.inside around).spanTo ((raw setting cursor).2.inside around)) := by
    rw [spanTo_inside, raw_eq, rawText_of_ended ended]
    rfl
  rw [elementEq]
  generalize seamEq : (raw setting cursor).2.inside around = seam at later reaches ⊢
  have whole {pieces : List Element}
      (derived : DerivesBlock setting (.elements [] pieces) (raw setting seam).2 stop) :=
    derives_raw_seam standard ended apart notDone seamEq derived
  -- without raw text after the seam the run ends there
  have alone {pieces : List Element} (stops : seam.rest = [] ∨
      startsWithMark seam.rest setting.tags.opening.toList = true)
      (derived : DerivesBlock setting (.elements [] pieces) seam stop) :
      DerivesBlock setting
        (.elements [] (.raw (String.ofList cursor.rest) ((cursor.inside around).spanTo seam) ::
          pieces))
        (cursor.inside around) stop := by
    have noText := rawText_eq_nil stops
    have stays : (raw setting seam).2 = seam := by
      rw [raw_eq, noText]
      exact skip_zero seam
    rw [noText, List.append_nil, stays] at whole
    exact whole derived
  cases later with
  | elementsEnd ends =>
    rw [atBlockWord_nil, Bool.or_false] at ends
    exact alone (.inl (List.isEmpty_iff.mp ends)) (.elementsEnd (by rw [ends]; rfl))
  | tag goesOn opens content closes others =>
    exact alone (.inr (openingTag_eq_ok.mp opens).1) (.tag goesOn opens content closes others)
  | raw _ _ others =>
    rw [raw_eq, joinElements, ← String.ofList_append, spanTo_union reaches (reaches_skip _ _)]
    exact whole others

end

/-! ## All elements -/

/-- Elements up to the end of a text are none where the text has ended. -/
theorem eq_nil_of_ended (derived : DerivesBlock setting (.elements [] pieces) cursor next)
    (ended : cursor.rest = []) : pieces = [] ∧ next = cursor := by
  cases derived with
  | elementsEnd => exact ⟨rfl, rfl⟩
  | raw goesOn => simp [ended] at goesOn
  | tag goesOn => simp [ended] at goesOn

/-- What does not end at an opening brace has no such end after any of its places. -/
theorem apart_of_reaches {middle : Cursor} (reaches : cursor.Reaches middle)
    (apart : cursor.rest.getLast? = some '\x7b' → around.after.head? ≠ some '\x7b') :
    middle.rest.getLast? = some '\x7b' → around.after.head? ≠ some '\x7b' := by
  intro isLast
  apply apart
  rcases reaches.exists_passed with ⟨passed, restEq, -⟩
  rw [restEq, List.getLast?_append, isLast]
  rfl

/-- Elements up to the end of a text are joined with those that are read after the text. -/
theorem DerivesBlock.joined (derived : DerivesBlock setting (.elements [] pieces) cursor next)
    (standard : setting.tags = Delimiters.standard)
    (apart : cursor.rest.getLast? = some '\x7b' → around.after.head? ≠ some '\x7b')
    {others : List Element} {stop : Cursor}
    (later : DerivesBlock setting (.elements [] others) (next.inside around) stop) :
    DerivesBlock setting (.elements [] (joinElements (shiftIn around.distance pieces) others))
      (cursor.inside around) stop := by
  generalize goalEq : BlockGoal.elements [] pieces = goal at derived
  induction derived generalizing pieces with
  | elementsEnd =>
    rcases BlockGoal.elements.inj goalEq with ⟨rfl, rfl⟩
    exact later
  | @raw setting stops elements cursor next goesOn noTag rest ih =>
    rcases BlockGoal.elements.inj goalEq with ⟨rfl, rfl⟩
    by_cases ended : (Grammar.raw setting cursor).2.rest = []
    · have notDone : cursor.rest ≠ [] := by
        rintro atEnd
        simp [atEnd] at goesOn
      rcases eq_nil_of_ended rest ended with ⟨rfl, rfl⟩
      exact derives_joined_raw standard ended apart notDone later
    · have joined := raw_inside goesOn noTag (fun atEnd => absurd atEnd ended)
        (ih standard (apart_of_reaches (reaches_raw setting cursor) apart) later rfl)
      cases rest with
      | elementsEnd ends =>
        rw [atBlockWord_nil, Bool.or_false, List.isEmpty_iff] at ends
        exact absurd ends ended
      | raw => exact joined
      | tag => exact joined
  | tag goesOn opens content closes rest _ ih =>
    rcases BlockGoal.elements.inj goalEq with ⟨rfl, rfl⟩
    have reaches := ((reaches_of_openingTag opens).trans content.reaches).trans
      (reaches_of_closingTag closes)
    exact tag_inside standard goesOn opens content.reaches (content.inside standard around) closes
      (ih standard (apart_of_reaches reaches apart) later rfl)
  | _ => simp at goalEq

end Grammar

open Grammar

/-- A text with another one after it, from the start on. -/
theorem inside_ofSource (source after : List Char) :
    (ofSource source).inside ⟨[], after⟩ = ofSource (source ++ after) := by
  apply Cursor.ext
  · rfl
  · rfl
  · exact (byteLength_append source after).symm

/-- The end of a text with another one after it is the start of that one. -/
theorem inside_of_ended {source after : List Char} {next : Cursor}
    (reaches : (ofSource source).Reaches next) (ended : next.rest = []) :
    next.inside ⟨[], after⟩ = (ofSource after).inside ⟨source, []⟩ := by
  rcases reaches.exists_passed with ⟨passed, restEq, offsetEq⟩
  rw [ended, List.append_nil] at restEq
  have limitEq := next.limit_eq
  rw [ended] at limitEq
  change source = passed at restEq
  change next.offset = 0 + byteLength passed at offsetEq
  apply Cursor.ext
  · rw [offset_inside, offsetEq, ← restEq]
    rfl
  · rw [rest_inside, rest_inside, ended, List.nil_append, List.append_nil]
    rfl
  · change next.limit + byteLength [] + byteLength after =
      byteLength after + byteLength source + byteLength []
    rw [← limitEq, offsetEq, restEq, byteLength_nil]
    omega

/-- Two templates in a row are read as one, if no opening mark stands at the seam. -/
theorem parse_append {source source' : List Char} {template template' : Template}
    (read : parse Delimiters.standard source = .ok template)
    (read' : parse Delimiters.standard source' = .ok template')
    (apart : ¬ (source.getLast? = some '\x7b' ∧ source'.head? = some '\x7b')) :
    parse Delimiters.standard (source ++ source') =
      .ok ⟨joinElements template.elements (shiftIn (byteLength source) template'.elements)⟩ := by
  rcases derivesBlock_of_parse read with ⟨next, derived⟩
  rcases derivesBlock_of_parse read' with ⟨next', derived'⟩
  have later := derived'.inside rfl ⟨source, []⟩ ⟨.inl rfl, fun _ _ _ => .inl rfl⟩
  rw [← inside_of_ended derived.reaches derived.atEnd] at later
  have joined := derived.joined rfl (fun isLast isFirst => apart ⟨isLast, isFirst⟩) later
  rw [inside_ofSource] at joined
  have read'' := parse_of_derivesBlock joined
  simp only [Around.distance, byteLength_nil, shiftIn_zero] at read''
  exact read''

end TemplateLang
