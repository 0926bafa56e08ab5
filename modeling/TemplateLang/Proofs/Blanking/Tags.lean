import TemplateLang.Proofs.Blanking.Expression
import TemplateLang.Proofs.RoundTrip.Blocks

/-!
# Tags and names with a blank for a comment

The ends of tags, the names that statements bind and raw text are read in twins alike.  An
opening end leads from a place outside of tags to one inside, and a closing end back.
-/

namespace TemplateLang

namespace Grammar

open Cursor

variable {gap : Gap} {setting : Setting} {cursor cursor' next : Cursor} {tag : Tag}

/-! ## The ends of tags -/

theorem afterOpening_eq (tags : Delimiters) (cursor : Cursor) :
    afterOpening tags cursor = cursor.skip
      (tags.opening.length + if (cursor.skip tags.opening.length).isAt ['-'] then 1 else 0) := by
  unfold afterOpening
  dsimp only
  split
  · rw [skip_skip]
  · rfl

/-- An opening end is read in both texts. -/
theorem openingTag_twin (standard : setting.tags = Delimiters.standard)
    (opens : openingTag setting cursor = .ok (tag, next)) (twin : Twin gap false cursor cursor') :
    ∃ tag' next', openingTag setting cursor' = .ok (tag', next') ∧ Twin gap true next next' ∧
      tag'.essence = tag.essence := by
  rcases openingTag_eq_ok.mp opens with ⟨starts, comments, inside, rfl⟩
  rw [standard] at starts inside
  have starts' : startsWithMark cursor'.rest Delimiters.standard.opening.toList = true :=
    (twin.blanked.startsWithMark_eq (by decide) (by decide)).trans starts
  -- No comment begins within the mark, so what follows it is alike.
  have trimsEq : (cursor'.skip 2).isAt ['-'] = (cursor.skip 2).isAt ['-'] := by
    rcases (startsWithMark_iff.mp starts).2 with ⟨rest, restEq⟩
    have blanked := twin.blanked
    rw [← restEq] at blanked
    rcases blanked.uncons (by decide) with ⟨rest₁, restEq₁, blanked₁⟩
    rcases blanked₁.uncons (by decide) with ⟨rest₂, rfl, blanked₂⟩
    refine isAt_blanked ?_ (by decide) (by decide)
    rw [rest_skip, rest_skip, restEq₁, ← restEq]
    exact blanked₂
  have step := Skims.single (skimStep_opening starts)
  have nextEq := afterOpening_eq Delimiters.standard cursor
  have nextEq' := afterOpening_eq Delimiters.standard cursor'
  have lengthEq : Delimiters.standard.opening.length = 2 := by decide
  rw [lengthEq] at nextEq nextEq'
  rw [trimsEq] at nextEq'
  have stepEq : (openingAt cursor).2 = afterOpening Delimiters.standard cursor := rfl
  rw [stepEq, nextEq] at step
  have moved := (twin.passed step (by simp [openingAt, Comment.token])).2
  rw [← nextEq, ← nextEq'] at moved
  rcases moved.trivia inside with ⟨comments', next', inside', twin', -⟩
  refine ⟨_, next', openingTag_eq_ok.mpr ⟨standard ▸ starts', comments', standard ▸ inside', rfl⟩,
    twin', ?_⟩
  simp only [Tag.essence, standard, lengthEq, trimsEq]

/-- A closing end is read in both texts. -/
theorem closingTag_twin (standard : setting.tags = Delimiters.standard)
    (closes : closingTag setting cursor = .ok (tag, next)) (aligned : Aligned gap cursor cursor') :
    ∃ tag' next', closingTag setting cursor' = .ok (tag', next') ∧ Twin gap false next next' ∧
      tag'.essence = tag.essence := by
  rcases closingTag_eq_ok.mp closes with ⟨comments, start, before, atMark, rfl, rfl⟩
  rcases aligned before with ⟨comments', start', before', twin, -⟩
  have atMark' := (twin.blanked.atClosing_eq standard).trans atMark
  have trimsEq : startsWithTrimmed start'.rest setting.tags.closing.toList =
      startsWithTrimmed start.rest setting.tags.closing.toList := by
    rw [standard]
    exact twin.blanked.startsWithTrimmed_eq (by decide) (by decide)
  rw [closes_of_tags standard] at atMark
  have step := Skims.single (skimStep_closing atMark)
  have moved := (twin.passed step (by simp [closingAt, Comment.token])).2
  refine ⟨_, _, closingTag_eq_ok.mpr ⟨comments', start', before', atMark', rfl, rfl⟩, ?_, ?_⟩
  · rw [trimsEq, standard]
    exact moved
  · simp only [Tag.essence, trimsEq]

/-- The end of a body is read in both texts. -/
theorem endsBody_twin {opening : Tag} {word : String}
    (standard : setting.tags = Delimiters.standard)
    (ends : EndsBody setting cursor opening word next) (twin : Twin gap false cursor cursor') :
    ∃ opening' next', EndsBody setting cursor' opening' word next' ∧ Twin gap true next next' ∧
      opening'.essence = opening.essence := by
  rcases ends with ⟨-, middle, opens, rfl, rfl⟩
  rcases openingTag_twin standard opens twin with ⟨opening', middle', opens', twin', essence⟩
  exact ⟨opening', _, ⟨isEmpty_of_openingTag opens', middle', opens',
    by rw [peekWord?_blanked twin'.blanked], rfl⟩, twin'.skipWord, essence⟩

/-! ## Names -/

theorem settled_of_word {word : String} (atWord : cursor.peekWord? = some word) :
    cursor.Settled := by
  rcases word_starts atWord with ⟨c, rest, restEq, starts⟩
  unfold Settled
  rw [restEq]
  have opens : Opens (c :: rest) := .primary (by simp [startsPrimary, starts])
  have settles := opens.settles []
  rwa [List.append_nil] at settles

/-- A name after blanks is bound in both texts. -/
theorem binding_twin {missing : Fault} {name : Identifier}
    (binds : binding missing cursor.skipBlanks = .ok (name, next))
    (twin : Twin gap true cursor cursor') :
    ∃ name' next', binding missing cursor'.skipBlanks = .ok (name', next') ∧
      Twin gap true next next' ∧ name'.essence = name.essence := by
  rcases binding_eq_ok.mp binds with ⟨atName, free, -, rfl⟩
  have twin' := twin.skipBlanks (settled_of_word atName)
  refine ⟨⟨name.name, cursor'.skipBlanks.spanTo cursor'.skipBlanks.skipWord⟩, _, ?_,
    twin'.skipWord, rfl⟩
  rw [binding_eq_ok, peekWord?_blanked twin'.blanked]
  exact ⟨atName, free, rfl, rfl⟩

/-- A declared name is read in both texts. -/
theorem declaration_twin {target : Identifier}
    (declares : declaration? cursor = some (target, next)) (twin : Twin gap true cursor cursor') :
    ∃ target' next', declaration? cursor' = some (target', next') ∧ Twin gap true next next' ∧
      target'.essence = target.essence := by
  rcases declaration?_eq_some_iff.mp declares with ⟨atWord, -, isAt, rfl⟩
  rcases isAt_iff.mp isAt with ⟨rest, restEq⟩
  have settled : cursor.skipWord.skipBlanks.Settled :=
    settled_of_isAt (isAt_singleton_iff.mpr ⟨_, restEq.symm⟩) (by decide) (by decide)
  have twin' := twin.skipWord.skipBlanks settled
  have isAt' := (isAt_blanked twin'.blanked (by decide) (by decide)).trans isAt
  have atWord' := (peekWord?_blanked twin.blanked).trans atWord
  exact ⟨⟨target.name, cursor'.spanTo cursor'.skipWord⟩, _,
    declaration?_eq_some_iff.mpr ⟨atWord', rfl, isAt', rfl⟩,
    twin'.skip (silent_symbol _ isAt (by decide)), rfl⟩

theorem requireIn_twin (wordIn : requireIn cursor = .ok next)
    (twin : Twin gap true cursor cursor') :
    ∃ next', requireIn cursor' = .ok next' ∧ Twin gap true next next' := by
  rcases requireIn_eq_ok.mp wordIn with ⟨isAt, rfl, apart⟩
  have isAt' := (isAt_blanked twin.blanked (by decide) (by decide)).trans isAt
  have twin' := twin.skip (silent_symbol _ isAt (by decide))
  refine ⟨_, requireIn_eq_ok.mpr ⟨isAt', rfl, fun c isFirst => ?_⟩, twin'⟩
  rcases twin'.blanked.head?_cases with same | ⟨-, blank⟩
  · exact apart c (same ▸ isFirst)
  · rcases Option.some.inj (blank.symm.trans isFirst) with rfl
    decide

theorem settled_of_requireIn (wordIn : requireIn cursor = .ok next) : cursor.Settled := by
  rcases isAt_iff.mp (requireIn_eq_ok.mp wordIn).1 with ⟨rest, restEq⟩
  exact settled_of_isAt (isAt_singleton_iff.mpr ⟨_, restEq.symm⟩) (by decide) (by decide)

/-- The index variable of a loop and the word after it are read in both texts. -/
theorem indexBinding_twin {index : Option Identifier} {afterIndex : Cursor}
    (binds : indexBinding cursor.skipBlanks = .ok (index, afterIndex))
    (wordIn : requireIn afterIndex = .ok next) (twin : Twin gap true cursor cursor') :
    ∃ index' afterIndex' next', indexBinding cursor'.skipBlanks = .ok (index', afterIndex') ∧
      requireIn afterIndex' = .ok next' ∧ Twin gap true next next' ∧
      index'.map Identifier.essence = index.map Identifier.essence := by
  rcases indexBinding_eq_ok.mp binds with
    ⟨comma, name, middle, read, rfl, rfl⟩ | ⟨noComma, rfl, rfl⟩
  · have twin' := twin.skipBlanks (settled_of_isAt comma (by decide) (by decide))
    rcases twin'.isAt comma (by decide) with ⟨comma', afterComma⟩
    rcases binding_twin read afterComma with ⟨name', middle', read', twinMiddle, essence⟩
    have atIn := twinMiddle.skipBlanks (settled_of_requireIn wordIn)
    rcases requireIn_twin wordIn atIn with ⟨next', wordIn', afterIn⟩
    have binds' := indexBinding_eq_ok.mpr (.inl ⟨comma', name', middle', read', rfl, rfl⟩)
    exact ⟨some name', _, next', binds', wordIn', afterIn, congrArg some essence⟩
  · have atIn := twin.skipBlanks (settled_of_requireIn wordIn)
    rcases requireIn_twin wordIn atIn with ⟨next', wordIn', afterIn⟩
    rw [← isAt_blanked atIn.blanked (by decide) (by decide)] at noComma
    have binds' := indexBinding_eq_ok.mpr (.inr ⟨noComma, rfl, rfl⟩)
    exact ⟨none, _, next', binds', wordIn', afterIn, rfl⟩

/-- All names of a loop are read in both texts. -/
theorem loopHead_twin {value : Identifier} {index : Option Identifier}
    {afterValue afterIndex : Cursor}
    (bindsValue : binding .missingLoopVariable cursor.skipBlanks = .ok (value, afterValue))
    (bindsIndex : indexBinding afterValue.skipBlanks = .ok (index, afterIndex))
    (wordIn : requireIn afterIndex = .ok next) (twin : Twin gap true cursor cursor') :
    ∃ value' index' afterValue' afterIndex' next',
      LoopHead value index cursor' next' value' index' afterValue' afterIndex' ∧
        Twin gap true next next' := by
  rcases binding_twin bindsValue twin with ⟨value', afterValue', bindsValue', twinValue, essence⟩
  rcases indexBinding_twin bindsIndex wordIn twinValue with
    ⟨index', afterIndex', next', bindsIndex', wordIn', afterIn, essenceIndex⟩
  exact ⟨value', index', afterValue', afterIndex', next',
    ⟨bindsValue', bindsIndex', wordIn', essence, essenceIndex⟩, afterIn⟩

/-! ## No declaration -/

/-- No colon comes after blanks where a tag is closed. -/
theorem not_colon_of_closingTag (standard : setting.tags = Delimiters.standard)
    (closes : closingTag setting cursor = .ok (tag, next)) :
    cursor.skipBlanks.isAt [':'] = false := by
  rcases closingTag_eq_ok.mp closes with ⟨comments, start, before, atMark, -, -⟩
  rw [Bool.eq_false_iff]
  intro isColon
  have settled := settled_of_isAt isColon (by decide) (by decide)
  rcases trivia_of_settled settled (trivia_skipBlanks.mpr before) with rfl
  rcases isAt_singleton_iff.mp isColon with ⟨rest, restEq⟩
  rw [closes_of_tags standard, closes_iff, restEq] at atMark
  simp at atMark

/-- No colon comes after blanks where an expression begins. -/
theorem not_colon_of_pipeline {expr : Expr}
    (derived : Derives setting (.pipeline expr) cursor next) :
    cursor.skipBlanks.isAt [':'] = false := by
  rcases derived.begins with ⟨comments, start, before, starts⟩
  exact notEnding_skipBlanks before starts.notEnding ':' (by simp)

/-! ## Raw text -/

/-- Raw text is read in both texts, up to the same opening mark. -/
theorem raw_twin (standard : setting.tags = Delimiters.standard) {stops : List String}
    (goesOn : (cursor.rest.isEmpty || atBlockWord setting stops cursor) = false)
    (noTag : startsWithMark cursor.rest setting.tags.opening.toList = false)
    (twin : Twin gap false cursor cursor') :
    ∃ span next', Grammar.raw setting cursor' =
        (.raw (String.ofList (rawText setting cursor.rest)) span, next') ∧
      startsWithMark cursor'.rest setting.tags.opening.toList = false ∧
      (cursor'.rest.isEmpty || atBlockWord setting stops cursor') = false ∧
      Twin gap false (Grammar.raw setting cursor).2 next' := by
  have notDone : cursor.rest ≠ [] := by
    rintro empty
    simp [empty] at goesOn
  have crosses : cursor.Crosses (rawText setting cursor.rest) (Grammar.raw setting cursor).2 := by
    rcases rawText_spec setting cursor.rest with ⟨after, split, -⟩
    exact crosses_of_rest split
  have skimmed := skims_raw standard notDone noTag
  rcases twin.crosses crosses skimmed (by simp [Element.outline, raw_eq, Comment.token]) with
    ⟨next', crosses', twin'⟩
  have blanked := twin'.blanked
  have ended : (Grammar.raw setting cursor).2.rest = [] → next'.rest = [] := by
    intro empty
    rw [empty] at blanked
    generalize next'.rest = text at blanked
    cases blanked
    rfl
  have stopped : next'.rest = [] ∨
      startsWithMark next'.rest setting.tags.opening.toList = true := by
    refine (raw_stops setting cursor).imp ended fun starts => ?_
    rw [standard] at starts ⊢
    exact (blanked.startsWithMark_eq (by decide) (by decide)).trans starts
  rcases raw_reads (rawText_ne_nil notDone noTag) crosses' stopped ended with
    ⟨rawEq, noTag', goesOn'⟩
  exact ⟨_, next', rawEq, noTag', goesOn' stops, twin'⟩

end Grammar

end TemplateLang
