import TemplateLang.Proofs.Grammar.Forward
import TemplateLang.Syntax.Parts

/-!
# Where the heads of a tag are read

Every expression of a template is read as a whole between the ends of its tag, and every
name that a tag binds was looked up among the reserved words.  So what holds of all
expressions that are read holds of all heads in a template.
-/

namespace TemplateLang

namespace Grammar

open Cursor

/-- A pipeline is read somewhere between two places. -/
def ReadBetween (start stop : Cursor) (expr : Expr) : Prop :=
  ∃ setting cursor next, start.Reaches cursor ∧ next.Reaches stop ∧
    Derives setting (.pipeline expr) cursor next

theorem ReadBetween.widen {start stop start' stop' : Cursor} {expr : Expr}
    (read : ReadBetween start stop expr) (before : start'.Reaches start)
    (after : stop.Reaches stop') : ReadBetween start' stop' expr := by
  rcases read with ⟨setting, cursor, next, reaches, reaches', derived⟩
  exact ⟨setting, cursor, next, before.trans reaches, reaches'.trans after, derived⟩

theorem Derives.readBetween {setting : Setting} {expr : Expr} {cursor next : Cursor}
    (derived : Derives setting (.pipeline expr) cursor next) : ReadBetween cursor next expr :=
  ⟨setting, cursor, next, .refl cursor, .refl next, derived⟩

/-- The heads of a statement are read between two places, and its names are free. -/
structure HeadsBetween (start stop : Cursor) (statement : Statement) : Prop where
  heads : ∀ expr ∈ statement.heads, ReadBetween start stop expr
  names : ∀ name ∈ statement.names, isReserved name.name = false

/-- The tags among elements stand between two places, each with its heads inside. -/
def TagsBetween (start stop : Cursor) (elements : List Element) : Prop :=
  ∀ statement span, HasTag elements statement span →
    ∃ opens closes : Cursor, start.Reaches opens ∧ opens.Reaches closes ∧ closes.Reaches stop ∧
      span = opens.spanTo closes ∧ HeadsBetween opens closes statement

theorem TagsBetween.widen {start stop start' stop' : Cursor} {elements : List Element}
    (between : TagsBetween start stop elements) (before : start'.Reaches start)
    (after : stop.Reaches stop') : TagsBetween start' stop' elements := by
  intro statement span has
  rcases between statement span has with ⟨opens, closes, first, inner, last, same, heads⟩
  exact ⟨opens, closes, before.trans first, inner, last.trans after, same, heads⟩

/-- Heads and bodies that stand between two places. -/
structure PiecesBetween (start stop : Cursor) (heads : List Expr) (bodies : List (List Element)) :
    Prop where
  heads : ∀ expr ∈ heads, ReadBetween start stop expr
  bodies : ∀ body ∈ bodies, TagsBetween start stop body

namespace PiecesBetween

variable {start stop : Cursor} {heads heads' : List Expr} {bodies bodies' : List (List Element)}

theorem widen {start' stop' : Cursor} (between : PiecesBetween start stop heads bodies)
    (before : start'.Reaches start) (after : stop.Reaches stop') :
    PiecesBetween start' stop' heads bodies where
  heads expr isHead := (between.heads expr isHead).widen before after
  bodies body isBody := (between.bodies body isBody).widen before after

theorem none : PiecesBetween start stop [] [] :=
  ⟨by simp, by simp⟩

theorem of_head {expr : Expr} (read : ReadBetween start stop expr) :
    PiecesBetween start stop [expr] [] :=
  ⟨by simpa using read, by simp⟩

theorem of_body {body : List Element} (between : TagsBetween start stop body) :
    PiecesBetween start stop [] [body] :=
  ⟨by simp, by simpa using between⟩

theorem of_head_body {expr : Expr} {body : List Element} (read : ReadBetween start stop expr)
    (between : TagsBetween start stop body) : PiecesBetween start stop [expr] [body] :=
  ⟨by simpa using read, by simpa using between⟩

theorem append (first : PiecesBetween start stop heads bodies)
    (second : PiecesBetween start stop heads' bodies') :
    PiecesBetween start stop (heads ++ heads') (bodies ++ bodies') where
  heads expr isHead :=
    (List.mem_append.mp isHead).elim (first.heads expr) (second.heads expr)
  bodies body isBody :=
    (List.mem_append.mp isBody).elim (first.bodies body) (second.bodies body)

end PiecesBetween

/-- Where the heads and tags of a goal stand, and which names it binds. -/
def BlockGoal.Between (start stop : Cursor) : BlockGoal → Prop
  | .elements _ pieces => TagsBetween start stop pieces
  | .statement whole =>
    PiecesBetween start stop whole.heads whole.bodies ∧
      ∀ name ∈ whole.names, isReserved name.name = false
  | .branch whole => PiecesBetween start stop whole.heads whole.bodies
  | .alternate whole => PiecesBetween start stop whole.heads whole.bodies

theorem free_of_binding {missing : Fault} {cursor next : Cursor} {name : Identifier}
    (binds : binding missing cursor = .ok (name, next)) : isReserved name.name = false :=
  (binding_eq_ok.mp binds).2.1

theorem free_of_indexBinding {cursor next : Cursor} {index : Option Identifier}
    (binds : indexBinding cursor = .ok (index, next)) :
    ∀ name ∈ index.toList, isReserved name.name = false := by
  rcases indexBinding_eq_ok.mp binds with ⟨-, _, _, read, rfl, -⟩ | ⟨-, rfl, -⟩
  · simpa using free_of_binding read
  · simp

/-- A tag before other elements. -/
theorem tagsBetween_cons {opening closing : Tag} {statement : Statement}
    {others : List Element} {cursor afterClosing next : Cursor}
    (reaches : cursor.Reaches afterClosing) (after : afterClosing.Reaches next)
    (content : BlockGoal.Between cursor afterClosing (.statement statement))
    (later : TagsBetween afterClosing next others) :
    TagsBetween cursor next
      (.tag opening statement closing (cursor.spanTo afterClosing) :: others) := by
  intro found span has
  rcases has.of_tag with ⟨rfl, rfl⟩ | ⟨body, isBody, deeper⟩ | has
  · exact ⟨cursor, afterClosing, .refl cursor, reaches, after, rfl, content.1.heads, content.2⟩
  · exact (content.1.bodies body isBody).widen (.refl cursor) after found span deeper
  · exact later.widen reaches (.refl next) found span has

/-- Whatever is derived has its tags, and the heads of its tags, between its ends. -/
theorem DerivesBlock.between {setting : Setting} {goal : BlockGoal} {cursor next : Cursor}
    (derived : DerivesBlock setting goal cursor next) : goal.Between cursor next := by
  induction derived with
  | elementsEnd _ => exact fun _ _ has => absurd has HasTag.not_nil
  | raw _ _ _ others =>
    exact fun statement span has =>
      (others.widen (reaches_raw _ _) (.refl _)) statement span has.of_raw
  | tag _ opens content closes after between others =>
    apply tagsBetween_cons _ after.reaches _ others
    · exact ((reaches_of_openingTag opens).trans content.reaches).trans
        (reaches_of_closingTag closes)
    · exact ⟨between.1.widen (reaches_of_openingTag opens) (reaches_of_closingTag closes),
        between.2⟩
  | empty _ => exact ⟨.none, by simp [Statement.names]⟩
  | assign _ declares allowed content =>
    constructor
    · exact .of_head (content.readBetween.widen (reaches_of_declaration? declares) (.refl _))
    · simpa [Statement.names] using allowed
  | branchStatement _ _ _ _ between => exact ⟨between, by simp [Statement.names]⟩
  | @loop _ _ _ _ _ _ _ _ _ cursor afterValue afterIndex _ _ afterHead _ next _ _ _ bindsValue
      bindsIndex wordIn head closes _ content ends body =>
    rcases requireIn_eq_ok.mp wordIn with ⟨-, rfl, -⟩
    have names : cursor.Reaches (afterIndex.skip 2) :=
      ((((reaches_skipWord _).trans (reaches_skipBlanks _)).trans
        (reaches_of_binding bindsValue)).trans
          ((reaches_skipBlanks _).trans (reaches_of_indexBinding bindsIndex))).trans
            (reaches_skip _ 2)
    have toHead := (names.trans head.reaches).trans (reaches_of_closingTag closes)
    have toEnd := content.reaches.trans ends.reaches
    constructor
    · apply PiecesBetween.of_head_body
      · exact head.readBetween.widen names ((reaches_of_closingTag closes).trans toEnd)
      · exact body.widen toHead ends.reaches
    · intro name isName
      rcases List.mem_cons.mp isName with rfl | isIndex
      · exact free_of_binding bindsValue
      · exact free_of_indexBinding bindsIndex name isIndex
  | breakLoop | continueLoop => exact ⟨.none, by simp [Statement.names]⟩
  | expression _ _ _ content => exact ⟨.of_head content.readBetween, by simp [Statement.names]⟩
  | branch head closes _ content others body alternate =>
    have toHead := ((reaches_skipWord _).trans head.reaches).trans (reaches_of_closingTag closes)
    have toEnd := content.reaches.trans others.reaches
    have read := head.readBetween.widen (reaches_skipWord _)
      ((reaches_of_closingTag closes).trans toEnd)
    exact (PiecesBetween.of_head_body read (body.widen toHead others.reaches)).append
      (alternate.widen (toHead.trans content.reaches) (.refl _))
  | done _ => exact .none
  | chain ends _ _ _ between =>
    exact between.widen (ends.reaches.trans (reaches_skipBlanks _)) (.refl _)
  | otherwise ends _ _ closes _ _ endsAll body =>
    exact .of_body (body.widen ((ends.reaches.trans (reaches_skipBlanks _)).trans
      (reaches_of_closingTag closes)) endsAll.reaches)

end Grammar

/-- Each tag of a template that is read spans a part of the source, in which its heads are
read. -/
theorem tagsBetween_of_parse {tags : Delimiters} {source : List Char} {template : Template}
    (read : parse tags source = .ok template) :
    ∃ next, Grammar.TagsBetween (Cursor.ofSource source) next template.elements := by
  rcases derivesBlock_of_parse read with ⟨next, derived⟩
  exact ⟨next, derived.between⟩

end TemplateLang
