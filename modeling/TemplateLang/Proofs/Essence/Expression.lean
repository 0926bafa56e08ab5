import TemplateLang.Eval.Expression
import TemplateLang.Proofs.RoundTrip.Bare

/-!
# What the value of an expression depends on

Spans, comments and the form of a fixed key do not change what an expression does: two
expressions with the same essence write the same variables, and they have the same value
or fail with the same fault.  Only the span of the fault is told from the text.
-/

namespace TemplateLang

/-! ## Essence -/

mutual

/-- An expression without its spans and comments, in which every member whose key is fixed
by the text has the key after a dot if it can stand there. -/
def Expr.essence : Expr → Expr
  | .null _ => .null .blank
  | .undefined _ => .undefined .blank
  | .boolean value _ => .boolean value .blank
  | .number value _ => .number value .blank
  | .text value quote _ => .text value quote .blank
  | .identifier name _ => .identifier name .blank
  | .array items _ => .array (essenceAll items) .blank
  | .field object (.name name) _ _ => .field object.essence (.name name) default .blank
  | .field object (.position index) _ _ =>
    if Print.isDotIndex index then .field object.essence (.position index) default .blank
    else .item object.essence (.number index .blank) .blank
  | .item object key _ =>
    match fixedKey? key.essence with
    | some key => .field object.essence key default .blank
    | none => .item object.essence key.essence .blank
  | .call callee arguments isPiped _ =>
    .call callee.essence (essenceAll arguments) isPiped .blank
  | .unary op argument _ => .unary op argument.essence .blank
  | .update op place argument _ => .update op place argument.essence .blank
  | .binary op left right _ => .binary op left.essence right.essence .blank
  | .logical op left right _ => .logical op left.essence right.essence .blank
  | .conditional test consequent alternate _ =>
    .conditional test.essence consequent.essence alternate.essence .blank
  | .paren inner _ => .paren inner.essence .blank

/-- The essences of expressions in order. -/
def essenceAll : List Expr → List Expr
  | [] => []
  | first :: rest => first.essence :: essenceAll rest

end

namespace Expr

/-- A key that is fixed by the text keeps its form. -/
theorem fixedKey?_essence {key : Expr} {fixed : FieldKey} (isFixed : fixedKey? key = some fixed) :
    fixedKey? key.essence = some fixed := by
  cases fixedKey?_eq_some_iff.mp isFixed with
  | position _ isDot => exact fixedKey?_eq_some_iff.mpr (.position rfl isDot)
  | name _ shaped free => exact fixedKey?_eq_some_iff.mpr (.name rfl shaped free)

/-- A member whose key stands after a dot has it there. -/
theorem essence_field_of_fixed {object key : Expr} {fixed : FieldKey} {keySpan : Span}
    {note : Note} (isFixed : fixedKey? key = some fixed) :
    (field object fixed keySpan note).essence = field object.essence fixed default .blank := by
  cases fixedKey?_eq_some_iff.mp isFixed with
  | position _ isDot => simp [essence, isDot]
  | name => simp [essence]

mutual

/-- The essence of an expression is that of the bare one. -/
theorem essence_bare : ∀ expr : Expr, expr.bare.essence = expr.essence
  | .null _ | .undefined _ | .boolean _ _ | .number _ _ | .text _ _ _ | .identifier _ _ => rfl
  | .array items _ => by
    simp only [bare, essence, essenceAll_bareAll items]
  | .field object (.name name) _ _ => by
    simp only [bare, essence, essence_bare object]
  | .field object (.position index) _ _ => by
    rw [bare_position, essence]
    split
    · rename_i isDot
      rw [essence, essence_bare object, if_pos isDot]
    · rename_i notDot
      simp [essence, essence_bare object, fixedKey?, notDot]
  | .item object key _ => by
    rw [bare_item]
    cases isFixed : fixedKey? key with
    | some fixed =>
      dsimp only
      rw [essence_field_of_fixed isFixed, essence_bare object, essence, fixedKey?_essence isFixed]
    | none =>
      dsimp only
      rw [essence, essence, essence_bare object, essence_bare key]
  | .call callee arguments _ _ => by
    simp only [bare, essence, essence_bare callee, essenceAll_bareAll arguments]
  | .unary _ argument _ => by simp only [bare, essence, essence_bare argument]
  | .update _ _ argument _ => by simp only [bare, essence, essence_bare argument]
  | .binary _ left right _ => by
    simp only [bare, essence, essence_bare left, essence_bare right]
  | .logical _ left right _ => by
    simp only [bare, essence, essence_bare left, essence_bare right]
  | .conditional test consequent alternate _ => by
    simp only [bare, essence, essence_bare test, essence_bare consequent, essence_bare alternate]
  | .paren inner _ => by simp only [bare, essence, essence_bare inner]

theorem essenceAll_bareAll : ∀ exprs : List Expr, essenceAll (bareAll exprs) = essenceAll exprs
  | [] => rfl
  | first :: rest => by
    simp only [bareAll, essenceAll, essence_bare first, essenceAll_bareAll rest]

end

end Expr

/-! ## Agreement -/

/-- Two evaluations end alike: in the same scopes, with values that are the same or with
the same fault. -/
inductive Agree {α β : Type} (same : α → β → Prop) :
    Except EvalError α × Scopes → Except EvalError β × Scopes → Prop where
  | ok {first : α} {second : β} {scopes : Scopes} (values : same first second) :
      Agree same (.ok first, scopes) (.ok second, scopes)
  | error {first second : EvalError} {scopes : Scopes} (faults : first.fault = second.fault) :
      Agree same (.error first, scopes) (.error second, scopes)

/-- What ends like a value ends with it. -/
theorem Agree.eq_ok {α : Type} {ended : Except EvalError α × Scopes} {value : α}
    {scopes : Scopes} (agree : Agree Eq ended (.ok value, scopes)) :
    ended = (.ok value, scopes) := by
  cases agree with
  | ok same => rw [same]

/-- What ends like a failure ends with its fault. -/
theorem Agree.eq_error {α β : Type} {same : α → β → Prop} {ended : Except EvalError α × Scopes}
    {failure : EvalError} {scopes : Scopes} (agree : Agree same ended (.error failure, scopes)) :
    ∃ error : EvalError, ended = (.error error, scopes) ∧ error.fault = failure.fault := by
  cases agree with
  | error faults => exact ⟨_, rfl, faults⟩

namespace Action

variable {α β γ δ : Type} {same : α → β → Prop}

/-- Two actions end alike on all scopes. -/
def Agrees (same : α → β → Prop) (first : Action EvalError α) (second : Action EvalError β) :
    Prop :=
  ∀ scopes, Agree same (first.on scopes) (second.on scopes)

theorem Agrees.refl (action : Action EvalError α) : action.Agrees Eq action := by
  intro scopes
  rcases action.on scopes with ⟨failure | value, after⟩
  · exact .error rfl
  · exact .ok rfl

theorem Agrees.symm {first second : Action EvalError α} (agrees : first.Agrees Eq second) :
    second.Agrees Eq first := by
  intro scopes
  have ended := agrees scopes
  generalize first.on scopes = one at ended
  generalize second.on scopes = other at ended
  cases ended with
  | ok values => exact .ok values.symm
  | error faults => exact .error faults.symm

theorem agrees_pure {first : α} {second : β} (values : same first second) :
    (pure first : Action EvalError α).Agrees same (pure second) :=
  fun _ => .ok values

theorem Agrees.bind {same' : γ → δ → Prop} {first : Action EvalError α}
    {second : Action EvalError β} {next : α → Action EvalError γ} {next' : β → Action EvalError δ}
    (start : first.Agrees same second)
    (goesOn : ∀ value value', same value value' → (next value).Agrees same' (next' value')) :
    (first >>= next).Agrees same' (second >>= next') := by
  intro scopes
  rw [on_bind, on_bind]
  generalize oneEq : first.on scopes = one
  generalize otherEq : second.on scopes = other
  have begun := start scopes
  rw [oneEq, otherEq] at begun
  cases begun with
  | ok values => exact goesOn _ _ values _
  | error faults => exact .error faults

/-- Two sequences that begin alike and go on from the same value. -/
theorem Agrees.bind_eq {same' : γ → δ → Prop} {first second : Action EvalError α}
    {next : α → Action EvalError γ} {next' : α → Action EvalError δ}
    (start : first.Agrees Eq second)
    (goesOn : ∀ value, (next value).Agrees same' (next' value)) :
    (first >>= next).Agrees same' (second >>= next') :=
  start.bind fun value _ same => same ▸ goesOn value

theorem Agrees.trans {first second third : Action EvalError α} (front : first.Agrees Eq second)
    (back : second.Agrees Eq third) : first.Agrees Eq third := by
  intro scopes
  have one := front scopes
  have other := back scopes
  generalize first.on scopes = ended at one
  generalize second.on scopes = middle at one other
  generalize third.on scopes = last at other
  cases one with
  | ok values =>
    cases other with
    | ok values' => exact .ok (values.trans values')
  | error faults =>
    cases other with
    | error faults' => exact .error (faults.trans faults')

/-- Frames do not tell actions apart that end alike. -/
theorem Agrees.inFrame {first : Action EvalError α} {second : Action EvalError β}
    (agrees : first.Agrees same second) (frame : Table Value) :
    (Action.inFrame frame first).Agrees same (Action.inFrame frame second) := by
  intro scopes
  rw [on_inFrame, on_inFrame]
  have ended := agrees (scopes.push frame)
  generalize first.on (scopes.push frame) = one at ended ⊢
  generalize second.on (scopes.push frame) = other at ended ⊢
  cases ended with
  | ok values => exact .ok values
  | error faults => exact .error faults

/-- Failures agree in their faults. -/
theorem agrees_failAt {span span' : Span} (fault : EvalFault) :
    (Meaning.failAt span fault : Action EvalError α).Agrees same
      (Meaning.failAt span' fault : Action EvalError β) :=
  fun _ => .error rfl

theorem agrees_checkedAt {span span' : Span} (result : Except EvalFault α) :
    (Meaning.checkedAt span result).Agrees Eq (Meaning.checkedAt span' result) := by
  intro scopes
  cases result with
  | ok value => exact .ok rfl
  | error fault => exact .error rfl

theorem agrees_callAt {span span' : Span} (helper : List Value → Action HelperFault Value)
    (arguments : List Value) :
    (Meaning.callAt span helper arguments).Agrees Eq (Meaning.callAt span' helper arguments) := by
  intro scopes
  unfold Meaning.callAt Action.mapFailure
  rw [on_ofFunction, on_ofFunction]
  rcases (helper arguments).on scopes with ⟨failure | value, after⟩
  · exact .error rfl
  · exact .ok rfl

end Action

open TemplateLang.Action

/-- Places that are the same but for where their names stand. -/
inductive Place.Agree : Place → Place → Prop where
  | named {name : String} {span span' : Span} {keys : List Key} :
      Place.Agree ⟨.variable name span, keys⟩ ⟨.variable name span', keys⟩
  | unnamed {value : Value} {keys : List Key} :
      Place.Agree ⟨.unnamed value, keys⟩ ⟨.unnamed value, keys⟩

/-- Meanings whose values and places are found alike. -/
structure Meaning.Agrees (first second : Meaning) : Prop where
  value : first.value.Agrees Eq second.value
  place : ∀ keys, (first.place keys).Agrees Place.Agree (second.place keys)

namespace Meaning

theorem agrees_ofValue {first second : Action EvalError Value} (agrees : first.Agrees Eq second) :
    (ofValue first).Agrees (ofValue second) where
  value := agrees
  place _ := agrees.bind_eq fun _ => agrees_pure .unnamed

theorem agrees_ofName (helpers : Callables) (name : String) (span span' : Span) :
    (ofName helpers name span).Agrees Eq (ofName helpers name span') := by
  refine (Agrees.refl (lookup name)).bind_eq fun found => ?_
  cases found with
  | some value => exact agrees_pure rfl
  | none =>
    dsimp only
    split
    · exact agrees_callAt _ _
    · exact agrees_failAt _

theorem agrees_ofCall (helpers : Callables) (name : String)
    {calleeSpan calleeSpan' span span' : Span}
    {arguments arguments' : Action EvalError (List Value)}
    (agrees : arguments.Agrees Eq arguments') :
    (ofCall helpers name calleeSpan span arguments).Agrees Eq
      (ofCall helpers name calleeSpan' span' arguments') := by
  unfold ofCall
  split
  · exact agrees.bind_eq fun _ => agrees_callAt _ _
  · refine (Agrees.refl (lookup name)).bind_eq fun found => ?_
    cases found <;> exact agrees_failAt _

theorem agrees_ofMember {owner owner' : Meaning} (agrees : owner.Agrees owner')
    {key key' : Action EvalError Key} (agreesKey : key.Agrees Eq key') {span span' : Span} :
    (ofMember owner key span).Agrees (ofMember owner' key' span') where
  value := agrees.value.bind_eq fun _ => agreesKey.bind_eq fun _ => agrees_checkedAt _
  place _ := agreesKey.bind_eq fun _ => agrees.place _

theorem agrees_updateAt (op : UpdateOp) (order : UpdatePlace) {span span' : Span}
    {target target' : Place} (agree : target.Agree target') :
    (updateAt op order span target).Agrees Eq (updateAt op order span' target') := by
  unfold updateAt
  dsimp only
  cases agree with
  | named =>
    refine (Agrees.refl (lookup _)).bind_eq fun found => ?_
    cases found with
    | none => exact Agrees.bind_eq (agrees_failAt _) fun _ => agrees_pure rfl
    | some value =>
      refine (agrees_checkedAt _).bind_eq fun changed => ?_
      exact (Agrees.refl _).bind_eq fun _ => agrees_pure rfl
  | unnamed => exact (agrees_checkedAt _).bind_eq fun changed => agrees_pure rfl

end Meaning

/-! ## The meaning of the essence -/

namespace Expr

open Meaning

variable {helpers : Callables}

/-- The call of what is no name. -/
theorem meaning_call_of_not_name {callee : Expr} {arguments : List Expr} {isPiped : Bool}
    {note : Note} (notName : ∀ name calleeNote, callee ≠ identifier name calleeNote) :
    (call callee arguments isPiped note).meaning helpers = ofValue (do
      let value ← (callee.meaning helpers).value
      failAt callee.span (notCallable value)) := by
  rw [meaning]
  exact notName

theorem essence_ne_identifier {expr : Expr}
    (notName : ∀ name note, expr ≠ identifier name note) (name : String) (note : Note) :
    expr.essence ≠ identifier name note := by
  cases expr with
  | identifier name' note' => exact absurd rfl (notName name' note')
  | field object key => cases key <;> rw [essence] <;> first | split <;> simp | simp
  | item object key => rw [essence]; split <;> simp
  | _ => simp [essence]

/-- Only literals are fixed by the text. -/
theorem literal_of_fixedKey?_essence {key : Expr} {fixed : FieldKey}
    (isFixed : fixedKey? key.essence = some fixed) :
    (∃ x note, key = number x note ∧ fixed = .position x) ∨
      ∃ value quote note, key = text value quote note ∧ fixed = .name value := by
  cases key with
  | number x note =>
    simp only [essence, fixedKey?, Option.ite_none_right_eq_some, Option.some.injEq] at isFixed
    exact .inl ⟨x, note, rfl, isFixed.2.symm⟩
  | text value quote note =>
    simp only [essence, fixedKey?, Option.ite_none_right_eq_some, Option.some.injEq] at isFixed
    exact .inr ⟨value, quote, note, rfl, isFixed.2.symm⟩
  | field object key => cases key <;> rw [essence] at isFixed <;>
      first | split at isFixed <;> simp [fixedKey?] at isFixed | simp [fixedKey?] at isFixed
  | item object key => rw [essence] at isFixed; split at isFixed <;> simp [fixedKey?] at isFixed
  | _ => simp [essence, fixedKey?] at isFixed

/-- A key that is fixed by the text has the value that it has after a dot. -/
theorem agrees_fixedKey {key : Expr} {fixed : FieldKey}
    (isFixed : fixedKey? key.essence = some fixed) (keySpan : Span) :
    (do let value ← (key.meaning helpers).value; checkedAt key.span (keyOf value)).Agrees Eq
      (checkedAt keySpan (allowKey (ofFieldKey fixed))) := by
  rcases literal_of_fixedKey?_essence isFixed with ⟨x, note, rfl, rfl⟩ |
    ⟨value, quote, note, rfl, rfl⟩
  · simp only [meaning]
    exact fun _ => .ok rfl
  · simp only [meaning]
    exact agrees_checkedAt (allowKey (.name value))

mutual

/-- An expression means what its essence means. -/
theorem agrees_essence : ∀ expr : Expr,
    (expr.meaning helpers).Agrees (expr.essence.meaning helpers)
  | .null _ | .undefined _ | .boolean _ _ | .number _ _ | .text _ _ _ => by
    simp only [essence, meaning]
    exact agrees_ofValue (agrees_pure rfl)
  | .identifier name note => by
    simp only [essence, meaning]
    exact ⟨agrees_ofName helpers name _ _, fun _ => agrees_pure .named⟩
  | .array items _ => by
    simp only [essence, meaning]
    exact agrees_ofValue ((agrees_essenceAll items).bind_eq fun _ => agrees_pure rfl)
  | .field object (.name name) _ _ => by
    simp only [essence, meaning]
    exact agrees_ofMember (agrees_essence object) (agrees_checkedAt _)
  | .field object (.position index) _ _ => by
    rw [essence]
    split
    · simp only [meaning]
      exact agrees_ofMember (agrees_essence object) (agrees_checkedAt _)
    · simp only [meaning]
      exact agrees_ofMember (agrees_essence object) fun _ => .ok rfl
  | .item object key _ => by
    rw [essence]
    split
    · rename_i fixed isFixed
      simp only [meaning]
      exact agrees_ofMember (agrees_essence object) (agrees_fixedKey isFixed _)
    · simp only [meaning]
      refine agrees_ofMember (agrees_essence object) ?_
      exact (agrees_essence key).value.bind_eq fun _ => agrees_checkedAt _
  | .call callee arguments isPiped note => by
    by_cases isName : ∃ name calleeNote, callee = identifier name calleeNote
    · obtain ⟨name, calleeNote, rfl⟩ := isName
      simp only [essence, meaning]
      exact agrees_ofValue (agrees_ofCall helpers name (agrees_essenceAll arguments))
    · have notName : ∀ name calleeNote, callee ≠ identifier name calleeNote :=
        fun name calleeNote same => isName ⟨name, calleeNote, same⟩
      rw [essence, meaning_call_of_not_name notName,
        meaning_call_of_not_name (essence_ne_identifier notName)]
      exact agrees_ofValue ((agrees_essence callee).value.bind_eq fun _ => agrees_failAt _)
  | .unary _ argument _ => by
    simp only [essence, meaning]
    exact agrees_ofValue ((agrees_essence argument).value.bind_eq fun _ => agrees_checkedAt _)
  | .update op order argument _ => by
    simp only [essence, meaning]
    refine agrees_ofValue (((agrees_essence argument).place []).bind fun _ _ agree => ?_)
    exact agrees_updateAt op order agree
  | .binary _ left right _ => by
    simp only [essence, meaning]
    refine agrees_ofValue ((agrees_essence left).value.bind_eq fun _ => ?_)
    exact (agrees_essence right).value.bind_eq fun _ => agrees_checkedAt _
  | .logical _ left right _ => by
    simp only [essence, meaning]
    refine agrees_ofValue ((agrees_essence left).value.bind_eq fun _ => ?_)
    split
    · exact agrees_pure rfl
    · exact (agrees_essence right).value
  | .conditional test consequent alternate _ => by
    simp only [essence, meaning]
    refine agrees_ofValue ((agrees_essence test).value.bind_eq fun _ => ?_)
    split
    · exact (agrees_essence consequent).value
    · exact (agrees_essence alternate).value
  | .paren inner _ => by
    simp only [essence, meaning]
    exact agrees_essence inner

theorem agrees_essenceAll : ∀ exprs : List Expr,
    (values helpers exprs).Agrees Eq (values helpers (essenceAll exprs))
  | [] => by
    simp only [essenceAll, values]
    exact agrees_pure rfl
  | expr :: others => by
    simp only [essenceAll, values]
    refine (agrees_essence expr).value.bind_eq fun _ => ?_
    exact (agrees_essenceAll others).bind_eq fun _ => agrees_pure rfl

end

/-- Expressions with the same essence have the same value, or fail with the same fault. -/
theorem agrees_of_essence {expr expr' : Expr} (same : expr.essence = expr'.essence) :
    (expr.evaluate helpers).Agrees Eq (expr'.evaluate helpers) := by
  have agrees (expr : Expr) :
      (expr.evaluate helpers).Agrees Eq (expr.essence.evaluate helpers) :=
    (agrees_essence expr).value
  have first := agrees expr
  rw [same] at first
  exact first.trans (agrees expr').symm

end Expr

end TemplateLang
