import TemplateLang.Proofs.Scoping.Confinement
import TemplateLang.Proofs.Scoping.Swapping
import TemplateLang.Proofs.Slots.Change

/-!
# Reading and updating a target

Reading a target looks its variable up, evaluates the keys from the variable outward, and reads
a member after each.  An update evaluates the keys from the outermost one inward and looks the
variable up last.  So the two address one slot if no key changes the variable or what another
key depends on; `a[i++][i++]++` shows that they can differ.
-/

namespace TemplateLang

open TemplateLang.Action TemplateLang.Meaning

/-! ## Reading -/

namespace Value

variable {value inner : Value} {keys front back : List Key} {n : Number}

/-- Keys are read along in two stretches. -/
theorem readAlong_append (reads : value.readAlong front = .ok inner) (back : List Key) :
    value.readAlong (front ++ back) = inner.readAlong back := by
  induction front generalizing value with
  | nil =>
    obtain rfl := Except.ok.inj reads
    rfl
  | cons key rest ih =>
    rw [readAlong] at reads
    rw [List.cons_append, readAlong]
    cases isMember : value.readMember? key with
    | none =>
      rw [isMember] at reads
      exact nomatch reads
    | some member =>
      rw [isMember] at reads
      exact ih reads

/-- A text has no members that are numbers. -/
theorem readAlong_text_ne (word : String) (keys : List Key) :
    (text word).readAlong keys ≠ .ok (.number n) := by
  cases keys with
  | nil => exact fun reads => nomatch reads
  | cons key rest => exact fun reads => nomatch reads

/-- A number is read only where it is: what is missing is read as a text. -/
theorem leads_of_readAlong (reads : value.readAlong keys = .ok (.number n)) :
    value.Leads keys (.number n) := by
  induction keys generalizing value with
  | nil =>
    obtain rfl := Except.ok.inj reads
    exact .here _
  | cons key rest ih =>
    cases value with
    | object entries =>
      rw [readAlong_object] at reads
      cases isEntry : Table.get? entries key.text with
      | none =>
        rw [isEntry] at reads
        exact absurd reads (readAlong_text_ne "" rest)
      | some child =>
        rw [isEntry] at reads
        exact .entry isEntry (ih reads)
    | array items =>
      rw [readAlong_array] at reads
      cases isPosition : key.position? with
      | none =>
        rw [isPosition] at reads
        exact absurd reads (readAlong_text_ne "" rest)
      | some position =>
        rw [isPosition, Option.bind_some] at reads
        cases isItem : items[position]? with
        | none =>
          rw [isItem] at reads
          exact absurd reads (readAlong_text_ne "" rest)
        | some child =>
          rw [isItem] at reads
          exact .item isPosition isItem (ih reads)
    | _ => exact nomatch reads

end Value

/-- A member that is read is what a single key leads to. -/
theorem Meaning.readAlong_of_readAt {span : Span} {owner result : Value} {key : Key}
    {scopes after : Scopes} (read : (readAt span owner key).Gives scopes result after) :
    owner.readAlong [key] = .ok result ∧ after = scopes := by
  obtain ⟨isMember, same⟩ := gives_checkedAt.mp read
  refine ⟨?_, same⟩
  rw [Value.readAlong]
  cases found : owner.readMember? key with
  | none =>
    rw [found] at isMember
    exact nomatch isMember
  | some member =>
    rw [found] at isMember
    exact isMember

namespace Expr

/-! ## Paths of keys -/

/-- The keys of a target that are evaluated, from its variable outward. -/
def computedKeys : Expr → List Expr
  | field object _ _ _ => object.computedKeys
  | item object key _ => object.computedKeys ++ [key]
  | paren inner _ => inner.computedKeys
  | _ => []

/-- The keys of a target, evaluated from its variable outward. -/
def path (helpers : Callables) : Expr → Action EvalError (List Key)
  | field object key keySpan _ => do
    let keys ← object.path helpers
    let key ← checkedAt keySpan (allowKey (ofFieldKey key))
    pure (keys ++ [key])
  | item object key _ => do
    let keys ← object.path helpers
    let value ← key.evaluate helpers
    let key ← checkedAt key.span (keyOf value)
    pure (keys ++ [key])
  | paren inner _ => inner.path helpers
  | _ => pure []

/-- Two keys of which neither writes a name that the other one reads or writes. -/
structure Apart (helpers : Callables) (reads writes : Expr → Set String) (first second : Expr) :
    Prop where
  confined : (first.evaluate helpers).Confined (reads first) (writes first)
  confined' : (second.evaluate helpers).Confined (reads second) (writes second)
  unread : ∀ name ∈ writes first, name ∉ reads second
  unread' : ∀ name ∈ writes second, name ∉ reads first
  unwritten : ∀ name ∈ writes first, name ∉ writes second

variable {helpers : Callables} {reads writes : Expr → Set String} {target : Expr}
  {name : String} {scopes after : Scopes} {keys : List Key}

/-- Reading a target reads the value of its variable along its keys. -/
theorem gives_path_of_evaluate (rooted : target.root? = some name) {value result : Value}
    (bound : scopes.get? name = some value)
    (read : (target.evaluate helpers).Gives scopes result after) :
    ∃ keys, (target.path helpers).Gives scopes keys after ∧ value.readAlong keys = .ok result := by
  fun_induction root? target generalizing result after with
  | case1 root note =>
    obtain rfl := Option.some.inj rooted
    rw [evaluate, meaning] at read
    obtain ⟨found, middle, looks, gives⟩ := gives_bind.mp read
    rw [Gives, on_lookup, bound] at looks
    cases looks
    obtain ⟨rfl, rfl⟩ := gives_pure.mp gives
    exact ⟨[], rfl, rfl⟩
  | case2 object key keySpan note ih =>
    rw [evaluate, meaning] at read
    obtain ⟨owner, middle, readsOwner, rest⟩ := gives_bind.mp read
    obtain ⟨checked, _, checks, readsMember⟩ := gives_bind.mp rest
    obtain ⟨keys, ofOwner, along⟩ := ih rooted readsOwner
    obtain ⟨isChecked, rfl⟩ := gives_checkedAt.mp checks
    obtain ⟨alongKey, rfl⟩ := readAlong_of_readAt readsMember
    refine ⟨keys ++ [checked], ?_, (Value.readAlong_append along _).trans alongKey⟩
    rw [path]
    refine gives_bind.mpr ⟨keys, _, ofOwner, gives_bind.mpr ⟨checked, _, checks, ?_⟩⟩
    exact gives_pure.mpr ⟨rfl, rfl⟩
  | case3 object key note ih =>
    rw [evaluate, meaning] at read
    obtain ⟨owner, middle, readsOwner, rest⟩ := gives_bind.mp read
    obtain ⟨checked, _, givesKey, readsMember⟩ := gives_bind.mp rest
    obtain ⟨found, _, evaluates, checks⟩ := gives_bind.mp givesKey
    obtain ⟨keys, ofOwner, along⟩ := ih rooted readsOwner
    obtain ⟨alongKey, rfl⟩ := readAlong_of_readAt readsMember
    refine ⟨keys ++ [checked], ?_, (Value.readAlong_append along _).trans alongKey⟩
    rw [path]
    refine gives_bind.mpr ⟨keys, _, ofOwner, gives_bind.mpr ⟨found, _, evaluates, ?_⟩⟩
    exact gives_bind.mpr ⟨checked, _, checks, gives_pure.mpr ⟨rfl, rfl⟩⟩
  | case4 inner note ih =>
    rw [evaluate, meaning] at read
    rw [path]
    exact ih rooted read
  | case5 => simp at rooted

/-- Without computed keys, the keys of a target do not depend on the scopes. -/
theorem path_still (none : target.computedKeys = []) :
    ∃ result, ∀ scopes, (target.path helpers).on scopes = (result, scopes) := by
  fun_induction path helpers target with
  | case1 object key keySpan note ih =>
    obtain ⟨result, still⟩ := ih none
    simp only [on_bind, still, checkedAt, on_ofExcept]
    cases result with
    | error failure => exact ⟨.error failure, fun _ => rfl⟩
    | ok keys =>
      cases allowKey (ofFieldKey key) with
      | error fault => exact ⟨.error ⟨fault, keySpan⟩, fun _ => rfl⟩
      | ok checked => exact ⟨.ok (keys ++ [checked]), fun _ => rfl⟩
  | case2 object key note ih => simp [computedKeys] at none
  | case3 inner note ih => exact ih none
  | case4 => exact ⟨.ok [], on_pure []⟩

/-- The keys of a target are found within what its computed keys read and write. -/
theorem confined_path {reads writes : Set String}
    (confined : ∀ key ∈ target.computedKeys, (key.evaluate helpers).Confined reads writes) :
    (target.path helpers).Confined reads writes := by
  fun_induction path helpers target with
  | case1 object key keySpan note ih =>
    refine (ih confined).bind fun keys => ?_
    exact (confined_ofExcept _).bind fun _ => confined_pure _
  | case2 object key note ih =>
    rw [computedKeys, List.forall_mem_append, List.forall_mem_singleton] at confined
    refine (ih confined.1).bind fun keys => confined.2.bind fun value => ?_
    exact (confined_ofExcept _).bind fun _ => confined_pure _
  | case3 inner note ih => exact ih confined
  | case4 => exact confined_pure []

/-- The outermost computed key may come before the ones inside, if it is apart from them. -/
theorem swap_path {object key : Expr} {value : Value} {middle : Scopes}
    (apart : ∀ inner ∈ object.computedKeys, Apart helpers reads writes inner key)
    (ofObject : (object.path helpers).Gives scopes keys middle)
    (ofKey : (key.evaluate helpers).Gives middle value after) :
    ∃ between last, (key.evaluate helpers).Gives scopes value between ∧
      (object.path helpers).Gives between keys last ∧ after.Matches last := by
  cases isComputed : object.computedKeys with
  | nil =>
    obtain ⟨result, still⟩ := @path_still helpers object isComputed
    obtain ⟨rfl, rfl⟩ := Prod.mk.inj ((still scopes).symm.trans ofObject)
    exact ⟨after, after, ofKey, still after, .refl after⟩
  | cons first others =>
    have isFirst : first ∈ object.computedKeys := isComputed ▸ List.mem_cons_self
    have confined : (object.path helpers).Confined
        {name | ∃ inner ∈ object.computedKeys, name ∈ reads inner}
        {name | ∃ inner ∈ object.computedKeys, name ∈ writes inner} := by
      refine confined_path fun inner isInner => (apart inner isInner).confined.mono ?_ ?_
      · exact fun name isRead => ⟨inner, isInner, isRead⟩
      · exact fun name isWritten => ⟨inner, isInner, isWritten⟩
    refine confined.swap (apart first isFirst).confined' ?_ ?_ ?_ ofObject ofKey
    · rintro name ⟨inner, isInner, isWritten⟩
      exact (apart inner isInner).unread name isWritten
    · rintro name isWritten ⟨inner, isInner, isRead⟩
      exact (apart inner isInner).unread' name isWritten isRead
    · rintro name ⟨inner, isInner, isWritten⟩
      exact (apart inner isInner).unwritten name isWritten

/-- The place of a target is its variable with its keys, if the computed ones are apart. -/
theorem gives_place_of_path (rooted : target.root? = some name)
    (apart : target.computedKeys.Pairwise (Apart helpers reads writes))
    (ofTarget : (target.path helpers).Gives scopes keys after) (outer : List Key) :
    ∃ span last, ((target.meaning helpers).place outer).Gives scopes
      ⟨.variable name span, keys ++ outer⟩ last ∧ after.Matches last := by
  fun_induction root? target generalizing scopes after keys outer with
  | case1 root note =>
    obtain rfl := Option.some.inj rooted
    obtain ⟨rfl, rfl⟩ := gives_pure.mp ofTarget
    refine ⟨note.span, after, ?_, .refl after⟩
    rw [meaning]
    exact gives_pure.mpr ⟨rfl, rfl⟩
  | case2 object key keySpan note ih =>
    rw [path] at ofTarget
    obtain ⟨front, middle, ofObject, rest⟩ := gives_bind.mp ofTarget
    obtain ⟨checked, _, checks, last⟩ := gives_bind.mp rest
    obtain ⟨isChecked, rfl⟩ := gives_checkedAt.mp checks
    obtain ⟨rfl, rfl⟩ := gives_pure.mp last
    obtain ⟨span, last, place, same⟩ := ih rooted apart ofObject (checked :: outer)
    refine ⟨span, last, ?_, same⟩
    rw [meaning, List.append_assoc, List.singleton_append]
    exact gives_bind.mpr ⟨checked, scopes, gives_checkedAt.mpr ⟨isChecked, rfl⟩, place⟩
  | case3 object key note ih =>
    rw [path] at ofTarget
    obtain ⟨front, middle, ofObject, rest⟩ := gives_bind.mp ofTarget
    obtain ⟨value, _, ofKey, rest⟩ := gives_bind.mp rest
    obtain ⟨checked, _, checks, last⟩ := gives_bind.mp rest
    obtain ⟨isChecked, rfl⟩ := gives_checkedAt.mp checks
    obtain ⟨rfl, rfl⟩ := gives_pure.mp last
    rw [computedKeys, List.pairwise_append] at apart
    obtain ⟨apartInside, -, apartKey⟩ := apart
    -- the update evaluates this key before the ones inside
    obtain ⟨between, swapped, ofKeyFirst, ofObjectLast, same⟩ := swap_path
      (fun inner isInner => apartKey inner isInner key List.mem_cons_self) ofObject ofKey
    obtain ⟨span, last, place, sameLast⟩ :=
      ih rooted apartInside ofObjectLast (checked :: outer)
    refine ⟨span, last, ?_, same.trans sameLast⟩
    rw [meaning, List.append_assoc, List.singleton_append]
    refine gives_bind.mpr ⟨checked, between, gives_bind.mpr ⟨value, between, ofKeyFirst, ?_⟩, place⟩
    exact gives_checkedAt.mpr ⟨isChecked, rfl⟩
  | case4 inner note ih =>
    rw [meaning]
    exact ih rooted apart ofTarget outer
  | case5 => simp at rooted

/-- With the helpers of the language, keys that call neither `eval` nor `define` are apart if
neither changes a variable that stands in the other one. -/
theorem apart_of_names {world : World} {directory : String} {depth : Nat} {first second : Expr}
    (noCalls : ∀ name ∈ first.callees ++ second.callees, name ≠ "eval" ∧ name ≠ "define")
    (unread : ∀ name ∈ first.updated, name ∉ second.identifiers)
    (unread' : ∀ name ∈ second.updated, name ∉ first.identifiers) :
    Apart (Helpers.builtin.callablesAt world directory depth)
      (fun key => {name | name ∈ key.identifiers}) (fun key => {name | name ∈ key.updated})
      first second := by
  have confined (key : Expr) (isKey : key.callees ⊆ first.callees ++ second.callees) :
      (key.evaluate (Helpers.builtin.callablesAt world directory depth)).Confined
        {name | name ∈ key.identifiers} {name | name ∈ key.updated} := by
    refine confined_evaluate (Helpers.confined_builtin depth) ?_
    refine within_of_names (fun _ => id) (fun _ => id) fun name isCalled => ?_
    obtain ⟨notEval, notDefine⟩ := noCalls name (isKey isCalled)
    rintro (isEval | isDefine)
    · exact notEval isEval
    · exact notDefine isDefine
  exact {
    confined := confined first (List.subset_append_left _ _)
    confined' := confined second (List.subset_append_right _ _)
    unread := unread
    unread' := unread'
    unwritten := fun name isWritten isWritten' =>
      unread name isWritten (second.updated_subset_identifiers isWritten') }

end Expr

/-! ## Updates -/

/-- Where reading a target gives a number, it reads the slot that some keys lead to, and an
update of the target changes that slot, if the computed keys are apart: it gives the number
that the slot holds once the keys are evaluated, before or after the change, and leaves what
reading leaves but for that slot.  If evaluating the keys leaves the slot as it was, the number
is the one that was read. -/
theorem update_of_read {helpers : Callables} {reads writes : Expr → Set String} {target : Expr}
    {root : String} (rooted : target.root? = some root)
    (apart : target.computedKeys.Pairwise (Expr.Apart helpers reads writes))
    {scopes after : Scopes} {value : Value} {n : Number} (bound : scopes.get? root = some value)
    (read : (target.evaluate helpers).Gives scopes (.number n) after) :
    ∃ keys, (target.path helpers).Gives scopes keys after ∧
      value.readAlong keys = .ok (.number n) ∧
      ∀ value' m, after.get? root = some value' → value'.readAlong keys = .ok (.number m) →
        ∀ op order note, ∃ changed written, value'.SlotChanged keys m (op.change m) changed ∧
          ((Expr.update op order target note).evaluate helpers).Gives scopes
            (.number (match order with
              | .before => op.change m
              | .after => m)) written ∧
          (after.declare root changed).Matches written := by
  obtain ⟨keys, ofTarget, along⟩ := Expr.gives_path_of_evaluate rooted bound read
  refine ⟨keys, ofTarget, along, ?_⟩
  intro value' m bound' along' op order note
  obtain ⟨changed, changes⟩ := (Value.leads_of_readAlong along').exists_changes op.change rfl
  obtain ⟨span, last, place, same⟩ := Expr.gives_place_of_path rooted apart ofTarget []
  rw [List.append_nil] at place
  have boundLast : last.get? root = some value' := (same.get?_eq root).trans bound'
  have updates := Meaning.on_updateAt boundLast op order note.span span keys
  rw [Value.changeSlot_eq_ok_iff.mpr changes] at updates
  refine ⟨changed, last.declare root changed, changes.slotChanged, ?_, same.declare root changed⟩
  rw [Expr.evaluate, Expr.meaning]
  exact gives_bind.mpr ⟨_, last, place, updates⟩

/-- A target with two computed keys that count different variables: `a[i++][j++]++`. -/
theorem update_of_read_counters :
    let here : Note := .at default
    let count (name : String) : Expr := .update .increment .after (.identifier name here) here
    let target : Expr := .item (.item (.identifier "a" here) (count "i") here) (count "j") here
    let scopes (item i j : Int) : Scopes :=
      ⟨[("i", .number (.ofInt i)), ("j", .number (.ofInt j)),
        ("a", .array [.null, .array [.null, .number (.ofInt item)]])], []⟩
    let world : World := ⟨⟨[], [], []⟩, ⟨0, 0, 0⟩⟩
    let helpers := Helpers.builtin.callablesAt world "" Helpers.maxDepth
    let keys : List Key := [.index (.ofInt 1), .index (.ofInt 1)]
    ∃ changed written, ((Expr.update .increment .after target here).evaluate helpers).Gives
        (scopes 5 1 1) (.number (.ofInt 5)) written ∧
      written.get? "a" = some changed ∧ changed.readAlong keys = .ok (.number (.ofInt 6)) ∧
      written.get? "i" = some (.number (.ofInt 2)) := by
  intro here count target scopes world helpers keys
  have apart : target.computedKeys.Pairwise (Expr.Apart helpers
      (fun key => {name | name ∈ key.identifiers}) (fun key => {name | name ∈ key.updated})) := by
    refine List.pairwise_pair.mpr (Expr.apart_of_names ?_ ?_ ?_) <;> decide
  have read : (target.evaluate helpers).Gives (scopes 5 1 1) (.number (.ofInt 5))
      (scopes 5 2 2) := rfl
  obtain ⟨keys', ofTarget', -, updates⟩ := update_of_read rfl apart rfl read
  have ofTarget : (target.path helpers).Gives (scopes 5 1 1) keys (scopes 5 2 2) := rfl
  obtain rfl : keys = keys' := Except.ok.inj (Prod.mk.inj (ofTarget.symm.trans ofTarget')).1
  obtain ⟨changed, written, slotChanged, gives, same⟩ :=
    updates _ _ rfl rfl .increment .after here
  refine ⟨changed, written, gives, ?_, slotChanged.now, ?_⟩
  · rw [same.get?_eq, Scopes.get?_declare, if_pos rfl]
  · rw [same.get?_eq, Scopes.get?_declare, if_neg (by decide)]
    rfl

/-- A target with two computed keys that count one variable: `a[i++][i++]` reads the third item
of the second row, and `a[i++][i++]++` changes the second item of the third row. -/
theorem update_swaps_keys :
    let here : Note := .at default
    let count : Expr := .update .increment .after (.identifier "i" here) here
    let target : Expr := .item (.item (.identifier "a" here) count here) count here
    let scopes (first second i : Int) : Scopes :=
      ⟨[("i", .number (.ofInt i)), ("a", .array [.array [],
        .array [.ofNat 1, .ofNat 2, .number (.ofInt first)],
        .array [.ofNat 4, .number (.ofInt second), .ofNat 6]])], []⟩
    let world : World := ⟨⟨[], [], []⟩, ⟨0, 0, 0⟩⟩
    let helpers := Helpers.builtin.callablesAt world "" Helpers.maxDepth
    (target.evaluate helpers).Gives (scopes 3 5 1) (.number (.ofInt 3)) (scopes 3 5 3) ∧
      ((Expr.update .increment .after target here).evaluate helpers).Gives (scopes 3 5 1)
        (.number (.ofInt 5)) (scopes 3 6 3) := by
  intro here count target scopes world helpers
  exact ⟨rfl, rfl⟩

end TemplateLang
