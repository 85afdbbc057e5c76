import PostalAddress.Joining

/-!
Two runs of joining tokens side by side. What a bag gets under a label other than the one of house
numbers depends on nothing else in it. A house number is not touched by tokens under other labels,
and one that is joined to it only makes it longer.
-/

namespace PostalAddress

/-- What a token adds to a bag, unless it leaves no trace. -/
def Token.value? (token : Token) : Option (Component × Text) :=
  if token.isSeparator then none
  else token.component?.bind fun component =>
    (Text.present? token.text.trim).map fun value => (component, value)

theorem Token.value_parts (token : Token) (component : Component) (value : Text)
    (added : token.value? = some (component, value)) :
    token.component? = some component ∧ token.text.trim = value ∧ value ≠ [] := by
  simp only [value?, Option.ite_none_left_eq_some, Option.bind_eq_some_iff,
    Option.map_eq_some_iff, Prod.mk.injEq] at added
  obtain ⟨_, _, labelled, written, present, rfl, rfl⟩ := added
  cases text : token.text.trim with
  | nil =>
      rw [text] at present
      cases present
  | cons letter rest =>
      rw [text] at present
      cases present
      exact ⟨labelled, rfl, List.cons_ne_nil _ _⟩

theorem Component.label_ne_separator (component : Component) :
    component.label ≠ Label.separator := by
  cases component <;> decide

theorem Token.labelled_no_separator (token : Token) (component : Component)
    (labelled : token.component? = some component) : token.isSeparator = false := by
  have label := (Label.component_eq_some_iff token.label component).1 labelled
  exact decide_eq_false (label ▸ component.label_ne_separator)

theorem Token.value_of_component (component : Component) (text : Text) (given : text.trim ≠ []) :
    (ofComponent component text).value? = some (component, text.trim) := by
  have noSeparator : (ofComponent component text).isSeparator = false :=
    decide_eq_false component.label_ne_separator
  have labelled : (ofComponent component text).component? = some component :=
    Label.component_label component
  have present : Text.present? (ofComponent component text).text.trim = some text.trim := by
    change Text.present? text.trim = _
    cases written : text.trim with
    | nil => exact absurd written given
    | cons letter rest => rfl
  rw [value?, noSeparator, labelled, Option.bind_some, present]
  rfl

namespace Joining

theorem step_without_value (joining : Joining) (token : Token) (traceless : token.value? = none) :
    (joining.step token).bag = joining.bag := by
  unfold Token.value? at traceless
  unfold step
  split
  case isTrue => rfl
  case isFalse separator =>
    rw [if_neg separator] at traceless
    cases labelled : token.component? with
    | none => rfl
    | some component =>
        cases text : token.text.trim with
        | nil => rfl
        | cons letter rest =>
            rw [labelled, text] at traceless
            cases traceless

theorem step_with_value (joining : Joining) (token : Token) (component : Component) (value : Text)
    (added : token.value? = some (component, value)) :
    joining.step token = joining.append component value := by
  obtain ⟨labelled, written, given⟩ := token.value_parts component value added
  have noSeparator : token.isSeparator = false := by
    cases separator : token.isSeparator with
    | false => rfl
    | true =>
        rw [Token.value?, if_pos separator] at added
        cases added
  simp [step, noSeparator, labelled, written, given]

theorem step_keeps (joining : Joining) (token : Token) (component : Component)
    (absent : token.component? ≠ some component) :
    (joining.step token).bag.get component = joining.bag.get component := by
  cases added : token.value? with
  | none => rw [joining.step_without_value token added]
  | some entry =>
      obtain ⟨changed, value⟩ := entry
      have labelled := (token.value_parts changed value added).1
      have different : component ≠ changed := fun equal => absent (equal ▸ labelled)
      rw [joining.step_with_value token changed value added]
      exact Bag.get_set_other _ _ _ _ different

theorem step_agrees (left right : Joining) (token : Token) (component : Component)
    (different : component ≠ .number)
    (same : left.bag.get component = right.bag.get component) :
    (left.step token).bag.get component = (right.step token).bag.get component := by
  cases added : token.value? with
  | none => rw [left.step_without_value token added, right.step_without_value token added, same]
  | some entry =>
      obtain ⟨changed, value⟩ := entry
      rw [left.step_with_value token changed value added,
        right.step_with_value token changed value added]
      by_cases equal : component = changed
      · -- Only the joiner of house numbers depends on the tokens before.
        subst equal
        simp only [append, Bag.get_set_self, Bag.has, Bag.value, same, joiner, different,
          decide_false, Bool.false_and]
      · simp only [append, Bag.get_set_other _ _ _ _ equal, same]

theorem run_keeps (joining : Joining) (tokens : List Token) (component : Component)
    (absent : ∀ token ∈ tokens, token.component? ≠ some component) :
    (tokens.foldl step joining).bag.get component = joining.bag.get component := by
  induction tokens generalizing joining with
  | nil => rfl
  | cons token rest hypothesis =>
      rw [List.foldl_cons, hypothesis _ fun other later => absent other (.tail _ later)]
      exact joining.step_keeps token component (absent token (.head _))

theorem run_agrees (left right : Joining) (tokens : List Token) (component : Component)
    (different : component ≠ .number)
    (same : left.bag.get component = right.bag.get component) :
    (tokens.foldl step left).bag.get component = (tokens.foldl step right).bag.get component := by
  induction tokens generalizing left right with
  | nil => exact same
  | cons token rest hypothesis =>
      exact hypothesis _ _ (left.step_agrees right token component different same)

def numberTokens (number : Option Text) : List Token :=
  (number.map (Token.ofComponent .number)).toList

def numberWith (joining : Joining) : Option Text → Text
  | none => joining.bag.value .number
  | some number =>
      if joining.bag.has .number then
        joining.bag.value .number ++ joiner .number joining.trail ++ number
      else number

theorem run_number_tokens (joining : Joining) (number : Option Text) (given : number ≠ some [])
    (written : number.map Text.trim = number) :
    ((numberTokens number).foldl step joining).bag.value .number = joining.numberWith number := by
  cases number with
  | none => rfl
  | some number =>
      have trimmed : number.trim = number := Option.some.inj written
      have notEmpty : number.trim ≠ [] := by
        rw [trimmed]
        exact fun empty => given (congrArg some empty)
      have added := Token.value_of_component .number number notEmpty
      rw [trimmed] at added
      have stepped := joining.step_with_value _ .number number added
      simp only [numberTokens, Option.map_some, Option.toList_some, List.foldl_cons, List.foldl_nil,
        stepped, append, Bag.value, Bag.get_set_self, Option.getD_some]
      rfl

theorem number_tokens_labelled (number : Option Text) :
    ∀ token ∈ numberTokens number, token.component? = some .number := by
  intro token member
  obtain ⟨text, _, rfl⟩ := Option.map_eq_some_iff.1 (Option.mem_toList.1 member)
  exact Label.component_label .number

theorem number_with_longer (joining : Joining) (number : Text) (given : number ≠ []) :
    (joining.numberWith none).length < (joining.numberWith (some number)).length := by
  have positive : 0 < number.length := List.length_pos_iff.2 given
  simp only [numberWith]
  split
  case isTrue =>
    simp only [List.length_append]
    omega
  case isFalse lacking =>
    have empty : joining.bag.value .number = [] := by simpa [Bag.has] using lacking
    rw [empty]
    exact positive

theorem number_with_injective (joining : Joining) (left right : Option Text)
    (leftGiven : left ≠ some []) (rightGiven : right ≠ some [])
    (same : joining.numberWith left = joining.numberWith right) : left = right := by
  cases left with
  | none =>
      cases right with
      | none => rfl
      | some number =>
          have longer := joining.number_with_longer number fun empty =>
            rightGiven (congrArg some empty)
          rw [same] at longer
          exact absurd longer (Nat.lt_irrefl _)
  | some number =>
      cases right with
      | none =>
          have longer := joining.number_with_longer number fun empty =>
            leftGiven (congrArg some empty)
          rw [same] at longer
          exact absurd longer (Nat.lt_irrefl _)
      | some other =>
          simp only [numberWith] at same
          split at same
          case isTrue => rw [List.append_cancel_left same]
          case isFalse => rw [same]

end Joining

namespace Bag

theorem of_tokens_number (front behind : List Token) (number : Option Text)
    (given : number ≠ some []) (written : number.map Text.trim = number)
    (absent : ∀ token ∈ behind, token.component? ≠ some .number) :
    (ofTokens (front ++ (Joining.numberTokens number ++ behind))).value .number =
      (front.foldl Joining.step .start).numberWith number := by
  rw [ofTokens, List.foldl_append, List.foldl_append, value,
    Joining.run_keeps _ _ .number absent, ← value, Joining.run_number_tokens _ _ given written]

theorem of_tokens_but_number (front behind : List Token) (left right : Option Text)
    (component : Component) (different : component ≠ .number) :
    (ofTokens (front ++ (Joining.numberTokens left ++ behind))).get component =
      (ofTokens (front ++ (Joining.numberTokens right ++ behind))).get component := by
  have kept (number : Option Text) :
      ((Joining.numberTokens number).foldl Joining.step
        (front.foldl Joining.step .start)).bag.get component =
          (front.foldl Joining.step .start).bag.get component := by
    apply Joining.run_keeps
    intro token member labelled
    apply different
    rw [Joining.number_tokens_labelled number token member] at labelled
    exact (Option.some.inj labelled).symm
  simp only [ofTokens, List.foldl_append]
  exact Joining.run_agrees _ _ behind component different ((kept left).trans (kept right).symm)

end Bag

end PostalAddress
