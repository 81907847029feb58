import TailView.Text.Reader

/-!
# What readers find

A property that everything a reader finds has, wherever the reader starts.  Each way to combine
readers has one rule, and the rules together show the property of a composed reader.
-/

namespace TailView
namespace Text
namespace Reader

variable {α β : Type} {reader other : Reader α} {next : α → Reader β}
  {Holds : α → Prop} {Then : β → Prop}

theorem start_ofFunction (read : List Char → Option (α × List Char)) (cs : List Char) :
    (ofFunction read).start cs = read cs :=
  rfl

/-- Whatever a reader finds has a property. -/
def Yields (reader : Reader α) (Holds : α → Prop) : Prop :=
  ∀ cs value rest, reader.start cs = some (value, rest) → Holds value

theorem yields_true (reader : Reader α) : Yields reader fun _ => True :=
  fun _ _ _ _ => trivial

theorem yields_failure : Yields (failure : Reader α) Holds := by
  intro cs value rest found
  cases found

namespace Yields

theorem pure {value : α} (holds : Holds value) : Yields (pure value) Holds := by
  intro cs found rest here
  cases here
  exact holds

/-- The second of two readers knows what the first one found. -/
theorem bind
    (first : Yields reader Holds)
    (second : ∀ value, Holds value → Yields (next value) Then) :
    Yields (reader >>= next) Then := by
  intro cs value rest found
  obtain ⟨⟨middle, after⟩, here, there⟩ := Option.bind_eq_some_iff.mp found
  exact second middle (first cs middle after here) after value rest there

/-- A reader whose findings do not matter comes first. -/
theorem after (reader : Reader α) (second : ∀ value, Yields (next value) Then) :
    Yields (reader >>= next) Then :=
  (yields_true reader).bind fun value _ => second value

theorem map
    {function : α → β}
    (yields : Yields reader Holds)
    (mapped : ∀ value, Holds value → Then (function value)) :
    Yields (function <$> reader) Then := by
  intro cs value rest found
  obtain ⟨⟨middle, _⟩, here, there⟩ := Option.bind_eq_some_iff.mp found
  cases there
  exact mapped middle (yields cs middle rest here)

theorem orElse (first : Yields reader Holds) (second : Yields other Holds) :
    Yields (reader <|> other) Holds := by
  intro cs value rest found
  change (reader.start cs).orElse (fun _ => other.start cs) = some (value, rest) at found
  cases here : reader.start cs with
  | some pair =>
      rw [here] at found
      cases found
      exact first cs _ _ here
  | none =>
      rw [here] at found
      exact second cs value rest found

/-- Everything a reader finds again and again has the property. -/
theorem many (yields : Yields reader Holds) :
    Yields (Reader.many reader) fun values => ∀ value ∈ values, Holds value := by
  have within : ∀ bound cs, ∀ value ∈ (manyWithin reader bound cs).1, Holds value := by
    intro bound
    induction bound with
    | zero => exact fun _ => nofun
    | succ bound inductionHypothesis =>
        intro cs
        rw [manyWithin]
        cases found : reader.start cs with
        | none => exact nofun
        | some here =>
            obtain ⟨first, rest⟩ := here
            simp only [List.forall_mem_cons]
            exact ⟨yields cs first rest found, inductionHypothesis rest⟩
  intro cs values rest found
  have same : (manyWithin reader cs.length cs).1 = values :=
    congrArg Prod.fst (Option.some.inj found)
  rw [← same]
  exact within cs.length cs

theorem maybe (yields : Yields reader Holds) :
    Yields (Reader.maybe reader) fun found => ∀ value ∈ found, Holds value := by
  intro cs found rest here
  rw [Reader.maybe, start_ofFunction] at here
  cases start : reader.start cs with
  | none =>
      rw [start] at here
      cases here
      exact nofun
  | some pair =>
      obtain ⟨value, after⟩ := pair
      rw [start] at here
      cases here
      intro other same
      cases same
      exact yields cs _ _ start

/-- Everything between separators has the property. -/
theorem separated (separator : Reader Unit) (yields : Yields reader Holds) :
    Yields (Reader.separated separator reader) fun values => ∀ value ∈ values, Holds value := by
  unfold Reader.separated
  refine yields.maybe.bind fun found holds => ?_
  cases found with
  | none => exact .pure nofun
  | some first =>
      have further : Yields (do separator; reader) Holds := .after separator fun _ => yields
      refine further.many.bind fun others othersHold => .pure ?_
      rw [List.forall_mem_cons]
      exact ⟨holds first rfl, othersHold⟩

/-- What a reader makes of a whole text has the property. -/
theorem whole?
    {cs : List Char}
    {value : α}
    (yields : Yields reader Holds)
    (found : Reader.whole? reader cs = some value) :
    Holds value := by
  unfold Reader.whole? at found
  split at found
  · next here start =>
      cases found
      exact yields cs _ _ start
  · cases found

end Yields
end Reader
end Text
end TailView
