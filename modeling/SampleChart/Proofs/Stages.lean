import Mathlib.Data.List.Basic

/-!
# Stages that may fail

Reading and summarizing are chains of stages of which each may end the chain with an error. This
file opens such a chain into its stages, and it packages the two inductions over a left fold of
them: what one step preserves holds at the end of a run, and a run gets through exactly if every
item fits what stands before it. Two chains are compared by `EndAlike`: both get through or neither
does, and what they end with is related.
-/

namespace SampleChart

section Stages

variable {ε α β : Type}

theorem bind_eq_ok_iff {first : Except ε α} {next : α → Except ε β} {result : β} :
    first >>= next = .ok result ↔ ∃ value, first = .ok value ∧ next value = .ok result := by
  cases first with
  | error fault => simp [bind, Except.bind]
  | ok value => simp [bind, Except.bind]

theorem bind_eq_error_iff {first : Except ε α} {next : α → Except ε β} {fault : ε} :
    first >>= next = .error fault ↔
      first = .error fault ∨ ∃ value, first = .ok value ∧ next value = .error fault := by
  cases first with
  | error other => simp [bind, Except.bind]
  | ok value => simp [bind, Except.bind]

theorem map_eq_ok_iff {first : Except ε α} {next : α → β} {result : β} :
    first.map next = .ok result ↔ ∃ value, first = .ok value ∧ next value = result := by
  cases first with
  | error fault => simp [Except.map]
  | ok value => simp [Except.map]

/-- What can be seen of a result shows that there is one. -/
theorem exists_ok_of_toOption_map {first : Except ε α} {view : α → β} {seen : β}
    (shown : first.toOption.map view = some seen) :
    ∃ value, first = .ok value ∧ view value = seen := by
  cases first with
  | error fault => simp [Except.toOption] at shown
  | ok value => exact ⟨value, rfl, Option.some.inj shown⟩

end Stages

section Comparison

variable {ε ε' α α' β β' : Type} {Faults : ε → ε' → Prop} {Values : α → α' → Prop}

/-- Two chains end alike: both with values or both with errors, and these are related. -/
inductive EndAlike (Faults : ε → ε' → Prop) (Values : α → α' → Prop) :
    Except ε α → Except ε' α' → Prop
  | ok {left : α} {right : α'} (values : Values left right) :
      EndAlike Faults Values (.ok left) (.ok right)
  | error {left : ε} {right : ε'} (faults : Faults left right) :
      EndAlike Faults Values (.error left) (.error right)

namespace EndAlike

/-- Chains end alike if their first stages do and related values are carried on alike. -/
theorem bind {Results : β → β' → Prop} {left : Except ε α} {right : Except ε' α'}
    {leftNext : α → Except ε β} {rightNext : α' → Except ε' β'}
    (first : EndAlike Faults Values left right)
    (next : ∀ value value', Values value value' →
      EndAlike Faults Results (leftNext value) (rightNext value')) :
    EndAlike Faults Results (left >>= leftNext) (right >>= rightNext) := by
  cases first with
  | ok values => exact next _ _ values
  | error faults => exact .error faults

theorem map {Results : β → β' → Prop} {left : Except ε α} {right : Except ε' α'}
    {leftNext : α → β} {rightNext : α' → β'} (first : EndAlike Faults Values left right)
    (next : ∀ value value', Values value value' → Results (leftNext value) (rightNext value')) :
    EndAlike Faults Results (left.map leftNext) (right.map rightNext) := by
  cases first with
  | ok values => exact .ok (next _ _ values)
  | error faults => exact .error faults

theorem mono {Faults' : ε → ε' → Prop} {left : Except ε α} {right : Except ε' α'}
    (alike : EndAlike Faults Values left right)
    (faults : ∀ fault fault', Faults fault fault' → Faults' fault fault') :
    EndAlike Faults' Values left right := by
  cases alike with
  | ok values => exact .ok values
  | error related => exact .error (faults _ _ related)

theorem eq_ok_iff {left : Except ε α} {right : Except ε' α} (alike : EndAlike Faults Eq left right)
    {value : α} : left = .ok value ↔ right = .ok value := by
  cases alike with
  | ok values => simp [values]
  | error faults => simp

theorem right_of_ok {left : Except ε α} {right : Except ε' α'}
    (alike : EndAlike Faults Values left right) {value : α} (ended : left = .ok value) :
    ∃ value', right = .ok value' ∧ Values value value' := by
  cases alike with
  | ok values =>
      rcases Except.ok.inj ended with rfl
      exact ⟨_, rfl, values⟩
  | error faults => cases ended

theorem right_of_error {left : Except ε α} {right : Except ε' α'}
    (alike : EndAlike Faults Values left right) {fault : ε} (failed : left = .error fault) :
    ∃ fault', right = .error fault' ∧ Faults fault fault' := by
  cases alike with
  | ok values => cases failed
  | error faults =>
      rcases Except.error.inj failed with rfl
      exact ⟨_, rfl, faults⟩

theorem left_of_error {left : Except ε α} {right : Except ε' α'}
    (alike : EndAlike Faults Values left right) {fault' : ε'} (failed : right = .error fault') :
    ∃ fault, left = .error fault ∧ Faults fault fault' := by
  cases alike with
  | ok values => cases failed
  | error faults =>
      rcases Except.error.inj failed with rfl
      exact ⟨_, rfl, faults⟩

end EndAlike

end Comparison

section Folds

variable {ε σ α : Type} {step : σ → α → Except ε σ} (Holds : List α → σ → Prop)

/-- What every step preserves holds after a run, of all the items up to its end. -/
theorem holds_of_foldlM
    (preserved : ∀ earlier state item next,
      Holds earlier state → step state item = .ok next → Holds (earlier ++ [item]) next)
    {before items : List α} {state result : σ} (start : Holds before state)
    (run : items.foldlM step state = .ok result) : Holds (before ++ items) result := by
  induction items generalizing before state with
  | nil =>
      cases run
      simpa using start
  | cons item rest ih =>
      rw [List.foldlM_cons, bind_eq_ok_iff] at run
      rcases run with ⟨next, first, others⟩
      simpa using ih (preserved before state item next start first) others

/-- A run gets through exactly if every item fits the items before it. -/
theorem foldlM_isOk_iff (Fits : List α → α → Prop)
    (preserved : ∀ earlier state item next,
      Holds earlier state → step state item = .ok next → Holds (earlier ++ [item]) next)
    (fits : ∀ earlier state item,
      Holds earlier state → ((∃ next, step state item = .ok next) ↔ Fits earlier item))
    {before items : List α} {state : σ} (start : Holds before state) :
    (∃ result, items.foldlM step state = .ok result) ↔
      ∀ earlier item later, items = earlier ++ item :: later → Fits (before ++ earlier) item := by
  induction items generalizing before state with
  | nil => simp [pure, Except.pure]
  | cons item rest ih =>
      simp only [List.foldlM_cons, bind_eq_ok_iff]
      constructor
      · rintro ⟨result, next, first, others⟩ earlier item' later cut
        rcases List.cons_eq_append_iff.mp cut with ⟨rfl, same⟩ | ⟨tail, rfl, restCut⟩
        · rcases List.cons.inj same with ⟨rfl, rfl⟩
          simpa using (fits before state item' start).mp ⟨next, first⟩
        · have later_fits := (ih (preserved before state item next start first)).mp
            ⟨result, others⟩ tail item' later restCut
          simpa using later_fits
      · intro all_fit
        have item_fits : Fits before item := by simpa using all_fit [] item rest rfl
        rcases (fits before state item start).mpr item_fits with ⟨next, first⟩
        have rest_fits := (ih (preserved before state item next start first)).mpr (by
          intro earlier item' later cut
          simpa using all_fit (item :: earlier) item' later (by rw [cut, List.cons_append]))
        rcases rest_fits with ⟨result, others⟩
        exact ⟨result, next, first, others⟩

end Folds

end SampleChart
