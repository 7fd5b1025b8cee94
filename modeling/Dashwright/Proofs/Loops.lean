import Dashwright.Failure

/-! Computations that may fail, in sequence and in loops. A sequence gives an answer only
through each of its steps; a loop whose body always goes on is a fold; a loop whose body goes
on from every state an invariant allows keeps the invariant to its end. -/

namespace Dashwright

@[simp] theorem ok_bind {α β : Type} (a : α) (f : α → Outcome β) : (Except.ok a >>= f) = f a := rfl

theorem error_bind {α β : Type} (e : Failure) (f : α → Outcome β) :
    (Except.error e >>= f) = Except.error e := rfl

theorem throw_eq_error {α : Type} (e : Failure) : (throw e : Outcome α) = .error e := rfl

theorem pure_ne_error {α : Type} (a : α) (e : Failure) : (pure a : Outcome α) ≠ .error e := nofun

theorem bind_eq_ok {α β : Type} {x : Outcome α} {f : α → Outcome β} {b : β} (ok : (x >>= f) = .ok b) :
    ∃ a, x = .ok a ∧ f a = .ok b := by
  cases x with
  | error e => cases ok
  | ok a => exact ⟨a, rfl, ok⟩

theorem forIn_yield {α β : Type} (step : β → α → β) (xs : List α) (acc : β)
    (body : α → β → Outcome (ForInStep β)) (yields : ∀ x ∈ xs, ∀ b, body x b = pure (.yield (step b x))) :
    forIn xs acc body = pure (xs.foldl step acc) := by
  induction xs generalizing acc with
  | nil => rfl
  | cons x rest ih =>
    rw [List.forIn_cons, yields x List.mem_cons_self, pure_bind]
    exact ih (step acc x) fun y member => yields y (List.mem_cons_of_mem x member)

theorem forIn_ok {ε α β : Type} (xs : List α) (init : β) (body : α → β → Except ε (ForInStep β))
    (I : List α → β → Prop) (start : I [] init)
    (step : ∀ done x rest, xs = done ++ x :: rest → ∀ b, I done b →
      ∃ b', body x b = pure (.yield b') ∧ I (done ++ [x]) b') :
    ∃ b, forIn xs init body = pure b ∧ I xs b := by
  -- the loop over the items left, from the state after those gone through
  suffices left : ∀ rest done b, xs = done ++ rest → I done b →
      ∃ b', forIn rest b body = pure b' ∧ I xs b' from left xs [] init rfl start
  intro rest
  induction rest with
  | nil =>
    intro done b split holds
    rw [List.append_nil] at split
    exact ⟨b, rfl, split ▸ holds⟩
  | cons x rest ih =>
    intro done b split holds
    obtain ⟨b', yields, holds'⟩ := step done x rest split b holds
    rw [List.forIn_cons, yields, pure_bind]
    exact ih (done ++ [x]) b' (by rw [split, List.append_assoc, List.singleton_append]) holds'

theorem forIn_bind_inv {ε α β γ : Type} {xs : List α} {init : β} {body : α → β → Except ε (ForInStep β)}
    {f : β → Except ε γ} {r : Except ε γ} (I : List α → β → Prop) (start : I [] init)
    (step : ∀ done x rest, xs = done ++ x :: rest → ∀ b, I done b →
      ∃ b', body x b = pure (.yield b') ∧ I (done ++ [x]) b')
    (finish : ∀ b, I xs b → f b = r) : (forIn xs init body >>= f) = r := by
  obtain ⟨b, run, holds⟩ := forIn_ok xs init body I start step
  rw [run, pure_bind]
  exact finish b holds

theorem forIn_fails {α β : Type} (xs : List α) (init : β) (body : α → β → Outcome (ForInStep β))
    {e : Failure} {x : α} (member : x ∈ xs) (fails : ∀ b, body x b = .error e)
    (goesOn : ∀ y ∈ xs, ∀ b, body y b = .error e ∨ ∃ b', body y b = pure (.yield b')) :
    forIn xs init body = .error e := by
  induction xs generalizing init with
  | nil => cases member
  | cons y rest ih =>
    rw [List.forIn_cons]
    rcases List.mem_cons.mp member with rfl | later
    · rw [fails]
      rfl
    · rcases goesOn y List.mem_cons_self init with stops | ⟨b, yields⟩
      · rw [stops]
        rfl
      · rw [yields, pure_bind]
        exact ih b later fun z inRest => goesOn z (List.mem_cons_of_mem y inRest)

theorem forIn_skip {α β : Type} {body : α → β → Outcome (ForInStep β)} {b : β} (before rest : List α)
    (skips : ∀ x ∈ before, body x b = pure (.yield b)) :
    forIn (before ++ rest) b body = forIn rest b body := by
  induction before with
  | nil => rfl
  | cons x before ih =>
    rw [List.cons_append, List.forIn_cons, skips x List.mem_cons_self, pure_bind]
    exact ih fun y member => skips y (List.mem_cons_of_mem x member)

theorem forIn_answers {α β : Type} (xs : List α) (init : β) (body : α → β → Outcome (ForInStep β))
    (answers : ∀ x ∈ xs, ∀ b, ∃ step, body x b = pure step) : ∃ r, forIn xs init body = pure r := by
  induction xs generalizing init with
  | nil => exact ⟨init, rfl⟩
  | cons x rest ih =>
    obtain ⟨step, gives⟩ := answers x List.mem_cons_self init
    rw [List.forIn_cons, gives, pure_bind]
    cases step with
    | done b => exact ⟨b, rfl⟩
    | yield b => exact ih b fun y member => answers y (List.mem_cons_of_mem x member)

theorem forIn_bind_answers {α β γ : Type} {xs : List α} {init : β} {body : α → β → Outcome (ForInStep β)}
    {f : β → Outcome γ} (answers : ∀ x ∈ xs, ∀ b, ∃ step, body x b = pure step)
    (finish : ∀ b, ∃ c, f b = .ok c) : ∃ c, (forIn xs init body >>= f) = .ok c := by
  obtain ⟨r, run⟩ := forIn_answers xs init body answers
  rw [run, pure_bind]
  exact finish r

theorem bind_ne_error {α β : Type} {x : Outcome α} {f : α → Outcome β} {e : Failure}
    (first : x ≠ .error e) (rest : ∀ a, f a ≠ .error e) : (x >>= f) ≠ .error e := by
  cases x with
  | error e' =>
    rw [error_bind]
    rintro ⟨⟩
    exact first rfl
  | ok a => exact rest a

theorem forIn_ne_error {α β : Type} (xs : List α) (init : β) (body : α → β → Outcome (ForInStep β))
    {e : Failure} (each : ∀ x ∈ xs, ∀ b, body x b ≠ .error e) : forIn xs init body ≠ .error e := by
  induction xs generalizing init with
  | nil => exact nofun
  | cons x rest ih =>
    rw [List.forIn_cons]
    refine bind_ne_error (each x List.mem_cons_self init) fun step => ?_
    cases step with
    | done b => exact nofun
    | yield b => exact ih b fun y member => each y (List.mem_cons_of_mem x member)

theorem mapM_ne_error {α β : Type} (xs : List α) (f : α → Outcome β) {e : Failure}
    (each : ∀ x ∈ xs, f x ≠ .error e) : xs.mapM f ≠ .error e := by
  induction xs with
  | nil => exact nofun
  | cons x rest ih =>
    rw [List.mapM_cons]
    refine bind_ne_error (each x List.mem_cons_self) fun b => bind_ne_error
      (ih fun y member => each y (List.mem_cons_of_mem x member)) fun bs => nofun

theorem mapM_error {α β : Type} {xs : List α} {f : α → Outcome β} {e : Failure}
    (failed : xs.mapM f = .error e) : ∃ x ∈ xs, f x = .error e :=
  Classical.byContradiction fun never =>
    mapM_ne_error xs f (fun x member fails => never ⟨x, member, fails⟩) failed

theorem mapM_ok_mem {α β : Type} {xs : List α} {f : α → Outcome β} {ys : List β}
    (ok : xs.mapM f = .ok ys) :
    (∀ x ∈ xs, ∃ y ∈ ys, f x = .ok y) ∧ (∀ y ∈ ys, ∃ x ∈ xs, f x = .ok y) := by
  induction xs generalizing ys with
  | nil =>
    cases ok
    exact ⟨nofun, nofun⟩
  | cons x rest ih =>
    rw [List.mapM_cons] at ok
    obtain ⟨y, first, more⟩ := bind_eq_ok ok
    obtain ⟨ys', others, answers⟩ := bind_eq_ok more
    cases answers
    obtain ⟨every, only⟩ := ih others
    refine ⟨fun z member => ?_, fun w answer => ?_⟩
    · rcases List.mem_cons.mp member with rfl | later
      · exact ⟨y, List.mem_cons_self, first⟩
      · obtain ⟨w, answer, gives⟩ := every z later
        exact ⟨w, List.mem_cons_of_mem y answer, gives⟩
    · rcases List.mem_cons.mp answer with rfl | later
      · exact ⟨x, List.mem_cons_self, first⟩
      · obtain ⟨z, member, gives⟩ := only w later
        exact ⟨z, List.mem_cons_of_mem x member, gives⟩

end Dashwright
