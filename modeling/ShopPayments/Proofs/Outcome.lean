import Mathlib.Data.List.Forall2
import Mathlib.Data.List.Perm.Basic
import ShopPayments.Http.Message

/-!
# Outcomes of computations

A sequence of steps succeeds exactly if every step does, a guard succeeds exactly if its condition
does not hold, a list is put through a step exactly if each of its elements is, and lifting an
overflow or a failure into a larger type of causes changes no success.  What every failure of the
steps has in common (`FailsOnly`), every failure of the sequence has, and two sequences whose steps
match (`Parallel`) match as a whole.
-/

namespace ShopPayments

variable {ε α β : Type}

theorem bind_eq_ok {x : Except ε α} {f : α → Except ε β} {b : β} :
    x >>= f = .ok b ↔ ∃ a, x = .ok a ∧ f a = .ok b := by
  cases x <;> simp [bind, Except.bind]

theorem bind_eq_error {x : Except ε α} {f : α → Except ε β} {cause : ε} :
    x >>= f = .error cause ↔ x = .error cause ∨ ∃ a, x = .ok a ∧ f a = .error cause := by
  cases x <;> simp [bind, Except.bind]

theorem pure_eq_ok {a b : α} : (pure a : Except ε α) = .ok b ↔ a = b := by
  simp [pure, Except.pure]

/-- A step that puts a value where it can be read off again succeeds exactly with that value. -/
theorem bind_pure_eq_ok {x : Except ε α} {f : α → β} {read : β → α} (hread : ∀ a, read (f a) = a)
    {b : β} : (x >>= fun a ↦ pure (f a)) = .ok b ↔ x = .ok (read b) ∧ b = f (read b) := by
  rw [bind_eq_ok]
  constructor
  · rintro ⟨a, hx, hb⟩
    rw [← pure_eq_ok.mp hb, hread]
    exact ⟨hx, rfl⟩
  · rintro ⟨hx, hb⟩
    exact ⟨read b, hx, pure_eq_ok.mpr hb.symm⟩

theorem throw_ne_ok {cause : ε} {a : α} : (throw cause : Except ε α) ≠ .ok a := by
  intro h
  cases h

theorem guard_eq_ok {condition : Prop} [Decidable condition] {cause : ε}
    {f : PUnit → Except ε β} {x : Except ε β} {b : β} :
    (if condition then (throw cause : Except ε PUnit) >>= f else x) = .ok b ↔
      ¬ condition ∧ x = .ok b := by
  by_cases h : condition
  · rw [if_pos h, bind_eq_ok]
    simp [throw_ne_ok, h]
  · simp [h]

theorem ofOverflow_eq_ok {x : Except Overflow α} {a : α} :
    Failure.ofOverflow x = .ok a ↔ x = .ok a := by
  cases x <;> simp [Failure.ofOverflow]

theorem liftOverflow_eq_ok {x : Except Overflow α} {a : α} :
    (liftM x : Except Failure α) = .ok a ↔ x = .ok a := ofOverflow_eq_ok

theorem liftFailure_eq_ok {x : Except Failure α} {a : α} :
    (liftM x : Except Http.Rejection α) = .ok a ↔ x = .ok a := by
  change (match x with
    | .ok a => Except.ok a
    | .error cause => Except.error (Http.Rejection.failure cause)) = Except.ok a ↔ x = .ok a
  cases x <;> simp

theorem ensureValid_eq_ok [Validated α] {a b : α} :
    ensureValid a = .ok b ↔ isValid a = true ∧ b = a := by
  unfold ensureValid isValid
  cases Validated.violations a with
  | nil =>
    simp only [List.isEmpty_nil, true_and]
    exact ⟨fun h ↦ (Except.ok.inj h).symm, fun h ↦ congrArg Except.ok h.symm⟩
  | cons first rest => simp

theorem mapM_eq_ok {f : α → Except ε β} {l : List α} {bs : List β} :
    l.mapM f = .ok bs ↔ List.Forall₂ (fun a b ↦ f a = .ok b) l bs := by
  induction l generalizing bs with
  | nil =>
    rw [List.mapM_nil, pure_eq_ok, List.forall₂_nil_left_iff]
    exact eq_comm
  | cons a rest ih =>
    simp only [List.mapM_cons, bind_eq_ok, pure_eq_ok, ih, List.forall₂_cons_left_iff]
    constructor
    · rintro ⟨b, hb, bs', hrest, rfl⟩
      exact ⟨b, bs', hb, hrest, rfl⟩
    · rintro ⟨b, bs', hb, hrest, rfl⟩
      exact ⟨b, hb, bs', hrest, rfl⟩

theorem ensureValid_of_isValid [Validated α] {a : α} (h : isValid a = true) :
    ensureValid a = .ok a := ensureValid_eq_ok.mpr ⟨h, rfl⟩

/-! ## Lists made of lists -/

variable {γ : Type} {R : α → β → Prop} {l : List α} {bs : List β}

theorem exists_forall₂ (h : ∀ a ∈ l, ∃ b, R a b) : ∃ bs, List.Forall₂ R l bs := by
  induction l with
  | nil => exact ⟨[], .nil⟩
  | cons a rest ih =>
    obtain ⟨b, hb⟩ := h a List.mem_cons_self
    obtain ⟨bs, hbs⟩ := ih fun a' ha' ↦ h a' (List.mem_cons_of_mem a ha')
    exact ⟨b :: bs, .cons hb hbs⟩

theorem exists_of_forall₂_of_mem (h : List.Forall₂ R l bs) {b : β} (hb : b ∈ bs) :
    ∃ a ∈ l, R a b := by
  induction h with
  | nil => exact absurd hb List.not_mem_nil
  | cons hfirst _ ih =>
    rcases List.mem_cons.mp hb with rfl | hrest
    · exact ⟨_, List.mem_cons_self, hfirst⟩
    · obtain ⟨a, ha, hab⟩ := ih hrest
      exact ⟨a, List.mem_cons_of_mem _ ha, hab⟩

/-- Building from the elements in another order gives the same results in another order. -/
theorem exists_mapM_of_perm {f : α → Except ε β} {l' : List α} (hperm : l.Perm l')
    (h : l.mapM f = .ok bs) : ∃ bs', l'.mapM f = .ok bs' ∧ bs.Perm bs' := by
  obtain ⟨bs', hbs', hbs⟩ := List.perm_comp_forall₂ hperm.symm (mapM_eq_ok.mp h)
  exact ⟨bs', mapM_eq_ok.mpr hbs', hbs.symm⟩

theorem map_eq_of_forall₂ {f : α → γ} {g : β → γ} (h : List.Forall₂ R l bs)
    (heq : ∀ a ∈ l, ∀ b, R a b → g b = f a) : bs.map g = l.map f := by
  induction h with
  | nil => rfl
  | cons hfirst _ ih =>
    rw [List.map_cons, List.map_cons, heq _ List.mem_cons_self _ hfirst,
      ih fun a ha ↦ heq a (List.mem_cons_of_mem _ ha)]

/-! ## Causes of failure -/

/-- Every failure of the computation has the property. -/
def FailsOnly (P : ε → Prop) (x : Except ε α) : Prop := ∀ cause, x = .error cause → P cause

namespace FailsOnly

variable {P : ε → Prop}

theorem ok (a : α) : FailsOnly P (.ok a) := by
  intro cause h
  cases h

theorem pure (a : α) : FailsOnly P (Pure.pure a) := ok a

theorem error {cause : ε} (h : P cause) : FailsOnly (α := α) P (.error cause) := by
  intro other hother
  rwa [← Except.error.inj hother]

theorem imp {Q : ε → Prop} {x : Except ε α} (hx : FailsOnly P x)
    (h : ∀ cause, P cause → Q cause) : FailsOnly Q x := fun cause hcause ↦ h cause (hx cause hcause)

theorem bind {x : Except ε α} {f : α → Except ε β} (hx : FailsOnly P x)
    (hf : ∀ a, x = .ok a → FailsOnly P (f a)) : FailsOnly P (x >>= f) := by
  cases x with
  | error cause => exact error (hx cause rfl)
  | ok a => exact hf a rfl

theorem mapM {f : α → Except ε β} {l : List α} (hf : ∀ a ∈ l, FailsOnly P (f a)) :
    FailsOnly P (l.mapM f) := by
  induction l with
  | nil => exact pure []
  | cons a rest ih =>
    rw [List.mapM_cons]
    apply bind (hf a List.mem_cons_self)
    intro b _
    apply bind (ih fun a' ha' ↦ hf a' (List.mem_cons_of_mem a ha'))
    intro bs _
    exact pure (b :: bs)

theorem foldlM {f : β → α → Except ε β} {l : List α} (hf : ∀ b, ∀ a ∈ l, FailsOnly P (f b a))
    (start : β) : FailsOnly P (l.foldlM f start) := by
  induction l generalizing start with
  | nil => exact pure start
  | cons a rest ih =>
    rw [List.foldlM_cons]
    apply bind (hf start a List.mem_cons_self)
    intro b _
    exact ih (fun b' a' ha' ↦ hf b' a' (List.mem_cons_of_mem a ha')) b

theorem of_exists {x : Except ε α} (h : ∃ a, x = .ok a) : FailsOnly P x := by
  obtain ⟨a, rfl⟩ := h
  exact ok a

theorem guard {condition : Prop} [Decidable condition] {cause : ε} {f : PUnit → Except ε α}
    {x : Except ε α} (hcause : P cause) (hx : ¬ condition → FailsOnly P x) :
    FailsOnly P (if condition then (throw cause : Except ε PUnit) >>= f else x) := by
  split
  · exact error hcause
  next h => exact hx h

theorem liftOverflow {P : Failure → Prop} {x : Except Overflow α}
    (h : FailsOnly (fun operation ↦ P (.overflow operation)) x) :
    FailsOnly P (liftM x : Except Failure α) := by
  cases x with
  | error operation => exact error (h operation rfl)
  | ok a => exact ok a

theorem liftFailure {P : Http.Rejection → Prop} {x : Except Failure α}
    (h : FailsOnly (fun cause ↦ P (.failure cause)) x) :
    FailsOnly P (liftM x : Except Http.Rejection α) := by
  cases x with
  | error cause => exact error (h cause rfl)
  | ok a => exact ok a

end FailsOnly

/-- The result had no room. -/
def Failure.IsOverflow (cause : Failure) : Prop := ∃ operation, cause = .overflow operation

/-- The causes for which a line item cannot be built. -/
inductive Failure.OfItem : Failure → Prop where
  | overflow (operation : Overflow) : OfItem (.overflow operation)
  | invalid (entity : String) (violations : List Violation) : OfItem (.invalid entity violations)

theorem Failure.IsOverflow.ofItem {cause : Failure} (h : cause.IsOverflow) : cause.OfItem := by
  obtain ⟨operation, rfl⟩ := h
  exact .overflow operation

theorem failsOnly_liftOverflow (x : Except Overflow α) :
    FailsOnly Failure.IsOverflow (liftM x : Except Failure α) := by
  cases x with
  | error operation => exact .error ⟨operation, rfl⟩
  | ok a => exact .ok a

/-- A value is turned down for its violations only. -/
theorem failsOnly_invalid_ensureValid [Validated α] (a : α) :
    FailsOnly (fun cause ↦ ∃ entity violations, cause = .invalid entity violations)
      (ensureValid a) := by
  unfold ensureValid
  split
  · exact .ok a
  · exact .error ⟨_, _, rfl⟩

theorem failsOnly_ensureValid [Validated α] (a : α) :
    FailsOnly Failure.OfItem (ensureValid a) := by
  refine (failsOnly_invalid_ensureValid a).imp ?_
  rintro cause ⟨entity, violations, rfl⟩
  exact .invalid entity violations

/-! ## Two outcomes -/

/-- Two computations fail for the same cause, or both succeed with related results. -/
inductive Parallel (R : α → β → Prop) : Except ε α → Except ε β → Prop
  | ok {a : α} {b : β} (h : R a b) : Parallel R (.ok a) (.ok b)
  | error (cause : ε) : Parallel R (.error cause) (.error cause)

namespace Parallel

variable {δ : Type} {S : γ → δ → Prop} {x : Except ε α} {y : Except ε β}

theorem pure {a : α} {b : β} (h : R a b) :
    Parallel R (Pure.pure a : Except ε α) (Pure.pure b) := ok h

theorem refl {R : α → α → Prop} (hR : ∀ a, R a a) (x : Except ε α) : Parallel R x x := by
  cases x with
  | ok a => exact ok (hR a)
  | error cause => exact error cause

theorem bind {f : α → Except ε γ} {k : β → Except ε δ} (hx : Parallel R x y)
    (hf : ∀ a b, R a b → Parallel S (f a) (k b)) : Parallel S (x >>= f) (y >>= k) := by
  cases hx with
  | ok h => exact hf _ _ h
  | error cause => exact error cause

/-- A step that both computations share. -/
theorem step {x : Except ε α} {f : α → Except ε γ} {k : α → Except ε δ}
    (hf : ∀ a, x = .ok a → Parallel S (f a) (k a)) : Parallel S (x >>= f) (x >>= k) := by
  cases x with
  | ok a => exact hf a rfl
  | error cause => exact error cause

theorem guard {condition : Prop} [Decidable condition] {cause : ε} {f : PUnit → Except ε α}
    {k : PUnit → Except ε β} (h : Parallel R x y) :
    Parallel R (if condition then (throw cause : Except ε PUnit) >>= f else x)
      (if condition then (throw cause : Except ε PUnit) >>= k else y) := by
  split
  · exact error cause
  · exact h

theorem liftFailure {x : Except Failure α} {y : Except Failure β} (h : Parallel R x y) :
    Parallel R (liftM x : Except Http.Rejection α) (liftM y : Except Http.Rejection β) := by
  cases h with
  | ok h => exact ok h
  | error cause => exact error (Http.Rejection.failure cause)

end Parallel

/-! ## Evaluating -/

@[simp]
theorem ok_bind (a : α) (f : α → Except ε β) : (Except.ok a : Except ε α) >>= f = f a := rfl

@[simp]
theorem error_bind (cause : ε) (f : α → Except ε β) :
    (Except.error cause : Except ε α) >>= f = .error cause := rfl

@[simp]
theorem throw_bind (cause : ε) (f : α → Except ε β) :
    (throw cause : Except ε α) >>= f = .error cause := rfl

theorem pure_eq (a : α) : (pure a : Except ε α) = .ok a := rfl

@[simp]
theorem liftOverflow_ok (a : α) :
    (liftM (Except.ok a : Except Overflow α) : Except Failure α) = .ok a := rfl

@[simp]
theorem liftFailure_ok (a : α) :
    (liftM (Except.ok a : Except Failure α) : Except Http.Rejection α) = .ok a := rfl

@[simp]
theorem liftFailure_error (cause : Failure) :
    (liftM (Except.error cause : Except Failure α) : Except Http.Rejection α) =
      .error (.failure cause) := rfl

end ShopPayments
