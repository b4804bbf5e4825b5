import Mathlib.Data.List.Forall2

/-!
# Results of steps and of walks

A step gives a result or an error. Steps in a row give the result of the last one or the first
error, and so does a walk over a list that takes one step for each member.

- `bind_eq_ok_iff` and `bind_eq_error_iff`: two steps in a row.
- `FirstFailure`: the member at which a walk stops.
- `mapM_eq_ok_iff` and `mapM_eq_error_iff`: a walk that collects results.
- `mapM_append_eq_ok_iff` and `mapM_append_eq_error_iff`: such a walk over two lists in a row.
- `forM_eq_error_iff`: a walk that only checks.
-/

namespace PageLayout

variable {α β γ ε ε' : Type}

/-! ## Steps -/

/-- Two steps in a row give a result if both do. -/
theorem bind_eq_ok_iff {x : Except ε α} {f : α → Except ε β} {b : β} :
    x >>= f = .ok b ↔ ∃ a, x = .ok a ∧ f a = .ok b := by
  cases x with
  | error e => simp [bind, Except.bind]
  | ok a => simp [bind, Except.bind]

/-- Two steps in a row can be taken if the first can be and then the second. -/
theorem exists_bind_eq_ok_iff {x : Except ε α} {f : α → Except ε β} :
    (∃ b, x >>= f = .ok b) ↔ ∃ a, x = .ok a ∧ ∃ b, f a = .ok b := by
  cases x with
  | error e => simp [bind, Except.bind]
  | ok a => simp [bind, Except.bind]

/-- The error of two steps in a row is the first one. -/
theorem bind_eq_error_iff {x : Except ε α} {f : α → Except ε β} {e : ε} :
    x >>= f = .error e ↔ x = .error e ∨ ∃ a, x = .ok a ∧ f a = .error e := by
  cases x with
  | error e' => simp [bind, Except.bind]
  | ok a => simp [bind, Except.bind]

/-- A result that is changed comes from a result. -/
theorem map_eq_ok_iff {f : α → β} {x : Except ε α} {y : β} :
    x.map f = .ok y ↔ ∃ a, x = .ok a ∧ f a = y := by
  cases x with
  | error e => simp [Except.map]
  | ok a => simp [Except.map]

/-- There is a changed result if there is a result. -/
theorem exists_map_eq_ok_iff {f : α → β} {x : Except ε α} :
    (∃ y, x.map f = .ok y) ↔ ∃ a, x = .ok a := by
  cases x with
  | error e => simp [Except.map]
  | ok a => simp [Except.map]

/-- Changing results leaves errors as they are. -/
theorem map_eq_error_iff {f : α → β} {x : Except ε α} {e : ε} :
    x.map f = .error e ↔ x = .error e := by
  cases x with
  | error e' => simp [Except.map]
  | ok a => simp [Except.map]

/-- Changing errors leaves results as they are. -/
theorem mapError_eq_ok_iff {f : ε → ε'} {x : Except ε α} {a : α} :
    x.mapError f = .ok a ↔ x = .ok a := by
  cases x with
  | error e => simp [Except.mapError]
  | ok a' => simp [Except.mapError]

/-- An error that is changed comes from an error. -/
theorem mapError_eq_error_iff {f : ε → ε'} {x : Except ε α} {e' : ε'} :
    x.mapError f = .error e' ↔ ∃ e, x = .error e ∧ f e = e' := by
  cases x with
  | error e => simp [Except.mapError]
  | ok a => simp [Except.mapError]

/-- A step that is guarded gives a result if the guard lets it pass. -/
theorem ite_error_eq_ok_iff {p : Prop} [Decidable p] {e : ε} {x : Except ε α} {a : α} :
    (if p then .error e else x) = .ok a ↔ ¬ p ∧ x = .ok a := by
  split
  · next hp => simp [hp]
  · next hp => simp [hp]

/-- Two checks are the same if they give the same errors. -/
theorem eq_of_error_iff {x y : Except ε Unit} (h : ∀ e, x = .error e ↔ y = .error e) : x = y := by
  cases x with
  | error e => exact ((h e).1 rfl).symm
  | ok a =>
    cases y with
    | error e => exact (h e).2 rfl
    | ok b => rfl

/-! ## Walks -/

/-- A walk over a list stops at a place: the member there is refused with an error, and all
members before it are accepted. -/
structure FirstFailure (f : α → Except ε β) (xs : List α) (i : Nat) (e : ε) : Prop where
  refused : ∃ x, xs[i]? = some x ∧ f x = .error e
  accepted : ∀ j < i, ∀ x ∈ xs[j]?, ∃ y, f x = .ok y

theorem not_firstFailure_nil {f : α → Except ε β} {i : Nat} {e : ε} : ¬ FirstFailure f [] i e := by
  rintro ⟨⟨x, hx, -⟩, -⟩
  cases hx

/-- A walk stops at its first member or, if that is accepted, where the walk over the others
does. -/
theorem firstFailure_cons_iff {f : α → Except ε β} {x : α} {xs : List α} {i : Nat} {e : ε} :
    FirstFailure f (x :: xs) i e ↔
      (i = 0 ∧ f x = .error e) ∨
        ∃ j y, i = j + 1 ∧ f x = .ok y ∧ FirstFailure f xs j e := by
  constructor
  · rintro ⟨⟨x', hx', he⟩, haccepted⟩
    cases i with
    | zero =>
      obtain rfl : x = x' := Option.some.inj hx'
      exact .inl ⟨rfl, he⟩
    | succ j =>
      obtain ⟨y, hy⟩ := haccepted 0 (by omega) x rfl
      refine .inr ⟨j, y, rfl, hy, ⟨x', hx', he⟩, fun k hk => ?_⟩
      exact haccepted (k + 1) (by omega)
  · rintro (⟨rfl, he⟩ | ⟨j, y, rfl, hy, ⟨x', hx', he⟩, haccepted⟩)
    · exact ⟨⟨x, rfl, he⟩, fun j hj => absurd hj (by omega)⟩
    · refine ⟨⟨x', hx', he⟩, fun k hk => ?_⟩
      cases k with
      | zero => rintro _ ⟨⟩; exact ⟨y, hy⟩
      | succ k => exact haccepted k (by omega)

/-- Where a walk stops does not depend on what becomes of the results. -/
theorem firstFailure_map_iff {f : α → Except ε β} {g : α → β → γ} {xs : List α} {i : Nat} {e : ε} :
    FirstFailure (fun x => (f x).map (g x)) xs i e ↔ FirstFailure f xs i e := by
  constructor
  · rintro ⟨⟨x, hx, he⟩, haccepted⟩
    exact ⟨⟨x, hx, map_eq_error_iff.1 he⟩, fun j hj x hx =>
      exists_map_eq_ok_iff.1 (haccepted j hj x hx)⟩
  · rintro ⟨⟨x, hx, he⟩, haccepted⟩
    exact ⟨⟨x, hx, map_eq_error_iff.2 he⟩, fun j hj x hx =>
      exists_map_eq_ok_iff.2 (haccepted j hj x hx)⟩

/-- Members that all have a partner have a list of partners. -/
theorem exists_forall₂_iff {r : α → β → Prop} {xs : List α} :
    (∃ ys, List.Forall₂ r xs ys) ↔ ∀ x ∈ xs, ∃ y, r x y := by
  induction xs with
  | nil => simp
  | cons x xs ih =>
    rw [List.forall_mem_cons, ← ih]
    simp only [List.forall₂_cons_left_iff]
    constructor
    · rintro ⟨_, y, ys, hx, hxs, -⟩
      exact ⟨⟨y, hx⟩, ys, hxs⟩
    · rintro ⟨⟨y, hx⟩, ys, hxs⟩
      exact ⟨_, y, ys, hx, hxs, rfl⟩

/-- A member of the second of two lists that are related member by member has a partner in the
first. -/
theorem exists_mem_of_forall₂_right {r : α → β → Prop} {xs : List α} {ys : List β}
    (h : List.Forall₂ r xs ys) {y : β} (hy : y ∈ ys) : ∃ x ∈ xs, r x y := by
  induction h with
  | nil => simp at hy
  | cons hr _ ih =>
    obtain rfl | hy := List.mem_cons.1 hy
    · exact ⟨_, List.mem_cons_self, hr⟩
    · obtain ⟨x, hx, hxy⟩ := ih hy
      exact ⟨x, List.mem_cons_of_mem _ hx, hxy⟩

/-- Results for all members of a list are a list of results, one for each of them. -/
theorem mapM_eq_ok_iff {f : α → Except ε β} {xs : List α} {ys : List β} :
    xs.mapM f = .ok ys ↔ List.Forall₂ (fun x y => f x = .ok y) xs ys := by
  induction xs generalizing ys with
  | nil =>
    rw [List.mapM_nil, List.forall₂_nil_left_iff]
    exact ⟨fun h => (Except.ok.inj h).symm, fun h => h ▸ rfl⟩
  | cons x xs ih =>
    rw [List.mapM_cons, List.forall₂_cons_left_iff, bind_eq_ok_iff]
    constructor
    · rintro ⟨y, hx, hrest⟩
      obtain ⟨ys', hxs, hys⟩ := bind_eq_ok_iff.1 hrest
      exact ⟨y, ys', hx, ih.1 hxs, (Except.ok.inj hys).symm⟩
    · rintro ⟨y, ys', hx, hxs, rfl⟩
      exact ⟨y, hx, bind_eq_ok_iff.2 ⟨ys', ih.2 hxs, rfl⟩⟩

/-- A walk gives results if each of its steps does. -/
theorem exists_mapM_eq_ok_iff {f : α → Except ε β} {xs : List α} :
    (∃ ys, xs.mapM f = .ok ys) ↔ ∀ x ∈ xs, ∃ y, f x = .ok y := by
  simp only [mapM_eq_ok_iff, exists_forall₂_iff]

/-- A walk that collects results fails with the error of the first member that is refused. -/
theorem mapM_eq_error_iff {f : α → Except ε β} {xs : List α} {e : ε} :
    xs.mapM f = .error e ↔ ∃ i, FirstFailure f xs i e := by
  induction xs with
  | nil => simp [not_firstFailure_nil, pure, Except.pure]
  | cons x xs ih =>
    rw [List.mapM_cons, bind_eq_error_iff]
    constructor
    · rintro (hx | ⟨y, hx, hrest⟩)
      · exact ⟨0, firstFailure_cons_iff.2 (.inl ⟨rfl, hx⟩)⟩
      · obtain hxs | ⟨ys, -, hys⟩ := bind_eq_error_iff.1 hrest
        · obtain ⟨i, hi⟩ := ih.1 hxs
          exact ⟨i + 1, firstFailure_cons_iff.2 (.inr ⟨i, y, rfl, hx, hi⟩)⟩
        · cases hys
    · rintro ⟨i, hi⟩
      obtain ⟨-, hx⟩ | ⟨j, y, -, hx, hj⟩ := firstFailure_cons_iff.1 hi
      · exact .inl hx
      · exact .inr ⟨y, hx, bind_eq_error_iff.2 (.inl (ih.2 ⟨j, hj⟩))⟩

/-- A walk over two lists, one after the other, gives results if both walks do. -/
theorem mapM_append_eq_ok_iff {f : α → Except ε β} {xs xs' : List α} {ys : List β} :
    (xs ++ xs').mapM f = .ok ys ↔
      ∃ zs zs', xs.mapM f = .ok zs ∧ xs'.mapM f = .ok zs' ∧ ys = zs ++ zs' := by
  rw [List.mapM_append, bind_eq_ok_iff]
  refine exists_congr fun zs => ?_
  rw [bind_eq_ok_iff]
  constructor
  · rintro ⟨hzs, zs', hzs', hys⟩
    exact ⟨zs', hzs, hzs', (Except.ok.inj hys).symm⟩
  · rintro ⟨zs', hzs, hzs', rfl⟩
    exact ⟨hzs, zs', hzs', rfl⟩

/-- It fails as the first walk does or, if that gives results, as the second one does. -/
theorem mapM_append_eq_error_iff {f : α → Except ε β} {xs xs' : List α} {e : ε} :
    (xs ++ xs').mapM f = .error e ↔
      xs.mapM f = .error e ∨ (∃ zs, xs.mapM f = .ok zs) ∧ xs'.mapM f = .error e := by
  rw [List.mapM_append, bind_eq_error_iff, ← exists_and_right]
  refine or_congr_right (exists_congr fun zs => and_congr_right fun _ => ?_)
  rw [bind_eq_error_iff]
  simp [pure, Except.pure]

/-- Results that are all changed in the same way may be changed after the walk. -/
theorem mapM_map {f : α → Except ε β} {g : β → γ} (xs : List α) :
    (xs.mapM fun x => (f x).map g) = (xs.mapM f).map (List.map g) := by
  induction xs with
  | nil => rfl
  | cons x xs ih =>
    rw [List.mapM_cons, List.mapM_cons, ih]
    rcases f x with e | y
    · rfl
    · rcases xs.mapM f with e | ys
      · rfl
      · rfl

/-- Lists whose members lead to the same steps are walked over alike. -/
theorem mapM_eq_of_forall₂ {r : α → α → Prop} {f g : α → Except ε β}
    (hfg : ∀ x y, r x y → f x = g y) {xs ys : List α} (h : List.Forall₂ r xs ys) :
    xs.mapM f = ys.mapM g := by
  induction h with
  | nil => rfl
  | cons hxy _ ih => rw [List.mapM_cons, List.mapM_cons, hfg _ _ hxy, ih]

/-- Steps that agree on all members of a list make the same walk over it. -/
theorem mapM_congr {f g : α → Except ε β} {xs : List α} (h : ∀ x ∈ xs, f x = g x) :
    xs.mapM f = xs.mapM g :=
  mapM_eq_of_forall₂ (r := fun x y => f x = g y) (fun _ _ hxy => hxy) (List.forall₂_same.2 h)

/-- A walk that only checks is one that collects results and drops them. -/
theorem forM_eq_map_mapM (f : α → Except ε PUnit) (xs : List α) :
    xs.forM f = (xs.mapM f).map fun _ => ⟨⟩ := by
  induction xs with
  | nil => rfl
  | cons x xs ih =>
    rw [List.mapM_cons, show (x :: xs).forM f = f x >>= fun _ => xs.forM f from rfl, ih]
    cases f x with
    | error e => rfl
    | ok y => cases xs.mapM f <;> rfl

/-- A walk that only checks fails with the error of the first member that is refused. -/
theorem forM_eq_error_iff {f : α → Except ε PUnit} {xs : List α} {e : ε} :
    xs.forM f = .error e ↔ ∃ i, FirstFailure f xs i e := by
  rw [forM_eq_map_mapM, map_eq_error_iff, mapM_eq_error_iff]

end PageLayout
