import Mathlib.Data.List.Basic
import Mathlib.Data.List.Induction
import PageLayout.History

/-!
# Histories as zippers

Apart from its capacity, a history is empty or a zipper: snapshots before the current one, the
current one, and snapshots after it. Recording a snapshot moves the current one to the past, drops
the future and, if there is one snapshot too many, the oldest one; undoing and redoing move one
snapshot across. Every run of a history is a run of the zipper, with the same results.

- `Run.results_of_simulation`, `Run.after_of_simulation`: runs follow a simulation of their steps.
- `History.act_ofZipper`: each action on a history is that action on its zipper.
- `History.run_ofCapacity`: what holds in every state that a history can reach.
-/

namespace PageLayout

/-! ## Runs -/

namespace Run

variable {σ τ ι ρ : Type}

/-- The state after a list of inputs. -/
def after (step : σ → ι → ρ × σ) (s : σ) (inputs : List ι) : σ :=
  inputs.foldl (fun s input => (step s input).2) s

/-- What each of a list of inputs answers. -/
def results (step : σ → ι → ρ × σ) : σ → List ι → List ρ
  | _, [] => []
  | s, input :: inputs => (step s input).1 :: results step (step s input).2 inputs

theorem after_append (step : σ → ι → ρ × σ) (s : σ) (inputs others : List ι) :
    after step s (inputs ++ others) = after step (after step s inputs) others :=
  List.foldl_append

/-- Answers with what a move leads to. A move that cannot be made changes nothing. -/
def answer (s : σ) (moved : Option (ρ × σ)) : Option ρ × σ :=
  moved.elim (none, s) fun (r, s) => (some r, s)

variable {step : σ → ι → ρ × σ} {step' : τ → ι → ρ × τ} {f : τ → σ}
  (hsimulation : ∀ t input, step (f t) input = ((step' t input).1, f (step' t input).2))

include hsimulation

/-- A run answers like the run that simulates it. -/
theorem results_of_simulation (t : τ) (inputs : List ι) :
    results step (f t) inputs = results step' t inputs := by
  induction inputs generalizing t with
  | nil => rfl
  | cons input inputs ih => rw [results, results, hsimulation, ih]

/-- A run ends in the state that its simulation stands for. -/
theorem after_of_simulation (t : τ) (inputs : List ι) :
    after step (f t) inputs = f (after step' t inputs) := by
  induction inputs generalizing t with
  | nil => rfl
  | cons input inputs ih =>
    rw [after, after, List.foldl_cons, List.foldl_cons, hsimulation]
    exact ih _

end Run

open Run

/-! ## Actions -/

variable {α : Type}

/-- What can be asked of a history. -/
inductive History.Action (α : Type) where
  | push (state : α)
  | undo
  | redo
  | clear
deriving DecidableEq, Repr

/-- Does what was asked for, and answers with the snapshot that an undo or a redo leads to. -/
def History.act (history : History α) : Action α → Option α × History α
  | .push state => (none, history.push state)
  | .undo => answer history history.undo?
  | .redo => answer history history.redo?
  | .clear => (none, history.clear)

/-- The snapshot that was recorded or returned last, after one more action and its answer. -/
def History.lastSeen (seen : Option α) : Action α × Option α → Option α
  | (.push state, _) => some state
  | (.undo, result) => result.or seen
  | (.redo, result) => result.or seen
  | (.clear, _) => none

/-! ## The zipper -/

/-- The current snapshot between those before it and those after it. -/
structure Zipper (α : Type) where
  /-- The oldest first. -/
  past : List α
  present : α
  /-- The oldest first. -/
  future : List α
deriving DecidableEq, Repr

namespace Zipper

/-- All snapshots, the oldest first. -/
def states (z : Zipper α) : List α :=
  z.past ++ z.present :: z.future

/-- A new current snapshot. The future is dropped, and the oldest snapshot of the past, too, if
there is one too many. -/
def push (capacity : Nat) (state : α) : Option (Zipper α) → Zipper α
  | none => ⟨[], state, []⟩
  | some z =>
    let past := z.past ++ [z.present]
    ⟨if capacity < past.length + 1 then past.tail else past, state, []⟩

/-- The newest snapshot of the past becomes the current one. -/
def undo? (z : Zipper α) : Option (Zipper α) :=
  z.past.getLast?.map fun previous => ⟨z.past.dropLast, previous, z.present :: z.future⟩

/-- The oldest snapshot of the future becomes the current one. -/
def redo? (z : Zipper α) : Option (Zipper α) :=
  match z.future with
  | [] => none
  | next :: later => some ⟨z.past ++ [z.present], next, later⟩

/-- An action on a history that may be empty. -/
def act (capacity : Nat) (z : Option (Zipper α)) : History.Action α → Option α × Option (Zipper α)
  | .push state => (none, some (push capacity state z))
  | .undo => answer z ((z.bind undo?).map fun z => (z.present, some z))
  | .redo => answer z ((z.bind redo?).map fun z => (z.present, some z))
  | .clear => (none, none)

/-! ## Moves -/

/-- Two zippers of the same snapshots, where the current one of the second comes right after that
of the first. -/
structure Precedes (z z' : Zipper α) : Prop where
  past : z'.past = z.past ++ [z.present]
  future : z.future = z'.present :: z'.future

section Moves

variable {z z' : Zipper α}

theorem Precedes.states_eq (h : z.Precedes z') : z.states = z'.states := by
  simp [states, h.past, h.future]

theorem undo?_eq_some_iff : z.undo? = some z' ↔ z'.Precedes z := by
  rw [undo?, Option.map_eq_some_iff]
  constructor
  · rintro ⟨previous, hlast, rfl⟩
    exact ⟨(List.dropLast_append_getLast? previous hlast).symm, rfl⟩
  · rintro ⟨hpast, hfuture⟩
    exact ⟨z'.present, by simp [hpast], by simp [hpast, ← hfuture]⟩

theorem redo?_eq_some_iff : z.redo? = some z' ↔ z.Precedes z' := by
  obtain ⟨past, present, future⟩ := z
  cases future with
  | nil => exact ⟨nofun, fun h => absurd h.future (List.cons_ne_nil _ _).symm⟩
  | cons next later =>
    constructor
    · rintro ⟨⟩
      exact ⟨rfl, rfl⟩
    · rintro ⟨hpast, hfuture⟩
      obtain ⟨rfl, rfl⟩ := List.cons.inj hfuture
      rw [redo?, ← hpast]

/-- A redo takes an undo back. -/
theorem redo?_of_undo? (hundo : z.undo? = some z') : z'.redo? = some z :=
  redo?_eq_some_iff.2 (undo?_eq_some_iff.1 hundo)

end Moves

/-! ## The bound -/

/-- There are no more snapshots than the capacity. -/
def Fits (capacity : Nat) (z : Option (Zipper α)) : Prop :=
  ∀ zipper ∈ z, zipper.states.length ≤ capacity

variable {capacity : Nat} {z : Option (Zipper α)}

theorem fits_none : Fits capacity (none : Option (Zipper α)) := by
  simp [Fits]

theorem fits_push (hcapacity : 0 < capacity) (hz : Fits capacity z) (state : α) :
    Fits capacity (some (push capacity state z)) := by
  rintro _ ⟨⟩
  cases z with
  | none => exact hcapacity
  | some z =>
    have hlength : z.past.length + (z.future.length + 1) ≤ capacity := by
      simpa [states] using hz z rfl
    have hkept : (z.past ++ [z.present]).length = z.past.length + 1 := by simp
    simp only [push, states, List.length_append, List.length_singleton]
    -- If the new snapshot does not fit, the oldest one makes room for it.
    by_cases hfull : capacity < z.past.length + 1 + 1
    · rw [if_pos hfull, List.length_tail, hkept]
      omega
    · rw [if_neg hfull, hkept]
      omega

/-- No action exceeds the capacity. -/
theorem fits_act (hcapacity : 0 < capacity) (hz : Fits capacity z) (action : History.Action α) :
    Fits capacity (act capacity z action).2 := by
  -- A move that is made leads to the same snapshots, and any other one changes nothing.
  have hmove : ∀ moved : Option (Zipper α),
      (∀ z' ∈ moved, ∃ before ∈ z, z'.states = before.states) →
      Fits capacity (answer z (moved.map fun z => (z.present, some z))).2 := by
    intro moved hmoved
    cases moved with
    | none => exact hz
    | some z' =>
      obtain ⟨before, hbefore, hstates⟩ := hmoved z' rfl
      rintro _ ⟨⟩
      rw [hstates]
      exact hz before hbefore
  cases action with
  | push state => exact fits_push hcapacity hz state
  | undo =>
    refine hmove _ fun z' hz' => ?_
    obtain ⟨before, hbefore, hundo⟩ := Option.bind_eq_some_iff.1 hz'
    exact ⟨before, hbefore, (undo?_eq_some_iff.1 hundo).states_eq⟩
  | redo =>
    refine hmove _ fun z' hz' => ?_
    obtain ⟨before, hbefore, hredo⟩ := Option.bind_eq_some_iff.1 hz'
    exact ⟨before, hbefore, (redo?_eq_some_iff.1 hredo).states_eq.symm⟩
  | clear => exact fits_none

/-- Neither does any run. -/
theorem fits_after (hcapacity : 0 < capacity) (hz : Fits capacity z)
    (actions : List (History.Action α)) : Fits capacity (after (act capacity) z actions) := by
  induction actions generalizing z with
  | nil => exact hz
  | cons action actions ih => exact ih (fits_act hcapacity hz action)

/-! ## What a run leaves behind -/

/-- After every action, the current snapshot is the one that was recorded or returned last. -/
theorem present_act (action : History.Action α) :
    (act capacity z action).2.map present =
      History.lastSeen (z.map present) (action, (act capacity z action).1) := by
  have hmove : ∀ moved : Option (Zipper α),
      (answer z (moved.map fun z => (z.present, some z))).2.map present =
        (answer z (moved.map fun z => (z.present, some z))).1.or (z.map present) := by
    intro moved
    cases moved <;> rfl
  cases action with
  | push state => cases z <;> rfl
  | undo => exact hmove _
  | redo => exact hmove _
  | clear => rfl

theorem present_after (actions : List (History.Action α)) :
    (after (act capacity) z actions).map present =
      (actions.zip (results (act capacity) z actions)).foldl History.lastSeen (z.map present) := by
  induction actions generalizing z with
  | nil => rfl
  | cons action actions ih =>
    rw [results, List.zip_cons_cons, List.foldl_cons, ← present_act]
    exact ih

/-- As many redos take undos back that were all possible. -/
theorem after_undos_redos {k : Nat}
    (hundos : ∀ result ∈ results (act capacity) z (List.replicate k .undo), result.isSome) :
    after (act capacity) z (List.replicate k .undo ++ List.replicate k .redo) = z := by
  induction k generalizing z with
  | zero => rfl
  | succ k ih =>
    rw [List.replicate_succ, results, List.forall_mem_cons, act] at hundos
    obtain ⟨hfirst, hundos⟩ := hundos
    cases hmoved : z.bind undo? with
    | none => simp [hmoved, answer] at hfirst
    | some z' =>
      obtain ⟨before, rfl, hundo⟩ := Option.bind_eq_some_iff.1 hmoved
      rw [hmoved] at hundos
      -- The first undo is taken back by the last redo, all others by the redos before it.
      have hrest : after (act capacity) (some z')
          (List.replicate k .undo ++ List.replicate k .redo) = some z' := ih hundos
      have hfirst : (act capacity (some before) .undo).2 = some z' := by
        simp [act, hmoved, answer]
      have hlast : (act capacity (some z') .redo).2 = some before := by
        simp [act, redo?_of_undo? hundo, answer]
      calc after (act capacity) (some before)
            (List.replicate (k + 1) .undo ++ List.replicate (k + 1) .redo)
          = after (act capacity) (act capacity (some before) .undo).2
              (List.replicate k .undo ++ List.replicate k .redo ++ [.redo]) := by
            rw [List.replicate_succ, List.replicate_succ', List.append_assoc]
            rfl
        _ = (act capacity (after (act capacity) (some z')
              (List.replicate k .undo ++ List.replicate k .redo)) .redo).2 := by
            rw [hfirst, after_append]
            rfl
        _ = some before := by
            rw [hrest, hlast]

end Zipper

/-! ## Histories and their zippers -/

namespace History

/-- The history that a zipper stands for. -/
def ofZipper (capacity : Nat) : Option (Zipper α) → History α
  | none => ⟨[], none, capacity⟩
  | some z => ⟨z.states, some z.past.length, capacity⟩

variable {capacity : Nat}

/-- Recording a snapshot cuts the zipper off behind it. -/
theorem push_ofZipper (hcapacity : 0 < capacity) (z : Option (Zipper α)) (state : α) :
    (ofZipper capacity z).push state = ofZipper capacity (some (Zipper.push capacity state z)) := by
  cases z with
  | none =>
    have hroom : ¬ capacity < 1 := by omega
    simp [push, ofZipper, reached, Zipper.push, Zipper.states, hroom]
  | some z =>
    obtain ⟨oldest, others, hothers⟩ : ∃ oldest others, z.past ++ [z.present] = oldest :: others :=
      List.exists_cons_of_ne_nil (by simp)
    have hkept : (z.past ++ z.present :: z.future).take (z.past.length + 1) = oldest :: others := by
      rw [← hothers, List.take_append, List.take_of_length_le (Nat.le_succ _)]
      simp
    -- Both drop the oldest snapshot if the new one does not fit.
    simp only [push, ofZipper, reached, Zipper.push, Zipper.states, hkept, hothers]
    by_cases hfull : capacity < others.length + 1 + 1
    · simp [hfull]
    · simp [hfull]

theorem undo?_ofZipper (z : Option (Zipper α)) :
    (ofZipper capacity z).undo? =
      (z.bind Zipper.undo?).map fun z => (z.present, ofZipper capacity (some z)) := by
  cases z with
  | none => rfl
  | some z =>
    obtain ⟨past, present, future⟩ := z
    obtain rfl | ⟨front, previous, rfl⟩ := List.eq_nil_or_concat past
    · rfl
    · simp [ofZipper, undo?, Zipper.undo?, Zipper.states]

theorem redo?_ofZipper (z : Option (Zipper α)) :
    (ofZipper capacity z).redo? =
      (z.bind Zipper.redo?).map fun z => (z.present, ofZipper capacity (some z)) := by
  cases z with
  | none => rfl
  | some z =>
    obtain ⟨past, present, future⟩ := z
    cases future with
    | nil => simp [ofZipper, redo?, Zipper.redo?, Zipper.states]
    | cons next later => simp [ofZipper, redo?, Zipper.redo?, Zipper.states]

/-- Each action on a history is the action on its zipper, with the same answer. -/
theorem act_ofZipper (hcapacity : 0 < capacity) (z : Option (Zipper α)) (action : Action α) :
    (ofZipper capacity z).act action =
      ((Zipper.act capacity z action).1, ofZipper capacity (Zipper.act capacity z action).2) := by
  cases action with
  | push state => rw [act, push_ofZipper hcapacity]; rfl
  | undo =>
    rw [act, undo?_ofZipper, Zipper.act]
    cases z.bind Zipper.undo? <;> rfl
  | redo =>
    rw [act, redo?_ofZipper, Zipper.act]
    cases z.bind Zipper.redo? <;> rfl
  | clear => cases z <;> rfl

/-- An undo is announced just if there is one. -/
theorem canUndo_ofZipper (z : Option (Zipper α)) :
    (ofZipper capacity z).canUndo = (ofZipper capacity z).undo?.isSome := by
  rw [undo?_ofZipper]
  cases z with
  | none => rfl
  | some z =>
    obtain ⟨past, present, future⟩ := z
    obtain rfl | ⟨front, previous, rfl⟩ := List.eq_nil_or_concat past
    · rfl
    · simp [ofZipper, canUndo, reached, Zipper.undo?]

/-- A redo is announced just if there is one. -/
theorem canRedo_ofZipper (z : Option (Zipper α)) :
    (ofZipper capacity z).canRedo = (ofZipper capacity z).redo?.isSome := by
  rw [redo?_ofZipper]
  cases z with
  | none => rfl
  | some z =>
    obtain ⟨past, present, future⟩ := z
    cases future with
    | nil => simp [ofZipper, canRedo, reached, size, Zipper.states, Zipper.redo?]
    | cons next later => simp [ofZipper, canRedo, reached, size, Zipper.states, Zipper.redo?]

theorem current?_ofZipper (z : Option (Zipper α)) :
    (ofZipper capacity z).current? = z.map Zipper.present := by
  cases z with
  | none => rfl
  | some z => simp [ofZipper, current?, Zipper.states]

/-! ## All states of a history -/

/-- A history that does what its zipper does. -/
structure Refines (capacity : Nat) (history : History α) (z : Option (Zipper α)) : Prop where
  eq_ofZipper : history = ofZipper capacity z
  size_le : history.size ≤ capacity
  cursor_eq_none_iff : history.cursor = none ↔ history.states = []
  cursor_lt : ∀ cursor ∈ history.cursor, cursor < history.size
  canUndo_eq : history.canUndo = history.undo?.isSome
  canRedo_eq : history.canRedo = history.redo?.isSome
  /-- Undos that are all possible are taken back by as many redos. -/
  undos_redos : ∀ k, (∀ result ∈ results act history (List.replicate k .undo), result.isSome) →
    after act history (List.replicate k .undo ++ List.replicate k .redo) = history

theorem refines_ofZipper (hcapacity : 0 < capacity) {z : Option (Zipper α)}
    (hz : Zipper.Fits capacity z) : Refines capacity (ofZipper capacity z) z where
  eq_ofZipper := rfl
  size_le := by
    cases z with
    | none => exact Nat.zero_le capacity
    | some z => exact hz z rfl
  cursor_eq_none_iff := by
    cases z with
    | none => simp [ofZipper]
    | some z => simp [ofZipper, Zipper.states]
  cursor_lt := by
    cases z with
    | none => exact nofun
    | some z =>
      rintro _ ⟨⟩
      simp [ofZipper, size, Zipper.states]
  canUndo_eq := canUndo_ofZipper z
  canRedo_eq := canRedo_ofZipper z
  undos_redos := by
    intro k hundos
    rw [results_of_simulation (act_ofZipper hcapacity)] at hundos
    rw [after_of_simulation (act_ofZipper hcapacity), Zipper.after_undos_redos hundos]

/-- Every run of a history is a run of a zipper that starts empty: it answers in the same way, and
it ends in the history that the zipper stands for. The current snapshot is then the one that was
recorded or returned last. -/
theorem run_ofCapacity (n : Nat) (actions : List (Action α)) :
    results act (ofCapacity n) actions = results (Zipper.act (max n 1)) none actions ∧
    (after act (ofCapacity n) actions).Refines (max n 1)
      (after (Zipper.act (max n 1)) none actions) ∧
    (after act (ofCapacity n) actions).current? =
      (actions.zip (results act (ofCapacity n) actions)).foldl lastSeen none := by
  have hcapacity : 0 < max n 1 := by omega
  have hstart : (ofCapacity n : History α) = ofZipper (max n 1) none := rfl
  rw [hstart, results_of_simulation (act_ofZipper hcapacity),
    after_of_simulation (act_ofZipper hcapacity)]
  refine ⟨rfl, refines_ofZipper hcapacity ?_, ?_⟩
  · exact Zipper.fits_after hcapacity Zipper.fits_none actions
  · rw [current?_ofZipper, Zipper.present_after]
    rfl

end History

end PageLayout
