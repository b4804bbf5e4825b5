import PageLayout.Proofs.Kind.Requirements
import PageLayout.Proofs.Page.Dependence
import PageLayout.Proofs.Text.ByteOrder

/-!
# Registering types

The first registration of a name stands. After any calls, each of which may be refused, a name
belongs to the type it was given first, and to the placeholder if it was given none; so the order of
calls does not matter unless two of them name the same type. Types that are added do not change how
elements of other types are treated.

- `attempt_eq`: one call.
- `lookup_after`: the types after calls in a row.
- `pairwise_bytes_tags` and `mem_tags_iff`: the list of names.
- `treatsAlike_after`: elements of other types.
- `firstWins_after`: all of it.
-/

namespace PageLayout.Registry

variable {registry registry' : Registry} {tag : String} {calls : List (String × Kind)}

/-! ## Names -/

theorem contains_iff : registry.contains tag ↔ tag ∈ registry.kinds.map Prod.fst := by
  rw [contains, List.contains_iff_mem]

/-- A name is registered if it is found. -/
theorem contains_eq_isSome_lookup (registry : Registry) (tag : String) :
    registry.contains tag = (registry.kinds.lookup tag).isSome := by
  rw [Bool.eq_iff_iff, contains_iff, List.lookup_isSome_iff, List.mem_map]
  exact exists_congr fun entry => and_congr_right fun _ => by rw [beq_iff_eq, eq_comm]

theorem perm_tags (registry : Registry) : registry.tags.Perm (registry.kinds.map Prod.fst) :=
  List.mergeSort_perm _ _

theorem mem_tags_iff : tag ∈ registry.tags ↔ registry.contains tag := by
  rw [registry.perm_tags.mem_iff, contains_iff]

theorem pairwise_tags (registry : Registry) : registry.tags.Pairwise (· < ·) := by
  have hle : registry.tags.Pairwise (· ≤ ·) := by
    have htrans : ∀ a b c : String, decide (a ≤ b) = true → decide (b ≤ c) = true →
        decide (a ≤ c) = true := fun a b c hab hbc =>
      decide_eq_true (String.le_trans (of_decide_eq_true hab) (of_decide_eq_true hbc))
    have htotal : ∀ a b : String, (decide (a ≤ b) || decide (b ≤ a)) = true := by
      intro a b
      simpa using String.le_total a b
    have hsorted := List.pairwise_mergeSort htrans htotal (registry.kinds.map Prod.fst)
    exact hsorted.imp fun h => of_decide_eq_true h
  have hne : registry.tags.Nodup := registry.perm_tags.nodup_iff.2 registry.nodup_tags
  exact (hle.and hne).imp fun h => lt_of_le_of_ne h.1 h.2

/-- The names are listed in the order of their bytes. -/
theorem pairwise_bytes_tags (registry : Registry) :
    registry.tags.Pairwise fun a b => Text.bytes a < Text.bytes b :=
  registry.pairwise_tags.imp Text.bytes_lt_iff.2

/-- Registries that have the same names list them alike. -/
theorem tags_eq_of_contains (h : ∀ tag, registry.contains tag = registry'.contains tag) :
    registry.tags = registry'.tags := by
  have hperm : registry.tags.Perm registry'.tags := by
    rw [List.perm_ext_iff_of_nodup (registry.pairwise_tags.imp fun h => h.ne)
      (registry'.pairwise_tags.imp fun h => h.ne)]
    intro tag
    rw [mem_tags_iff, mem_tags_iff, h]
  exact hperm.eq_of_pairwise (fun a b _ _ hab hba => absurd hba (lt_asymm hab))
    registry.pairwise_tags registry'.pairwise_tags

/-! ## Calls -/

/-- A call is refused if its name is registered, and leaves the registry as it was; any other call
adds its type under its name. -/
theorem attempt_eq (registry : Registry) (call : String × Kind) :
    (registry.contains call.1 = true → registry.attempt call = (.error ⟨call.1⟩, registry)) ∧
    (registry.contains call.1 = false →
      (registry.attempt call).1 = .ok () ∧
        (registry.attempt call).2.kinds = registry.kinds ++ [call]) := by
  rw [attempt, register]
  constructor
  · intro h
    rw [dif_pos (contains_iff.1 h)]
  · intro h
    have hnot : call.1 ∉ registry.kinds.map Prod.fst := by
      rw [← contains_iff, h]
      exact Bool.false_ne_true
    rw [dif_neg hnot]
    exact ⟨rfl, rfl⟩

/-- A type that is added under a new name is found behind the others. -/
theorem lookup_attempt (registry : Registry) (call : String × Kind) (tag : String) :
    (registry.attempt call).2.kinds.lookup tag = (registry.kinds ++ [call]).lookup tag := by
  cases hcontains : registry.contains call.1 with
  | false => rw [((registry.attempt_eq call).2 hcontains).2]
  | true =>
    rw [(registry.attempt_eq call).1 hcontains, List.lookup_append]
    -- The name of a refused call is found in front of it, and any other name is not found there.
    by_cases htag : tag = call.1
    · rw [contains_eq_isSome_lookup, ← htag, Option.isSome_iff_exists] at hcontains
      obtain ⟨kind, hkind⟩ := hcontains
      rw [hkind]
      rfl
    · rw [List.lookup_cons, beq_false_of_ne htag, List.lookup_nil, Option.or_none]

/-- What is found under a name after calls in a row is what would be found if every call had put
its type behind all others: the first registration of the name. -/
theorem lookup_after (registry : Registry) (calls : List (String × Kind)) (tag : String) :
    (registry.after calls).kinds.lookup tag = (registry.kinds ++ calls).lookup tag := by
  induction calls generalizing registry with
  | nil => rw [List.append_nil]; rfl
  | cons call calls ih =>
    rw [after, List.foldl_cons]
    refine (ih _).trans ?_
    rw [List.lookup_append, lookup_attempt, ← List.lookup_append, List.append_assoc,
      List.singleton_append]

theorem contains_after_iff :
    (registry.after calls).contains tag ↔ registry.contains tag ∨ tag ∈ calls.map Prod.fst := by
  rw [contains_eq_isSome_lookup, lookup_after, List.lookup_append, Option.isSome_or,
    Bool.or_eq_true, ← contains_eq_isSome_lookup, List.lookup_isSome_iff, List.mem_map]
  refine or_congr_right (exists_congr fun entry => and_congr_right fun _ => ?_)
  rw [beq_iff_eq, eq_comm]

/-! ## Calls in another order -/

/-- If no two entries have the same name, all of them are found. -/
theorem lookup_eq_some_iff_mem {entries : List (String × Kind)}
    (hnodup : (entries.map Prod.fst).Nodup) {kind : Kind} :
    entries.lookup tag = some kind ↔ (tag, kind) ∈ entries := by
  induction entries with
  | nil => simp
  | cons entry entries ih =>
    obtain ⟨name, first⟩ := entry
    rw [List.map_cons, List.nodup_cons] at hnodup
    rw [List.lookup_cons, List.mem_cons, Prod.mk.injEq]
    by_cases htag : tag = name
    · subst htag
      have hnot : (tag, kind) ∉ entries := fun h =>
        hnodup.1 (List.mem_map.2 ⟨_, h, rfl⟩)
      simp [hnot, eq_comm]
    · rw [beq_false_of_ne htag, ih hnodup.2]
      simp [htag]

theorem lookup_eq_of_perm {entries entries' : List (String × Kind)} (hperm : entries.Perm entries')
    (hnodup : (entries.map Prod.fst).Nodup) (tag : String) :
    entries.lookup tag = entries'.lookup tag := by
  have hnodup' : (entries'.map Prod.fst).Nodup := (hperm.map Prod.fst).nodup_iff.1 hnodup
  refine Option.ext fun kind => ?_
  rw [lookup_eq_some_iff_mem hnodup, lookup_eq_some_iff_mem hnodup', hperm.mem_iff]

/-- Calls with names of their own may be made in any order. -/
theorem lookup_after_eq_of_perm {calls' : List (String × Kind)} (hperm : calls.Perm calls')
    (hnodup : (calls.map Prod.fst).Nodup) (registry : Registry) (tag : String) :
    (registry.after calls).kinds.lookup tag = (registry.after calls').kinds.lookup tag := by
  rw [lookup_after, lookup_after, List.lookup_append, List.lookup_append,
    lookup_eq_of_perm hperm hnodup]

/-! ## Elements of other types -/

/-- Elements whose types have not been added are treated as before. -/
theorem treatsAlike_after {element : Element}
    (h : (registry.after calls).contains element.kind → registry.contains element.kind) :
    (registry.after calls).TreatsAlike registry element element := by
  have hlookup : (registry.after calls).kinds.lookup element.kind =
      registry.kinds.lookup element.kind := by
    -- A name that was found before the calls is found in front of them; the others are not found.
    cases hold : registry.kinds.lookup element.kind with
    | some kind =>
      rw [lookup_after, List.lookup_append, hold]
      rfl
    | none =>
      rw [← Option.not_isSome_iff_eq_none, ← contains_eq_isSome_lookup] at hold ⊢
      exact fun hnew => hold (h hnew)
  have hkind : (registry.after calls).kindOf element = registry.kindOf element := by
    rw [kindOf, kindOf, get, get, hlookup]
  exact ⟨rfl, by rw [markup, markup, hkind], by rw [resolve, resolve, hkind]⟩

/-! ## Runs -/

/-- What calls in a row do to a registry. -/
structure FirstWins (registry : Registry) (calls : List (String × Kind)) (last : Registry) :
    Prop where
  /-- A call is accepted if its name is not registered yet. -/
  accepted : ∀ before call, before ++ [call] <+: calls →
    (registry.after before).contains call.1 = false →
      ((registry.after before).attempt call).1 = .ok ()
  /-- A call is refused if its name is registered, and changes nothing. -/
  refused : ∀ before call, before ++ [call] <+: calls →
    (registry.after before).contains call.1 = true →
      ((registry.after before).attempt call).1 = .error ⟨call.1⟩ ∧
        registry.after (before ++ [call]) = registry.after before
  /-- A name belongs to the type that it was given first, where what was there before the calls
  comes first, and to the placeholder if it was given none. -/
  get : ∀ tag, last.get tag = ((registry.kinds ++ calls).lookup tag).getD .placeholder
  contains : ∀ tag, last.contains tag ↔ tag ∈ last.tags
  /-- The registered names are those that were there before the calls and those of the calls. -/
  mem_tags : ∀ tag, tag ∈ last.tags ↔ tag ∈ registry.tags ∨ tag ∈ calls.map Prod.fst
  /-- The names are listed in the order of their bytes, each of them once. -/
  ascending : last.tags.Pairwise fun a b => Text.bytes a < Text.bytes b
  /-- Calls with names of their own may be made in any order. -/
  reordered : ∀ calls', calls.Perm calls' → (calls.map Prod.fst).Nodup →
    (∀ tag, (registry.after calls').get tag = last.get tag) ∧
      (∀ tag, (registry.after calls').contains tag = last.contains tag) ∧
      (registry.after calls').tags = last.tags
  /-- A document without elements of the added types is checked and written as before. -/
  conservative : ∀ document : Document,
    (∀ element ∈ document.elements, last.contains element.kind → registry.contains element.kind) →
      last.validate document = registry.validate document ∧
        ∀ options, Html.page last options document = Html.page registry options document ∧
          Vue.component last options document = Vue.component registry options document

/-- Whatever calls are made, in whatever state of a registry, the first registration of a name
stands and nothing else changes. -/
theorem firstWins_after (registry : Registry) (calls : List (String × Kind)) :
    registry.FirstWins calls (registry.after calls) where
  accepted before call _ h := ((attempt_eq _ call).2 h).1
  refused before call _ h := by
    have hattempt := (attempt_eq (registry.after before) call).1 h
    have hafter : registry.after (before ++ [call]) = ((registry.after before).attempt call).2 := by
      rw [after, List.foldl_append]
      rfl
    exact ⟨by rw [hattempt], by rw [hafter, hattempt]⟩
  get tag := by rw [Registry.get, lookup_after]
  contains tag := mem_tags_iff.symm
  mem_tags tag := by rw [mem_tags_iff, contains_after_iff, mem_tags_iff]
  ascending := pairwise_bytes_tags _
  reordered calls' hperm hnodup := by
    have hlookup := fun tag => (lookup_after_eq_of_perm hperm hnodup registry tag).symm
    have hcontains : ∀ tag, (registry.after calls').contains tag =
        (registry.after calls).contains tag := by
      intro tag
      rw [contains_eq_isSome_lookup, contains_eq_isSome_lookup, hlookup]
    refine ⟨fun tag => ?_, hcontains, tags_eq_of_contains hcontains⟩
    rw [Registry.get, Registry.get, hlookup]
  conservative document hold := by
    have halike : List.Forall₂ ((registry.after calls).TreatsAlike registry) document.elements
        document.elements :=
      List.forall₂_same.2 fun element helement => treatsAlike_after (hold element helement)
    refine ⟨Document.validate_eq_of_treatsAlike halike, fun options => ⟨?_, ?_⟩⟩
    · exact Document.render_eq_of_treatsAlike rfl halike .html options
    · exact Document.render_eq_of_treatsAlike rfl halike .vue options

end PageLayout.Registry
