import PageLayout.Kind.Basic

/-!
# Registries of types

A registry knows types of elements by their names. A name is given to one type only: the first
registration stands, and any later one is refused. Names that are not registered belong to the
placeholder.

## Main definitions

* `Registry.builtin` has the built-in types, `Registry.empty` none.
* `Registry.register` adds a type under a new name.
* `Registry.after` is what calls that may be refused make of a registry.
* `Registry.markup`, `Registry.resolve` and `Registry.validate` treat elements by their types.
-/

namespace PageLayout

/-- The types of elements that a page may use. -/
structure Registry where
  /-- The registered names and their types. -/
  kinds : List (String × Kind)
  /-- No name is registered twice. -/
  nodup_tags : (kinds.map Prod.fst).Nodup

/-- The refusal of a name that is registered already. -/
structure DuplicateKind where
  tag : String
deriving DecidableEq, Repr

/-- The refusal in words. -/
def DuplicateKind.message (error : DuplicateKind) : String :=
  "duplicate element type: " ++ error.tag

namespace Registry

/-- The registry without types. -/
def empty : Registry :=
  ⟨[], List.nodup_nil⟩

/-- The registry of the built-in types. -/
def builtin : Registry :=
  ⟨Kind.builtins, by decide⟩

/-- Whether a name is registered. -/
def contains (registry : Registry) (tag : String) : Bool :=
  (registry.kinds.map Prod.fst).contains tag

/-- The type with a name, or the placeholder. -/
def get (registry : Registry) (tag : String) : Kind :=
  (registry.kinds.lookup tag).getD .placeholder

/-- The registered names in ascending order. -/
def tags (registry : Registry) : List String :=
  (registry.kinds.map Prod.fst).mergeSort fun a b => a ≤ b

/-- Registers a type under a name that is not registered yet. -/
def register (registry : Registry) (tag : String) (kind : Kind) :
    Except DuplicateKind Registry :=
  if h : tag ∈ registry.kinds.map Prod.fst then .error ⟨tag⟩
  else .ok ⟨registry.kinds ++ [(tag, kind)], by
    rw [List.map_append, List.nodup_append]
    refine ⟨registry.nodup_tags, by simp, fun a ha b hb e => h ?_⟩
    have hb : b = tag := List.mem_singleton.1 hb
    exact hb ▸ e ▸ ha⟩

/-- A call that registers a type: its answer, and the registry after it. A call that is refused
leaves the registry as it was. -/
def attempt (registry : Registry) (call : String × Kind) :
    Except DuplicateKind Unit × Registry :=
  match registry.register call.1 call.2 with
  | .ok registry => (.ok (), registry)
  | .error error => (.error error, registry)

/-- The registry after calls in a row. -/
def after (registry : Registry) (calls : List (String × Kind)) : Registry :=
  calls.foldl (fun registry call => (registry.attempt call).2) registry

/-- The type of an element. -/
def kindOf (registry : Registry) (element : Element) : Kind :=
  registry.get element.kind

/-- The markup of an element according to its type. -/
def markup (registry : Registry) (element : Element) : Except MalformedElement Markup :=
  (registry.kindOf element).markup element

/-- The style of an element according to its type. -/
def resolve (registry : Registry) (element : Element) : Style :=
  (registry.kindOf element).resolve element

/-- Checks every element of a document, in order. -/
def validate (registry : Registry) (document : Document) : Except MalformedElement Unit :=
  document.elements.forM fun element => (registry.markup element).map fun _ => ()

end Registry

end PageLayout
