/-!
# Breakpoints

The canvas widths at which a page can be looked at while it is edited.
-/

namespace PageLayout

/-- A canvas width. -/
inductive Breakpoint where
  | mobile
  | tablet
  | desktop
deriving DecidableEq, Repr, Inhabited

namespace Breakpoint

/-- All breakpoints, the narrowest first. -/
def all : List Breakpoint :=
  [.mobile, .tablet, .desktop]

/-- The word that names a breakpoint in documents. -/
def id : Breakpoint → String
  | .mobile => "mobile"
  | .tablet => "tablet"
  | .desktop => "desktop"

/-- The name of a breakpoint for people. -/
def name : Breakpoint → String
  | .mobile => "Mobile"
  | .tablet => "Tablet"
  | .desktop => "Desktop"

/-- The width of the canvas in pixels. -/
def width : Breakpoint → Nat
  | .mobile => 375
  | .tablet => 768
  | .desktop => 1200

/-- The breakpoint that a word names, if it is spelled exactly like the word. -/
def ofId? (word : String) : Option Breakpoint :=
  all.find? fun breakpoint => breakpoint.id == word

/-- What is said about a word that names no breakpoint. -/
def unknownMessage (word : String) : String :=
  "unknown breakpoint: " ++ word

/-- Every breakpoint is found under its own word. -/
@[simp]
theorem ofId?_id (breakpoint : Breakpoint) : ofId? breakpoint.id = some breakpoint := by
  cases breakpoint <;> decide

end Breakpoint

end PageLayout
