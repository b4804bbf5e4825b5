import PageLayout.Page.Format
import PageLayout.Page.Options
import PageLayout.Toml.Reader

/-!
# Configuration files

A configuration says which format is meant if none is named, and what pages look like. It is a
TOML text; whatever it leaves out keeps its default, and no other keys are admitted.
-/

namespace PageLayout

/-- A configuration. -/
structure Config where
  /-- The format if none is named. -/
  defaultFormat : Format := .html
  /-- The options of generated pages. -/
  generator : Options := {}
deriving DecidableEq, Repr, Inhabited

namespace Config

open Toml

/-- The part of the text to blame for a value: its own, or that of its key. -/
def extentOf (key : Key) (node : Node) : Extent :=
  node.extent?.getD key.extent

/-- Reads a value that must be a boolean. -/
def readBoolean (extent : Extent) : Node → Except Toml.Failure Bool
  | .scalar _ (.boolean b) => .ok b
  | node => .error ⟨.invalidType node.found "a boolean", extent⟩

/-- Reads a value that must be a string. -/
def readText (extent : Extent) : Node → Except Toml.Failure String
  | .scalar _ (.string s) => .ok s
  | node => .error ⟨.invalidType node.found "a string", extent⟩

/-- The names of the options. -/
def optionNames : List String :=
  ["escape", "font_family", "lang", "pretty_print"]

/-- Options with one of them given. -/
def setOption (options : Options) (name : String) (blamed extent : Extent) (node : Node) :
    Except Toml.Failure Options :=
  match name with
  | "escape" => do return { options with escape := ← readBoolean extent node }
  | "font_family" => do return { options with fontFamily := ← readText extent node }
  | "lang" => do return { options with lang := ← readText extent node }
  | "pretty_print" => do return { options with prettyPrint := ← readBoolean extent node }
  | _ => .error ⟨.unknownField name optionNames, blamed⟩

/-- The name of the only key that a date has when it is taken for a table. -/
def datetimeKey : String :=
  "$__toml_private_datetime"

/-- Options with those given that a value gives: a table by name, an array in order. -/
def readOptions (extent : Extent) (node : Node) : Except Toml.Failure Options :=
  let byName (entries : Entries) : Except Toml.Failure Options :=
    entries.foldlM (fun options (key, node) =>
      setOption options key.name key.extent (extentOf key node) node) {}
  let inOrder (items : List Node) : Except Toml.Failure Options :=
    (optionNames.zip items).foldlM (fun options (name, node) =>
      let extent := node.extent?.getD extent
      setOption options name extent extent node) {}
  match node with
  | .table _ _ entries | .inlineTable _ entries => byName entries
  | .array _ items | .tables _ items => inOrder items
  | .scalar _ .datetime => .error ⟨.unknownField datetimeKey optionNames, extent⟩
  | node => .error ⟨.invalidType node.found "struct GeneratorConfig", extent⟩

/-- The format that a word names. -/
def readFormatName (extent : Extent) (word : String) : Except Toml.Failure Format :=
  match Format.ofName? word with
  | some format => .ok format
  | none => .error ⟨.unknownVariant word (Format.all.map Format.name), extent⟩

/-- The format that a value names: a word, or the only key of a table, whose value says nothing
more. -/
def readFormat (extent : Extent) (node : Node) : Except Toml.Failure Format :=
  let byKey (entries : Entries) : Except Toml.Failure Format :=
    match entries with
    | [] => .error ⟨.variantCount false, extent⟩
    | [(key, node)] => do
      let format ← readFormatName key.extent key.name
      let extent := node.extent?.getD extent
      match node with
      | .array _ [] | .tables _ [] | .inlineTable _ [] | .table _ _ [] => return format
      | .tables .. => .error ⟨.variantContent "empty array", extent⟩
      | .array .. | .inlineTable .. | .table .. => .error ⟨.variantContent "empty table", extent⟩
      | .scalar .. => .error ⟨.variantContent ("table, found " ++ node.kindName), extent⟩
    | _ => .error ⟨.variantCount true, extent⟩
  match node with
  | .scalar _ (.string word) => readFormatName extent word
  | .table _ _ entries | .inlineTable _ entries => byKey entries
  | _ => .error ⟨.notVariant, extent⟩

/-- The configuration that a table gives. -/
def ofEntries (entries : Entries) : Except Toml.Failure Config :=
  entries.foldlM (fun config (key, node) =>
    match key.name with
    | "default_format" => do
      return { config with defaultFormat := ← readFormat (extentOf key node) node }
    | "generator" => do
      return { config with generator := ← readOptions (extentOf key node) node }
    | name => .error ⟨.unknownField name ["default_format", "generator"], key.extent⟩) {}

/-- Reads a configuration. -/
def ofToml (source : String) : Except Toml.Failure Config := do
  ofEntries (← readTable source.toList)

end Config

end PageLayout
