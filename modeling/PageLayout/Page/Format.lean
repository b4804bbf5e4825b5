/-!
# Formats

The languages in which a page can be written.
-/

namespace PageLayout

/-- A language for pages. -/
inductive Format where
  | html
  | vue
  | react
deriving DecidableEq, Repr, Inhabited

namespace Format

/-- All formats. -/
def all : List Format :=
  [.html, .vue, .react]

/-- The word that names a format. -/
def name : Format → String
  | .html => "html"
  | .vue => "vue"
  | .react => "react"

/-- The end of the file names of a format, without the dot. -/
def extension : Format → String
  | .html => "html"
  | .vue => "vue"
  | .react => "jsx"

/-- The media type of a format. -/
def mediaType : Format → String
  | .html => "text/html; charset=utf-8"
  | .vue | .react => "text/plain; charset=utf-8"

/-- The format that a word names, if it is spelled exactly like the word. -/
def ofName? (word : String) : Option Format :=
  all.find? fun format => format.name == word

/-- Every format is found under its own word. -/
@[simp]
theorem ofName?_name (format : Format) : ofName? format.name = some format := by
  cases format <;> decide

end Format

end PageLayout
