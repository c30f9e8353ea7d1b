import TabNotes.Template.TagText

/-! # Frontmatter fields

The fields that the frontmatter block of a note can have, in the order of the block, with the key
that preferences know each one by and the name it is written under by default. -/

namespace TabNotes.Frontmatter

open TabNotes.Template

/-- A field of the frontmatter block. -/
inductive Field where
  | title
  | date
  | time
  | exportedAt
  | tabCount
  | incognito
  | tags
  | collections
deriving DecidableEq

namespace Field

/-- All fields in the order of the block. -/
def all : List Field :=
  [title, date, time, exportedAt, tabCount, incognito, tags, collections]

/-- The key of a field in preferences. -/
def key : Field → String
  | title => "title"
  | date => "date"
  | time => "time"
  | exportedAt => "exportedAt"
  | tabCount => "tabCount"
  | incognito => "windowIncognito"
  | tags => "tags"
  | collections => "collections"

/-- The name that a field is written under by default. -/
def defaultName : Field → String
  | title => "title"
  | date => "date_created"
  | time => "time_created"
  | exportedAt => "exported_at"
  | tabCount => "tab_count"
  | incognito => "window_incognito"
  | tags => "tags"
  | collections => "collections"

/-- The field with a given key. -/
def ofKey? (key : String) : Option Field := all.find? fun field => field.key == key

end Field

/-- The template of the title unless preferences give another one. -/
def defaultTitle : String := "Tab export " ++ valueTag "export.localDate"

/-- The template of the tags unless preferences give another one. -/
def defaultTags : String := "tabs"

/-- The template of the collections unless preferences give another one. -/
def defaultCollections : String := ""

end TabNotes.Frontmatter
