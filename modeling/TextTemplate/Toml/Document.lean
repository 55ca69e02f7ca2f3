import TextTemplate.Toml.Statement

/-!
A document: the entries that its statements put together.

* `Document.nodup_of_read?`: a document gives every name at the top once.
-/

namespace TextTemplate.Toml

/-- The entries so far, and the table that is open, by the parts of its header. -/
structure Document where
  entries : Entries
  opened : List String

namespace Document

def empty : Document := ⟨[], []⟩

def add (doc : Document) : Statement → Option Document
  | .blank => some doc
  | .header path => do
    let entries ← Table.openTable path doc.entries
    pure ⟨entries, path.parts⟩
  | .arrayHeader path => do
    let entries ← Table.openNext path doc.entries
    pure ⟨entries, path.parts⟩
  | .entry path v => do
    let entries ← Table.within false (Table.enter path v) doc.opened .header doc.entries
    pure { doc with entries }

/-- The statements of a text, after a byte order mark at most. -/
def statementsOf? (text : String) : Option (List Statement) :=
  match text.toList with
  | '\uFEFF' :: cs => statements.whole cs
  | cs => statements.whole cs

/-- The entries of a text at the top level, in order; `none` when the text is no document. -/
def read? (text : String) : Option Entries := do
  let lines ← statementsOf? text
  let doc ← lines.foldlM add empty
  pure doc.entries

theorem nodup_add {doc doc' : Document} {line : Statement} (added : doc.add line = some doc')
    (distinct : (doc.entries.map Prod.fst).Nodup) : (doc'.entries.map Prod.fst).Nodup := by
  cases line with
  | blank =>
    cases added
    exact distinct
  | header path =>
    obtain ⟨entries, opened, made⟩ := Option.bind_eq_some_iff.1 added
    cases made
    exact Table.nodup_openTable opened distinct
  | arrayHeader path =>
    obtain ⟨entries, opened, made⟩ := Option.bind_eq_some_iff.1 added
    cases made
    exact Table.nodup_openNext opened distinct
  | entry path v =>
    obtain ⟨entries, entered, made⟩ := Option.bind_eq_some_iff.1 added
    cases made
    exact Table.nodup_within (fun _ _ _ => Table.nodup_enter) entered distinct

theorem nodup_addAll {doc doc' : Document} {lines : List Statement} (added : lines.foldlM add doc = some doc')
    (distinct : (doc.entries.map Prod.fst).Nodup) : (doc'.entries.map Prod.fst).Nodup := by
  induction lines generalizing doc with
  | nil =>
    cases added
    exact distinct
  | cons line lines ih =>
    obtain ⟨next, one, more⟩ := Option.bind_eq_some_iff.1 added
    exact ih more (nodup_add one distinct)

/-- A document gives every name at the top once. -/
theorem nodup_of_read? {text : String} {entries : Entries} (read : read? text = some entries) :
    (entries.map Prod.fst).Nodup := by
  obtain ⟨lines, -, rest⟩ := Option.bind_eq_some_iff.1 read
  obtain ⟨doc, added, made⟩ := Option.bind_eq_some_iff.1 rest
  cases made
  exact nodup_addAll added List.nodup_nil

def reader : DocumentReader := ⟨read?, nodup_of_read?⟩

end Document
end TextTemplate.Toml
