import CloudScaffold.Catalog.Basic
/-!
# Views of the catalog

Services and catalogs as documents, for listings and forms. A field shows its options, its default
and its sensitivity only where it has them.

`Service.view` and `Catalog.view` are TerraForge's `describe_service` and `describe_catalog`.
-/
namespace CloudScaffold

/-- A member of a document that is left out unless it applies. -/
def optionalMember (applies : Bool) (k : String) (v : Value) : List (String × Value) :=
  if applies then [(k, v)] else []

/-- A field as a document. -/
def Field.view (f : Field) : Value :=
  .map ([("name", .str f.name), ("type", .str f.kind.name), ("required", .bool f.required)]
    ++ optionalMember (!f.allowed.isEmpty) "options" (.list (f.allowed.map .str))
    ++ optionalMember (!f.default.isNull) "default" f.default
    ++ optionalMember f.sensitive "sensitive" (.bool true))

/-- A service as a document. -/
def Service.view (s : Service) : Value :=
  .map [("id", .str s.id), ("name", .str s.name), ("category", .str s.category),
    ("description", .str s.description), ("dependencies", .list (s.dependencies.map .str)),
    ("fields", .list (s.fields.map (·.view)))]

/-- The providers of a catalog, or the one asked for; the empty id asks for all. -/
def Catalog.selection (c : Catalog) (provider : Option String) : Except LookupError Catalog :=
  match provider with
  | none | some "" => .ok c
  | some p => (c.provider p).map ([·])

/-- A catalog as a document. -/
def Catalog.view (c : Catalog) : Value :=
  .map (c.map fun p =>
    (p.id, .map [("name", .str p.name), ("services", .list (p.services.map (·.view)))]))

end CloudScaffold
