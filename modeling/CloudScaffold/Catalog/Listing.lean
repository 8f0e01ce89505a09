import CloudScaffold.Catalog.View
import CloudScaffold.Yaml.Write
/-!
# Listings

The listing of a catalog is its view as a text.

It is TerraForge's `render_catalog_yaml`.
-/
namespace CloudScaffold

/-- The listing of all providers, or of the one asked for. -/
def Catalog.listing (c : Catalog) (provider : Option String) : Except LookupError String :=
  (c.selection provider).map fun selected => Yaml.write selected.view

end CloudScaffold
