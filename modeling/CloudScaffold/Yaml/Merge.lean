import CloudScaffold.Yaml.Node
/-!
# Merge keys

A merge key brings the entries of other mappings into its own, in front of the others. It is
resolved in the document itself: the mappings that it names are resolved for good, and so is a
mapping that merges itself.
-/
namespace CloudScaffold.Yaml

/-- What stands before the first merge key, its value, and what stands behind it. -/
def splitMerge (ns : Nodes) : List Entry → Option (List Entry × NodeId × List Entry)
  | [] => none
  | (k, v) :: r =>
    if (ns.node k).tag = .merge then some ([], v, r)
    else (splitMerge ns r).map fun p => ((k, v) :: p.1, p.2)

/-- The key of a default value becomes a text. -/
def plainKey (ns : Nodes) (k : NodeId) : Nodes :=
  if (ns.node k).tag = .value then ns.setTag k .str else ns

/-- A mapping whose merge keys are gone, with what they brought in. -/
def settle (ns : Nodes) (n : NodeId) (found : List Entry) : Nodes :=
  let own := ns.entries n
  (own.foldl (fun ns e => plainKey ns e.1) ns).setContent n (.mapping (found ++ own))

abbrev Merging (α : Type) := StateT Nodes (Except Fault) α

mutual
/-- Resolves the merge keys of a mapping. `found` holds the entries brought in so far. Each step
takes a merge key away, so `fuel` needs to be no more than twice their number. -/
def resolve : Nat → List Entry → NodeId → Merging Unit
  | 0, _, _ => throw .content
  | fuel + 1, found, n => do
    let ns ← get
    match splitMerge ns (ns.entries n) with
    | none => set (settle ns n found)
    | some (before, v, after) => do
      set (ns.setContent n (.mapping (before ++ after)))
      let more ← brought fuel v
      resolve fuel (found ++ more) n

/-- The entries that the value of a merge key brings in; of several mappings the first counts
most. -/
def brought : Nat → NodeId → Merging (List Entry)
  | 0, _ => throw .content
  | fuel + 1, v => do
    match ((← get).node v).content with
    | .scalar _ => throw .content
    | .mapping _ => do
      resolve fuel [] v
      pure ((← get).entries v)
    | .sequence items => do
      let parts ← items.mapM fun i => do
        match ((← get).node i).content with
        | .mapping _ => do
          resolve fuel [] i
          pure ((← get).entries i)
        | _ => throw .content
      pure parts.reverse.flatten
end

/-- The nodes of a document with the merge keys of one mapping resolved. -/
def resolveMerges (ns : Nodes) (n : NodeId) : Except Fault Nodes :=
  ((resolve (2 * ns.entryCount + 4) [] n).run ns).map (·.2)

theorem splitMerge_eq_none_iff {ns : Nodes} {es : List Entry} :
    splitMerge ns es = none ↔ ∀ e ∈ es, (ns.node e.1).tag ≠ .merge := by
  induction es with
  | nil => simp [splitMerge]
  | cons e r ih => by_cases h : (ns.node e.1).tag = .merge <;> simp [splitMerge, h, ih]

end CloudScaffold.Yaml
